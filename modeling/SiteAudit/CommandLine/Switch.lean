import SiteAudit.Text.Digit
import SiteAudit.Text.Quoted
import SiteAudit.Text.Search

/-!
# Switches

A switch of a command line has names, and either does something by itself or
takes a value.  A long name may be shortened as long as it stays the beginning
of one switch only, and a value may follow behind an equals sign.  The words of
a command line are told apart before any switch takes effect.
-/

namespace SiteAudit
namespace CommandLine

/-- What a switch does or takes. -/
inductive SwitchKind
  | help
  | version
  | mark
  | text
  | choice (values : List String)
  | number
  deriving DecidableEq, Repr

structure Switch where
  names : List String
  kind : SwitchKind
  deriving DecidableEq, Repr

def Switch.key (s : Switch) : String :=
  s.names.getLastD ""

def Switch.label (s : Switch) : String :=
  "/".intercalate s.names

inductive Problem
  | ambiguous (word : String) (names : List String)
  | missingValue (label : String)
  | superfluousValue (label value : String)
  | unknownChoice (label value : String) (choices : List String)
  | noNumber (label value : String)
  | missingCommand
  | unrecognized (words : List String)
  deriving DecidableEq, Repr

def Problem.message : Problem → String
  | ambiguous word names =>
      "ambiguous option: " ++ word ++ " could match " ++ ", ".intercalate names
  | missingValue label => "argument " ++ label ++ ": expected one argument"
  | superfluousValue label value =>
      "argument " ++ label ++ ": ignored explicit argument " ++
        Text.quoted value
  | unknownChoice label value choices =>
      "argument " ++ label ++ ": invalid choice: " ++ Text.quoted value ++
        " (choose from " ++
        ", ".intercalate (choices.map Text.quoted) ++ ")"
  | noNumber label value =>
      "argument " ++ label ++ ": invalid int value: " ++ Text.quoted value
  | missingCommand => "the following arguments are required: command"
  | unrecognized words => "unrecognized arguments: " ++ " ".intercalate words

/-- A switch that a word names: whether by a short name, and with which value in
the same word. -/
structure Mention where
  switch : Switch
  isShort : Bool
  value : Option String
  deriving DecidableEq, Repr

/-- A word of a command line.  A separator turns all words behind it into plain
ones. -/
inductive Word
  | plain (s : String)
  | separator
  | unknown (s : String)
  | mention (s : String) (m : Mention)
  deriving DecidableEq, Repr

def Word.text : Word → String
  | plain s => s
  | separator => "--"
  | unknown s => s
  | mention s _ => s

def isShortName (name : String) : Bool :=
  !(['-', '-'].isPrefixOf name.toList)

def splitValue (word : List Char) : List Char × Option (List Char) :=
  match Text.cutAt? (· == '=') word with
  | some (name, _, value) => (name, some value)
  | none => (word, none)

/-- The names of switches that a word may be short for, each with what it would
mention. -/
def candidates (switches : List Switch) (word : List Char) :
    List (String × Mention) :=
  switches.flatMap fun switch =>
    switch.names.filterMap fun name =>
      if ['-', '-'].isPrefixOf word then
        let (start, value) := splitValue word
        if start.isPrefixOf name.toList then
          some (name, ⟨switch, isShortName name, value.map String.ofList⟩)
        else none
      else if name.toList == word.take 2 then
        some (name,
          ⟨switch, isShortName name, some (String.ofList (word.drop 2))⟩)
      else if word.isPrefixOf name.toList then
        some (name, ⟨switch, isShortName name, none⟩)
      else none

def named? (switches : List Switch) (name : String) : Option Switch :=
  switches.find? (·.names.contains name)

def mentioned? (switches : List Switch) (word : String) : Option Mention :=
  match named? switches word with
  | some switch => some ⟨switch, isShortName word, none⟩
  | none =>
      match splitValue word.toList with
      | (name, some value) =>
          (named? switches (String.ofList name)).map fun switch =>
            ⟨switch, isShortName (String.ofList name),
              some (String.ofList value)⟩
      | (_, none) => none

def readWord (switches : List Switch) (s : String) : Except Problem Word :=
  if s.toList.head? != some '-' then .ok (.plain s)
  else
    match mentioned? switches s with
    | some m => .ok (.mention s m)
    | none =>
        if s == "-" then .ok (.plain s)
        else
          match candidates switches s.toList with
          | [(_, m)] => .ok (.mention s m)
          | [] =>
              if Text.looksNegative s.toList || s.toList.contains ' ' then
                .ok (.plain s)
              else .ok (.unknown s)
          | several => .error (.ambiguous s (several.map (·.1)))

def readWords (switches : List Switch) :
    List String → Except Problem (List Word)
  | [] => .ok []
  | s :: rest =>
      if s == "--" then .ok (.separator :: rest.map .plain)
      else
        match readWord switches s with
        | .error p => .error p
        | .ok word => (readWords switches rest).map (word :: ·)

end CommandLine
end SiteAudit
