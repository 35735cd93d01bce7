import SiteAudit.CommandLine.Switch

/-!
# Grammars of command lines

A grammar has switches and perhaps commands.  Words take effect from left to
right; the first plain word is the command, and all words behind it belong to
the command.  Asking for help or for the version ends the reading at once.
Words that mean nothing are kept, since another grammar may complain about them.
-/

namespace SiteAudit
namespace CommandLine

structure Grammar where
  program : String
  usage : String
  details : String
  switches : List Switch
  commands : List String
  deriving DecidableEq, Repr

/-- What ends the reading of a command line: a question, or a problem. -/
inductive Stop
  | help (g : Grammar)
  | version
  | problem (g : Grammar) (p : Problem)
  deriving DecidableEq, Repr

/-- What a command line says: the switches with their values in order, the words
that mean nothing, and the command with the words behind it. -/
structure Reading where
  given : List (String × Option String) := []
  extras : List String := []
  command : Option (String × List String) := none
  deriving DecidableEq, Repr

namespace Reading

def give (r : Reading) (switch : Switch) (value : Option String) : Reading :=
  { r with given := r.given ++ [(switch.key, value)] }

def addExtra (r : Reading) (word : String) : Reading :=
  { r with extras := r.extras ++ [word] }

def has (r : Reading) (key : String) : Bool :=
  r.given.any (·.1 == key)

def values (r : Reading) (key : String) : List (Option String) :=
  (r.given.filter (·.1 == key)).map (·.2)

/-- The value of a switch that counts, the last one.  A switch without value
counts as absent. -/
def last? (r : Reading) (key : String) : Option String :=
  (r.values key).getLast?.join

end Reading

/-- The problem with the value behind a switch that takes none.  Further short
names may follow a short name in one word; here only a repetition of the same
name is one. -/
def superfluous? (m : Mention) : Option Problem :=
  match m.value with
  | none => none
  | some value =>
      let letter := m.switch.names.head?.bind (·.toList.getLast?)
      let rest := if m.isShort then value.toList.dropWhile (some · == letter)
        else value.toList
      if m.isShort && value != "" && rest.isEmpty then none
      else some (.superfluousValue m.switch.label (String.ofList rest))

def valueProblem? (switch : Switch) (value : String) : Option Problem :=
  match switch.kind with
  | .choice values =>
      if values.contains value then none
        else some (.unknownChoice switch.label value values)
  | .number =>
      if (Text.integer? value.toList).isSome then none
        else some (.noNumber switch.label value)
  | _ => none

def SwitchKind.takesValue : SwitchKind → Bool
  | help => false
  | version => false
  | mark => false
  | _ => true

def Grammar.act (g : Grammar) (r : Reading) (m : Mention) :
    Except Stop Reading :=
  match superfluous? m with
  | some p => .error (.problem g p)
  | none =>
      match m.switch.kind with
      | .help => .error (.help g)
      | .version => .error .version
      | _ => .ok (r.give m.switch none)

/-- The effect of a switch with a value.  Two dashes behind the equals sign
stand for no value. -/
def Grammar.assign (g : Grammar) (r : Reading) (switch : Switch)
    (value : String) : Except Stop Reading :=
  if value == "--" then .ok (r.give switch none)
  else
    match valueProblem? switch value with
    | some p => .error (.problem g p)
    | none => .ok (r.give switch (some value))

def Grammar.follow (g : Grammar) (r : Reading) : List Word → Except Stop Reading
  | [] => .ok r
  | .plain s :: rest =>
      if g.commands.isEmpty then g.follow (r.addExtra s) rest
      else .ok { r with command := some (s, rest.map Word.text) }
  | .separator :: rest =>
      if g.commands.isEmpty || rest.isEmpty then g.follow (r.addExtra "--") rest
      else .ok { r with command := some ("--", rest.map Word.text) }
  | .unknown s :: rest => g.follow (r.addExtra s) rest
  | .mention _ m :: rest =>
      if m.switch.kind.takesValue then
        match m.value with
        | some value =>
            match g.assign r m.switch value with
            | .error stop => .error stop
            | .ok r => g.follow r rest
        | none =>
            match rest with
            | .plain value :: rest =>
                match g.assign r m.switch value with
                | .error stop => .error stop
                | .ok r => g.follow r rest
            | _ => .error (.problem g (.missingValue m.switch.label))
      else
        match g.act r m with
        | .error stop => .error stop
        | .ok r => g.follow r rest

def Grammar.read (g : Grammar) (args : List String) : Except Stop Reading :=
  match readWords g.switches args with
  | .error p => .error (.problem g p)
  | .ok words => g.follow {} words

end CommandLine
end SiteAudit
