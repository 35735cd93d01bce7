import SiteAudit.Markup.Reference
import SiteAudit.Markup.Token
import SiteAudit.Text.Blank
import SiteAudit.Text.Lowercase

/-!
# Start tags

A start tag is a name and a row of attributes.  Reading is lenient: blanks and
slashes may stand between the parts in any number, quotes may be missing, and an
attribute may follow a closing quote without a blank.  An opening quote that
never closes does not open a value; then the equals sign before it is given
another meaning, if it has one.

The readers count the characters that they use, so what follows is the input
without that many.
-/

namespace SiteAudit
namespace Markup

def endsTagName (c : Char) : Bool :=
  c == ' ' || c == '/' || c == '>' || c == '\t' || c == '\n' || c == '\r' ||
    c.toNat == 0xC || c.toNat == 0

def isQuote (c : Char) : Bool :=
  c == '\'' || c == '"'

/-- Whether an attribute may start behind this character. -/
def admitsAttribute (previous : Char) : Bool :=
  isQuote previous || Text.isBlank previous || previous == '/'

def startsAttribute (c : Char) : Bool :=
  !(Text.isBlank c || c == '/' || c == '>')

def continuesName (c : Char) : Bool :=
  startsAttribute c && c != '='

def isBare (c : Char) : Bool :=
  !(Text.isBlank c || c == '>')

/-- The value of an attribute, and how many characters it takes with its equals
sign and its quotes. -/
structure ValueReading where
  used : Nat
  value : List Char

def quotedValue? : List Char → Option (List Char)
  | [] => none
  | q :: s =>
      if isQuote q && s.contains q then some (s.takeWhile (· != q)) else none

/-- The value behind the name of an attribute, if there is one.  Before a quote
that never closes the value is empty when a blank comes before the quote, and
starts with the last of several equals signs otherwise. -/
def readValue? (s : List Char) : Option ValueReading :=
  let lead := (s.takeWhile Text.isBlank).length
  let s1 := s.dropWhile Text.isBlank
  let signs := (s1.takeWhile (· == '=')).length
  let s2 := s1.dropWhile (· == '=')
  let gap := (s2.takeWhile Text.isBlank).length
  let s3 := s2.dropWhile Text.isBlank
  if signs = 0 then none
  else
    match quotedValue? s3 with
    | some value => some ⟨lead + signs + gap + value.length + 2, value⟩
    | none =>
        if s3.head?.any isQuote then
          if 0 < gap then some ⟨lead + signs + (gap - 1), []⟩
          else if 1 < signs then
            let value := '=' :: s3.takeWhile isBare
            some ⟨lead + (signs - 1) + value.length, value⟩
          else none
        else
          let value := s3.takeWhile isBare
          some ⟨lead + signs + gap + value.length, value⟩

/-- The number of blanks and slashes at the start of a text, up to a slash that
closes the tag. -/
def gapLength : List Char → Nat
  | [] => 0
  | c :: s =>
      if Text.isBlank c || (c == '/' && s.head? != some '>') then
        gapLength s + 1 else 0

structure AttributeReading where
  used : Nat
  name : List Char
  value : List Char
  used_pos : 0 < used := by omega

def readAttribute? (previous : Char) : List Char → Option AttributeReading
  | [] => none
  | c :: s =>
      if admitsAttribute previous && startsAttribute c then
        let name := s.takeWhile continuesName
        let after := s.dropWhile continuesName
        let v := (readValue? after).getD ⟨0, []⟩
        some {
          used := 1 + name.length + v.used + gapLength (after.drop v.used)
          name := c :: name
          value := v.value }
      else none

/-- A row of attributes, with their names and values as written, and how many
characters they take. -/
structure AttributesReading where
  used : Nat
  attributes : List (List Char × List Char)

def readAttributes (previous : Char) (s : List Char) : AttributesReading :=
  match s with
  | [] => ⟨0, []⟩
  | c :: rest =>
      match readAttribute? previous (c :: rest) with
      | none => ⟨0, []⟩
      | some a =>
          let last := ((c :: rest).take a.used).getLast?.getD c
          let more := readAttributes last ((c :: rest).drop a.used)
          ⟨a.used + more.used, (a.name, a.value) :: more.attributes⟩
termination_by s.length
decreasing_by exact length_drop_lt a.used_pos

/-- How a start tag ends: closed, with or without the slash of an empty element;
not yet closed where the text ends; or broken off by a character that no tag
admits. -/
inductive TagEnd
  | closed (empty : Bool)
  | incomplete
  | broken
  deriving DecidableEq, Repr

structure StartTagReading where
  used : Nat
  name : List Char
  attributes : List (List Char × List Char)
  ending : TagEnd
  used_pos : 0 < used

def readStartTag (s : List Char) : StartTagReading :=
  let name := s.takeWhile (!endsTagName ·)
  let s1 := s.dropWhile (!endsTagName ·)
  let gap := s1.takeWhile fun c => Text.isBlank c || c == '/'
  let s2 := s1.dropWhile fun c => Text.isBlank c || c == '/'
  let previous := (gap.getLast? <|> name.getLast?).getD '<'
  let row := readAttributes previous s2
  let s3 := s2.drop row.used
  let tail := (s3.takeWhile Text.isBlank).length
  let length := name.length + gap.length + row.used + tail
  match s3.drop tail with
  | [] => {
      used := length + 1
      name := name
      attributes := row.attributes
      ending := .incomplete
      used_pos := Nat.succ_pos length }
  | '>' :: _ => {
      used := length + 2
      name := name
      attributes := row.attributes
      ending := .closed (row.attributes.isEmpty && gap.getLast? == some '/')
      used_pos := Nat.succ_pos length.succ }
  | '/' :: '>' :: _ => {
      used := length + 3
      name := name
      attributes := row.attributes
      ending := .closed true
      used_pos := Nat.succ_pos length.succ.succ }
  | c :: _ => {
      used := length + 1
      name := name
      attributes := row.attributes
      ending := if c == '/' || c == '=' || c.isAlpha then .incomplete
        else .broken
      used_pos := Nat.succ_pos length }

def resolveAttributes :
    List (List Char × List Char) → Except Rejection (List (String × String))
  | [] => .ok []
  | (name, value) :: more => do
      let text ← Reference.resolve value
      let others ← resolveAttributes more
      return (Text.lower (String.ofList name), String.ofList text) :: others

end Markup
end SiteAudit
