import SiteAudit.Text.Decimal
import SiteAudit.Text.Hex

/-!
# JSON values and their texts

A value is null, a truth value, a number, a string, a list or an object; the
members of an object keep their order.  A value is written in ASCII only, either
in one line, or in a line for each item and member, indented by how deep it
lies.
-/

namespace SiteAudit

/-- A JSON value.  An integer is one that can be written.  A number with a
fraction or an exponent is a signed natural number times a power of ten; its
zero has a sign too. -/
inductive Json
  | null
  | flag (b : Bool)
  | integer (n : WritableInt)
  | decimal (negative : Bool) (mantissa : Nat) (exponent : Int)
  | text (s : String)
  | list (items : List Json)
  | object (members : List (String × Json))
  deriving Inhabited

namespace Json

inductive Layout
  | oneLine
  | indented (width : Nat)
  deriving DecidableEq, Repr

/-- What opens the place of an item that lies `depth` levels deep. -/
def Layout.break (l : Layout) (depth : Nat) : List Char :=
  match l with
  | oneLine => []
  | indented width => '\n' :: List.replicate (width * depth) ' '

/-- What separates two items that lie `depth` levels deep. -/
def Layout.separator (l : Layout) (depth : Nat) : List Char :=
  match l with
  | oneLine => [',', ' ']
  | indented _ => ',' :: l.break depth

/-- The escape of a code unit. -/
def escapeUnit (n : Nat) : List Char :=
  '\\' :: 'u' :: Text.hexPadded 4 n

/-- How one character of a string is written: a character beyond the sixteen-bit
ones takes two escapes. -/
def escapeChar (c : Char) : List Char :=
  if c == '"' then ['\\', '"']
  else if c == '\\' then ['\\', '\\']
  else if c == '\n' then ['\\', 'n']
  else if c == '\r' then ['\\', 'r']
  else if c == '\t' then ['\\', 't']
  else if c.toNat == 8 then ['\\', 'b']
  else if c.toNat == 12 then ['\\', 'f']
  else if 32 ≤ c.toNat && c.toNat ≤ 126 then [c]
  else if c.toNat < 0x10000 then escapeUnit c.toNat
  else
    escapeUnit (0xD800 + (c.toNat - 0x10000) / 0x400) ++
      escapeUnit (0xDC00 + (c.toNat - 0x10000) % 0x400)

def quote (s : String) : List Char :=
  '"' :: s.toList.flatMap escapeChar ++ ['"']

mutual

/-- The text of a value that lies `depth` levels deep. -/
def print (l : Layout) (depth : Nat) : Json → List Char
  | null => ['n', 'u', 'l', 'l']
  | flag true => ['t', 'r', 'u', 'e']
  | flag false => ['f', 'a', 'l', 's', 'e']
  | integer n => Text.numeral n.value
  | decimal negative mantissa exponent =>
      (if negative then ['-'] else []) ++ Text.digitsOf mantissa ++ 'e' ::
        Text.numeral exponent
  | text s => quote s
  | list [] => ['[', ']']
  | list (v :: vs) =>
      '[' :: l.break (depth + 1) ++ print l (depth + 1) v ++
        printItems l (depth + 1) vs ++
        l.break depth ++ [']']
  | object [] => ['\x7b', '\x7d']
  | object ((name, v) :: ms) =>
      '\x7b' :: l.break (depth + 1) ++ quote name ++ ':' :: ' ' ::
        print l (depth + 1) v ++
        printMembers l (depth + 1) ms ++ l.break depth ++ ['\x7d']

def printItems (l : Layout) (depth : Nat) : List Json → List Char
  | [] => []
  | v :: vs => l.separator depth ++ print l depth v ++ printItems l depth vs

def printMembers (l : Layout) (depth : Nat) : List (String × Json) → List Char
  | [] => []
  | (name, v) :: ms =>
      l.separator depth ++ quote name ++ ':' :: ' ' :: print l depth v ++
        printMembers l depth ms

end

def render (l : Layout) (v : Json) : String :=
  String.ofList (v.print l 0)

end Json

end SiteAudit
