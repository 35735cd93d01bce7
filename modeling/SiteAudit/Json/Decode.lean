import SiteAudit.Json.Basic

/-!
# Reading JSON

A text is read by the grammar of JSON: blanks may stand around every token,
strings hold no raw controls, and two escapes that make a pair of surrogates
stand for one character.  A surrogate without its partner stands for no
character, so a text with one is refused.
-/

namespace SiteAudit
namespace Json

def isSpace (c : Char) : Bool :=
  c == ' ' || c == '\t' || c == '\n' || c == '\r'

def skipSpace (s : List Char) : List Char :=
  s.dropWhile isSpace

def unit? (a b c d : Char) : Option Nat := do
  let a ← Text.hexValue? a
  let b ← Text.hexValue? b
  let c ← Text.hexValue? c
  let d ← Text.hexValue? d
  return ((16 * a + b) * 16 + c) * 16 + d

def shortEscape? : Char → Option Char
  | '"' => some '"'
  | '\\' => some '\\'
  | '/' => some '/'
  | 'b' => some (Char.ofNat 8)
  | 'f' => some (Char.ofNat 12)
  | 'n' => some '\n'
  | 'r' => some '\r'
  | 't' => some '\t'
  | _ => none

def isHigh (n : Nat) : Bool :=
  0xD800 ≤ n && n ≤ 0xDBFF

def isLow (n : Nat) : Bool :=
  0xDC00 ≤ n && n ≤ 0xDFFF

def ofPair (high low : Nat) : Char :=
  Char.ofNat (0x10000 + (high - 0xD800) * 0x400 + (low - 0xDC00))

/-- The characters of a string up to its closing quote, and what follows.
`done` holds the characters so far, the last one first. -/
def readString (done : List Char) : List Char → Option (List Char × List Char)
  | [] => none
  | '"' :: rest => some (done.reverse, rest)
  | '\\' :: 'u' :: a :: b :: c :: d :: rest =>
      match unit? a b c d with
      | none => none
      | some high =>
          if isHigh high then
            match rest with
            | '\\' :: 'u' :: e :: f :: g :: h :: rest =>
                match unit? e f g h with
                | none => none
                | some low => if isLow low then
                    readString (ofPair high low :: done) rest else none
            | _ => none
          else if isLow high then none
          else readString (Char.ofNat high :: done) rest
  | '\\' :: c :: rest =>
      match shortEscape? c with
      | none => none
      | some c => readString (c :: done) rest
  | c :: rest => if c.toNat < 32 then none else readString (c :: done) rest

def readDigits (s : List Char) : Option (List Char × List Char) :=
  match s.takeWhile Text.isDigit with
  | [] => none
  | digits => some (digits, s.dropWhile Text.isDigit)

def readFraction : List Char → Option (List Char × List Char)
  | '.' :: s => readDigits s
  | s => some ([], s)

def signed (negative : Bool) (n : Nat) : Int :=
  if negative then -n else n

def readSign : List Char → Bool × List Char
  | '-' :: s => (true, s)
  | s => (false, s)

def readExponent : List Char → Option (Option Int × List Char)
  | c :: s =>
      if c == 'e' || c == 'E' then
        let (negative, s) := match s with
          | '+' :: s => (false, s)
          | s => readSign s
        (readDigits s).map fun (digits, s) =>
        (some (signed negative (Text.numberOf digits)), s)
      else some (none, c :: s)
  | [] => some (none, [])

def readNumber (s : List Char) : Option (Json × List Char) := do
  let (negative, s) := readSign s
  let (whole, s) ← readDigits s
  if whole.head? == some '0' && 1 < whole.length then none
  else do
    let (fraction, s) ← readFraction s
    let (exponent, s) ← readExponent s
    let mantissa := Text.numberOf (whole ++ fraction)
    if fraction.isEmpty && exponent.isNone then
      (WritableInt.ofInt? (signed negative mantissa)).map fun n =>
        (integer n, s)
    else
      return (decimal negative mantissa (exponent.getD 0 - fraction.length), s)

mutual

/-- A value at the start of a text, and what follows.  `fuel` bounds how often
readers call each other. -/
def readValue : Nat → List Char → Option (Json × List Char)
  | 0, _ => none
  | fuel + 1, s =>
      match skipSpace s with
      | '"' :: s =>
          (readString [] s).map fun (t, s) => (text (String.ofList t), s)
      | '[' :: s =>
          match skipSpace s with
          | ']' :: s => some (list [], s)
          | s => (readItems fuel [] s).map fun (vs, s) => (list vs, s)
      | '\x7b' :: s =>
          match skipSpace s with
          | '\x7d' :: s => some (object [], s)
          | s => (readMembers fuel [] s).map fun (ms, s) => (object ms, s)
      | 'n' :: 'u' :: 'l' :: 'l' :: s => some (null, s)
      | 't' :: 'r' :: 'u' :: 'e' :: s => some (flag true, s)
      | 'f' :: 'a' :: 'l' :: 's' :: 'e' :: s => some (flag false, s)
      | s => readNumber s

/-- The items of a list up to its closing bracket, and what follows.  `done`
holds the items so far, the last one first. -/
def readItems : Nat → List Json → List Char → Option (List Json × List Char)
  | 0, _, _ => none
  | fuel + 1, done, s =>
      match readValue fuel s with
      | none => none
      | some (v, s) =>
          match skipSpace s with
          | ',' :: s => readItems fuel (v :: done) s
          | ']' :: s => some ((v :: done).reverse, s)
          | _ => none

/-- The members of an object up to its closing brace, and what follows.  `done`
holds the members so far, the last one first. -/
def readMembers : Nat → List (String × Json) → List Char →
    Option (List (String × Json) × List Char)
  | 0, _, _ => none
  | fuel + 1, done, s =>
      match skipSpace s with
      | '"' :: s =>
          match readString [] s with
          | none => none
          | some (name, s) =>
              match skipSpace s with
              | ':' :: s =>
                  match readValue fuel s with
                  | none => none
                  | some (v, s) =>
                      let done := (String.ofList name, v) :: done
                      match skipSpace s with
                      | ',' :: s => readMembers fuel done s
                      | '\x7d' :: s => some (done.reverse, s)
                      | _ => none
              | _ => none
      | _ => none

end

def decode (s : List Char) : Option Json :=
  match readValue (s.length + 1) s with
  | some (v, rest) => if (skipSpace rest).isEmpty then some v else none
  | none => none

/-- The member of an object with the given name; the last one counts. -/
def member? (name : String) : Json → Option Json
  | object members => (members.reverse.find? (·.1 == name)).map (·.2)
  | _ => none

end Json
end SiteAudit
