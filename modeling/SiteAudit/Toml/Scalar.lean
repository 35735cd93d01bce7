import SiteAudit.Config.Value
import SiteAudit.Text.Hex
import SiteAudit.Text.Search
import SiteAudit.Toml.Error

/-!
# Strings, numbers and moments of a configuration file

Readers take the text that remains and give a value with the text behind it.
Strings come in four forms: basic or literal, in one line or in several.  A
number extends as far as it can, and what follows is left to be complained
about.
-/

namespace SiteAudit
namespace Toml

open Config

abbrev Reader (α : Type) :=
  List Char → Except Error (α × List Char)

def isBlank (c : Char) : Bool :=
  c == ' ' || c == '\t'

def skipBlanks (s : List Char) : List Char :=
  s.dropWhile isBlank

def isControl (c : Char) : Bool :=
  (c.toNat < 32 && c != '\t') || c.toNat == 127

def isIllegal (multiline : Bool) (c : Char) : Bool :=
  isControl c && !(multiline && c == '\n')

/-- Where a basic string is: in its text, behind a backslash that ends a line as
long as only blanks follow, or in the margin that such a backslash takes
away. -/
inductive Margin
  | text
  | awaitingBreak
  | skipping
  deriving DecidableEq, Repr

def shortEscape? : Char → Option Char
  | 'b' => some (Char.ofNat 8)
  | 't' => some '\t'
  | 'n' => some '\n'
  | 'f' => some (Char.ofNat 12)
  | 'r' => some '\r'
  | '"' => some '"'
  | '\\' => some '\\'
  | _ => none

/-- The character of an escape by its number, behind which `rest` follows. -/
def escaped (digits rest : List Char) : Except Error Char :=
  if digits.all Text.isHexDigit then
    let n := Text.hexNumber digits
    if n < 0xD800 || (0xDFFF < n && n ≤ 0x10FFFF) then .ok (Char.ofNat n)
      else Cause.surrogate.at_ rest
  else Cause.hexDigits.at_ (digits ++ rest)

/-- The text of a basic string up to its closing marks, and what follows them.
`done` holds the characters so far, the last one first. -/
def readBasic (multiline : Bool) (margin : Margin) (done : List Char) :
    Reader (List Char)
  | [] => Cause.unterminated.at_ []
  | c :: rest =>
      if margin == .awaitingBreak then
        if isBlank c then readBasic multiline .awaitingBreak done rest
        else if c == '\n' then readBasic multiline .skipping done rest
        else Cause.escape.at_ (c :: rest)
      else if margin == .skipping && (isBlank c || c == '\n') then
        readBasic multiline .skipping done rest
      else if c == '"' then
        if !multiline then .ok (done.reverse, rest)
        else if ['"', '"'].isPrefixOf rest then .ok (done.reverse, rest.drop 2)
        else readBasic multiline .text ('"' :: done) rest
      else if c == '\\' then
        match rest with
        | [] => Cause.escape.at_ []
        | 'u' :: h1 :: h2 :: h3 :: h4 :: rest => do
            let c ← escaped [h1, h2, h3, h4] rest
            readBasic multiline .text (c :: done) rest
        | 'U' :: h1 :: h2 :: h3 :: h4 :: h5 :: h6 :: h7 :: h8 :: rest => do
            let c ← escaped [h1, h2, h3, h4, h5, h6, h7, h8] rest
            readBasic multiline .text (c :: done) rest
        | e :: rest =>
            if e == 'u' || e == 'U' then Cause.hexDigits.at_ rest
            else if multiline && isBlank e then
              readBasic multiline .awaitingBreak done rest
            else if multiline && e == '\n' then
              readBasic multiline .skipping done rest
            else
              match shortEscape? e with
              | some c => readBasic multiline .text (c :: done) rest
              | none => Cause.escape.at_ rest
      else if isIllegal multiline c then
        (Cause.illegalInString c).at_ (c :: rest)
      else readBasic multiline .text (c :: done) rest

def cutAtText? (delimiter : List Char) :
    List Char → Option (List Char × List Char)
  | [] => none
  | c :: s =>
      match Text.afterPrefix? delimiter (c :: s) with
      | some rest => some ([], rest)
      | none =>
          (cutAtText? delimiter s).map fun (before, rest) => (c :: before, rest)

def readLiteral (multiline : Bool) : Reader (List Char) := fun s =>
  let delimiter := if multiline then ['\'', '\'', '\''] else ['\'']
  match cutAtText? delimiter s with
  | none => (Cause.missingDelimiter (String.ofList delimiter)).at_ []
  | some (before, rest) =>
      match before.dropWhile (!isIllegal multiline ·) with
      | [] => .ok (before, rest)
      | c :: others =>
          (Cause.illegalInText c).at_ (c :: others ++ delimiter ++ rest)

def readExtraMarks (mark : Char) (content : List Char) (s : List Char) :
    List Char × List Char :=
  let extra := (s.take 2).takeWhile (· == mark)
  (content ++ extra, s.drop extra.length)

def skipFirstBreak (s : List Char) : List Char :=
  (Text.takeOne '\n' s).2

def readString? (s : List Char) :
    Option (Except Error (List Char × List Char)) :=
  match s with
  | '"' :: '"' :: '"' :: s =>
      some ((readBasic true .text [] (skipFirstBreak s)).map fun (t, s) =>
        readExtraMarks '"' t s)
  | '"' :: s => some (readBasic false .text [] s)
  | '\'' :: '\'' :: '\'' :: s =>
      some ((readLiteral true (skipFirstBreak s)).map fun (t, s) =>
        readExtraMarks '\'' t s)
  | '\'' :: s => some (readLiteral false s)
  | _ => none

/-- The digits of a run in which single underscores may stand between two
digits, and what follows. -/
def moreDigits (isDigit : Char → Bool) : List Char → List Char × List Char
  | [] => ([], [])
  | c :: s =>
      if isDigit c then
        let (digits, rest) := moreDigits isDigit s
        (c :: digits, rest)
      else
        match s with
        | d :: s =>
            if c == '_' && isDigit d then
              let (digits, rest) := moreDigits isDigit s
              (d :: digits, rest)
            else ([], c :: d :: s)
        | [] => ([], [c])

def readRun? (isDigit : Char → Bool) :
    List Char → Option (List Char × List Char)
  | [] => none
  | c :: s => if isDigit c then some (moreDigits isDigit (c :: s)) else none

def base? : Char → Option Nat
  | 'x' => some 16
  | 'o' => some 8
  | 'b' => some 2
  | _ => none

def isDigitIn (base : Nat) (c : Char) : Bool :=
  (Text.hexValue? c).any (· < base)

def numberIn (base : Nat) (digits : List Char) : Nat :=
  digits.foldl (fun n c => base * n + (Text.hexValue? c).getD 0) 0

def readBased? : List Char → Option (Nat × List Char)
  | '0' :: letter :: s => do
      let base ← base? letter
      let (digits, rest) ← readRun? (isDigitIn base) s
      return (numberIn base digits, rest)
  | _ => none

def readWhole? : List Char → Option (List Char × List Char)
  | '0' :: s => some (['0'], s)
  | s => readRun? Text.isDigit s

def readFraction (s : List Char) : List Char × List Char :=
  match s with
  | '.' :: rest => (readRun? Text.isDigit rest).getD ([], s)
  | _ => ([], s)

def readSign : List Char → Bool × List Char
  | '-' :: s => (true, s)
  | '+' :: s => (false, s)
  | s => (false, s)

def readExponent (s : List Char) : Option Int × List Char :=
  match s with
  | c :: rest =>
      if c == 'e' || c == 'E' then
        let (negative, digits) := readSign rest
        match readRun? Text.isDigit digits with
        | some (digits, rest) =>
            let n : Int := Text.numberOf digits
            (some (if negative then -n else n), rest)
        | none => (none, s)
      else (none, s)
  | [] => (none, s)

def readDecimal? (s : List Char) :
    Option (Except Error (Value × List Char)) := do
  let (negative, start) := readSign s
  let (whole, rest) ← readWhole? start
  let (fraction, rest) := readFraction rest
  let (exponent, rest) := readExponent rest
  if fraction.isEmpty && exponent.isNone then
    if Text.maxDigits < whole.length then
      some ((Cause.exceeded (.digitsRead whole.length)).at_ s)
    else
      let n : Int := Text.numberOf whole
      some (.ok (.integer (if negative then -n else n), rest))
  else
    let digits := whole ++ fraction
    let x := Binary64.ofDecimal negative (Text.numberOf digits) digits.length
      (exponent.getD 0 - fraction.length)
    some (.ok (.real x, rest))

def readNumber? (s : List Char) : Option (Except Error (Value × List Char)) :=
  match readBased? s with
  | some (n, rest) => some (.ok (.integer n, rest))
  | none => readDecimal? s

def readSpecial? (s : List Char) : Option (Value × List Char) :=
  let (negative, start) := readSign s
  match start with
  | 'i' :: 'n' :: 'f' :: rest => some (.real (.infinite negative), rest)
  | 'n' :: 'a' :: 'n' :: rest => some (.real .nan, rest)
  | _ => none

def readField? (count low high : Nat) (s : List Char) :
    Option (Nat × List Char) :=
  let digits := s.take count
  let n := Text.numberOf digits
  if digits.length = count && digits.all Text.isDigit && low ≤ n &&
    n ≤ high then some (n, s.drop count)
  else none

def after? (c : Char) (s : List Char) : Option (List Char) :=
  Text.afterPrefix? [c] s

def readMicroseconds (s : List Char) : Nat × List Char :=
  match s with
  | '.' :: rest =>
      let digits := rest.takeWhile Text.isDigit
      if digits.isEmpty then (0, s)
      else (Text.numberOf ((digits ++ List.replicate 6 '0').take 6),
        rest.dropWhile Text.isDigit)
  | _ => (0, s)

def readTime? (s : List Char) : Option (Time × List Char) := do
  let (hour, s) ← readField? 2 0 23 s
  let (minute, s) ← readField? 2 0 59 (← after? ':' s)
  let (second, s) ← readField? 2 0 59 (← after? ':' s)
  let (microsecond, s) := readMicroseconds s
  return (⟨hour, minute, second, microsecond⟩, s)

def readDate? (s : List Char) : Option (Date × List Char) := do
  let (year, s) ← readField? 4 0 9999 s
  let (month, s) ← readField? 2 1 12 (← after? '-' s)
  let (day, s) ← readField? 2 1 31 (← after? '-' s)
  return (⟨year, month, day⟩, s)

def readOffset? (s : List Char) : Option (Int × List Char) :=
  match s with
  | [] => none
  | c :: rest =>
      if c == 'Z' || c == 'z' then some (0, rest)
      else if c == '+' || c == '-' then do
        let (hours, s) ← readField? 2 0 23 rest
        let (minutes, s) ← readField? 2 0 59 (← after? ':' s)
        let offset : Int := 60 * hours + minutes
        return (if c == '-' then -offset else offset, s)
      else none

def readMomentOf (d : Date) (s : List Char) : Moment × List Char :=
  let time? := match s with
    | c :: rest => if c == 'T' || c == 't' || c == ' ' then readTime? rest
        else none
    | [] => none
  match time? with
  | none => (.date d, s)
  | some (t, s) =>
      match readOffset? s with
      | none => (.dateTime d t none, s)
      | some (offset, s) => (.dateTime d t (some offset), s)

def readMoment? (s : List Char) : Option (Except Error (Value × List Char)) :=
  match readDate? s with
  | some (d, rest) =>
      if d.isValid then
        let (m, rest) := readMomentOf d rest
        some (.ok (.moment m, rest))
      else some (Cause.moment.at_ s)
  | none => (readTime? s).map fun (t, rest) => .ok (.moment (.time t), rest)

def readScalar (s : List Char) : Except Error (Value × List Char) :=
  match readString? s with
  | some r => r.map fun (t, s) => (.text (String.ofList t), s)
  | none =>
      match s with
      | 't' :: 'r' :: 'u' :: 'e' :: rest => .ok (.flag true, rest)
      | 'f' :: 'a' :: 'l' :: 's' :: 'e' :: rest => .ok (.flag false, rest)
      | _ =>
          match readMoment? s with
          | some r => r
          | none =>
              match readNumber? s with
              | some r => r
              | none =>
                  match readSpecial? s with
                  | some r => .ok r
                  | none => Cause.value.at_ s

end Toml
end SiteAudit
