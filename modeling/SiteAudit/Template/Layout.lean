import SiteAudit.Number.Notation
import SiteAudit.Template.Part

/-!
# Layouts

A field of a template may prescribe a layout: a filling character with an
alignment, a sign, a width, a separator between groups of digits, a precision,
and a code.  Texts are cut to the precision and padded on the right.  The code
of a number says in which base or notation it is written, or that it stands for
a character.  Numbers are padded on the left, with zeros between sign and digits
if the width starts with a zero; such zeros are grouped like the digits.
-/

namespace SiteAudit
namespace Template

structure Layout where
  fill : Option Char
  alignment : Option Char
  sign : Option Char
  zeroCoercion : Bool
  alternate : Bool
  zeroPadded : Bool
  width : Nat
  separator : Option Char
  precision : Option Nat
  code : Option Char
  deriving DecidableEq, Repr

def isAlignment (c : Char) : Bool :=
  c == '<' || c == '>' || c == '=' || c == '^'

def maxWidth : Nat :=
  1099511627776

def maxPrecision : Nat :=
  2147483647

def readNumber (s : List Char) : Except Error (Option Nat × List Char) :=
  let digits := s.takeWhile fun c => (Text.digitValue? c).isSome
  match readCount digits with
  | .error e => .error e
  | .ok n => .ok (n, s.drop digits.length)

def takeIf (p : Char → Bool) : List Char → Option Char × List Char
  | [] => (none, [])
  | c :: s => if p c then (some c, s) else (none, c :: s)

def readAlignment : List Char → Option Char × Option Char × List Char
  | c :: a :: s =>
      if isAlignment a then (some c, some a, s)
      else if isAlignment c then (none, some c, a :: s)
      else (none, none, c :: a :: s)
  | [c] => if isAlignment c then (none, some c, []) else (none, none, [c])
  | [] => (none, none, [])

/-- The separator at the start of a text, and what follows it.  Only one of the
two may stand there. -/
def readSeparator (s : List Char) : Except Error (Option Char × List Char) :=
  let (comma, s1) := takeIf (· == ',') s
  let (underscore, s2) := takeIf (· == '_') s1
  if underscore.isSome && (comma.isSome || s2.head? == some ',') then
    .error .bothSeparators
  else .ok (comma.or underscore, s2)

def readPrecision : List Char → Except Error (Option Nat × List Char)
  | '.' :: s =>
      match readNumber s with
      | .error e => .error e
      | .ok (none, _) => .error .missingPrecision
      | .ok (some n, s) => .ok (some n, s)
  | s => .ok (none, s)

def allowsSeparator (separator code : Char) : Bool :=
  ['d', 'e', 'f', 'g', 'E', 'G', '%', 'F', Char.ofNat 0].contains code ||
    (separator == '_' && ['b', 'o', 'x', 'X'].contains code)

/-- The code that counts for a value of a kind if there is none. -/
def Kind.usualCode : Kind → Char
  | text => 's'
  | _ => 'd'

def readLayout (kind : Kind) (s : List Char) : Except Error Layout := do
  let (fill, alignment, s1) := readAlignment s
  let (sign, s2) := takeIf (fun c => c == '+' || c == '-' || c == ' ') s1
  let (coercion, s3) := takeIf (· == 'z') s2
  let (alternate, s4) := takeIf (· == '#') s3
  let (zero, s5) := if fill.isSome then (none, s4) else takeIf (· == '0') s4
  let (width, s6) ← readNumber s5
  let (separator, s7) ← readSeparator s6
  let (precision, s8) ← readPrecision s7
  if 1 < s8.length then .error (.malformedLayout (String.ofList s) kind)
  else
    let code := s8.head?.getD kind.usualCode
    match separator.filter (!allowsSeparator · code) with
    | some separator => .error (.separatorForCode separator code)
    | none =>
        .ok ⟨fill, alignment, sign, coercion.isSome, alternate.isSome,
          zero.isSome, width.getD 0, separator,
          precision, s8.head?⟩

def groupSize (code : Char) : Nat :=
  if ['b', 'o', 'x', 'X'].contains code then 4 else 3

/-- The digits with the separator in front of every group but the first; `count`
is the number of digits. -/
def groupedFrom (size : Nat) (separator : Char) : Nat → List Char → List Char
  | count + 1, c :: rest =>
      if count != 0 && count % size == 0 then
        c :: separator :: groupedFrom size separator count rest
      else c :: groupedFrom size separator count rest
  | _, s => s

def grouped (size : Nat) (separator : Char) (digits : List Char) : List Char :=
  groupedFrom size separator digits.length digits

/-- The least number of digits, at least `count`, that fill a width together
with the separators of their groups. -/
def countFor (size width count : Nat) : Nat :=
  max count (width - (width - 1) / (size + 1))

def zeroFilled (count : Nat) (digits : List Char) : List Char :=
  List.replicate (count - digits.length) '0' ++ digits

namespace Layout

def filling (l : Layout) : Char :=
  l.fill.getD (if l.zeroPadded then '0' else ' ')

/-- A text padded to the width; `head` stays in front of the padding when the
alignment asks for it. -/
def pad (l : Layout) (alignment : Char) (head body : List Char) : List Char :=
  let missing := l.width - (head.length + body.length)
  let row := fun n => List.replicate n l.filling
  match alignment with
  | '<' => head ++ body ++ row missing
  | '^' => row (missing / 2) ++ head ++ body ++ row (missing - missing / 2)
  | '=' => head ++ row missing ++ body
  | _ => row missing ++ head ++ body

def applyText (l : Layout) (s : String) : Except Error String :=
  let code := l.code.getD 's'
  if code != 's' then .error (.unknownCode code .text)
  else
    match l.sign with
    | some c => .error (.signForText (c == ' '))
    | none =>
        if l.zeroCoercion then .error (.zeroCoercion .text)
        else if l.alternate then .error .alternateForText
        else if l.alignment == some '=' then .error .alignmentForText
        else if maxWidth < l.width then .error .oversizedText
        else
          let body := match l.precision with
            | some n => s.toList.take n
            | none => s.toList
          .ok (String.ofList (l.pad (l.alignment.getD '<') [] body))

def base? : Char → Option (Nat × List Char)
  | 'd' => some (10, [])
  | 'n' => some (10, [])
  | 'b' => some (2, ['0', 'b'])
  | 'o' => some (8, ['0', 'o'])
  | 'x' => some (16, ['0', 'x'])
  | 'X' => some (16, ['0', 'X'])
  | _ => none

def signOf (l : Layout) (negative : Bool) : List Char :=
  if negative then ['-']
  else
    match l.sign with
    | some '+' => ['+']
    | some ' ' => [' ']
    | _ => []

/-- The digits in front of the point, in groups and with zeros in front of them,
as far as the layout asks for either; `taken` is what the other characters take
from the width. -/
def wholeDigits (l : Layout) (alignment : Char) (taken : Nat)
    (digits : List Char) : List Char :=
  let width :=
    if l.filling == '0' && alignment == '=' then l.width - taken else 0
  if digits.isEmpty then []
  else
    match l.separator with
    | none => zeroFilled width digits
    | some separator =>
        let size := groupSize (l.code.getD 'd')
        grouped size separator
          (zeroFilled (countFor size width digits.length) digits)

def applyNumeral (l : Layout) (negative : Bool) (mark : List Char)
    (n : Number.Numeral) : Except Error String :=
  if maxWidth < l.width then .error .oversizedText
  else
    let alignment := l.alignment.getD (if l.zeroPadded then '=' else '>')
    let head := l.signOf negative ++ mark
    let whole := l.wholeDigits alignment (head.length + n.tail.length) n.whole
    .ok (String.ofList (l.pad alignment head (whole ++ n.tail)))

def applyCharacter (l : Layout) (n : Int) : Except Error String :=
  if l.sign.isSome then .error .signForCharacter
  else if l.alternate then .error .alternateForCharacter
  else if n < -9223372036854775808 || 9223372036854775807 < n then
    .error .oversizedCharacter
  else if n < 0 || 0x10FFFF < n then .error .noCharacter
  else l.applyNumeral false [] ⟨[], [Char.ofNat n.toNat]⟩

def applyInteger (l : Layout) (code : Char) (base : Nat) (mark : List Char)
    (n : Int) : Except Error String :=
  let digits := Nat.toDigits base n.natAbs
  let digits := if code == 'X' then digits.map Char.toUpper else digits
  l.applyNumeral (n < 0) (if l.alternate then mark else []) ⟨digits, []⟩

def isReal (code : Char) : Bool :=
  ['e', 'E', 'f', 'F', 'g', 'G', '%'].contains code

def numeralFor (l : Layout) (code : Char) (n : Nat) : Number.Numeral :=
  let places := l.precision.getD 6
  match code.toLower with
  | 'e' => Number.scientific l.alternate places n
  | 'g' => Number.general l.alternate places n
  | _ => Number.fixed l.alternate places n

/-- A number in the double format; `none` stands for a number that is too
large. -/
def applyReal (l : Layout) (code : Char) (negative : Bool) (n : Option Nat) :
    Except Error String :=
  let numeral := match n with
    | some n => l.numeralFor code n
    | none => ⟨[], ['i', 'n', 'f']⟩
  let tail := if code.isUpper then numeral.tail.map Char.toUpper
    else numeral.tail
  l.applyNumeral negative [] ⟨numeral.whole, if code == '%' then tail ++ ['%']
    else tail⟩

/-- A number in a notation of real numbers.  It is brought to the double format
first, and a percentage once more. -/
def applyRounded (l : Layout) (code : Char) (n : Int) : Except Error String :=
  match Number.natural? (.ofQuotient false n.natAbs 1) with
  | none => .error .oversizedReal
  | some rounded =>
      if (l.precision.filter (maxPrecision < ·)).isSome then
        .error .oversizedPrecision
      else if code == '%' then
        l.applyReal code (n < 0)
          (Number.natural? (.ofQuotient false (rounded * 100) 1))
      else l.applyReal code (n < 0) (some rounded)

def applyNumber (l : Layout) (kind : Kind) (n : Int) : Except Error String :=
  let code := l.code.getD 'd'
  if isReal code then l.applyRounded code n
  else if code != 'c' && (base? code).isNone then
    .error (.unknownCode code kind)
  else if l.precision.isSome then .error .precisionForNumber
  else if l.zeroCoercion then .error (.zeroCoercion kind)
  else
    match base? code with
    | none => l.applyCharacter n
    | some (base, mark) => l.applyInteger code base mark n

end Layout

def applyLayout (layout : List Char) (v : Value) : Except Error String :=
  if layout.isEmpty then .ok v.display
  else
    match v with
    | .text s => do (← readLayout .text layout).applyText s
    | .number n => do (← readLayout .number layout).applyNumber .number n.value
    | .flag b =>
        do (← readLayout .flag layout).applyNumber .flag (if b then 1 else 0)
    | v => .error (.layoutForKind v.kindOf)

end Template
end SiteAudit
