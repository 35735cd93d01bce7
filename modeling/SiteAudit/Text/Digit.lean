import SiteAudit.Text.Blank
import SiteAudit.Text.Decimal

/-!
# Decimal digits

Every script's decimal digits come as ten consecutive characters, so a list of
zeros describes them all.  An integer may be written with digits of any script,
with a sign, with single underscores between two digits, and with blanks around
it, the information separators excepted.
-/

namespace SiteAudit
namespace Text

def zeros : List Nat :=
  [0x30, 0x660, 0x6F0, 0x7C0, 0x966, 0x9E6, 0xA66, 0xAE6, 0xB66, 0xBE6, 0xC66,
   0xCE6, 0xD66, 0xDE6, 0xE50, 0xED0, 0xF20, 0x1040, 0x1090, 0x17E0, 0x1810,
   0x1946, 0x19D0, 0x1A80, 0x1A90, 0x1B50, 0x1BB0, 0x1C40, 0x1C50, 0xA620,
   0xA8D0, 0xA900, 0xA9D0, 0xA9F0, 0xAA50, 0xABF0, 0xFF10, 0x104A0, 0x10D30,
   0x11066, 0x110F0, 0x11136, 0x111D0, 0x112F0, 0x11450, 0x114D0, 0x11650,
   0x116C0, 0x11730, 0x118E0, 0x11950, 0x11C50, 0x11D50, 0x11DA0, 0x16A60,
   0x16AC0, 0x16B50, 0x1D7CE, 0x1D7D8, 0x1D7E2, 0x1D7EC, 0x1D7F6, 0x1E140,
   0x1E2F0, 0x1E950, 0x1FBF0]

def digitValue? (c : Char) : Option Nat :=
  (zeros.find? fun z => z ≤ c.toNat && c.toNat < z + 10).map (c.toNat - ·)

/-- The value of a row of digits behind a digit, in which single underscores may
stand between two digits; `n` is the value so far, and `count` the number of
digits. -/
def readDigits (n count : Nat) : List Char → Option (Nat × Nat)
  | [] => some (n, count)
  | c :: s =>
      match digitValue? c with
      | some d => readDigits (10 * n + d) (count + 1) s
      | none =>
          match s with
          | [] => none
          | d :: s =>
              if c == '_' then
                match digitValue? d with
                | some d => readDigits (10 * n + d) (count + 1) s
                | none => none
              else none

def unsigned? (s : List Char) : Option Nat :=
  match s with
  | [] => none
  | c :: rest =>
      match digitValue? c with
      | none => none
      | some d =>
          match readDigits d 1 rest with
          | some (n, count) => if count ≤ maxDigits then some n else none
          | none => none

/-- Whether a character may stand around an integer: any blank but the
information separators. -/
def isPadding (c : Char) : Bool :=
  isBlank c && !(28 ≤ c.toNat && c.toNat ≤ 31)

def integer? (s : List Char) : Option Int :=
  match trim isPadding s with
  | '-' :: s => (unsigned? s).map fun n => -n
  | '+' :: s => (unsigned? s).map fun n => n
  | s => (unsigned? s).map fun n => n

/-- Whether a text looks like a negative number: a minus sign and digits,
perhaps with a point before the last ones.  A line feed may follow. -/
def looksNegative (s : List Char) : Bool :=
  match s with
  | '-' :: s =>
      let isDigit := fun c => (digitValue? c).isSome
      let s := if s.getLast? == some '\n' then s.dropLast else s
      match s.dropWhile isDigit with
      | [] => !s.isEmpty
      | '.' :: fraction => !fraction.isEmpty && fraction.all isDigit
      | _ => false
  | _ => false

end Text
end SiteAudit
