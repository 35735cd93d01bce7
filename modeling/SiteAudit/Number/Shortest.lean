import SiteAudit.Number.Notation

/-!
# The shortest decimal of a number

A number is written with as few digits as tell it from its neighbours: the
decimal lies among those that round to the number.  Of two such decimals of
equal length the nearer one is taken, and of two equally near ones the one with
the even last digit.  The decimal is positional unless it is far from one.
-/

namespace SiteAudit
namespace Binary64

/-- A decimal: digits times a power of ten. -/
structure Decimal where
  digits : Nat
  exponent : Int
  deriving DecidableEq, Repr

/-- How `a * 10 ^ i` compares with `b * 2 ^ j`. -/
def compareScaled (a : Nat) (i : Int) (b : Nat) (j : Int) : Ordering :=
  compare (a * Nat.pow 10 i.toNat * Nat.pow 2 (-j).toNat) (b *
    Nat.pow 2 j.toNat * Nat.pow 10 (-i).toNat)

/-- Whether a decimal rounds to the number with the given significand and
exponent.  The interval of such decimals reaches half-way to both neighbours,
and the lower one is nearer if the significand is the least with all bits. -/
def roundsTo (d : Decimal) (significand : Nat) (exponent : Int) : Bool :=
  let isNarrow := significand == Nat.pow 2 (precision - 1) &&
    minExponent < exponent
  let low := if isNarrow then 4 * significand - 1 else 4 * significand - 2
  let fromLow := compareScaled d.digits d.exponent low (exponent - 2)
  let fromHigh :=
    compareScaled d.digits d.exponent (4 * significand + 2) (exponent - 2)
  let isClosed := significand % 2 == 0
  (fromLow == .gt || (isClosed && fromLow == .eq)) &&
  (fromHigh == .lt || (isClosed && fromHigh == .eq))

/-- The least power of ten above a positive quotient. -/
def scaleOf (n d : Nat) : Int :=
  if d ≤ n then ((Text.digitsOf (n / d)).length : Int)
  else 1 - ((Text.digitsOf ((d - 1) / n)).length : Int)

def decimalOf? (significand : Nat) (exponent : Int) (scale : Int)
    (count : Nat) : Option Decimal :=
  let power := scale - count
  let n := significand * Nat.pow 2 exponent.toNat * Nat.pow 10 (-power).toNat
  let d := Nat.pow 2 (-exponent).toNat * Nat.pow 10 power.toNat
  let nearest := roundQuotient n d
  let other := if nearest * d ≤ n then nearest + 1 else nearest - 1
  [nearest, other].findSome? fun digits =>
    if roundsTo ⟨digits, power⟩ significand exponent then some ⟨digits, power⟩
      else none

/-- The shortest decimal that rounds to a positive number; seventeen digits are
always enough. -/
def shortest (significand : Nat) (exponent : Int) : Decimal :=
  let scale := scaleOf (significand *
    Nat.pow 2 exponent.toNat) (Nat.pow 2 (-exponent).toNat)
  match (List.range 17).findSome? fun i =>
    decimalOf? significand exponent scale (i + 1) with
  | some d => d
  | none => ⟨significand * Nat.pow 2 exponent.toNat, 0⟩

/-- The text of a row of digits with the point behind the first `point` of them.
A point far away is written as an exponent of at least two digits. -/
def layOut (digits : List Char) (point : Int) : List Char :=
  if point ≤ -4 || 16 < point then
    digits.take 1 ++ Number.behindPoint false (digits.drop 1) ++
      Number.exponent (point - 1)
  else if point ≤ 0 then
    '0' :: '.' :: List.replicate (-point).toNat '0' ++ digits
  else
    let whole := digits.take point.toNat
    let fraction := digits.drop point.toNat
    whole ++ List.replicate (point.toNat - whole.length) '0' ++ '.' ::
      (if fraction.isEmpty then ['0'] else fraction)

def text : Binary64 → String
  | nan => "nan"
  | infinite negative => if negative then "-inf" else "inf"
  | finite negative significand exponent =>
      let body :=
        if significand = 0 then ['0', '.', '0']
        else
          let d := shortest significand exponent
          let digits := Text.digitsOf d.digits
          layOut (Number.trimmed digits) (d.exponent + digits.length)
      String.ofList (if negative then '-' :: body else body)

end Binary64
end SiteAudit
