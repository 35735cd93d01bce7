import SiteAudit.Number.Binary64
import SiteAudit.Text.Decimal

/-!
# Notations of whole numbers

A whole number is written with a fixed number of places behind the point, with a
power of ten behind one digit, or in the shorter of the two ways.  Digits that
do not fit are rounded to the nearest number, and to the one with the even last
digit if two are equally near.
-/

namespace SiteAudit
namespace Number

/-- A numeral: the digits in front of the point, and all that comes behind
them. -/
structure Numeral where
  whole : List Char
  tail : List Char
  deriving DecidableEq, Repr

/-- Leading digits of a number.  The number has `point` digits in front of the
point; the digits that are left out are zeros. -/
structure Leading where
  digits : List Char
  point : Nat
  deriving DecidableEq, Repr

def trimmed (digits : List Char) : List Char :=
  (digits.reverse.dropWhile (· == '0')).reverse

def filled (length : Nat) (digits : List Char) : List Char :=
  digits ++ List.replicate (length - digits.length) '0'

/-- The leading digits of a number, at most `count` of them, rounded. -/
def leading (count n : Nat) : Leading :=
  let digits := Text.digitsOf n
  if digits.length ≤ count then ⟨trimmed digits, digits.length⟩
  else
    let left := digits.length - count
    let kept := Text.digitsOf (Binary64.roundQuotient n (Nat.pow 10 left))
    ⟨trimmed kept, kept.length + left⟩

def exponent (power : Int) : List Char :=
  let numeral := Text.digitsOf power.natAbs
  'e' :: (if power < 0 then '-' else '+') ::
    (if numeral.length < 2 then '0' :: numeral else numeral)

/-- The point and the places behind it; the point stands alone only if `always`
says so. -/
def behindPoint (always : Bool) (places : List Char) : List Char :=
  if places.isEmpty && !always then [] else '.' :: places

def fixed (always : Bool) (places n : Nat) : Numeral where
  whole := Text.digitsOf n
  tail := behindPoint always (List.replicate places '0')

def withExponent (always : Bool) (digits : List Char) (point : Nat) :
    Numeral where
  whole := digits.take 1
  tail := behindPoint always (digits.drop 1) ++ exponent ((point : Int) - 1)

def scientific (always : Bool) (places n : Nat) : Numeral :=
  let l := leading (places + 1) n
  withExponent always (filled (places + 1) l.digits) l.point

/-- A number with the given number of digits, the zeros at their end only if
`always` says so.  A number with more digits in front of the point has a power
of ten. -/
def general (always : Bool) (count n : Nat) : Numeral :=
  let count := max count 1
  let l := leading count n
  if count < l.point then
    withExponent always (filled (if always then count else 1) l.digits) l.point
  else
    { whole := filled l.point l.digits
      tail := behindPoint always (List.replicate (if always then count - l.point
        else 0) '0') }

def natural? : Binary64 → Option Nat
  | .finite _ significand power =>
      some (significand * Nat.pow 2 power.toNat / Nat.pow 2 (-power).toNat)
  | _ => none

end Number
end SiteAudit
