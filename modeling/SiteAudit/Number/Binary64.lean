/-!
# Binary floating point

A finite number is a significand of at most 53 bits times a power of two.  A
decimal is rounded to the nearest such number, and to the one with the even
significand if two are equally near; what is too large becomes infinite.  All of
it is exact arithmetic on natural numbers.
-/

namespace SiteAudit

inductive Binary64
  | nan
  | infinite (negative : Bool)
  | finite (negative : Bool) (significand : Nat) (exponent : Int)
  deriving DecidableEq, Repr

namespace Binary64

def precision : Nat := 53

def minExponent : Int := -1074

def maxExponent : Int := 971

/-- The natural number nearest to a quotient; of two equally near ones the even
one. -/
def roundQuotient (n d : Nat) : Nat :=
  let q := n / d
  let twice := 2 * (n % d)
  if twice < d then q
  else if d < twice then q + 1
  else if q % 2 = 0 then q
  else q + 1

def unscale (n d : Nat) (exponent : Int) : Nat × Nat :=
  (n * Nat.pow 2 (-exponent).toNat, d * Nat.pow 2 exponent.toNat)

/-- The exponent that the lengths of two numbers give their quotient, at most
one too low. -/
def guessFor (n d : Nat) : Int :=
  (Nat.log2 n : Int) - Nat.log2 d - precision

/-- The exponent for a positive quotient, by which the significand has all its
bits if that is possible. -/
def exponentFor (n d : Nat) : Int :=
  let guess := guessFor n d
  let scaled := unscale n d guess
  max minExponent
    (if scaled.1 / scaled.2 < Nat.pow 2 precision then guess else guess + 1)

def significandFor (n d : Nat) : Nat :=
  let scaled := unscale n d (exponentFor n d)
  roundQuotient scaled.1 scaled.2

def ofQuotient (negative : Bool) (n d : Nat) : Binary64 :=
  if n = 0 then finite negative 0 minExponent
  else
    let exponent := exponentFor n d
    let significand := significandFor n d
    let (significand, exponent) :=
      if significand = Nat.pow 2 precision then
        (Nat.pow 2 (precision - 1), exponent + 1)
      else (significand, exponent)
    if maxExponent < exponent then infinite negative
    else finite negative significand exponent

/-- The exact value of a significand with its exponent. -/
def valueOf (significand : Nat) (exponent : Int) : Rat :=
  mkRat (significand *
    Nat.pow 2 exponent.toNat : Nat) (Nat.pow 2 (-exponent).toNat)

/-- The value of the number that a rational number is rounded to.  There is no
largest one: a number that is too large is infinite, and it compares with all
finite ones as its value here. -/
def rounded (q : Rat) : Rat :=
  let size :=
    valueOf (significandFor q.num.natAbs q.den) (exponentFor q.num.natAbs q.den)
  if q.num < 0 then -size else size

/-- The number nearest to `digits` times a power of ten.  `count` is the number
of digits; it keeps a decimal far outside the range from being written out. -/
def ofDecimal (negative : Bool) (digits count : Nat) (exponent : Int) :
    Binary64 :=
  if digits = 0 then finite negative 0 minExponent
  else if 400 < exponent then infinite negative
  else if exponent + count < -400 then finite negative 0 minExponent
  else ofQuotient negative (digits *
    Nat.pow 10 exponent.toNat) (Nat.pow 10 (-exponent).toNat)

end Binary64

end SiteAudit
