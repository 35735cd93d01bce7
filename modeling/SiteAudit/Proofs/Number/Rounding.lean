import Mathlib.Algebra.Order.Field.Power
import Mathlib.Data.Rat.Cast.Order
import Mathlib.Tactic.FieldSimp
import Mathlib.Tactic.Linarith
import Mathlib.Tactic.NormNum
import Mathlib.Tactic.Positivity
import Mathlib.Tactic.Ring
import SiteAudit.Number.Binary64

/-!
# Rounding to the double format

Rounding respects the order of numbers and leaves the numbers of the format as
they are.  So no number of the format lies between a number and what it is
rounded to.
-/

namespace SiteAudit
namespace Binary64

def IsDouble (q : ℚ) : Prop :=
  ∃ (significand : ℕ) (exponent : ℤ), significand ≤ 2 ^ 53 ∧
    minExponent ≤ exponent ∧ |q| = significand * 2 ^ exponent

/-!
## Quotients
-/

section Quotients

variable {n d n' d' : ℕ}

theorem div_le_roundQuotient (n d : ℕ) : n / d ≤ roundQuotient n d := by
  unfold roundQuotient
  dsimp only
  split_ifs <;> omega

theorem roundQuotient_le_succ (n d : ℕ) : roundQuotient n d ≤ n / d + 1 := by
  unfold roundQuotient
  dsimp only
  split_ifs <;> omega

theorem roundQuotient_of_dvd (positive : 0 < d) (h : d ∣ n) :
    roundQuotient n d = n / d := by
  have hzero : n % d = 0 := Nat.mod_eq_zero_of_dvd h
  unfold roundQuotient
  dsimp only
  rw [hzero, if_pos (by omega)]

/-- Where the whole parts are the same, the rests decide. -/
theorem roundQuotient_le_of_rests (positive : 0 < d) (positive' : 0 < d')
    (hwhole : n / d = n' / d') (hrests : n % d * d' ≤ n' % d' * d) :
    roundQuotient n d ≤ roundQuotient n' d' := by
  have hhalf : d ≤ 2 * (n % d) → d' ≤ 2 * (n' % d') := by
    intro hle
    by_contra hlt
    have hleft : d * d' ≤ 2 * (n % d) * d' := Nat.mul_le_mul_right d' hle
    have hright : 2 * (n' % d') * d < d' * d :=
      Nat.mul_lt_mul_of_pos_right (Nat.not_le.1 hlt) positive
    nlinarith
  have hmore : d < 2 * (n % d) → d' < 2 * (n' % d') := by
    intro hlt
    by_contra hle
    have hleft : d * d' < 2 * (n % d) * d' :=
      Nat.mul_lt_mul_of_pos_right hlt positive'
    have hright : 2 * (n' % d') * d ≤ d' * d :=
      Nat.mul_le_mul_right d (Nat.not_lt.1 hle)
    nlinarith
  unfold roundQuotient
  dsimp only
  rw [hwhole]
  split_ifs <;> omega

theorem roundQuotient_mono (positive : 0 < d) (positive' : 0 < d')
    (h : n * d' ≤ n' * d) : roundQuotient n d ≤ roundQuotient n' d' := by
  have hn : d * (n / d) + n % d = n := Nat.div_add_mod n d
  have hn' : d' * (n' / d') + n' % d' = n' := Nat.div_add_mod n' d'
  have hwhole : n / d ≤ n' / d' := by
    rw [Nat.le_div_iff_mul_le positive']
    have hle : n / d * d' * d ≤ n' * d := by
      calc n / d * d' * d = d * (n / d) * d' := by ring
        _ ≤ n * d' := Nat.mul_le_mul_right d' (by omega)
        _ ≤ n' * d := h
    exact Nat.le_of_mul_le_mul_right hle positive
  rcases Nat.lt_or_eq_of_le hwhole with hlt | heq
  · calc roundQuotient n d ≤ n / d + 1 := roundQuotient_le_succ n d
      _ ≤ n' / d' := hlt
      _ ≤ roundQuotient n' d' := div_le_roundQuotient n' d'
  · apply roundQuotient_le_of_rests positive positive' heq
    have hsame : d * (n / d) * d' = d' * (n' / d') * d := by
      rw [heq]
      ring
    nlinarith

end Quotients

/-!
## Exponents
-/

section Exponents

variable {n d n' d' : ℕ}

theorem two_zpow_pos (e : ℤ) : (0 : ℚ) < 2 ^ e :=
  zpow_pos (by norm_num) e

theorem two_pow_toNat (e : ℤ) :
    (2 : ℚ) ^ e.toNat = 2 ^ e * 2 ^ (-e).toNat := by
  rw [← zpow_natCast, ← zpow_natCast, ← zpow_add₀ (by norm_num)]
  congr 1
  omega

theorem unscale_pos (positive : 0 < d) (e : ℤ) : 0 < (unscale n d e).2 :=
  Nat.mul_pos positive (Nat.pow_pos (by norm_num))

theorem unscale_div (positive : 0 < d) (e : ℤ) :
    ((unscale n d e).1 : ℚ) / (unscale n d e).2 = n / d / 2 ^ e := by
  have hd : (d : ℚ) ≠ 0 := by positivity
  have he : (2 : ℚ) ^ e ≠ 0 := ne_of_gt (two_zpow_pos e)
  have hscaled : ((unscale n d e).1 : ℚ) = n * 2 ^ (-e).toNat := by
    simp [unscale]
  have hunit : ((unscale n d e).2 : ℚ) = d * (2 ^ e * 2 ^ (-e).toNat) := by
    rw [← two_pow_toNat]
    simp [unscale]
  rw [hscaled, hunit]
  field_simp

theorem le_pow_log2 (positive : 0 < n) : (2 : ℚ) ^ (n.log2 : ℤ) ≤ n := by
  rw [zpow_natCast]
  exact_mod_cast Nat.log2_self_le (Nat.pos_iff_ne_zero.1 positive)

theorem lt_pow_log2 (n : ℕ) : (n : ℚ) < 2 ^ (n.log2 + 1 : ℤ) := by
  have hlt : n < 2 ^ (n.log2 + 1) := Nat.lt_log2_self
  have hcast : (n : ℚ) < 2 ^ (n.log2 + 1) := by exact_mod_cast hlt
  exact_mod_cast hcast

/-- The lengths of two numbers give the length of their quotient up to one. -/
theorem guess_bounds (positive : 0 < n) (positive' : 0 < d) :
    (2 : ℚ) ^ (52 + guessFor n d) ≤ n / d ∧
      (n : ℚ) / d < 2 ^ (54 + guessFor n d) := by
  have hd : (0 : ℚ) < d := by exact_mod_cast positive'
  constructor
  · rw [le_div_iff₀ hd]
    calc (2 : ℚ) ^ (52 + guessFor n d) * d
        ≤ 2 ^ (52 + guessFor n d) * 2 ^ (d.log2 + 1 : ℤ) :=
          mul_le_mul_of_nonneg_left (lt_pow_log2 d).le (two_zpow_pos _).le
      _ = 2 ^ (n.log2 : ℤ) := by
          rw [← zpow_add₀ (by norm_num)]
          congr 1
          simp only [guessFor, precision]
          omega
      _ ≤ n := le_pow_log2 positive
  · rw [div_lt_iff₀ hd]
    calc (n : ℚ) < 2 ^ (n.log2 + 1 : ℤ) := lt_pow_log2 n
      _ = 2 ^ (54 + guessFor n d) * 2 ^ (d.log2 : ℤ) := by
          rw [← zpow_add₀ (by norm_num)]
          congr 1
          simp only [guessFor, precision]
          omega
      _ ≤ 2 ^ (54 + guessFor n d) * d :=
          mul_le_mul_of_nonneg_left (le_pow_log2 positive') (two_zpow_pos _).le

theorem two_zpow_le {e e' : ℤ} (h : e ≤ e') : (2 : ℚ) ^ e ≤ 2 ^ e' :=
  zpow_le_zpow_right₀ (by norm_num) h

theorem unscale_div_lt_iff (positive : 0 < d) (e : ℤ) :
    (unscale n d e).1 / (unscale n d e).2 < Nat.pow 2 precision ↔
      (n : ℚ) / d < 2 ^ (53 + e) := by
  have hunit : (0 : ℚ) < (unscale n d e).2 := by
    exact_mod_cast unscale_pos positive e
  have hpow : ((Nat.pow 2 precision : ℕ) : ℚ) = 2 ^ (53 : ℤ) := by
    norm_num [precision]
  rw [Nat.div_lt_iff_lt_mul (unscale_pos positive e), ← Nat.cast_lt (α := ℚ),
    Nat.cast_mul, ← div_lt_iff₀ hunit, unscale_div positive, hpow,
    div_lt_iff₀ (two_zpow_pos e), ← zpow_add₀ (by norm_num)]

/-- The exponent is the least one by which the significand has at most 53
bits. -/
structure IsExponentOf (n d : ℕ) (e : ℤ) : Prop where
  inRange : minExponent ≤ e
  below : (n : ℚ) / d < 2 ^ (53 + e)
  full : e = minExponent ∨ (2 : ℚ) ^ (52 + e) ≤ n / d

theorem isExponentOf_exponentFor (positive : 0 < n) (positive' : 0 < d) :
    IsExponentOf n d (exponentFor n d) := by
  obtain ⟨hlow, hhigh⟩ := guess_bounds positive positive'
  have hbest : ∀ e, (n : ℚ) / d < 2 ^ (53 + e) → (2 : ℚ) ^ (52 + e) ≤ n / d →
      IsExponentOf n d (max minExponent e) := by
    intro e hbelow hfull
    refine ⟨le_max_left _ _, ?_, ?_⟩
    · exact lt_of_lt_of_le hbelow (two_zpow_le (by omega))
    · rcases le_total minExponent e with hle | hle
      · rw [max_eq_right hle]
        exact .inr hfull
      · exact .inl (max_eq_left hle)
  unfold exponentFor
  dsimp only
  split_ifs with hlt
  · exact hbest _ ((unscale_div_lt_iff positive' _).1 hlt) hlow
  · apply hbest
    · rwa [show 53 + (guessFor n d + 1) = 54 + guessFor n d by ring]
    · rw [unscale_div_lt_iff positive', not_lt] at hlt
      rwa [show 52 + (guessFor n d + 1) = 53 + guessFor n d by ring]

theorem IsExponentOf.mono {e e' : ℤ} (h : IsExponentOf n d e)
    (h' : IsExponentOf n' d' e') (hle : (n : ℚ) / d ≤ n' / d') : e ≤ e' := by
  by_contra hlt
  rcases h.full with hmin | hfull
  · have := h'.inRange
    omega
  · have hpow : (2 : ℚ) ^ (53 + e') ≤ 2 ^ (52 + e) := two_zpow_le (by omega)
    linarith [h'.below]

end Exponents

/-!
## Sizes
-/

section Sizes

variable {n d n' d' : ℕ}

theorem valueOf_eq (significand : ℕ) (exponent : ℤ) :
    valueOf significand exponent = significand * 2 ^ exponent := by
  have hpow : (2 : ℚ) ^ (-exponent).toNat ≠ 0 := by positivity
  rw [valueOf, Rat.mkRat_eq_div, div_eq_iff (by exact_mod_cast hpow)]
  push_cast
  rw [Nat.pow_eq, Nat.pow_eq]
  push_cast
  rw [two_pow_toNat]
  ring

def sizeOf (n d : ℕ) : ℚ :=
  significandFor n d * 2 ^ exponentFor n d

theorem sizeOf_nonneg (n d : ℕ) : 0 ≤ sizeOf n d :=
  mul_nonneg (Nat.cast_nonneg _) (two_zpow_pos _).le

theorem significandFor_le (positive : 0 < d) : significandFor n d ≤ 2 ^ 53 := by
  rcases Nat.eq_zero_or_pos n with rfl | hpos
  · simp [significandFor, unscale, roundQuotient]
  · have hbelow := (isExponentOf_exponentFor hpos positive).below
    have hlt := (unscale_div_lt_iff positive _).2 hbelow
    exact le_trans (roundQuotient_le_succ _ _) hlt

theorem sizeOf_le (positive : 0 < d) :
    sizeOf n d ≤ 2 ^ (53 + exponentFor n d) := by
  rw [zpow_add₀ (by norm_num), sizeOf]
  apply mul_le_mul_of_nonneg_right _ (two_zpow_pos _).le
  exact_mod_cast significandFor_le positive

theorem le_sizeOf (positive : 0 < d)
    (hfull : (2 : ℚ) ^ (52 + exponentFor n d) ≤ n / d) :
    2 ^ (52 + exponentFor n d) ≤ sizeOf n d := by
  have hunit : (0 : ℚ) < (unscale n d (exponentFor n d)).2 := by
    exact_mod_cast unscale_pos positive (exponentFor n d)
  have hle : 2 ^ 52 ≤ (unscale n d (exponentFor n d)).1 /
      (unscale n d (exponentFor n d)).2 := by
    rw [Nat.le_div_iff_mul_le (unscale_pos positive _), ← Nat.cast_le (α := ℚ),
      Nat.cast_mul, ← le_div_iff₀ hunit, unscale_div positive,
      le_div_iff₀ (two_zpow_pos _)]
    rw [zpow_add₀ (by norm_num)] at hfull
    exact_mod_cast hfull
  rw [zpow_add₀ (by norm_num), sizeOf]
  apply mul_le_mul_of_nonneg_right _ (two_zpow_pos _).le
  exact_mod_cast le_trans hle (div_le_roundQuotient _ _)

theorem sizeOf_mono (positive : 0 < n) (positive' : 0 < d) (hd' : 0 < d')
    (h : (n : ℚ) / d ≤ n' / d') : sizeOf n d ≤ sizeOf n' d' := by
  have hn' : 0 < n' := by
    rcases Nat.eq_zero_or_pos n' with rfl | hpos
    · have : (0 : ℚ) < n / d := by positivity
      simp at h
      linarith
    · exact hpos
  have he := isExponentOf_exponentFor positive positive'
  have he' := isExponentOf_exponentFor hn' hd'
  rcases lt_or_eq_of_le (he.mono he' h) with hlt | heq
  · calc sizeOf n d ≤ 2 ^ (53 + exponentFor n d) := sizeOf_le positive'
      _ ≤ 2 ^ (52 + exponentFor n' d') := two_zpow_le (by omega)
      _ ≤ sizeOf n' d' := by
        apply le_sizeOf hd'
        rcases he'.full with hmin | hfull
        · have := he.inRange
          omega
        · exact hfull
  · have hcross : (unscale n d (exponentFor n d)).1 * (unscale n' d'
        (exponentFor n' d')).2 ≤
        (unscale n' d' (exponentFor n' d')).1 *
          (unscale n d (exponentFor n d)).2 := by
      have hunit : (0 : ℚ) < (unscale n d (exponentFor n d)).2 := by
        exact_mod_cast unscale_pos positive' _
      have hunit' : (0 : ℚ) < (unscale n' d' (exponentFor n' d')).2 := by
        exact_mod_cast unscale_pos hd' _
      rw [← Nat.cast_le (α := ℚ), Nat.cast_mul, Nat.cast_mul,
        ← div_le_div_iff₀ hunit hunit', unscale_div positive', unscale_div hd',
        heq]
      exact div_le_div_of_nonneg_right h (two_zpow_pos _).le
    unfold sizeOf significandFor
    dsimp only
    rw [← heq] at hcross ⊢
    apply mul_le_mul_of_nonneg_right _ (two_zpow_pos _).le
    exact_mod_cast roundQuotient_mono (unscale_pos positive' _)
      (unscale_pos hd' _) hcross

theorem sizeOf_zero (d : ℕ) : sizeOf 0 d = 0 := by
  have hzero : significandFor 0 d = 0 := by
    simp [significandFor, unscale, roundQuotient]
  rw [sizeOf, hzero, Nat.cast_zero, zero_mul]

theorem sizeOf_of_eq_mul (positive : 0 < d) {count : ℕ}
    (h : (n : ℚ) / d = count * 2 ^ exponentFor n d) : sizeOf n d = n / d := by
  have hunit := unscale_pos (n := n) positive (exponentFor n d)
  have hcount : (unscale n d (exponentFor n d)).1 =
      (unscale n d (exponentFor n d)).2 * count := by
    have hdiv := unscale_div (n := n) positive (exponentFor n d)
    rw [h, mul_div_cancel_right₀ _ (ne_of_gt (two_zpow_pos _)),
      div_eq_iff (by exact_mod_cast hunit.ne')] at hdiv
    rw [← Nat.cast_inj (R := ℚ), hdiv, Nat.cast_mul, mul_comm]
  have hsignificand : significandFor n d = count := by
    unfold significandFor
    dsimp only
    rw [roundQuotient_of_dvd hunit ⟨count, hcount⟩, hcount,
      Nat.mul_div_cancel_left _ hunit]
  rw [sizeOf, hsignificand, h]

/-- A number of the format is a multiple of the unit that its size asks for. -/
theorem exists_eq_mul_of_isDouble (positive : 0 < n) (positive' : 0 < d)
    (h : IsDouble (n / d)) :
    ∃ count : ℕ, (n : ℚ) / d = count * 2 ^ exponentFor n d := by
  have he := isExponentOf_exponentFor positive positive'
  obtain ⟨significand, exponent, hbits, hrange, hsize⟩ := h
  have hnonneg : (0 : ℚ) ≤ n / d := by positivity
  rw [abs_of_nonneg hnonneg] at hsize
  rcases le_or_gt (exponentFor n d) exponent with hle | hlt
  · use significand * 2 ^ (exponent - exponentFor n d).toNat
    rw [hsize, Nat.cast_mul, Nat.cast_pow, Nat.cast_ofNat, mul_assoc,
      ← zpow_natCast, ← zpow_add₀ (by norm_num)]
    congr 2
    omega
  · -- only a significand that carries into the next exponent is left
    have hfull : (2 : ℚ) ^ (52 + exponentFor n d) ≤ n / d := by
      rcases he.full with hmin | hfull
      · omega
      · exact hfull
    have hcarry : (n : ℚ) / d ≤ 2 ^ (53 + exponent) := by
      rw [hsize, zpow_add₀ (by norm_num)]
      apply mul_le_mul_of_nonneg_right _ (two_zpow_pos _).le
      exact_mod_cast hbits
    have hpow : (2 : ℚ) ^ (53 + exponent) ≤ 2 ^ (52 + exponentFor n d) :=
      two_zpow_le (by omega)
    use 2 ^ 52
    rw [le_antisymm (hcarry.trans hpow) hfull, zpow_add₀ (by norm_num)]
    norm_num

end Sizes

/-!
## Rounding
-/

section Rounding

variable {q r : ℚ}

theorem rounded_of_nonneg (h : 0 ≤ q) :
    rounded q = sizeOf q.num.natAbs q.den := by
  unfold rounded
  dsimp only
  rw [if_neg (not_lt.2 (Rat.num_nonneg.2 h)), valueOf_eq, sizeOf]

theorem rounded_neg (q : ℚ) : rounded (-q) = -rounded q := by
  unfold rounded
  dsimp only
  rw [Rat.num_neg_eq_neg_num, Rat.den_neg_eq_den, Int.natAbs_neg, valueOf_eq,
    ← sizeOf]
  rcases lt_trichotomy q.num 0 with hneg | hzero | hpos
  · rw [if_neg (by omega), if_pos hneg, neg_neg]
  · simp [hzero, sizeOf_zero]
  · rw [if_pos (by omega), if_neg (by omega)]

theorem natAbs_num_div_den (h : 0 ≤ q) : (q.num.natAbs : ℚ) / q.den = q := by
  have hnum : ((q.num.natAbs : ℤ) : ℚ) = q.num := by
    rw [Int.natAbs_of_nonneg (Rat.num_nonneg.2 h)]
  rw [← Int.cast_natCast q.num.natAbs, hnum, Rat.num_div_den]

theorem rounded_nonneg (h : 0 ≤ q) : 0 ≤ rounded q := by
  rw [rounded_of_nonneg h]
  exact sizeOf_nonneg _ _

theorem rounded_le_of_nonneg (hq : 0 ≤ q) (h : q ≤ r) :
    rounded q ≤ rounded r := by
  have hr : 0 ≤ r := hq.trans h
  rcases eq_or_lt_of_le hq with hzero | hpos
  · rw [← hzero, rounded_of_nonneg (le_refl 0)]
    simpa [sizeOf_zero] using rounded_nonneg hr
  · rw [rounded_of_nonneg hq, rounded_of_nonneg hr]
    apply sizeOf_mono _ q.den_pos r.den_pos
    · rwa [natAbs_num_div_den hq, natAbs_num_div_den hr]
    · exact Int.natAbs_pos.2 (Rat.num_pos.2 hpos).ne'

theorem rounded_mono (h : q ≤ r) : rounded q ≤ rounded r := by
  rcases le_total 0 q with hq | hq
  · exact rounded_le_of_nonneg hq h
  rcases le_total 0 r with hr | hr
  · have hneg : 0 ≤ rounded (-q) := rounded_nonneg (neg_nonneg.2 hq)
    rw [rounded_neg] at hneg
    exact (neg_nonneg.1 hneg).trans (rounded_nonneg hr)
  · have hneg := rounded_le_of_nonneg (neg_nonneg.2 hr) (neg_le_neg h)
    rw [rounded_neg, rounded_neg] at hneg
    exact neg_le_neg_iff.1 hneg

theorem isDouble_rounded (q : ℚ) : IsDouble (rounded q) := by
  refine ⟨significandFor q.num.natAbs q.den, exponentFor q.num.natAbs q.den,
    significandFor_le q.den_pos, le_max_left _ _, ?_⟩
  rw [← sizeOf]
  rcases le_total 0 q with hq | hq
  · rw [abs_of_nonneg (rounded_nonneg hq), rounded_of_nonneg hq]
  · have hneg : 0 ≤ -q := neg_nonneg.2 hq
    rw [← abs_neg, ← rounded_neg, abs_of_nonneg (rounded_nonneg hneg),
      rounded_of_nonneg hneg, Rat.num_neg_eq_neg_num, Int.natAbs_neg,
      Rat.den_neg_eq_den]

theorem rounded_of_isDouble (h : IsDouble q) : rounded q = q := by
  wlog hq : 0 ≤ q generalizing q
  · have hneg : IsDouble (-q) := by
      unfold IsDouble
      rwa [abs_neg]
    have hsame := this hneg (neg_nonneg.2 (not_le.1 hq).le)
    rw [rounded_neg] at hsame
    exact neg_inj.1 hsame
  rcases eq_or_lt_of_le hq with hzero | hpos
  · rw [← hzero, rounded_of_nonneg (le_refl 0)]
    exact sizeOf_zero _
  · have hnum : 0 < q.num.natAbs := Int.natAbs_pos.2 (Rat.num_pos.2 hpos).ne'
    rw [← natAbs_num_div_den hq] at h
    obtain ⟨count, hcount⟩ := exists_eq_mul_of_isDouble hnum q.den_pos h
    rw [rounded_of_nonneg hq, sizeOf_of_eq_mul q.den_pos hcount,
      natAbs_num_div_den hq]

end Rounding

end Binary64
end SiteAudit
