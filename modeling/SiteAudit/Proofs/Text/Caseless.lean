import Mathlib.Data.List.Forall2
import SiteAudit.Text.Blank
import SiteAudit.Text.Caseless

/-!
# Words in any case

What is found without regard to case is a text of as many characters as the
word, each of which is a form of the letter in its place.  A character that is
no letter has no form but itself.
-/

namespace SiteAudit
namespace Text

/-- The text is the word, with each letter in one of its forms. -/
def IsWritten (word s : List Char) : Prop :=
  List.Forall₂ (fun p c => isFormOf p c = true) word s

theorem afterCaseless?_eq_some_iff {word s rest : List Char} :
    afterCaseless? word s = some rest ↔
      ∃ w, s = w ++ rest ∧ IsWritten word w := by
  induction word generalizing s with
  | nil =>
      rw [afterCaseless?, Option.some.injEq]
      constructor
      · intro hgiven
        subst hgiven
        exact ⟨[], rfl, .nil⟩
      · intro hgiven
        rcases hgiven with ⟨w, rfl, hw⟩
        cases hw
        rfl
  | cons p word ih =>
      cases s with
      | nil =>
          constructor
          · intro h
            cases h
          · intro hgiven
            rcases hgiven with ⟨w, hs, hw⟩
            cases hw
            cases hs
      | cons c s =>
          rw [afterCaseless?]
          constructor
          · intro h
            split at h
            · rename_i hform
              rcases ih.1 h with ⟨w, rfl, hw⟩
              exact ⟨c :: w, rfl, .cons hform hw⟩
            · cases h
          · intro hgiven
            rcases hgiven with ⟨w, hs, hw⟩
            cases hw with
            | cons hform hw =>
                rw [List.cons_append, List.cons.injEq] at hs
                rcases hs with ⟨rfl, rfl⟩
                rw [if_pos hform]
                exact ih.2 ⟨_, rfl, hw⟩

theorem afterCaseless?_append {word w : List Char} (h : IsWritten word w)
    (rest : List Char) :
    afterCaseless? word (w ++ rest) = some rest :=
  afterCaseless?_eq_some_iff.2 ⟨w, rfl, h⟩

theorem occursCaseless_iff {word s : List Char} :
    occursCaseless word s = true ↔
      ∃ before w after, s = before ++ (w ++ after) ∧ IsWritten word w := by
  induction s with
  | nil =>
      rw [occursCaseless, List.isEmpty_iff]
      constructor
      · intro hgiven
        subst hgiven
        exact ⟨[], [], [], rfl, .nil⟩
      · intro hgiven
        rcases hgiven with ⟨before, w, after, hs, hw⟩
        have hnil : w = [] := by
          rw [eq_comm, List.append_eq_nil_iff, List.append_eq_nil_iff] at hs
          exact hs.2.1
        subst hnil
        cases hw
        rfl
  | cons c s ih =>
      rw [occursCaseless, Bool.or_eq_true, ih, Option.isSome_iff_exists]
      constructor
      · intro hgiven
        rcases hgiven with ⟨after, h⟩ | ⟨before, w, after, rfl, hw⟩
        · rcases afterCaseless?_eq_some_iff.1 h with ⟨w, hs, hw⟩
          exact ⟨[], w, after, hs, hw⟩
        · exact ⟨c :: before, w, after, rfl, hw⟩
      · intro hgiven
        rcases hgiven with ⟨before, w, after, hs, hw⟩
        cases before with
        | nil =>
            left
            rw [hs]
            exact ⟨after, afterCaseless?_append hw after⟩
        | cons c' before =>
            rw [List.cons_append, List.cons.injEq] at hs
            exact .inr ⟨before, w, after, hs.2, hw⟩

/-!
## The forms of a character
-/

theorem eq_or_of_toLower_eq {c p : Char} (h : c.toLower = p) :
    c = p ∨ (c.toNat + 32 = p.toNat ∧ 65 ≤ c.toNat) := by
  unfold Char.toLower at h
  split at h
  · rename_i hupper
    right
    have hlow : 65 ≤ c.toNat := UInt32.le_iff_toNat_le.1 hupper.1
    have hhigh : c.toNat ≤ 90 := UInt32.le_iff_toNat_le.1 hupper.2
    have hsum : p.toNat = (c.val.toNat + 32) % 2 ^ 32 := by
      rw [← h]
      exact UInt32.toNat_add c.val 32
    have hval : c.val.toNat = c.toNat := rfl
    exact ⟨by omega, hlow⟩
  · exact .inl h

theorem eq_or_of_isFormOf {p c : Char} (h : isFormOf p c = true) (hi : p ≠ 'i')
    (hs : p ≠ 's') (hk : p ≠ 'k') :
    c = p ∨ (c.toNat + 32 = p.toNat ∧ 65 ≤ c.toNat) := by
  simp only [isFormOf, hi, hs, hk, beq_iff_eq, beq_eq_false_iff_ne.2, ne_eq,
    not_false_eq_true, Bool.false_and, Bool.or_false, Bool.or_eq_true] at h
  cases h with
  | inl h => exact .inl h
  | inr h => exact eq_or_of_toLower_eq h

theorem eq_hyphen_of_isFormOf {c : Char} (h : isFormOf '-' c = true) :
    c = '-' := by
  rcases eq_or_of_isFormOf h (by decide) (by decide) (by decide) with
    heq | ⟨hsum, hlow⟩
  · exact heq
  · have hcode : c.toNat + 32 = 45 := hsum
    omega

theorem eq_zero_of_isFormOf {c : Char} (h : isFormOf '0' c = true) :
    c = '0' := by
  rcases eq_or_of_isFormOf h (by decide) (by decide) (by decide) with
    heq | ⟨hsum, hlow⟩
  · exact heq
  · have hcode : c.toNat + 32 = 48 := hsum
    omega

theorem isBlank_of_isFormOf_n {c : Char} (h : isFormOf 'n' c = true) :
    isBlank c = false := by
  rcases eq_or_of_isFormOf h (by decide) (by decide) (by decide) with
    rfl | ⟨hsum, _⟩
  · decide
  · have hcode : c.toNat = 78 := by
      have hn : c.toNat + 32 = 110 := hsum
      omega
    rw [isBlank, hcode]
    rfl

end Text
end SiteAudit
