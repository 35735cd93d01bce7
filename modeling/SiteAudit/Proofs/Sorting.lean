import Mathlib.Data.String.Basic

/-!
# Rows sorted by a text

A row is sorted by a text of its entries when no entry comes before one with a
smaller text.  Sorting by texts leaves the entries with one text in their order,
and there is only one way to sort texts themselves.
-/

namespace SiteAudit

section Sorting

variable {α : Type} (key : α → String)

theorem isBefore_iff {a b : α} :
    (!decide (key b < key a)) = true ↔ key a ≤ key b := by
  rw [Bool.not_eq_true', decide_eq_false_iff_not, String.not_lt]

theorem isBefore_trans (a b c : α) (hab : (!decide (key b < key a)) = true)
    (hbc : (!decide (key c < key b)) = true) :
    (!decide (key c < key a)) = true :=
  (isBefore_iff key).2
    (String.le_trans ((isBefore_iff key).1 hab) ((isBefore_iff key).1 hbc))

theorem isBefore_total (a b : α) :
    (!decide (key b < key a) || !decide (key a < key b)) = true := by
  rw [Bool.or_eq_true, isBefore_iff, isBefore_iff]
  exact String.le_total (key a) (key b)

theorem pairwise_mergeSort_key (l : List α) :
    (l.mergeSort fun a b => !decide (key b < key a)).Pairwise fun a b =>
      key a ≤ key b :=
  (List.pairwise_mergeSort (isBefore_trans key) (isBefore_total key) l).imp
    (isBefore_iff key).1

end Sorting

theorem mergeSort_eq_iff {texts sorted : List String} :
    (texts.mergeSort fun a b => !decide (b < a)) = sorted ↔
      sorted.Pairwise (· ≤ ·) ∧ sorted.Perm texts := by
  have hpairwise := pairwise_mergeSort_key id texts
  have hperm := List.mergeSort_perm texts fun a b => !decide (b < a)
  constructor
  · intro h
    rw [← h]
    exact ⟨hpairwise, hperm⟩
  · intro h
    exact (hperm.trans h.2.symm).eq_of_pairwise (fun _ _ _ _ =>
      String.le_antisymm) hpairwise h.1

end SiteAudit
