import Mathlib.Data.List.Nodup

/-!
# Look-ups in another order

Where no key stands twice in a list of pairs, what is looked up does not depend
on the order of the list.
-/

namespace SiteAudit

variable {α β : Type} [BEq α] [LawfulBEq α] {table table' : List (α × β)}

theorem lookup_perm (h : table'.Perm table) (distinct : (table.map (·.1)).Nodup)
    (key : α) :
    table'.lookup key = table.lookup key := by
  induction h with
  | nil => rfl
  | cons entry h ih =>
      rw [List.map_cons, List.nodup_cons] at distinct
      rw [List.lookup_cons, List.lookup_cons, ih distinct.2]
  | swap entry entry' table =>
      simp only [List.map_cons, List.nodup_cons, List.mem_cons, not_or]
        at distinct
      rw [List.lookup_cons, List.lookup_cons, List.lookup_cons,
        List.lookup_cons]
      cases hkey : key == entry.1 with
      | false => rfl
      | true =>
          have hother : (key == entry'.1) = false := by
            rw [beq_eq_false_iff_ne, beq_iff_eq.1 hkey]
            exact distinct.1.1
          rw [hother]
  | trans h h' ih ih' =>
      have hkeys := (h'.map (·.1)).nodup_iff.2 distinct
      rw [ih hkeys, ih' distinct]

end SiteAudit
