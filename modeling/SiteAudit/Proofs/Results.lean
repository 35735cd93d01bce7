import Mathlib.Data.List.Nodup

/-!
# Computations that may fail

A computation of several steps has a result where each of its steps has one.  It
fails where one of its steps does, and then as that step does.
-/

namespace SiteAudit

section Results

variable {ε α β : Type}

theorem exists_of_bind_eq_ok {x : Except ε α} {f : α → Except ε β} {b : β}
    (h : (x >>= f) = .ok b) :
    ∃ a, x = .ok a ∧ f a = .ok b := by
  cases x with
  | error e => cases h
  | ok a => exact ⟨a, rfl, h⟩

theorem exists_of_bind_eq_error {x : Except ε α} {f : α → Except ε β} {e : ε}
    (h : (x >>= f) = .error e) :
    x = .error e ∨ ∃ a, x = .ok a ∧ f a = .error e := by
  cases x with
  | error other =>
      cases h
      exact .inl rfl
  | ok a => exact .inr ⟨a, rfl, h⟩

theorem mem_mapM_iff {f : α → Except ε β} {l : List α} {results : List β}
    (h : l.mapM f = .ok results) {b : β} :
    b ∈ results ↔ ∃ a ∈ l, f a = .ok b := by
  induction l generalizing results with
  | nil =>
      cases h
      simp
  | cons a l ih =>
      rw [List.mapM_cons] at h
      rcases exists_of_bind_eq_ok h with ⟨first, hfirst, h⟩
      rcases exists_of_bind_eq_ok h with ⟨rest, hrest, h⟩
      cases h
      have heq : f a = .ok b ↔ b = first := by
        rw [hfirst, Except.ok.injEq, eq_comm]
      rw [List.mem_cons, ih hrest, List.exists_mem_cons_iff, heq]

/-!
## Tests that may fail
-/

def passes : Except ε Bool → Bool
  | .ok b => b
  | .error _ => false

theorem passes_iff {x : Except ε Bool} : passes x = true ↔ x = .ok true := by
  cases x with
  | error e => simp [passes]
  | ok b => simp [passes]

theorem filterAuxM_cases (p : α → Except ε Bool) (l kept : List α) :
    (∃ a ∈ l, ∃ e, p a = .error e ∧ l.filterAuxM p kept = .error e) ∨
      (∀ a ∈ l, ∃ b, p a = .ok b) ∧
        l.filterAuxM p kept =
          .ok ((l.filter fun a => passes (p a)).reverse ++ kept) := by
  induction l generalizing kept with
  | nil => exact .inr ⟨List.forall_mem_nil _, rfl⟩
  | cons first l ih =>
      cases hfirst : p first with
      | error e =>
          refine .inl ⟨first, List.mem_cons_self, e, hfirst, ?_⟩
          rw [List.filterAuxM, hfirst]
          rfl
      | ok b =>
          have hstep : (first :: l).filterAuxM p kept =
              l.filterAuxM p (cond b (first :: kept) kept) := by
            rw [List.filterAuxM, hfirst]
            rfl
          rw [hstep]
          rcases ih (cond b (first :: kept) kept) with
            ⟨a, ha, e, hfails⟩ | ⟨hall, hkept⟩
          · exact .inl ⟨a, List.mem_cons_of_mem _ ha, e, hfails⟩
          · refine .inr ⟨List.forall_mem_cons.2 ⟨⟨b, hfirst⟩, hall⟩, ?_⟩
            rw [hkept]
            cases b with
            | false => rw [List.filter_cons_of_neg (by simp [hfirst, passes]),
                cond_false]
            | true =>
                rw [List.filter_cons_of_pos (by simp [hfirst, passes]),
                  cond_true, List.reverse_cons, List.append_assoc]
                rfl

/-- A test of a row fails as it does on one of the entries, or has a result for
all of them. -/
theorem filterM_cases (p : α → Except ε Bool) (l : List α) :
    (∃ a ∈ l, ∃ e, p a = .error e ∧ l.filterM p = .error e) ∨
      (∀ a ∈ l, ∃ b, p a = .ok b) ∧
        l.filterM p = .ok (l.filter fun a => passes (p a)) := by
  rcases filterAuxM_cases p l [] with ⟨a, ha, e, hfails, h⟩ | ⟨hall, h⟩
  · refine .inl ⟨a, ha, e, hfails, ?_⟩
    rw [List.filterM, h]
    rfl
  · refine .inr ⟨hall, ?_⟩
    rw [List.filterM, h, List.append_nil]
    exact congrArg Except.ok (List.reverse_reverse _)

theorem mem_filterM_iff {p : α → Except ε Bool} {l results : List α}
    (h : l.filterM p = .ok results) {a : α} :
    a ∈ results ↔ a ∈ l ∧ p a = .ok true := by
  rcases filterM_cases p l with ⟨other, -, e, -, hfails⟩ | ⟨-, hkept⟩
  · rw [hfails] at h
    cases h
  · rw [hkept] at h
    cases h
    rw [List.mem_filter, passes_iff]

theorem filterAuxM_and (p : α → Except ε Bool) (q : α → Bool)
    (l kept : List α) :
    l.filterAuxM (fun a => (p a).map (· && q a)) (kept.filter q) =
      (l.filterAuxM p kept).map (List.filter q) := by
  induction l generalizing kept with
  | nil => rfl
  | cons first l ih =>
      rw [List.filterAuxM, List.filterAuxM]
      cases p first with
      | error e => rfl
      | ok b =>
          have hkept :
              cond (b && q first) (first :: kept.filter q) (kept.filter q) =
              (cond b (first :: kept) kept).filter q := by
            cases b <;> cases hq : q first <;> simp [hq]
          have hnext := ih (cond b (first :: kept) kept)
          rw [← hkept] at hnext
          exact hnext

/-- A test with a second one that cannot fail keeps what the second one keeps of
what the first one keeps. -/
theorem filterM_and (p : α → Except ε Bool) (q : α → Bool) (l : List α) :
    l.filterM (fun a => (p a).map (· && q a)) =
      (l.filterM p).map (List.filter q) := by
  have h := filterAuxM_and p q l []
  rw [List.filter_nil] at h
  rw [List.filterM, List.filterM, h]
  cases l.filterAuxM p [] with
  | error e => rfl
  | ok kept => exact congrArg Except.ok (List.filter_reverse).symm

end Results

theorem nodup_eraseDups {α : Type} [BEq α] [LawfulBEq α] (l : List α) :
    l.eraseDups.Nodup := by
  cases l with
  | nil => exact List.nodup_nil
  | cons a l =>
      rw [List.eraseDups_cons, List.nodup_cons]
      constructor
      · rw [List.mem_eraseDups, List.mem_filter]
        simp
      · exact nodup_eraseDups (l.filter fun b => !b == a)
termination_by l.length
decreasing_by
  exact Nat.lt_succ_of_le (List.length_filter_le _ _)

end SiteAudit
