import SiteAudit.Glob

/-!
# What globs without sets match

A character that is no wildcard stands for itself, and a star for any run of
characters.  So a star before plain characters accepts what ends in them, and a
star behind plain characters accepts what starts with them.
-/

namespace SiteAudit
namespace Glob

theorem matchesEnd_iff {rest : List Char → Bool} {s : List Char} :
    matchesEnd rest s = true ↔ ∃ ending, ending <:+ s ∧ rest ending = true := by
  induction s with
  | nil => simp [matchesEnd]
  | cons c s ih =>
      rw [matchesEnd, Bool.or_eq_true, ih]
      constructor
      · intro h
        rcases h with h | ⟨ending, hending, h⟩
        · exact ⟨c :: s, List.suffix_refl _, h⟩
        · exact ⟨ending, hending.trans (List.suffix_cons c s), h⟩
      · intro h
        rcases h with ⟨ending, hending, h⟩
        rcases List.suffix_cons_iff.1 hending with rfl | hending
        · exact .inl h
        · exact .inr ⟨ending, hending, h⟩

theorem matchesChars_append (cs : List Char) (g : Glob) (s : List Char) :
    matchesChars (cs.map .char ++ g) s = true ↔
      ∃ rest, s = cs ++ rest ∧ matchesChars g rest = true := by
  induction cs generalizing s with
  | nil => simp
  | cons c cs ih =>
      cases s with
      | nil => simp [matchesChars]
      | cons d s =>
          rw [List.map_cons, List.cons_append, matchesChars, Bool.and_eq_true,
            ih, Item.meets, beq_iff_eq]
          · constructor
            · intro h
              rcases h with ⟨rfl, rest, rfl, hrest⟩
              exact ⟨rest, rfl, hrest⟩
            · intro h
              rcases h with ⟨rest, heq, hrest⟩
              cases heq
              exact ⟨rfl, rest, rfl, hrest⟩
          · exact Item.noConfusion

theorem matchesChars_literal (cs s : List Char) :
    matchesChars (cs.map .char) s = true ↔ s = cs := by
  have h := matchesChars_append cs [] s
  rw [List.append_nil] at h
  rw [h]
  simp [matchesChars]

/-- A character that has no meaning of its own in a glob. -/
def IsPlain (c : Char) : Prop :=
  c ≠ '*' ∧ c ≠ '?' ∧ c ≠ '['

theorem ofChars_append {cs : List Char} (h : ∀ c ∈ cs, IsPlain c)
    (rest : List Char) :
    ofChars (cs ++ rest) = cs.map .char ++ ofChars rest := by
  induction cs with
  | nil => rfl
  | cons c cs ih =>
      rw [List.forall_mem_cons] at h
      rw [List.cons_append, ofChars, ih h.2, List.map_cons, List.cons_append]
      · exact h.1.1
      · exact h.1.2.1
      · exact h.1.2.2

theorem ofChars_plain {cs : List Char} (h : ∀ c ∈ cs, IsPlain c) :
    ofChars cs = cs.map .char := by
  have happend := ofChars_append h []
  rw [List.append_nil, ofChars, List.append_nil] at happend
  exact happend

/-- A star before plain characters accepts what ends in them. -/
theorem accepts_star {cs : List Char} (h : ∀ c ∈ cs, IsPlain c) (s : String) :
    accepts (ofChars ('*' :: cs)) s = true ↔ cs <:+ s.toList := by
  rw [ofChars, ofChars_plain h, accepts, matchesChars, matchesEnd_iff]
  simp only [matchesChars_literal]
  constructor
  · intro hending
    rcases hending with ⟨ending, hsuffix, rfl⟩
    exact hsuffix
  · intro hsuffix
    exact ⟨cs, hsuffix, rfl⟩

theorem accepts_star_behind {cs : List Char} (h : ∀ c ∈ cs, IsPlain c)
    (s : String) :
    accepts (ofChars (cs ++ ['*'])) s = true ↔ cs <+: s.toList := by
  have hstar : ofChars ['*'] = [.run] := by rw [ofChars, ofChars]
  have hrun (rest : List Char) : matchesChars [.run] rest = true := by
    rw [matchesChars, matchesEnd_iff]
    exact ⟨[], List.nil_suffix, rfl⟩
  rw [ofChars_append h, hstar, accepts, matchesChars_append]
  constructor
  · intro hbegin
    rcases hbegin with ⟨rest, hrest, -⟩
    exact ⟨rest, hrest.symm⟩
  · intro hbegin
    rcases hbegin with ⟨rest, hrest⟩
    exact ⟨rest, hrest.symm, hrun rest⟩

end Glob
end SiteAudit
