import SiteAudit.Proofs.Text.Caseless
import SiteAudit.Rules.Outline

/-!
# Declarations that take the outline away

A style sheet takes the outline away if somewhere in it there are, in any case,
the word `outline`, perhaps with `-width` behind it, a colon with blanks around
it or not, and `none` or a zero that no further character makes another value
of.
-/

namespace SiteAudit
namespace Rules

open Text

/-- A text that starts with a declaration that takes the outline away. -/
inductive StartsWithRemoval : List Char → Prop
  | intro {outline width blanks blanks' value after : List Char}
      (houtline : IsWritten ['o', 'u', 't', 'l', 'i', 'n', 'e'] outline)
      (hwidth : width = [] ∨ IsWritten ['-', 'w', 'i', 'd', 't', 'h'] width)
      (hblanks : ∀ c ∈ blanks, isBlank c = true)
      (hblanks' : ∀ c ∈ blanks', isBlank c = true)
      (hvalue : IsWritten ['n', 'o', 'n', 'e'] value ∨ IsWritten ['0'] value)
      (hafter : ∀ c ∈ after.head?, continuesCssValue c = false) :
      StartsWithRemoval (outline ++
        (width ++ (blanks ++ ':' :: (blanks' ++ (value ++ after)))))

def RemovesOutline (s : List Char) : Prop :=
  ∃ before declaration, s = before ++ declaration ∧
    StartsWithRemoval declaration

def ShowsFocus (s : List Char) : Prop :=
  ∃ word ∈ [":focus-visible".toList, "box-shadow".toList], ∃ before w after,
    s = before ++ (w ++ after) ∧ IsWritten word w

theorem afterNoOutline?_eq_some_iff {s after : List Char} :
    afterNoOutline? s = some after ↔
      ∃ value, s = value ++ after ∧
        (IsWritten ['n', 'o', 'n', 'e'] value ∨ IsWritten ['0'] value) := by
  unfold afterNoOutline?
  constructor
  · intro h
    split at h
    · rename_i rest hnone
      rcases afterCaseless?_eq_some_iff.1 hnone with ⟨value, hs, hvalue⟩
      cases h
      exact ⟨value, hs, .inl hvalue⟩
    · rcases afterCaseless?_eq_some_iff.1 h with ⟨value, hs, hvalue⟩
      exact ⟨value, hs, .inr hvalue⟩
  · intro hgiven
    rcases hgiven with ⟨value, rfl, hvalue | hvalue⟩
    · rw [afterCaseless?_append hvalue]
    · have hzero :
          afterCaseless? ['n', 'o', 'n', 'e'] (value ++ after) = none := by
        cases hvalue with
        | cons hform hrest =>
            rw [eq_zero_of_isFormOf hform]
            rfl
      rw [hzero]
      exact afterCaseless?_append hvalue after

theorem dropWhile_blanks {blanks : List Char}
    (hblanks : ∀ c ∈ blanks, isBlank c = true) {c : Char}
    (hc : isBlank c = false) (rest : List Char) :
    (blanks ++ c :: rest).dropWhile isBlank = c :: rest := by
  rw [List.dropWhile_append_of_pos hblanks, List.dropWhile_cons_of_neg]
  rw [hc]
  exact Bool.false_ne_true

theorem dropWhile_value {blanks value : List Char}
    (hblanks : ∀ c ∈ blanks, isBlank c = true)
    (hvalue : IsWritten ['n', 'o', 'n', 'e'] value ∨ IsWritten ['0'] value)
    (after : List Char) :
    (blanks ++ (value ++ after)).dropWhile isBlank = value ++ after := by
  rcases hvalue with hvalue | hvalue
  · cases hvalue with
    | cons hform hrest =>
        exact dropWhile_blanks hblanks (isBlank_of_isFormOf_n hform) _
  · cases hvalue with
    | cons hform hrest =>
        rw [eq_zero_of_isFormOf hform]
        exact dropWhile_blanks hblanks (by decide) _

theorem afterWidth_eq_none {blanks : List Char}
    (hblanks : ∀ c ∈ blanks, isBlank c = true) (rest : List Char) :
    afterCaseless? ['-', 'w', 'i', 'd', 't', 'h'] (blanks ++ ':' :: rest) =
      none := by
  cases blanks with
  | nil => rfl
  | cons c blanks =>
      have hform : isFormOf '-' c ≠ true := by
        intro h
        have hblank : isBlank c = true := hblanks c List.mem_cons_self
        rw [eq_hyphen_of_isFormOf h] at hblank
        exact absurd hblank (by decide)
      rw [List.cons_append, afterCaseless?, if_neg hform]

theorem exists_width (s : List Char) :
    ∃ width,
      s = width ++ (afterCaseless? ['-', 'w', 'i', 'd', 't', 'h'] s).getD s ∧
      (width = [] ∨ IsWritten ['-', 'w', 'i', 'd', 't', 'h'] width) := by
  cases h : afterCaseless? ['-', 'w', 'i', 'd', 't', 'h'] s with
  | none => exact ⟨[], rfl, .inl rfl⟩
  | some rest =>
      rcases afterCaseless?_eq_some_iff.1 h with ⟨width, hs, hwidth⟩
      exact ⟨width, hs, .inr hwidth⟩

theorem getD_afterWidth {width blanks : List Char}
    (hwidth : width = [] ∨ IsWritten ['-', 'w', 'i', 'd', 't', 'h'] width)
    (hblanks : ∀ c ∈ blanks, isBlank c = true) (rest : List Char) :
    (afterCaseless? ['-', 'w', 'i', 'd', 't',
      'h'] (width ++ (blanks ++ ':' :: rest))).getD
        (width ++ (blanks ++ ':' :: rest)) = blanks ++ ':' :: rest := by
  rcases hwidth with rfl | hwidth
  · rw [List.nil_append, afterWidth_eq_none hblanks]
    rfl
  · rw [afterCaseless?_append hwidth]
    rfl

theorem isBlank_of_mem_takeWhile {s : List Char} :
    ∀ c ∈ s.takeWhile isBlank, isBlank c = true :=
  List.all_eq_true.1 List.all_takeWhile

theorem startsWithRemoval_of_startsSuppression {s : List Char}
    (h : startsSuppression s = true) :
    StartsWithRemoval s := by
  unfold startsSuppression at h
  split at h
  · cases h
  · rename_i s1 hword
    rcases afterCaseless?_eq_some_iff.1 hword with ⟨outline, rfl, houtline⟩
    rcases exists_width s1 with ⟨width, hs1, hwidth⟩
    simp only at h
    generalize (afterCaseless? ['-', 'w', 'i', 'd', 't', 'h'] s1).getD s1 =
      s2 at h hs1
    split at h
    · rename_i s3 hs2
      split at h
      · rename_i after hs3
        rcases afterNoOutline?_eq_some_iff.1 hs3 with ⟨value, hvalue, hwritten⟩
        have hafter : ∀ c ∈ after.head?, continuesCssValue c = false := by
          intro c hc
          rw [Option.mem_def] at hc
          simpa [hc] using h
        have hsplit :
            s2 = s2.takeWhile isBlank ++ ':' :: (s3.takeWhile isBlank ++
              (value ++ after)) := by
          rw [← hvalue, List.takeWhile_append_dropWhile, ← hs2,
            List.takeWhile_append_dropWhile]
        rw [hs1, hsplit]
        exact ⟨houtline, hwidth, isBlank_of_mem_takeWhile,
          isBlank_of_mem_takeWhile, hwritten, hafter⟩
      · cases h
    · cases h

theorem startsSuppression_of_startsWithRemoval {s : List Char}
    (h : StartsWithRemoval s) :
    startsSuppression s = true := by
  rcases h with ⟨houtline, hwidth, hblanks, hblanks', hvalue, hafter⟩
  rename_i outline width blanks blanks' value after
  have hfound : afterNoOutline? (value ++ after) = some after :=
    afterNoOutline?_eq_some_iff.2 ⟨value, rfl, hvalue⟩
  have hend : (!after.head?.any continuesCssValue) = true := by
    cases after with
    | nil => rfl
    | cons c after =>
        rw [List.head?_cons, Option.any_some, hafter c rfl]
        rfl
  unfold startsSuppression
  simp only [afterCaseless?_append houtline, getD_afterWidth hwidth hblanks,
    dropWhile_blanks hblanks (by decide : isBlank ':' = false),
    dropWhile_value hblanks' hvalue, hfound, hend]

/-- The search finds what takes the outline away. -/
theorem suppressesOutline_iff {s : List Char} :
    suppressesOutline s = true ↔ RemovesOutline s := by
  induction s with
  | nil =>
      constructor
      · intro h
        cases h
      · intro hgiven
        rcases hgiven with ⟨before, declaration, hs, hdeclaration⟩
        have hnil : declaration = [] := (List.append_eq_nil_iff.1 hs.symm).2
        rw [hnil] at hdeclaration
        exact absurd (startsSuppression_of_startsWithRemoval hdeclaration)
          (by decide)
  | cons c s ih =>
      rw [suppressesOutline, Bool.or_eq_true, ih]
      constructor
      · intro hgiven
        rcases hgiven with h | ⟨before, declaration, rfl, hdeclaration⟩
        · exact ⟨[], c :: s, rfl, startsWithRemoval_of_startsSuppression h⟩
        · exact ⟨c :: before, declaration, rfl, hdeclaration⟩
      · intro hgiven
        rcases hgiven with ⟨before, declaration, hs, hdeclaration⟩
        cases before with
        | nil =>
            left
            rw [hs]
            exact startsSuppression_of_startsWithRemoval hdeclaration
        | cons c' before =>
            rw [List.cons_append, List.cons.injEq] at hs
            exact .inr ⟨before, declaration, hs.2, hdeclaration⟩

example : suppressesOutline "OUTLINE-Width\t:0;".toList = true := by decide

-- A longer value is not the value that takes the outline away.
example : suppressesOutline "outline: nonexistent; outline: 0.2rem".toList =
    false := by decide

theorem replacesOutline_iff {s : List Char} :
    replacesOutline s = true ↔ ShowsFocus s := by
  rw [replacesOutline, Bool.or_eq_true, occursCaseless_iff, occursCaseless_iff]
  simp only [ShowsFocus, List.mem_cons, List.not_mem_nil, or_false,
    exists_eq_or_imp, exists_eq_left]

end Rules
end SiteAudit
