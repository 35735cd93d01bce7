import SiteAudit.Text.LineBreak

/-!
# Line breaks of any kind

Making all line breaks line feeds is what two replacements do, one after the
other: every carriage return with a line feed behind it becomes a line feed, and
so does every carriage return that is left.  A text without carriage returns
comes back whichever mark its line breaks are written with.
-/

namespace SiteAudit
namespace Text

/-- The text with a line feed for each carriage return that has a line feed
behind it, and for that line feed. -/
def joinBreaks : List Char → List Char
  | '\r' :: '\n' :: s => '\n' :: joinBreaks s
  | c :: s => c :: joinBreaks s
  | [] => []

def withLineFeeds (s : List Char) : List Char :=
  (joinBreaks s).map fun c => if c = '\r' then '\n' else c

inductive IsLineMark : List Char → Prop
  | lineFeed : IsLineMark ['\n']
  | both : IsLineMark ['\r', '\n']
  | carriageReturn : IsLineMark ['\r']

def markLines (mark s : List Char) : List Char :=
  s.flatMap fun c => if c = '\n' then mark else [c]

/-!
## The two replacements
-/

theorem lineFeed_ne_return : '\n' ≠ '\r' := by
  decide

def unifyBehind (previous : Char) (s : List Char) : List Char :=
  ((previous :: s).zip s).filterMap fun (previous, c) =>
    if c == '\n' && previous == '\r' then none
    else if c == '\r' then some '\n'
    else some c

theorem unifyLineBreaks_eq_unifyBehind (s : List Char) :
    unifyLineBreaks s = unifyBehind '\n' s :=
  rfl

theorem unifyBehind_break (s : List Char) :
    unifyBehind '\r' ('\n' :: s) = unifyBehind '\n' s :=
  rfl

theorem unifyBehind_cons {previous c : Char} (h : previous ≠ '\r' ∨ c ≠ '\n')
    (s : List Char) :
    unifyBehind previous (c :: s) = (if c = '\r' then '\n'
      else c) :: unifyBehind c s := by
  have hkept : (c == '\n' && previous == '\r') = false := by
    rw [Bool.and_eq_false_iff, beq_eq_false_iff_ne, beq_eq_false_iff_ne]
    exact h.symm
  unfold unifyBehind
  rw [List.zip_cons_cons, List.filterMap_cons]
  by_cases hc : c = '\r'
  · simp [hc]
  · simp [hc, hkept]

theorem withLineFeeds_break (s : List Char) :
    withLineFeeds ('\r' :: '\n' :: s) = '\n' :: withLineFeeds s :=
  rfl

theorem withLineFeeds_cons {c : Char} {s : List Char}
    (h : c = '\r' → s.head? ≠ some '\n') :
    withLineFeeds (c :: s) = (if c = '\r' then '\n'
      else c) :: withLineFeeds s := by
  have hjoin : joinBreaks (c :: s) = c :: joinBreaks s := by
    rw [joinBreaks]
    intro rest hc hs
    exact h hc (hs ▸ rfl)
  rw [withLineFeeds, hjoin, List.map_cons, withLineFeeds]

theorem unifyBehind_eq {previous : Char} {s : List Char}
    (h : previous = '\r' → s.head? ≠ some '\n') :
    unifyBehind previous s = withLineFeeds s := by
  induction s using joinBreaks.induct generalizing previous with
  | case1 s ih =>
      have hnew : previous ≠ '\r' ∨ '\r' ≠ '\n' :=
        .inr (Ne.symm lineFeed_ne_return)
      rw [unifyBehind_cons hnew, unifyBehind_break, withLineFeeds_break,
        if_pos rfl, ih (absurd · lineFeed_ne_return)]
  | case2 c s hother ih =>
      have hnew : previous ≠ '\r' ∨ c ≠ '\n' := by
        by_cases hprevious : previous = '\r'
        · refine .inr ?_
          intro hc
          exact h hprevious (hc ▸ rfl)
        · exact .inl hprevious
      have hnext : c = '\r' → s.head? ≠ some '\n' := by
        intro hc hs
        rcases List.head?_eq_some_iff.1 hs with ⟨rest, rfl⟩
        exact hother rest hc rfl
      rw [unifyBehind_cons hnew, withLineFeeds_cons hnext, ih hnext]
  | case3 => rfl

theorem unifyLineBreaks_eq (s : List Char) :
    unifyLineBreaks s = withLineFeeds s := by
  rw [unifyLineBreaks_eq_unifyBehind]
  exact unifyBehind_eq (absurd · lineFeed_ne_return)

/-!
## Other marks
-/

section Marks

variable {mark s : List Char}

theorem markLines_cons (mark : List Char) (c : Char) (s : List Char) :
    markLines mark (c :: s) = (if c = '\n' then mark
      else [c]) ++ markLines mark s :=
  List.flatMap_cons

theorem head?_markLines (s : List Char) :
    (markLines ['\r'] s).head? ≠ some '\n' := by
  cases s with
  | nil => exact nofun
  | cons c s =>
      rw [markLines_cons]
      by_cases hc : c = '\n'
      · simp [hc]
      · simp [hc]

theorem withLineFeeds_mark (h : IsLineMark mark) (s : List Char) :
    withLineFeeds (mark ++ markLines mark s) =
      '\n' :: withLineFeeds (markLines mark s) := by
  cases h with
  | lineFeed => exact withLineFeeds_cons (absurd · lineFeed_ne_return)
  | both => exact withLineFeeds_break _
  | carriageReturn => exact withLineFeeds_cons fun _ => head?_markLines s

/-- A text without carriage returns comes back whatever ends its lines. -/
theorem withLineFeeds_markLines (h : IsLineMark mark) (noReturn : '\r' ∉ s) :
    withLineFeeds (markLines mark s) = s := by
  induction s with
  | nil => rfl
  | cons c s ih =>
      rw [List.mem_cons, not_or] at noReturn
      rw [markLines_cons]
      by_cases hc : c = '\n'
      · rw [if_pos hc, withLineFeeds_mark h, ih noReturn.2, hc]
      · have hother : c ≠ '\r' := Ne.symm noReturn.1
        rw [if_neg hc, List.singleton_append,
          withLineFeeds_cons (absurd · hother), if_neg hother, ih noReturn.2]

end Marks

end Text
end SiteAudit
