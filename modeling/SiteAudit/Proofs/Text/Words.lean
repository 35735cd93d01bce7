import Mathlib.Data.List.TakeWhile
import SiteAudit.Text.Blank

/-!
# Words of a text

No word is empty, so words that are put in a row give an empty text only when
there are none.  The words of texts that are put in a row with spaces are the
words of each of them, and words in a row have single spaces between them and no
other blanks.
-/

namespace SiteAudit
namespace Text

def IsWord (w : String) : Prop :=
  w ≠ "" ∧ ∀ c ∈ w.toList, isBlank c = false

/-- The only blanks of the text are spaces, each of which stands between two
characters that are no blanks. -/
def IsSpaced (s : List Char) : Prop :=
  ∀ before b after, s = before ++ b :: after → isBlank b = true →
    b = ' ' ∧ (∃ c ∈ before.getLast?, isBlank c = false) ∧
      ∃ c ∈ after.head?, isBlank c = false

theorem ne_empty_of_mem_wordsOf {s w : String} (h : w ∈ wordsOf s) :
    w ≠ "" := by
  rcases List.mem_map.1 h with ⟨cs, hcs, rfl⟩
  cases ink_of_mem_words hcs with
  | intro hne _ =>
      intro hempty
      have hlist : (String.ofList cs).toList = [] := by
        rw [hempty]
        rfl
      rw [String.toList_ofList] at hlist
      exact hne hlist

theorem prefix_joinWords (w : String) (ws : List String) :
    w.toList <+: (joinWords (w :: ws)).toList := by
  cases ws with
  | nil =>
      have hone : joinWords [w] = w := String.intercalate_singleton
      exact ⟨[], by rw [hone, List.append_nil]⟩
  | cons w' ws =>
      rw [joinWords, String.intercalate_cons_cons, String.toList_append,
        String.toList_append, List.append_assoc]
      exact List.prefix_append _ _

theorem joinWords_eq_empty_iff {ws : List String} (h : ∀ w ∈ ws, w ≠ "") :
    joinWords ws = "" ↔ ws = [] := by
  constructor
  · intro hempty
    cases ws with
    | nil => rfl
    | cons w ws =>
        have hprefix : w.toList <+: [] := by
          have hw := prefix_joinWords w ws
          rw [hempty] at hw
          exact hw
        have hw : w = "" :=
          String.toList_eq_nil_iff.1 (List.prefix_nil.1 hprefix)
        exact absurd hw (h w List.mem_cons_self)
  · intro hgiven
    subst hgiven
    exact String.intercalate_nil

theorem toList_joinWords_cons (w w' : String) (ws : List String) :
    (joinWords (w :: w' :: ws)).toList =
      w.toList ++ ' ' :: (joinWords (w' :: ws)).toList := by
  rw [joinWords, String.intercalate_cons_cons, String.toList_append,
    String.toList_append, List.append_assoc]
  rfl

/-!
## The words of a row
-/

/-- No word goes over a space, so a row of texts has the words of each of
them. -/
theorem wordsOf_joinWords (ss : List String) :
    wordsOf (joinWords ss) = ss.flatMap wordsOf := by
  induction ss with
  | nil =>
      show (words []).map String.ofList = []
      rw [words_nil]
      rfl
  | cons s ss ih =>
      cases ss with
      | nil =>
          have hone : joinWords [s] = s := String.intercalate_singleton
          rw [hone, List.flatMap_singleton]
      | cons s' ss =>
          have hspace : isBlank ' ' = true := rfl
          rw [List.flatMap_cons, ← ih, wordsOf, toList_joinWords_cons,
            words_append_blank hspace, List.map_append]
          rfl

theorem isWord_of_mem_wordsOf {s w : String} (h : w ∈ wordsOf s) :
    IsWord w := by
  refine ⟨ne_empty_of_mem_wordsOf h, ?_⟩
  rcases List.mem_map.1 h with ⟨cs, hcs, rfl⟩
  rw [String.toList_ofList]
  exact (ink_of_mem_words hcs).2

theorem wordsOf_of_isWord {w : String} (h : IsWord w) : wordsOf w = [w] := by
  rcases h with ⟨hne, hink⟩
  cases hw : w.toList with
  | nil => exact absurd (String.toList_eq_nil_iff.1 hw) hne
  | cons c cs =>
      rw [hw] at hink
      rcases List.forall_mem_cons.1 hink with ⟨hc, hcs⟩
      have hall : ∀ d ∈ cs, isInk d = true := by
        intro d hd
        rw [isInk, hcs d hd]
        rfl
      rw [wordsOf, hw, words_cons_ink hc, List.takeWhile_eq_self_iff.2 hall,
        List.dropWhile_eq_nil_iff.2 hall, words_nil, List.map_singleton, ← hw,
        String.ofList_toList]

theorem flatMap_wordsOf_of_isWord {ws : List String} (h : ∀ w ∈ ws, IsWord w) :
    ws.flatMap wordsOf = ws := by
  induction ws with
  | nil => rfl
  | cons w ws ih =>
      rcases List.forall_mem_cons.1 h with ⟨hw, hws⟩
      rw [List.flatMap_cons, wordsOf_of_isWord hw, ih hws]
      rfl

theorem wordsOf_eq_nil_iff {s : String} :
    wordsOf s = [] ↔ ∀ c ∈ s.toList, isBlank c = true := by
  rw [wordsOf, List.map_eq_nil_iff]
  generalize s.toList = cs
  induction cs with
  | nil =>
      rw [words_nil]
      exact ⟨fun _ c hc => absurd hc List.not_mem_nil, fun _ => rfl⟩
  | cons c cs ih =>
      rw [List.forall_mem_cons]
      cases hc : isBlank c with
      | true =>
          rw [words_cons_blank hc, ih]
          exact ⟨fun h => ⟨rfl, h⟩, fun h => h.2⟩
      | false =>
          rw [words_cons_ink hc]
          constructor
          · intro h
            cases h
          · intro h
            cases h.1

/-!
## The spaces of a row
-/

theorem isSpaced_of_isWord {w : String} (h : IsWord w) : IsSpaced w.toList := by
  intro before b after hw hb
  have hink : isBlank b = false := by
    apply h.2
    rw [hw]
    exact List.mem_append_right _ List.mem_cons_self
  rw [hink] at hb
  cases hb

theorem IsSpaced.cons {w : String} {s : List Char} (hw : IsWord w)
    (hhead : ∃ c ∈ s.head?, isBlank c = false) (hs : IsSpaced s) :
    IsSpaced (w.toList ++ ' ' :: s) := by
  have hlast : ∃ c ∈ w.toList.getLast?, isBlank c = false := by
    have hne : w.toList ≠ [] :=
      fun hnil => hw.1 (String.toList_eq_nil_iff.1 hnil)
    exact ⟨w.toList.getLast hne, List.getLast?_eq_some_getLast hne,
      hw.2 _ (List.getLast_mem hne)⟩
  intro before b after hsplit hb
  rcases List.append_eq_append_iff.1 hsplit with
    ⟨between, hbefore, hrest⟩ | ⟨between, hword, hrest⟩
  · -- The blank is the space, or it stands in the row behind it.
    cases between with
    | nil =>
        rw [List.nil_append, List.cons.injEq] at hrest
        rw [List.append_nil] at hbefore
        rw [← hrest.1, ← hrest.2, hbefore]
        exact ⟨rfl, hlast, hhead⟩
    | cons c between =>
        rw [List.cons_append, List.cons.injEq] at hrest
        rcases hs between b after hrest.2 hb with
          ⟨hspace, ⟨d, hd, hink⟩, hbehind⟩
        refine ⟨hspace, ⟨d, ?_, hink⟩, hbehind⟩
        rw [Option.mem_def] at hd
        rw [hbefore, Option.mem_def, List.getLast?_append, List.getLast?_cons,
          hd]
        rfl
  · cases between with
    | nil =>
        rw [List.nil_append, List.cons.injEq] at hrest
        rw [List.append_nil] at hword
        rw [hrest.1, hrest.2, ← hword]
        exact ⟨rfl, hlast, hhead⟩
    | cons c between =>
        rw [List.cons_append, List.cons.injEq] at hrest
        have hink : isBlank b = false := by
          apply hw.2
          rw [hword, hrest.1]
          exact List.mem_append_right _ List.mem_cons_self
        rw [hink] at hb
        cases hb

theorem head?_joinWords {w : String} (hw : IsWord w) (ws : List String) :
    ∃ c ∈ (joinWords (w :: ws)).toList.head?, isBlank c = false := by
  rcases prefix_joinWords w ws with ⟨rest, hrest⟩
  cases hcs : w.toList with
  | nil => exact absurd (String.toList_eq_nil_iff.1 hcs) hw.1
  | cons c cs =>
      rw [← hrest, hcs]
      refine ⟨c, rfl, hw.2 c ?_⟩
      rw [hcs]
      exact List.mem_cons_self

theorem isSpaced_joinWords {ws : List String} (h : ∀ w ∈ ws, IsWord w) :
    IsSpaced (joinWords ws).toList := by
  induction ws with
  | nil =>
      intro before b after hempty _
      have hnil : [] = before ++ b :: after := hempty
      exact absurd hnil.symm
        (List.append_ne_nil_of_right_ne_nil _ (List.cons_ne_nil _ _))
  | cons w ws ih =>
      rcases List.forall_mem_cons.1 h with ⟨hw, hws⟩
      cases ws with
      | nil =>
          have hone : joinWords [w] = w := String.intercalate_singleton
          rw [hone]
          exact isSpaced_of_isWord hw
      | cons w' ws =>
          rw [toList_joinWords_cons]
          exact (ih hws).cons hw
            (head?_joinWords (hws w' List.mem_cons_self) ws)

end Text
end SiteAudit
