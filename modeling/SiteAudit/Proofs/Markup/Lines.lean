import SiteAudit.Proofs.Markup.Lexemes
import SiteAudit.Proofs.Markup.Openings

/-!
# The lines of elements

However a text is tangled, each element that is read from it has the line of its
start tag.  So all lines are lines of the text, and in document order they never
go back.
-/

namespace SiteAudit
namespace Markup

/-- The lines that are there never go back. -/
def LinesRise (lines : List (Option WritableInt)) : Prop :=
  lines.Pairwise fun l l' => ∀ n ∈ l, ∀ n' ∈ l', n.value ≤ n'.value

theorem LinesRise.sublist {lines lines' : List (Option WritableInt)}
    (h : LinesRise lines') (hsub : lines.Sublist lines') :
    LinesRise lines :=
  List.Pairwise.sublist hsub h

def IsLineOf (s : List Char) (line : Option WritableInt) : Prop :=
  ∃ n, line = some n ∧ 1 ≤ n.value ∧ n.value ≤ 1 + Text.countLineFeeds s

/-- The elements of a document have the lines of the start tags that it was read
from. -/
theorem lines_of_tokens (ts : List PlacedToken) :
    (Document.elements ⟨Forest.ofTokens ts⟩).map (·.line) =
      (ts.filterMap Builder.openingOf).map (·.line) := by
  rw [← Forest.openings_ofTokens,
    ← Forest.map_opening_elements (Forest.ofTokens ts) [] 0, List.map_map]
  rfl

theorem line_of_openingOf {t : PlacedToken} {o : Opening}
    (h : Builder.openingOf t = some o) :
    o.line = some (.ofNat t.line) := by
  unfold Builder.openingOf at h
  split at h
  · cases h
    rfl
  · cases h

theorem linesRise_openings {ts : List PlacedToken}
    (h : ts.Pairwise fun t t' => t.line ≤ t'.line) :
    LinesRise ((ts.filterMap Builder.openingOf).map (·.line)) := by
  rw [LinesRise, List.pairwise_map]
  apply List.Pairwise.filterMap Builder.openingOf _ h
  intro t t' hle o ho o' ho' n hn n' hn'
  rw [line_of_openingOf ho, Option.mem_def, Option.some.injEq] at hn
  rw [line_of_openingOf ho', Option.mem_def, Option.some.injEq] at hn'
  subst hn hn'
  exact WritableInt.value_ofNat_mono hle

theorem exists_tokens_of_read {s : List Char} {d : Document}
    (h : Document.read s = .ok d) :
    ∃ ts, tokens s = .ok ts ∧ d = ⟨Forest.ofTokens ts⟩ := by
  rw [Document.read, Forest.read] at h
  cases hts : tokens s with
  | error e =>
      rw [hts] at h
      cases h
  | ok ts =>
      rw [hts] at h
      cases h
      exact ⟨ts, rfl, rfl⟩

section Read

variable {s : List Char} {d : Document} (h : Document.read s = .ok d)

include h

theorem isLineOf_of_read : ∀ e ∈ d.elements, IsLineOf s e.line := by
  rcases exists_tokens_of_read h with ⟨ts, hts, rfl⟩
  intro e he
  have hline : e.line ∈ (ts.filterMap Builder.openingOf).map (·.line) := by
    rw [← lines_of_tokens]
    exact List.mem_map_of_mem he
  rcases List.mem_map.1 hline with ⟨o, ho, hsame⟩
  rcases List.mem_filterMap.1 ho with ⟨t, ht, hopening⟩
  have hbounds := (tokens_lines hts).1 t ht
  have hle := WritableInt.value_ofNat_le t.line
  refine ⟨.ofNat t.line, ?_, WritableInt.one_le_value_ofNat hbounds.1, by omega⟩
  rw [← hsame, line_of_openingOf hopening]

theorem linesRise_of_read : LinesRise (d.elements.map (·.line)) := by
  rcases exists_tokens_of_read h with ⟨ts, hts, rfl⟩
  rw [lines_of_tokens]
  exact linesRise_openings (tokens_lines hts).2

end Read

end Markup
end SiteAudit
