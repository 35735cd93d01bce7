import SiteAudit.Proofs.Markup.Lines
import SiteAudit.Proofs.Rules.Shape

/-!
# The lines of findings

Rules that object to elements report the lines of these elements, in their
order.  So what is found on a page that was read from a text can be traced to
lines of the text, and the findings of each rule are sorted by line.
-/

namespace SiteAudit
namespace Rules

open Markup

def tracedCodes : List String :=
  ["E009", "E011", "E012", "E013", "E014", "E015", "E016", "E017", "E018",
    "S002", "C001", "C002", "C003", "C004"]

/-- What is found on a page leads back to lines of its text. -/
structure Traceable (s : List Char) (d : Document) : Prop where
  elements : ∀ e ∈ d.elements, IsLineOf s e.line
  elements_rise : LinesRise (d.elements.map (·.line))
  findings : ∀ file, ∀ code ∈ tracedCodes, ∀ x ∈ findingsOf code d file,
    IsLineOf s x.line
  findings_rise : ∀ file code, LinesRise ((findingsOf code d file).map (·.line))

def Criterion.TakesLines (c : Criterion) : Prop :=
  ∀ d, ((c d).map (·.line)).Sublist (d.elements.map (·.line))

theorem lines_of_follows {names : List String} {vs : List Violation}
    {es : List Element}
    (h : List.Forall₂ (fun v e =>
      v.line = e.line ∧ v.values.map (·.1) = names) vs es) :
    vs.map (·.line) = es.map (·.line) := by
  induction h with
  | nil => rfl
  | cons hhead _ ih => rw [List.map_cons, List.map_cons, hhead.1, ih]

theorem Criterion.LooksAt.takesLines {c : Criterion} {q : Query}
    {names : List String} (h : c.LooksAt q names) :
    c.TakesLines := by
  intro d
  rcases h d with ⟨es, hsub, hfollow⟩
  rw [lines_of_follows hfollow]
  exact (hsub.trans (select_sublist d q)).map _

theorem takesLines_of_mem {d : Document} {e : Element} (he : e ∈ d.elements) :
    ([Violation.of e []].map (·.line)).Sublist (d.elements.map (·.line)) := by
  rw [List.map_singleton, List.singleton_sublist]
  exact List.mem_map_of_mem he

theorem takesLines_singleMainHeading : singleMainHeading.TakesLines := by
  intro d
  unfold singleMainHeading
  split
  · rename_i first second rest hselect
    apply takesLines_of_mem
    apply (select_sublist d (.tag ["h1"])).subset
    rw [hselect]
    exact List.mem_cons_of_mem _ List.mem_cons_self
  · exact List.nil_sublist _

theorem mem_elements_of_mem_styleSources {d : Document}
    {source : Element × String} (h : source ∈ styleSources d) :
    source.1 ∈ d.elements := by
  rw [styleSources, List.mem_append, List.mem_map, List.mem_map] at h
  rcases h with ⟨e, he, rfl⟩ | ⟨e, he, rfl⟩
  · exact (select_sublist d _).subset he
  · exact (select_sublist d _).subset he

theorem takesLines_focusOutline : focusOutline.TakesLines := by
  intro d
  simp only [focusOutline]
  split
  · exact List.nil_sublist _
  · rename_i offender rest hfilter
    split
    · exact List.nil_sublist _
    · apply takesLines_of_mem
      apply mem_elements_of_mem_styleSources
      have hmem : offender ∈ (styleSources d).filter fun s =>
          suppressesOutline s.2.toList := by
        rw [hfilter]
        exact List.mem_cons_self
      exact (List.mem_filter.1 hmem).1

theorem criterionOf_takesLines :
    ∀ code ∈ tracedCodes, (criterionOf code).TakesLines := by
  simp only [tracedCodes, List.forall_mem_cons, List.not_mem_nil, false_implies,
    implies_true, and_true]
  exact ⟨takesLines_singleMainHeading, looksAt_headingOrder.takesLines,
    looksAt_uniqueIds.takesLines,
    looksAt_linkNames.takesLines, looksAt_imageTexts.takesLines,
    looksAt_tableHeaders.takesLines,
    looksAt_mediaTexts.takesLines, looksAt_formLabels.takesLines,
    looksAt_buttonNames.takesLines,
    takesLines_focusOutline, looksAt_clickableContainers.takesLines,
    looksAt_nestedInteractive.takesLines,
    looksAt_knownRoles.takesLines, looksAt_expandedControls.takesLines⟩

theorem lines_findingsOf {code : String} (h : code ∈ tracedCodes) (d : Document)
    (file : String) :
    ((findingsOf code d file).map (·.line)).Sublist
      (d.elements.map (·.line)) := by
  have hknown : ∀ code ∈ tracedCodes, code ∈ Catalog.rules.map (·.code) := by
    decide
  rcases exists_rule (hknown code h) with ⟨r, _, _, hfindings⟩
  rw [hfindings, List.map_map]
  exact criterionOf_takesLines code h d

theorem linesRise_of_lineless {lines : List (Option WritableInt)}
    (h : ∀ l ∈ lines, l = none) : LinesRise lines := by
  rw [LinesRise, List.pairwise_iff_forall_sublist]
  intro l l' hsub n hn
  rw [h l (hsub.subset List.mem_cons_self)] at hn
  cases hn

/-- Findings of a code that objects to no element are at most one, or have no
lines. -/
theorem linesRise_of_not_traced {code : String} (h : code ∉ tracedCodes)
    (d : Document) (file : String) :
    LinesRise ((findingsOf code d file).map (·.line)) := by
  by_cases hknown : code ∈ Catalog.rules.map (·.code)
  · have hkinds : ∀ code ∈ Catalog.rules.map (·.code),
        code ∈ tracedCodes ∨ code = "E001" ∨ code ∈ absenceCodes ∨
          code ∈ silentCodes := by decide
    rcases exists_rule hknown with ⟨r, _, _, hfindings⟩
    rw [hfindings, List.map_map]
    rcases hkinds code hknown with htraced | rfl | habsence | hsilent
    · exact absurd htraced h
    · rcases objectsOnce_language d with hnone | ⟨line, hone⟩
      · have hcriterion : criterionOf "E001" d = [] := hnone
        rw [hcriterion]
        exact List.Pairwise.nil
      · have hcriterion : criterionOf "E001" d = [{ line := line }] := hone
        rw [hcriterion]
        exact List.pairwise_singleton _ _
    · apply linesRise_of_lineless
      intro l hl
      rcases List.mem_map.1 hl with ⟨v, hv, rfl⟩
      exact criterionOf_absence d code habsence v hv
    · rw [criterionOf_silent d code hsilent]
      exact List.Pairwise.nil
  · have hnone : findingsOf code d file = [] := by
      rw [findingsOf, List.filter_eq_nil_iff]
      intro x hx hcode
      rcases mem_check.1 hx with ⟨r, hr, v, _, rfl⟩
      apply hknown
      rw [← beq_iff_eq.1 hcode]
      exact List.mem_map_of_mem hr
    rw [hnone]
    exact List.Pairwise.nil

/-- What is found on every page that can be read leads back to lines of its
text. -/
theorem traceable_of_read {s : List Char} {d : Document}
    (h : Document.read s = .ok d) : Traceable s d where
  elements := isLineOf_of_read h
  elements_rise := linesRise_of_read h
  findings := by
    intro file code hcode x hx
    have hline : x.line ∈ d.elements.map (·.line) :=
      (lines_findingsOf hcode d file).subset (List.mem_map_of_mem hx)
    rcases List.mem_map.1 hline with ⟨e, he, hsame⟩
    rw [← hsame]
    exact isLineOf_of_read h e he
  findings_rise := by
    intro file code
    by_cases htraced : code ∈ tracedCodes
    · exact (linesRise_of_read h).sublist (lines_findingsOf htraced d file)
    · exact linesRise_of_not_traced htraced d file

/-- A page with tags left open, a stray end tag, a remark over two lines, raw
text, and a tag cut off at its end. -/
def tangledPage : List Char :=
  "<ul>\n<li id=a>one\n<li id=a>two</b>\n<!-- a\nremark -->".toList ++
    "<style>p \x7b \x7d <i>\n</style>\n<br></br><img src=x\n><p".toList

def tangledDocument : Document where
  nodes :=
    .element "ul" [] (some 1)
      (.text "\n" (.element "li" [⟨"id", .text "a"⟩] (some 2)
        (.text "one\n" (.element "li" [⟨"id", .text "a"⟩] (some 3)
          (.text "two" (.text "\n" (.remark " a\nremark "
            (.element "style" [] (some 5) (.text "p \x7b \x7d <i>\n" .nil)
              (.text "\n" (.element "br" [] (some 7) .nil
              (.element "img" [⟨"src", .text "x"⟩] (some 7) .nil
                (.text "<p" .nil)))))))) .nil)) .nil)) .nil

theorem read_tangledPage : Document.read tangledPage = .ok tangledDocument := by
  have h : (Document.read tangledPage).toOption = some tangledDocument := by
    decide +kernel
  cases hread : Document.read tangledPage with
  | error e =>
      rw [hread] at h
      cases h
  | ok d =>
      rw [hread] at h
      cases h
      rfl

theorem traceable_tangledDocument :
    Document.read tangledPage = .ok tangledDocument ∧
      Traceable tangledPage tangledDocument :=
  ⟨read_tangledPage, traceable_of_read read_tangledPage⟩

end Rules
end SiteAudit
