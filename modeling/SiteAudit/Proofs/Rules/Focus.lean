import SiteAudit.Proofs.Rules.Composition

/-!
# The outline of the focus

A document takes the outline of the focus away if one of its style sheets does
and none of them shows the focus in another way.  Then there is one finding,
which leads to the first style sheet that takes the outline away.  A further
style sheet that shows the focus makes up for all of them, and no other one
does.
-/

namespace SiteAudit
namespace Rules

open Markup

def styleTexts (d : Document) : List String :=
  (d.select (.tag ["style"])).map (·.text)

def styleValues (d : Document) : List String :=
  (d.select (.hasAttribute "style")).map (·.getText "style")

def sheets (d : Document) : List String :=
  (styleSources d).map (·.2)

/-- The element holds the first of the style sheets that take the outline
away. -/
def IsFirstOffender (d : Document) (e : Element) : Prop :=
  ∃ before s after, styleSources d = before ++ (e, s) :: after ∧
    (∀ source ∈ before, ¬ RemovesOutline source.2.toList) ∧
      RemovesOutline s.toList

def HidesFocus (d : Document) : Prop :=
  (∃ s ∈ sheets d, RemovesOutline s.toList) ∧
    ∀ s ∈ sheets d, ¬ ShowsFocus s.toList

/-- The second document has the style sheets of the first one and one more,
which may stand anywhere among them. -/
def HasFurtherSheet (d d' : Document) (s : String) : Prop :=
  ∃ before after, sheets d = before ++ after ∧ sheets d' = before ++ s :: after

def outlineRemoved (file : String) (e : Element) : Finding where
  file := file
  code := "S002"
  message := "Focus outline removed without replacement"
  severity := Severity.error
  line := e.line

/-- What is found about the outline of the focus. -/
structure FocusJudged (d : Document) (file : String) : Prop where
  /-- The texts of style elements come first, and then the values of style
  attributes. -/
  sources : styleSources d =
    (d.elements.filter fun e => e.tag = "style").map (fun e => (e, e.text)) ++
      (d.elements.filter fun e => e.has "style").map fun e =>
        (e, e.getText "style")
  checked : focusOutline.check "S002" d file = .ok (findingsOf "S002" d file)
  found : (findingsOf "S002" d file).length = 1 ↔ HidesFocus d
  silent : findingsOf "S002" d file = [] ↔ ¬ HidesFocus d
  offender : ∀ f ∈ findingsOf "S002" d file, ∃ e,
    IsFirstOffender d e ∧ f = outlineRemoved file e
  /-- A style element put between the nodes of the document is a further style
  sheet. -/
  block : ∀ f g line css, d = ⟨f ++ g⟩ →
    HasFurtherSheet d ⟨f ++ .element "style" [] line (.text css .nil) g⟩
      (Text.joinWords (Text.wordsOf css))
  /-- So is the style attribute of an element. -/
  styling : ∀ f g line css, d = ⟨f ++ g⟩ →
    HasFurtherSheet d ⟨f ++ .element "p" [⟨"style", .text css⟩] line .nil g⟩ css
  /-- A further style sheet that shows the focus makes up for the others. -/
  replaced : ∀ d' s, HasFurtherSheet d d' s → ShowsFocus s.toList →
    findingsOf "S002" d' file = []
  /-- A further style sheet of any other kind does not. -/
  kept : ∀ d' s, HasFurtherSheet d d' s → ¬ ShowsFocus s.toList →
    findingsOf "S002" d file ≠ [] →
    findingsOf "S002" d' file ≠ []

/-!
## Style sheets
-/

theorem sheets_eq (d : Document) :
    sheets d = styleTexts d ++ styleValues d := by
  rw [sheets, styleSources, List.map_append, List.map_map, List.map_map]
  rfl

theorem styleSources_eq (d : Document) :
    styleSources d =
      (d.elements.filter fun e => e.tag = "style").map (fun e => (e, e.text)) ++
        (d.elements.filter fun e => e.has "style").map fun e =>
          (e, e.getText "style") := by
  have hstyle : (fun e => decide (e.tag = "style")) = Query.tag ["style"] := by
    funext e
    rw [Bool.eq_iff_iff, decide_eq_true_eq, Query.tag_singleton_iff (by decide)]
  rw [hstyle]
  rfl

theorem mem_sheets_iff {d : Document} {s : String} :
    s ∈ sheets d ↔ IsStyleSheet d s := by
  rw [sheets, List.mem_map, mem_styleSources_iff]

theorem styleTexts_append (f g : Forest) :
    styleTexts ⟨f ++ g⟩ = styleTexts ⟨f⟩ ++ styleTexts ⟨g⟩ := by
  rw [styleTexts, select_append (fun _ _ _ => rfl), List.map_append,
    List.map_map]
  congr 1
  apply List.map_congr_left
  intro e _
  exact Element.text_move f.size some e

theorem styleValues_append (f g : Forest) :
    styleValues ⟨f ++ g⟩ = styleValues ⟨f⟩ ++ styleValues ⟨g⟩ := by
  rw [styleValues, select_append (fun _ _ _ => rfl), List.map_append,
    List.map_map]
  rfl

/-!
## Further style sheets
-/

theorem hasFurtherSheet_inserted (f g : Forest) {h : Forest} {s : String}
    (hsheets : sheets ⟨h⟩ = [s]) :
    HasFurtherSheet ⟨f ++ g⟩ ⟨f ++ (h ++ g)⟩ s := by
  rw [sheets_eq, List.append_eq_singleton_iff] at hsheets
  rw [HasFurtherSheet, sheets_eq, sheets_eq]
  simp only [styleTexts_append, styleValues_append]
  rcases hsheets with ⟨htexts, hvalues⟩ | ⟨htexts, hvalues⟩
  · refine ⟨styleTexts ⟨f⟩ ++ styleTexts ⟨g⟩ ++ styleValues ⟨f⟩,
      styleValues ⟨g⟩, ?_, ?_⟩
    · simp only [List.append_assoc]
    · simp only [htexts, hvalues, List.nil_append, List.append_assoc,
        List.singleton_append]
  · refine ⟨styleTexts ⟨f⟩,
      styleTexts ⟨g⟩ ++ (styleValues ⟨f⟩ ++ styleValues ⟨g⟩), ?_, ?_⟩
    · rw [List.append_assoc]
    · simp only [htexts, hvalues, List.nil_append, List.append_assoc,
        List.cons_append]

theorem sheets_styleElement (line : Option WritableInt) (css : String) :
    sheets ⟨.element "style" [] line (.text css .nil) .nil⟩ =
      [Text.joinWords (Text.wordsOf css)] := by
  rw [sheets, styleSources_eq]
  have helements :
      Document.elements ⟨.element "style" [] line (.text css .nil) .nil⟩ =
      [⟨⟨0, "style", [], line, .text css .nil⟩, []⟩] := rfl
  have htag : Text.lower "style" = "style" := by decide
  have hwords : (⟨⟨0, "style", [], line, .text css .nil⟩, []⟩ : Element).words =
      [css].flatMap Text.wordsOf := rfl
  rw [List.flatMap_singleton] at hwords
  simp [helements, Element.tag, Element.has, Element.attribute?, htag,
    Element.text, hwords]

theorem sheets_styleAttribute (line : Option WritableInt) (css : String) :
    sheets ⟨.element "p" [⟨"style", .text css⟩] line .nil .nil⟩ = [css] := by
  rw [sheets, styleSources_eq]
  have helements :
      Document.elements ⟨.element "p" [⟨"style", .text css⟩] line .nil .nil⟩ =
      [⟨⟨0, "p", [⟨"style", .text css⟩], line, .nil⟩, []⟩] := rfl
  have htag : Text.lower "p" = "p" := by decide
  have hname : Text.lower "style" = "style" := by decide
  simp [helements, Element.tag, Element.has, Element.attribute?, htag, hname,
    Element.getText, Element.get, AttributeValue.text?]

theorem mem_sheets_further {d d' : Document} {s : String}
    (h : HasFurtherSheet d d' s) {s' : String} :
    s' ∈ sheets d' ↔ s' = s ∨ s' ∈ sheets d := by
  rcases h with ⟨before, after, hd, hd'⟩
  rw [hd, hd', List.mem_append, List.mem_cons, List.mem_append]
  exact or_left_comm

/-!
## The finding
-/

theorem keepsFocusVisible_iff {d : Document} :
    KeepsFocusVisible d ↔ ¬ HidesFocus d := by
  rw [KeepsFocusVisible, HidesFocus]
  simp only [← mem_sheets_iff]
  push Not
  constructor
  · intro hgiven hremoved
    rcases hgiven with hnone | hshown
    · rcases hremoved with ⟨s, hs, hremoves⟩
      exact absurd hremoves (hnone s hs)
    · exact hshown
  · intro h
    by_cases hremoved : ∃ s ∈ sheets d, RemovesOutline s.toList
    · exact .inr (h hremoved)
    · exact .inl fun s hs hremoves => hremoved ⟨s, hs, hremoves⟩

theorem findingsOf_focusOutline_eq_nil_iff {d : Document} {file : String} :
    findingsOf "S002" d file = [] ↔ ¬ HidesFocus d := by
  have hcriterion : criterionOf "S002" = focusOutline := rfl
  rw [findingsOf_eq_nil_iff (by decide), hcriterion, focusOutline_eq_nil_iff,
    keepsFocusVisible_iff]

theorem exists_offender (d : Document) : focusOutline d = [] ∨ ∃ e,
    IsFirstOffender d e ∧ focusOutline d = [.of e []] := by
  simp only [focusOutline]
  cases hoffenders : (styleSources d).filter fun s =>
    suppressesOutline s.2.toList with
  | nil => exact .inl rfl
  | cons offender rest =>
      rw [List.filter_eq_cons_iff] at hoffenders
      rcases hoffenders with ⟨before, after, hsources, hbefore, hremoves, -⟩
      have hfirst : IsFirstOffender d offender.1 := by
        refine ⟨before, offender.2, after, hsources, ?_,
          suppressesOutline_iff.1 hremoves⟩
        intro source hsource hremoved
        exact hbefore source hsource (suppressesOutline_iff.2 hremoved)
      show (if _ then _ else _) = _ ∨ _
      split
      · exact .inl rfl
      · exact .inr ⟨offender.1, hfirst, rfl⟩

theorem finding_outlineRemoved {r : Rule} (hr : r ∈ Catalog.rules)
    (hcode : r.code = "S002") (file : String) (e : Element) :
    (Violation.of e []).finding r file = outlineRemoved file e := by
  have hmessage : r.message = "Focus outline removed without replacement" := by
    revert r
    decide
  have hfilled : r.filled [] = "Focus outline removed without replacement" := by
    rw [Rule.filled, Rule.pieces_of_message hmessage]
    rfl
  exact finding_of_filled hr hcode (by decide) hfilled e.line file

theorem findingsOf_focusOutline (d : Document) (file : String) :
    findingsOf "S002" d file = [] ∨ ∃ e, IsFirstOffender d e ∧
      findingsOf "S002" d file = [outlineRemoved file e] := by
  rcases exists_rule (by decide : "S002" ∈ Catalog.rules.map (·.code)) with
    ⟨r, hr, hcode, hfindings⟩
  have hcriterion : criterionOf "S002" = focusOutline := rfl
  rw [hfindings, hcriterion]
  rcases exists_offender d with hnone | ⟨e, hfirst, hone⟩
  · rw [hnone]
    exact .inl rfl
  · rw [hone, List.map_singleton, finding_outlineRemoved hr hcode]
    exact .inr ⟨e, hfirst, rfl⟩

/-!
## The main statement
-/

theorem focus_judged (d : Document) (file : String) : FocusJudged d file where
  sources := styleSources_eq d
  checked := by
    rcases exists_rule (by decide : "S002" ∈ Catalog.rules.map (·.code)) with
      ⟨r, hr, hcode, hfindings⟩
    have hmem : (r.code, focusOutline) ∈ criteria := by
      rw [hcode]
      exact mem_criteria_of_lookup rfl
    rw [← hcode, check_criterion hr hmem, hcode, hfindings]
    rfl
  found := by
    rcases findingsOf_focusOutline d file with hnone | ⟨e, -, hone⟩
    · rw [hnone]
      constructor
      · intro h
        cases h
      · intro h
        exact absurd h (findingsOf_focusOutline_eq_nil_iff.1 hnone)
    · rw [hone]
      constructor
      · intro _
        by_contra h
        rw [findingsOf_focusOutline_eq_nil_iff.2 h] at hone
        cases hone
      · intro _
        rfl
  silent := findingsOf_focusOutline_eq_nil_iff
  offender := by
    intro f hf
    rcases findingsOf_focusOutline d file with hnone | ⟨e, hfirst, hone⟩
    · rw [hnone] at hf
      cases hf
    · rw [hone, List.mem_singleton] at hf
      exact ⟨e, hfirst, hf⟩
  block := by
    intro f g line css hd
    rw [hd]
    exact hasFurtherSheet_inserted f g (sheets_styleElement line css)
  styling := by
    intro f g line css hd
    rw [hd]
    exact hasFurtherSheet_inserted f g (sheets_styleAttribute line css)
  replaced := by
    intro d' s hfurther hshows
    rw [findingsOf_focusOutline_eq_nil_iff]
    intro hhides
    exact hhides.2 s ((mem_sheets_further hfurther).2 (.inl rfl)) hshows
  kept := by
    intro d' s hfurther hother hfound hnone
    rw [ne_eq, findingsOf_focusOutline_eq_nil_iff, not_not] at hfound
    rw [findingsOf_focusOutline_eq_nil_iff] at hnone
    rcases hfound with ⟨⟨removal, hremoval, hremoves⟩, hunshown⟩
    apply hnone
    refine ⟨⟨removal, (mem_sheets_further hfurther).2 (.inr hremoval),
      hremoves⟩, ?_⟩
    intro s' hs'
    rcases (mem_sheets_further hfurther).1 hs' with rfl | hold
    · exact hother
    · exact hunshown s' hold

end Rules
end SiteAudit
