import SiteAudit.Proofs.Rules.Compliance
import SiteAudit.Proofs.Rules.Places
import SiteAudit.Proofs.Rules.Shape

/-!
# Findings on two forests in a row

What is found on two forests put one behind the other is put together from what
is found on each of them.  Rules that look at each element alone do not notice
the other forest.  Rules that ask for something object if neither forest has it.
Headings, identifiers and labels act across the place where the forests meet.
-/

namespace SiteAudit
namespace Rules

open Markup

/-- The codes of the rules that look at each element alone. -/
def elementwiseCodes : List String :=
  ["E013", "E014", "E015", "E016", "E018", "C001", "C002", "C003", "C004"]

def countMainHeadings (d : Document) : Nat :=
  d.elements.countP (·.tag == "h1")

def HasRoot (d : Document) : Prop :=
  ∃ e ∈ d.elements, e.subtree.name = "html"

def skippedLevel (file : String) (last next : Element) : Finding where
  file := file
  code := "E011"
  message := "Heading level skipped: h" ++ Text.natural (headingLevel last) ++
    " to h" ++
    Text.natural (headingLevel next)
  severity := Severity.error
  line := next.line

/-- What is found where the headings of one document are followed by those of
another. -/
def headingSeam (file : String) (d d' : Document) : List Finding :=
  match (headings d).getLast?, (headings d').head? with
  | some last, some next =>
      if headingLevel last + 1 < headingLevel next then
        [skippedLevel file last next] else []
  | _, _ => []

def identified (d : Document) : List Element :=
  d.select (.hasAttribute "id")

/-- The identifier of an element of the second document occurs in the first one,
or earlier in its own. -/
def RepeatsId (d d' : Document) (e : Element) : Prop :=
  (∃ e' ∈ identified d, e'.getText "id" = e.getText "id") ∨
    ∃ e' ∈ identified d', e'.position < e.position ∧
      e'.getText "id" = e.getText "id"

def duplicateId (file : String) (e : Element) : Finding where
  file := file
  code := "E012"
  message := "Duplicate ID: " ++ e.getText "id"
  severity := Severity.error
  line := e.line

open Classical in
noncomputable def unlabelledControls (d : Document) : List Element :=
  (d.select (.tag ["input", "select", "textarea"])).filter fun e =>
    ¬ IsLabelledControl d e

def IsReferredTo (d : Document) (control : Element) : Prop :=
  ∃ id, id ≠ "" ∧ control.get "id" = some id ∧
    ∃ l ∈ d.elements, l.tag = "label" ∧ l.get "for" = some id

def missingLabel (file : String) (e : Element) : Finding where
  file := file
  code := "E017"
  message := "Form control missing label"
  severity := Severity.error
  line := e.line

open Classical in
/-- How the findings on two forests in a row are put together. -/
structure Composed (f g : Forest) (file : String) : Prop where
  elementwise : ∀ code ∈ elementwiseCodes,
    findingsOf code ⟨f ++ g⟩ file =
      findingsOf code ⟨f⟩ file ++ findingsOf code ⟨g⟩ file
  /-- What is missing in both parts is missing, one item after the other. -/
  absence : ∀ code ∈ absenceCodes, findingsOf code ⟨f ++ g⟩ file =
    (findingsOf code ⟨f⟩ file).filter (· ∈ findingsOf code ⟨g⟩ file)
  singleMainHeading : findingsOf "E009" ⟨f ++ g⟩ file ≠ [] ↔
    1 < countMainHeadings ⟨f⟩ + countMainHeadings ⟨g⟩
  headingOrder : findingsOf "E011" ⟨f ++ g⟩ file =
    findingsOf "E011" ⟨f⟩ file ++ headingSeam file ⟨f⟩ ⟨g⟩ ++
      findingsOf "E011" ⟨g⟩ file
  uniqueIds : findingsOf "E012" ⟨f ++ g⟩ file =
    findingsOf "E012" ⟨f⟩ file ++
      ((identified ⟨g⟩).filter (RepeatsId ⟨f⟩ ⟨g⟩)).map (duplicateId file)
  formLabels : ∀ h ∈ [f, g], findingsOf "E017" ⟨h⟩ file =
    (unlabelledControls ⟨h⟩).map (missingLabel file)
  /-- A label of one part serves a control of the other one. -/
  formLabels_append : findingsOf "E017" ⟨f ++ g⟩ file =
    ((unlabelledControls ⟨f⟩).filter fun e =>
      ¬ IsReferredTo ⟨g⟩ e).map (missingLabel file) ++
      ((unlabelledControls ⟨g⟩).filter fun e =>
        ¬ IsReferredTo ⟨f⟩ e).map (missingLabel file)
  language : findingsOf "E001" ⟨f ++ g⟩ file =
    if HasRoot ⟨f⟩ then findingsOf "E001" ⟨f⟩ file
      else findingsOf "E001" ⟨g⟩ file

/-!
## Rules that look at each element alone
-/

theorem criterionOf_isElementwise :
    ∀ code ∈ elementwiseCodes, (criterionOf code).IsElementwise := by
  simp only [elementwiseCodes, List.forall_mem_cons, List.not_mem_nil,
    false_implies, implies_true, and_true]
  exact ⟨isElementwise_linkNames, isElementwise_imageTexts,
    isElementwise_tableHeaders, isElementwise_mediaTexts,
    isElementwise_buttonNames, isElementwise_clickableContainers,
    isElementwise_nestedInteractive,
    isElementwise_knownRoles, isElementwise_expandedControls⟩

theorem Criterion.IsElementwise.append {c : Criterion} (h : c.IsElementwise)
    (f g : Forest) :
    c ⟨f ++ g⟩ = c ⟨f⟩ ++ c ⟨g⟩ := by
  rcases h with ⟨q, values, hq, hvalues, hc⟩
  rw [hc, hc, hc, select_append hq, List.map_append, List.map_map]
  congr 1
  apply List.map_congr_left
  intro e _
  simp only [Function.comp_apply, hvalues, Violation.of_move,
    Violation.mapLine_some]

/-!
## Rules that ask for something
-/

theorem someElement_append {q : Query} (hq : q.IgnoresPlaces) (f g : Forest) :
    someElement ⟨f ++ g⟩ q = (someElement ⟨f⟩ q || someElement ⟨g⟩ q) := by
  rw [someElement, Document.elements_append, List.any_append, hq.any_map]
  rfl

theorem map_filter_and {α β : Type} [DecidableEq β] {mk : α → β}
    {items : List α} (hmk : ∀ i ∈ items, ∀ j ∈ items, mk i = mk j → i = j)
    (p q : α → Bool) :
    (items.filter fun i => p i && q i).map mk =
      ((items.filter p).map mk).filter fun b =>
        b ∈ (items.filter q).map mk := by
  rw [List.filter_map, List.filter_filter]
  congr 1
  apply List.filter_congr
  intro i hi
  have hmem : mk i ∈ (items.filter q).map mk ↔ q i = true := by
    rw [List.mem_map]
    constructor
    · intro hgiven
      rcases hgiven with ⟨j, hj, hsame⟩
      rw [List.mem_filter] at hj
      rw [hmk i hi j hj.1 hsame.symm]
      exact hj.2
    · intro hq
      exact ⟨i, List.mem_filter.2 ⟨hi, hq⟩, rfl⟩
  simp only [Function.comp_apply, hmem, Bool.decide_eq_true]
  exact Bool.and_comm _ _

theorem Criterion.AsksFor.map_append {α : Type} {c : Criterion} {items : List α}
    {q : α → Query}
    {values : α → List (String × Template.Value)} (h : c.AsksFor items q values)
    {finding : Violation → Finding}
    (hfinding : ∀ i ∈ items, ∀ j ∈ items,
      finding { values := values i } = finding { values := values j } → i = j)
    (f g : Forest) :
    (c ⟨f ++ g⟩).map finding =
      ((c ⟨f⟩).map finding).filter (· ∈ (c ⟨g⟩).map finding) := by
  have hand :=
    map_filter_and hfinding (fun i => !someElement ⟨f⟩ (q i)) fun i =>
      !someElement ⟨g⟩ (q i)
  rw [h.eq, h.eq, h.eq, List.map_map, List.map_map, List.map_map]
  simp only [someElement_append (h.query _), Bool.not_or]
  exact hand

theorem missingLandmark_injective {l l' : Catalog.Landmark}
    (hl : l ∈ Catalog.landmarks) (hl' : l' ∈ Catalog.landmarks) {file : String}
    (h : missingLandmark file l = missingLandmark file l') :
    l = l' := by
  have hnames : ∀ l ∈ Catalog.landmarks, ∀ l' ∈ Catalog.landmarks,
      l.name = l'.name → l = l' := by decide
  have hmessage := congrArg Finding.message h
  exact hnames l hl l' hl' (String.append_right_inj _ |>.1 hmessage)

theorem missingLink_injective {link link' file : String}
    (h : missingLink file link = missingLink file link') :
    link = link' :=
  String.append_right_inj _ |>.1 (congrArg Finding.message h)

def askingCodes : List String :=
  ["E002", "E003", "E005", "E006", "E008", "E010"]

theorem criterionOf_asking : ∀ code ∈ askingCodes,
    ∃ q : Query, q.IgnoresPlaces ∧
      ∀ d, criterionOf code d = unlessHolds (someElement d q) := by
  simp only [askingCodes, List.forall_mem_cons, List.not_mem_nil, false_implies,
    implies_true, and_true]
  exact ⟨⟨_, ignoresPlaces_skipLink, fun _ => rfl⟩,
    ⟨_, fun _ _ _ => rfl, fun _ => rfl⟩,
    ⟨_, fun _ _ _ => rfl, fun _ => rfl⟩, ⟨_, fun _ _ _ => rfl, fun _ => rfl⟩,
    ⟨_, ignoresPlaces_helpLink, fun _ => rfl⟩,
    ⟨_, fun _ _ _ => rfl, fun _ => rfl⟩⟩

theorem findings_absence (f g : Forest) (file : String) : ∀ code ∈ absenceCodes,
    findingsOf code ⟨f ++ g⟩ file =
    (findingsOf code ⟨f⟩ file).filter (· ∈ findingsOf code ⟨g⟩ file) := by
  have hcodes : ∀ code ∈ absenceCodes, code ∈ Catalog.rules.map (·.code) := by
    decide
  have hkinds : ∀ code ∈ absenceCodes, code = "E004" ∨ code = "E007" ∨
      code ∈ askingCodes := by decide
  intro code hcode
  rcases exists_rule (hcodes code hcode) with ⟨r, hr, hrule, hfindings⟩
  rw [hfindings, hfindings, hfindings]
  rcases hkinds code hcode with rfl | rfl | hasking
  · apply asksFor_landmarks.map_append
    intro l hl l' hl' hsame
    rw [finding_landmark hr hrule, finding_landmark hr hrule] at hsame
    exact missingLandmark_injective hl hl' hsame
  · apply asksFor_footerLinks.map_append
    intro link _ link' _ hsame
    rw [finding_link hr hrule, finding_link hr hrule] at hsame
    exact missingLink_injective hsame
  · rcases criterionOf_asking code hasking with ⟨q, hq, hcriterion⟩
    rw [hcriterion, hcriterion, hcriterion]
    exact (asksFor_unlessHolds hq).map_append (fun _ _ _ _ _ => rfl) f g

/-!
## Main headings and the root
-/

theorem length_mainHeadings (d : Document) :
    (d.select (.tag ["h1"])).length = countMainHeadings d := by
  rw [countMainHeadings, List.countP_eq_length_filter, Document.select]
  congr 1
  apply List.filter_congr
  intro e _
  rw [Bool.eq_iff_iff, Query.tag_singleton_iff (by decide), beq_iff_eq]

theorem countMainHeadings_append (f g : Forest) :
    countMainHeadings ⟨f ++ g⟩ =
      countMainHeadings ⟨f⟩ + countMainHeadings ⟨g⟩ := by
  rw [← length_mainHeadings, select_append (fun _ _ _ => rfl),
    List.length_append, List.length_map, length_mainHeadings,
    length_mainHeadings]

theorem singleMainHeading_ne_nil_iff {d : Document} :
    singleMainHeading d ≠ [] ↔ 1 < countMainHeadings d := by
  rw [← length_mainHeadings, singleMainHeading]
  rcases d.select (.tag ["h1"]) with _ | ⟨first, _ | ⟨second, rest⟩⟩
  · simp
  · simp
  · simp

theorem root?_append (f g : Forest) :
    Document.root? ⟨f ++ g⟩ =
      (Document.root? ⟨f⟩).or
        ((Document.root? ⟨g⟩).map (Element.move f.size some)) := by
  rw [Document.root?, Document.elements_append, List.find?_append,
    List.find?_map]
  rfl

theorem root?_eq_none_iff {d : Document} : d.root? = none ↔ ¬ HasRoot d := by
  rw [Document.root?, List.find?_eq_none, HasRoot]
  simp only [beq_iff_eq, not_exists, not_and]

theorem language_append_of_hasRoot {f : Forest} (h : HasRoot ⟨f⟩) (g : Forest) :
    language ⟨f ++ g⟩ = language ⟨f⟩ := by
  rw [language, language, root?_append]
  cases hroot : Document.root? ⟨f⟩ with
  | none => exact absurd h (root?_eq_none_iff.1 hroot)
  | some root => rfl

theorem language_append_of_not_hasRoot {f : Forest} (h : ¬ HasRoot ⟨f⟩)
    (g : Forest) :
    language ⟨f ++ g⟩ = language ⟨g⟩ := by
  rw [language, language, root?_append, root?_eq_none_iff.2 h, Option.none_or]
  cases Document.root? ⟨g⟩ with
  | none => rfl
  | some root =>
      show (if Query.nonblank "lang" root then []
        else [Violation.of (root.move f.size some) []]) = _
      rw [Violation.of_move, Violation.mapLine_some]

/-!
## Headings
-/

/-- A row of headings is worked through from its start; only the last level
counts for what follows. -/
theorem skippedLevels_append (last : Nat) (es es' : List Element) :
    skippedLevels last (es ++ es') =
      skippedLevels last es ++
        skippedLevels ((es.getLast?.map headingLevel).getD last) es' := by
  induction es generalizing last with
  | nil => rfl
  | cons e es ih =>
      have hlast : ((e :: es).getLast?.map headingLevel).getD last =
          (es.getLast?.map headingLevel).getD (headingLevel e) := by
        rw [List.getLast?_cons]
        cases es.getLast? with
        | none => rfl
        | some last => rfl
      rw [hlast, List.cons_append, skippedLevels, skippedLevels, ih]
      split
      · rfl
      · rfl

theorem skippedLevels_behind (last : Element) (es : List Element) :
    skippedLevels (headingLevel last) es =
      (match es.head? with
        | some next =>
            if headingLevel last + 1 < headingLevel next then
              [.of next [("from", .number (.ofNat (headingLevel last))),
                ("to", .number (.ofNat (headingLevel next)))]]
            else []
        | none => []) ++ skippedLevels 0 es := by
  cases es with
  | nil => rfl
  | cons e es =>
      have hpositive : 0 < headingLevel last := Nat.succ_pos _
      simp only [skippedLevels, List.head?_cons, hpositive, decide_true,
        Bool.true_and, decide_eq_true_eq, Nat.lt_irrefl, decide_false,
        Bool.false_and, Bool.false_eq_true, if_false]
      split
      · rfl
      · rfl

theorem headingLevel_le_largest (e : Element) :
    headingLevel e ≤ WritableInt.largest := by
  have hle : headingTags.idxOf e.tag ≤ headingTags.length :=
    List.idxOf_le_length
  apply WritableInt.le_largest
  exact Nat.le_trans (Nat.succ_le_succ hle) (by decide)

theorem finding_skippedLevel {r : Rule} (hr : r ∈ Catalog.rules)
    (hcode : r.code = "E011") (file : String) (last next : Element) :
    (Violation.of next
        [("from", .number (.ofNat (headingLevel last))),
          ("to", .number (.ofNat (headingLevel next)))]).finding r file =
      skippedLevel file last next := by
  have hmessage : r.message = "Heading level skipped: h{from} to h{to}" := by
    revert r
    decide
  have hfilled := Rule.filled_of_message₂ hmessage rfl (by decide)
    (.number (.ofNat (headingLevel last)))
    (.number (.ofNat (headingLevel next)))
  have hlast := WritableInt.text_ofNat (headingLevel_le_largest last)
  have hnext := WritableInt.text_ofNat (headingLevel_le_largest next)
  rw [Template.Value.display, Template.Value.display, hlast, hnext] at hfilled
  exact finding_of_filled hr hcode (by decide) hfilled next.line file

theorem headingOrder_append {r : Rule} (hr : r ∈ Catalog.rules)
    (hcode : r.code = "E011") (f g : Forest) (file : String) :
    (headingOrder ⟨f ++ g⟩).map (·.finding r file) =
      (headingOrder ⟨f⟩).map (·.finding r file) ++ headingSeam file ⟨f⟩ ⟨g⟩ ++
        (headingOrder ⟨g⟩).map (·.finding r file) := by
  have hheadings : headings ⟨f ++ g⟩ =
      headings ⟨f⟩ ++ (headings ⟨g⟩).map (Element.move f.size some) :=
    select_append (fun _ _ _ => rfl) f g
  have hmoved : ∀ last,
      skippedLevels last ((headings ⟨g⟩).map (Element.move f.size some)) =
      skippedLevels last (headings ⟨g⟩) := by
    intro last
    rw [skippedLevels_move, Violation.map_mapLine_some]
  rw [headingOrder, hheadings, skippedLevels_append, hmoved, headingSeam,
    headingOrder, headingOrder, List.append_assoc, List.map_append]
  congr 1
  cases (headings ⟨f⟩).getLast? with
  | none => rfl
  | some last =>
      rw [Option.map_some, Option.getD_some, skippedLevels_behind,
        List.map_append]
      congr 1
      cases (headings ⟨g⟩).head? with
      | none => rfl
      | some next =>
          simp only
          split
          · rw [List.map_singleton, finding_skippedLevel hr hcode]
          · rfl

/-!
## Identifiers
-/

theorem repeatedIds_append (seen : List String) (es es' : List Element) :
    repeatedIds seen (es ++ es') =
      repeatedIds seen es ++
        repeatedIds ((es.map (·.getText "id")).reverse ++ seen) es' := by
  induction es generalizing seen with
  | nil => rfl
  | cons e es ih =>
      rw [List.cons_append, repeatedIds, repeatedIds, ih, List.map_cons,
        List.reverse_cons, List.append_assoc]
      split
      · rfl
      · rfl

theorem repeatedIds_eq_filter {es : List Element} (hes : InOrder es)
    (seen : List String) :
    repeatedIds seen es =
      (es.filter fun e => seen.contains (e.getText "id") ||
        es.any fun e' =>
          e'.position < e.position && e'.getText "id" == e.getText "id").map
        fun e => .of e [("id", .text (e.getText "id"))] := by
  induction es generalizing seen with
  | nil => rfl
  | cons e es ih =>
      rcases List.pairwise_cons.1 hes with ⟨hfirst, hrest⟩
      have hhead : ((e :: es).any fun e' => e'.position < e.position &&
          e'.getText "id" == e.getText "id") =
          false := by
        rw [List.any_eq_false]
        intro e' he'
        have hlater : ¬ e'.position < e.position := by
          rcases List.mem_cons.1 he' with rfl | hmem
          · exact Nat.lt_irrefl _
          · exact Nat.lt_asymm (hfirst e' hmem)
        simp [hlater]
      have htail : ∀ i ∈ es,
          ((e.getText "id" :: seen).contains (i.getText "id") ||
            es.any fun e' =>
              e'.position < i.position && e'.getText "id" == i.getText "id") =
          (seen.contains (i.getText "id") ||
            (e :: es).any fun e' => e'.position < i.position &&
              e'.getText "id" == i.getText "id") := by
        intro i hi
        simp only [List.contains_cons, List.any_cons, hfirst i hi, decide_true,
          Bool.true_and, Bool.beq_comm (a := e.getText "id"), Bool.or_assoc,
          Bool.or_left_comm]
      rw [repeatedIds, ih hrest, List.filter_cons, hhead, Bool.or_false,
        List.filter_congr htail]
      split
      · rfl
      · rfl

theorem finding_duplicateId {r : Rule} (hr : r ∈ Catalog.rules)
    (hcode : r.code = "E012") (file : String) (e : Element) :
    (Violation.of e [("id", .text (e.getText "id"))]).finding r file =
      duplicateId file e := by
  have hmessage : r.message = "Duplicate ID: {id}" := by
    revert r
    decide
  have hfilled : r.filled [("id", .text (e.getText "id"))] =
      "Duplicate ID: " ++ e.getText "id" :=
    Rule.filled_of_message hmessage rfl (e.getText "id")
  exact finding_of_filled hr hcode (by decide) hfilled e.line file

open Classical in
theorem uniqueIds_append (f g : Forest) :
    uniqueIds ⟨f ++ g⟩ =
      uniqueIds ⟨f⟩ ++ ((identified ⟨g⟩).filter (RepeatsId ⟨f⟩ ⟨g⟩)).map
        fun e => .of e [("id", .text (e.getText "id"))] := by
  rw [uniqueIds, uniqueIds, select_append (fun _ _ _ => rfl),
    repeatedIds_append, repeatedIds_move, Violation.map_mapLine_some,
    repeatedIds_eq_filter (inOrder_select ⟨g⟩ _)]
  congr 2
  apply List.filter_congr
  intro e _
  rw [Bool.eq_iff_iff, decide_eq_true_eq, RepeatsId, Bool.or_eq_true,
    List.contains_iff_mem, List.any_eq_true, List.append_nil, List.mem_reverse,
    List.mem_map]
  simp only [Bool.and_eq_true, decide_eq_true_eq, beq_iff_eq]
  rfl

/-!
## Labels
-/

theorem labelTargets_append (f g : Forest) :
    labelTargets ⟨f ++ g⟩ = labelTargets ⟨f⟩ ++ labelTargets ⟨g⟩ := by
  rw [labelTargets, select_append (fun _ _ _ => rfl), List.map_append,
    List.map_map]
  rfl

theorem isTarget_append (targets targets' : List String) (e : Element) :
    isTarget (targets ++ targets') e =
      (isTarget targets e || isTarget targets' e) := by
  rw [isTarget, isTarget, isTarget, List.contains_append,
    Bool.and_or_distrib_left]

/-- A control that lacks a label, when labels refer to the given identifiers. -/
def lacksLabel (targets : List String) : Query := fun e =>
  !(needsNoLabel e || isTarget targets e || isLabelled e)

theorem lacksLabel_append (targets targets' : List String) (e : Element) :
    lacksLabel (targets ++ targets') e =
      (!isTarget targets' e && lacksLabel targets e) := by
  rw [lacksLabel, lacksLabel, isTarget_append]
  cases needsNoLabel e <;> cases isTarget targets e <;> cases isTarget targets'
    e <;> rfl

open Classical in
theorem unlabelledControls_eq (d : Document) :
    unlabelledControls d =
      (d.select (.tag ["input", "select", "textarea"])).filter
        (lacksLabel (labelTargets d)) := by
  apply List.filter_congr
  intro e he
  rw [lacksLabel, Bool.eq_iff_iff, decide_eq_true_eq, Bool.not_eq_true',
    ← Bool.not_eq_true, isLabelledControl_iff (List.mem_filter.1 he).1]

theorem formLabels_eq (d : Document) :
    formLabels d = violations (unlabelledControls d) := by
  rw [unlabelledControls_eq]
  rfl

theorem violations_append (es es' : List Element) :
    violations (es ++ es') = violations es ++ violations es' :=
  List.map_append

theorem violations_move (k : Nat) (es : List Element) :
    violations (es.map (Element.move k some)) = violations es := by
  rw [violations, List.map_map]
  apply List.map_congr_left
  intro e _
  rw [Function.comp_apply, Violation.of_move, Violation.mapLine_some]

open Classical in
theorem filter_lacksLabel (controls : List Element) (targets : List String)
    (d : Document) :
    controls.filter (lacksLabel (targets ++ labelTargets d)) =
      (controls.filter (lacksLabel targets)).filter fun e =>
        ¬ IsReferredTo d e := by
  rw [List.filter_filter]
  apply List.filter_congr
  intro e _
  have hreferred :
      (!isTarget (labelTargets d) e) = decide (¬ IsReferredTo d e) := by
    rw [Bool.eq_iff_iff, decide_eq_true_eq, Bool.not_eq_true',
      ← Bool.not_eq_true, isTarget_iff]
    rfl
  rw [lacksLabel_append, hreferred]

theorem lacksLabel_comm (targets targets' : List String) :
    lacksLabel (targets ++ targets') = lacksLabel (targets' ++ targets) := by
  funext e
  rw [lacksLabel, lacksLabel, isTarget_append, isTarget_append,
    Bool.or_comm (isTarget targets e)]

open Classical in
theorem formLabels_append (f g : Forest) :
    formLabels ⟨f ++ g⟩ =
      violations ((unlabelledControls ⟨f⟩).filter fun e =>
        ¬ IsReferredTo ⟨g⟩ e) ++
        violations ((unlabelledControls ⟨g⟩).filter fun e =>
          ¬ IsReferredTo ⟨f⟩ e) := by
  have hmoved :
      (lacksLabel (labelTargets ⟨f⟩ ++ labelTargets ⟨g⟩)).IgnoresPlaces :=
        ignoresPlaces_lacksLabel _
  rw [formLabels_eq, unlabelledControls_eq, labelTargets_append,
    select_append (fun _ _ _ => rfl), List.filter_append, hmoved.filter_map,
    violations_append, violations_move, filter_lacksLabel, lacksLabel_comm,
    filter_lacksLabel, ← unlabelledControls_eq, ← unlabelledControls_eq]

theorem finding_missingLabel {r : Rule} (hr : r ∈ Catalog.rules)
    (hcode : r.code = "E017") (file : String) (e : Element) :
    (Violation.of e []).finding r file = missingLabel file e := by
  have hmessage : r.message = "Form control missing label" := by
    revert r
    decide
  have hfilled : r.filled [] = "Form control missing label" := by
    rw [Rule.filled, Rule.pieces_of_message hmessage]
    rfl
  exact finding_of_filled hr hcode (by decide) hfilled e.line file

theorem map_violations {r : Rule} (hr : r ∈ Catalog.rules)
    (hcode : r.code = "E017") (file : String) (es : List Element) :
    (violations es).map (·.finding r file) = es.map (missingLabel file) := by
  rw [violations, List.map_map]
  apply List.map_congr_left
  intro e _
  exact finding_missingLabel hr hcode file e

/-!
## All together
-/

/-- What is found on two forests in a row is put together from what is found on
each of them. -/
theorem check_composed (f g : Forest) (file : String) : Composed f g file where
  elementwise := by
    intro code hcode
    have hknown : ∀ code ∈ elementwiseCodes,
        code ∈ Catalog.rules.map (·.code) := by decide
    rcases exists_rule (hknown code hcode) with ⟨r, _, _, hfindings⟩
    rw [hfindings, hfindings, hfindings,
      (criterionOf_isElementwise code hcode).append, List.map_append]
  absence := findings_absence f g file
  singleMainHeading := by
    rcases exists_rule (by decide : "E009" ∈ Catalog.rules.map (·.code)) with
      ⟨r, _, _, hfindings⟩
    rw [hfindings, ← countMainHeadings_append, ← singleMainHeading_ne_nil_iff,
      ne_eq, List.map_eq_nil_iff]
    rfl
  headingOrder := by
    rcases exists_rule (by decide : "E011" ∈ Catalog.rules.map (·.code)) with
      ⟨r, hr, hcode, hfindings⟩
    rw [hfindings, hfindings, hfindings]
    exact headingOrder_append hr hcode f g file
  uniqueIds := by
    rcases exists_rule (by decide : "E012" ∈ Catalog.rules.map (·.code)) with
      ⟨r, hr, hcode, hfindings⟩
    have hcriterion : criterionOf "E012" = uniqueIds := rfl
    rw [hfindings, hfindings, hcriterion, uniqueIds_append, List.map_append,
      List.map_map]
    congr 1
    apply List.map_congr_left
    intro e _
    exact finding_duplicateId hr hcode file e
  formLabels := by
    rcases exists_rule (by decide : "E017" ∈ Catalog.rules.map (·.code)) with
      ⟨r, hr, hcode, hfindings⟩
    have hcriterion : criterionOf "E017" = formLabels := rfl
    intro h _
    rw [hfindings, hcriterion, formLabels_eq, map_violations hr hcode]
  formLabels_append := by
    rcases exists_rule (by decide : "E017" ∈ Catalog.rules.map (·.code)) with
      ⟨r, hr, hcode, hfindings⟩
    have hcriterion : criterionOf "E017" = formLabels := rfl
    rw [hfindings, hcriterion, formLabels_append, List.map_append,
      map_violations hr hcode, map_violations hr hcode]
  language := by
    rcases exists_rule (by decide : "E001" ∈ Catalog.rules.map (·.code)) with
      ⟨r, _, _, hfindings⟩
    have hcriterion : criterionOf "E001" = language := rfl
    rw [hfindings, hfindings, hfindings, hcriterion]
    split
    · rename_i hroot
      rw [language_append_of_hasRoot hroot]
    · rename_i hroot
      rw [language_append_of_not_hasRoot hroot]

end Rules
end SiteAudit
