import SiteAudit.Proofs.Markup.Places
import SiteAudit.Proofs.Rules.Findings

/-!
# Rules and the places of elements

Most rules are of two families.  Some object to elements by what they see of
each element alone.  Others ask for things, and object for each of them that no
element of the document is or has.  What these rules and the few others see does
not depend on where the elements are: with other lines in the document there are
other lines in the findings, and nothing else changes.
-/

namespace SiteAudit
namespace Rules

open Markup

def Violation.mapLine (l : WritableInt → Option WritableInt) (v : Violation) :
    Violation :=
  { v with line := v.line.bind l }

@[simp] theorem Violation.of_move (k : Nat)
    (l : WritableInt → Option WritableInt) (e : Element)
    (values : List (String × Template.Value)) :
    Violation.of (e.move k l) values = (Violation.of e values).mapLine l := rfl

@[simp] theorem Violation.mapLine_some (v : Violation) :
    v.mapLine some = v := by
  rw [mapLine, Option.bind_fun_some]

theorem Violation.map_mapLine_some (vs : List Violation) :
    vs.map (Violation.mapLine some) = vs := by
  rw [funext Violation.mapLine_some]
  exact List.map_id' vs

/-- The criterion objects to elements by what it sees of each of them alone. -/
def Criterion.IsElementwise (c : Criterion) : Prop :=
  ∃ (q : Query) (values : Element → List (String × Template.Value)),
    q.IgnoresPlaces ∧ (∀ k l e, values (e.move k l) = values e) ∧
      ∀ d, c d = (d.select q).map fun e => .of e (values e)

/-- The criterion asks for each of the items, and objects for those that no
element satisfies the query of. -/
structure Criterion.AsksFor {α : Type} (c : Criterion) (items : List α)
    (q : α → Query) (values : α → List (String × Template.Value)) : Prop where
  eq : ∀ d, c d = (items.filter fun item =>
    !someElement d (q item)).map fun item => { values := values item }
  query : ∀ item, (q item).IgnoresPlaces

/-- Other lines in a document make for other lines in the violations and nothing
else. -/
def Criterion.FollowsLines (c : Criterion) : Prop :=
  ∀ l f, c ⟨Forest.mapLines l f⟩ = (c ⟨f⟩).map (Violation.mapLine l)

/-!
## Queries of the rules
-/

theorem ignoresPlaces_textContains (part : String) :
    (Query.textContains part).IgnoresPlaces := by
  intro k l e
  rw [Query.textContains, Element.text_move]
  rfl

theorem ignoresPlaces_hasVisibleText : Query.IgnoresPlaces hasVisibleText := by
  intro k l e
  rw [hasVisibleText, Element.words_move]
  rfl

theorem ignoresPlaces_isNamedInside : Query.IgnoresPlaces isNamedInside := by
  apply Query.IgnoresPlaces.any
  simp only [List.forall_mem_cons, List.not_mem_nil, false_implies,
    implies_true, and_true]
  exact ⟨.hasDescendant fun _ _ _ => rfl, .hasDescendant fun _ _ _ => rfl⟩

theorem ignoresPlaces_hasTranscript : Query.IgnoresPlaces hasTranscript := by
  apply Query.IgnoresPlaces.any
  simp only [List.forall_mem_cons, List.not_mem_nil, false_implies,
    implies_true, and_true]
  exact ⟨fun _ _ _ => rfl, fun _ _ _ => rfl, fun _ _ _ => rfl,
    .hasDescendant fun _ _ _ => rfl⟩

theorem ignoresPlaces_isLabelled : Query.IgnoresPlaces isLabelled := by
  apply Query.IgnoresPlaces.any
  simp only [List.forall_mem_cons, List.not_mem_nil, false_implies,
    implies_true, and_true]
  exact ⟨fun _ _ _ => rfl, .hasAncestor fun _ _ _ => rfl⟩

theorem ignoresPlaces_isInFooter : Query.IgnoresPlaces isInFooter :=
  .hasAncestor fun _ _ _ => rfl

/-!
## Rules that look at each element alone
-/

theorem isElementwise_filter {q p : Query}
    {values : Element → List (String × Template.Value)} (hq : q.IgnoresPlaces)
    (hp : p.IgnoresPlaces) (hvalues : ∀ k l e, values (e.move k l) = values e) :
    Criterion.IsElementwise fun d => ((d.select q).filter p).map fun e =>
      .of e (values e) := by
  refine ⟨fun e => p e && q e, values, hp.and hq, hvalues, ?_⟩
  intro d
  simp only [Document.select, List.filter_filter]

theorem isElementwise_linkNames : linkNames.IsElementwise :=
  isElementwise_filter (fun _ _ _ => rfl)
    (.not (.or (.or ignoresPlaces_hasVisibleText fun _ _ _ =>
      rfl) ignoresPlaces_isNamedInside)) fun _ _ _ => rfl

theorem isElementwise_imageTexts : imageTexts.IsElementwise :=
  isElementwise_filter (fun _ _ _ => rfl) (fun _ _ _ => rfl) fun _ _ _ => rfl

theorem isElementwise_tableHeaders : tableHeaders.IsElementwise :=
  isElementwise_filter (fun _ _ _ =>
    rfl) (.not (.or (fun _ _ _ => rfl) (.hasDescendant fun _ _ _ => rfl)))
    fun _ _ _ => rfl

theorem isElementwise_mediaTexts : mediaTexts.IsElementwise :=
  isElementwise_filter (fun _ _ _ =>
    rfl) (.not ignoresPlaces_hasTranscript) fun _ _ _ => rfl

theorem isElementwise_buttonNames : buttonNames.IsElementwise :=
  isElementwise_filter (fun _ _ _ =>
    rfl) (.not (.or ignoresPlaces_hasVisibleText fun _ _ _ => rfl))
    fun _ _ _ => rfl

theorem isElementwise_clickableContainers : clickableContainers.IsElementwise :=
  ⟨_, fun _ => [], fun _ _ _ => rfl, fun _ _ _ => rfl, fun _ => rfl⟩

theorem isElementwise_nestedInteractive : nestedInteractive.IsElementwise :=
  isElementwise_filter (fun _ _ _ => rfl) (.hasAncestor fun _ _ _ =>
    rfl) fun _ _ _ => rfl

theorem isElementwise_knownRoles : knownRoles.IsElementwise :=
  isElementwise_filter (fun _ _ _ => rfl) (fun _ _ _ => rfl) fun _ _ _ => rfl

theorem isElementwise_expandedControls : expandedControls.IsElementwise :=
  isElementwise_filter (fun _ _ _ => rfl) (fun _ _ _ => rfl) fun _ _ _ => rfl

theorem Criterion.IsElementwise.followsLines {c : Criterion}
    (h : c.IsElementwise) : c.FollowsLines := by
  rcases h with ⟨q, values, hq, hvalues, hc⟩
  intro l f
  rw [hc, hc, select_mapLines hq, List.map_map, List.map_map]
  apply List.map_congr_left
  intro e _
  simp only [Function.comp_apply, hvalues, Violation.of_move]

/-!
## Rules that ask for something
-/

theorem someElement_mapLines {q : Query} (hq : q.IgnoresPlaces)
    (l : WritableInt → Option WritableInt) (f : Forest) :
    someElement ⟨f.mapLines l⟩ q = someElement ⟨f⟩ q := by
  rw [someElement, Document.elements_mapLines, hq.any_map]
  rfl

theorem asksFor_unlessHolds {q : Query} (hq : q.IgnoresPlaces) :
    Criterion.AsksFor (fun d => unlessHolds (someElement d q)) [()] (fun _ =>
      q) fun _ => [] where
  eq := by
    intro d
    cases someElement d q with
    | false => rfl
    | true => rfl
  query := fun _ => hq

theorem ignoresPlaces_skipLink :
    (Query.all [.tag ["a"],
      .attributeIs "href" (some ("#" ++ Catalog.mainContentId)),
      .any [.hasClass ["skip-link"], .textContains "Skip"]]).IgnoresPlaces := by
  apply Query.IgnoresPlaces.all
  simp only [List.forall_mem_cons, List.not_mem_nil, false_implies,
    implies_true, and_true]
  refine ⟨fun _ _ _ => rfl, fun _ _ _ => rfl, ?_⟩
  apply Query.IgnoresPlaces.any
  simp only [List.forall_mem_cons, List.not_mem_nil, false_implies,
    implies_true, and_true]
  exact ⟨fun _ _ _ => rfl, ignoresPlaces_textContains "Skip"⟩

theorem ignoresPlaces_helpLink :
    (Query.all [.tag ["a"],
      .any [.attributeContains "href" "accessibility-help",
      .textContains "Report an accessibility issue"]]).IgnoresPlaces := by
  apply Query.IgnoresPlaces.all
  simp only [List.forall_mem_cons, List.not_mem_nil, false_implies,
    implies_true, and_true]
  refine ⟨fun _ _ _ => rfl, ?_⟩
  apply Query.IgnoresPlaces.any
  simp only [List.forall_mem_cons, List.not_mem_nil, false_implies,
    implies_true, and_true]
  exact ⟨fun _ _ _ => rfl, ignoresPlaces_textContains _⟩

theorem asksFor_landmarks :
    landmarks.AsksFor Catalog.landmarks isLandmark fun l =>
      [("landmark", .text l.name)] where
  eq := fun _ => rfl
  query := fun _ _ _ _ => rfl

def isFooterLink (destination : String) : Query := fun e =>
  (isInFooter e && Query.tag ["a"] e) &&
    Text.isPartOf destination (e.getText "href")

theorem asksFor_footerLinks :
    footerLinks.AsksFor Catalog.footerLinks isFooterLink fun link =>
      [("link", .text link)] where
  eq := by
    intro d
    simp only [footerLinks, Document.select, List.filter_filter, List.any_map,
      List.any_filter]
    rfl
  query := by
    intro destination k l e
    rw [isFooterLink, ignoresPlaces_isInFooter k l e]
    rfl

section AsksFor

variable {α : Type} {c : Criterion} {items : List α} {q : α → Query}
  {values : α → List (String × Template.Value)}

theorem Criterion.AsksFor.followsLines (h : c.AsksFor items q values) :
    c.FollowsLines := by
  intro l f
  rw [h.eq, h.eq, List.map_map]
  simp only [someElement_mapLines (h.query _)]
  rfl

end AsksFor

/-!
## The other rules
-/

theorem root?_mapLines (l : WritableInt → Option WritableInt) (f : Forest) :
    Document.root? ⟨f.mapLines l⟩ =
      (Document.root? ⟨f⟩).map (Element.move 0 l) := by
  rw [Document.root?, Document.elements_mapLines, List.find?_map]
  rfl

theorem followsLines_language : language.FollowsLines := by
  intro l f
  rw [language, language, root?_mapLines]
  cases Document.root? ⟨f⟩ with
  | none => rfl
  | some root =>
      show (if Query.nonblank "lang" root then [] else _) =
        (if Query.nonblank "lang" root then [] else _).map (Violation.mapLine l)
      split
      · rfl
      · rfl

theorem followsLines_singleMainHeading : singleMainHeading.FollowsLines := by
  intro l f
  rw [singleMainHeading, singleMainHeading, select_mapLines fun _ _ _ => rfl]
  rcases Document.select ⟨f⟩ (.tag ["h1"]) with _ | ⟨first, _ | ⟨second, rest⟩⟩
  · rfl
  · rfl
  · rfl

theorem skippedLevels_move (k : Nat) (l : WritableInt → Option WritableInt)
    (last : Nat) (es : List Element) :
    skippedLevels last (es.map (Element.move k l)) =
      (skippedLevels last es).map (Violation.mapLine l) := by
  induction es generalizing last with
  | nil => rfl
  | cons e es ih =>
      have hlevel : headingLevel (e.move k l) = headingLevel e := rfl
      simp only [List.map_cons, skippedLevels, hlevel, ih]
      split
      · rfl
      · rfl

theorem followsLines_headingOrder : headingOrder.FollowsLines := by
  intro l f
  rw [headingOrder, headings, select_mapLines fun _ _ _ => rfl,
    skippedLevels_move]
  rfl

theorem repeatedIds_move (k : Nat) (l : WritableInt → Option WritableInt)
    (seen : List String) (es : List Element) :
    repeatedIds seen (es.map (Element.move k l)) =
      (repeatedIds seen es).map (Violation.mapLine l) := by
  induction es generalizing seen with
  | nil => rfl
  | cons e es ih =>
      simp only [List.map_cons, repeatedIds, Element.getText_move, ih]
      split
      · rfl
      · rfl

theorem followsLines_uniqueIds : uniqueIds.FollowsLines := by
  intro l f
  rw [uniqueIds, select_mapLines fun _ _ _ => rfl, repeatedIds_move]
  rfl

theorem labelTargets_mapLines (l : WritableInt → Option WritableInt)
    (f : Forest) :
    labelTargets ⟨f.mapLines l⟩ = labelTargets ⟨f⟩ := by
  rw [labelTargets, select_mapLines fun _ _ _ => rfl, List.map_map]
  rfl

theorem ignoresPlaces_lacksLabel (targets : List String) :
    Query.IgnoresPlaces fun e =>
      !(needsNoLabel e || isTarget targets e || isLabelled e) :=
  .not (.or (fun _ _ _ => rfl) ignoresPlaces_isLabelled)

theorem followsLines_formLabels : formLabels.FollowsLines := by
  intro l f
  have h : Criterion.IsElementwise fun d =>
      violations ((d.select (.tag ["input", "select", "textarea"])).filter
      fun e =>
        !(needsNoLabel e || isTarget (labelTargets ⟨f⟩) e || isLabelled e)) :=
    isElementwise_filter (fun _ _ _ =>
      rfl) (ignoresPlaces_lacksLabel (labelTargets ⟨f⟩)) fun _ _ _ => rfl
  simp only [formLabels, labelTargets_mapLines]
  exact h.followsLines l f

theorem styleSources_mapLines (l : WritableInt → Option WritableInt)
    (f : Forest) :
    styleSources ⟨f.mapLines l⟩ = (styleSources ⟨f⟩).map fun s =>
      (s.1.move 0 l, s.2) := by
  rw [styleSources, select_mapLines fun _ _ _ => rfl,
    select_mapLines fun _ _ _ => rfl]
  simp only [styleSources, List.map_append, List.map_map]
  congr 1
  apply List.map_congr_left
  intro e _
  simp only [Function.comp_apply, Element.text_move]

theorem followsLines_focusOutline : focusOutline.FollowsLines := by
  intro l f
  simp only [focusOutline, styleSources_mapLines, List.filter_map, List.any_map,
    Function.comp_def]
  cases (styleSources ⟨f⟩).filter fun s => suppressesOutline s.2.toList with
  | nil => rfl
  | cons offender rest =>
      simp only [List.map_cons]
      split
      · rfl
      · rfl

/-!
## The check
-/

theorem criteria_followLines : ∀ entry ∈ criteria, entry.2.FollowsLines := by
  simp only [criteria, List.forall_mem_cons, List.not_mem_nil, false_implies,
    implies_true, and_true]
  exact ⟨followsLines_language,
    (asksFor_unlessHolds ignoresPlaces_skipLink).followsLines,
    (asksFor_unlessHolds fun _ _ _ => rfl).followsLines,
    asksFor_landmarks.followsLines,
    (asksFor_unlessHolds fun _ _ _ => rfl).followsLines,
    (asksFor_unlessHolds fun _ _ _ => rfl).followsLines,
    asksFor_footerLinks.followsLines,
    (asksFor_unlessHolds ignoresPlaces_helpLink).followsLines,
    followsLines_singleMainHeading,
    (asksFor_unlessHolds fun _ _ _ => rfl).followsLines,
    followsLines_headingOrder, followsLines_uniqueIds,
    isElementwise_linkNames.followsLines,
    isElementwise_imageTexts.followsLines,
    isElementwise_tableHeaders.followsLines,
    isElementwise_mediaTexts.followsLines, followsLines_formLabels,
    isElementwise_buttonNames.followsLines,
    fun _ _ => rfl, followsLines_focusOutline, fun _ _ =>
      rfl, isElementwise_clickableContainers.followsLines,
    isElementwise_nestedInteractive.followsLines,
    isElementwise_knownRoles.followsLines,
    isElementwise_expandedControls.followsLines⟩

def mapLine (l : WritableInt → Option WritableInt) (x : Finding) : Finding :=
  { x with line := x.line.bind l }

/-- The findings on a document with other lines are the same with other
lines. -/
theorem check_mapLines (l : WritableInt → Option WritableInt) (f : Forest)
    (file : String) :
    check ⟨f.mapLines l⟩ file = (check ⟨f⟩ file).map (mapLine l) := by
  rw [check_eq, check_eq, List.map_flatMap]
  apply List.flatMap_congr
  intro r _
  rw [List.map_map]
  have hfollows : (criterionOf r.code).FollowsLines := by
    rw [criterionOf]
    cases hc : criteria.lookup r.code with
    | none => exact fun _ _ => rfl
    | some c => exact criteria_followLines _ (mem_criteria_of_lookup hc)
  rw [hfollows, List.map_map]
  rfl

end Rules
end SiteAudit
