import Mathlib.Data.List.Nodup
import SiteAudit.Proofs.Rules.Conditions
import SiteAudit.Proofs.Rules.Findings

/-!
# Compliant pages

A page is compliant just when nothing is found on it: each rule is silent
exactly on the pages that meet its condition.
-/

namespace SiteAudit
namespace Rules

open Markup

theorem nodup_codes_criteria : (criteria.map (·.1)).Nodup := by
  simp only [criteria, List.map_cons, List.map_nil]
  decide

theorem criterionOf_of_mem {code : String} {c : Criterion}
    (h : (code, c) ∈ criteria) : criterionOf code = c := by
  have hlookup : criteria.lookup code = some c := by
    have hnodup := nodup_codes_criteria
    generalize criteria = entries at h hnodup
    induction entries with
    | nil => cases h
    | cons entry entries ih =>
        rw [List.map_cons, List.nodup_cons] at hnodup
        rcases hnodup with ⟨hfresh, hrest⟩
        rw [List.mem_cons] at h
        rcases h with rfl | hmem
        · rw [List.lookup_cons_self]
        · have hne : (code == entry.1) = false := by
            rw [beq_eq_false_iff_ne]
            intro hgiven
            subst hgiven
            exact hfresh (List.mem_map.2 ⟨_, hmem, rfl⟩)
          rw [List.lookup_cons, hne]
          exact ih hmem hrest
  rw [criterionOf, hlookup]
  rfl

/-- Nothing is found just when no criterion objects. -/
theorem check_eq_nil_iff_criteria (d : Document) (file : String) :
    check d file = [] ↔ ∀ entry ∈ criteria, entry.2 d = [] := by
  rw [check_eq, List.flatMap_eq_nil_iff]
  constructor
  · intro h entry hmem
    cases entry with
    | mk code c =>
        rcases exists_rule_of_mem hmem with ⟨r, hr, hcode⟩
        have hnone := List.map_eq_nil_iff.1 (h r hr)
        rw [hcode, criterionOf_of_mem hmem] at hnone
        exact hnone
  · intro h r _
    rw [List.map_eq_nil_iff, criterionOf]
    cases hc : criteria.lookup r.code with
    | none => rfl
    | some c => exact h (r.code, c) (mem_criteria_of_lookup hc)

/-!
## Rules that miss something
-/

theorem unlessHolds_eq_nil_iff {condition : Bool} :
    unlessHolds condition = [] ↔ condition = true := by
  cases condition with
  | false =>
      constructor
      · intro h
        cases h
      · intro h
        cases h
  | true =>
      constructor
      · intro _
        rfl
      · intro _
        rfl

theorem someElement_iff {d : Document} {q : Query} {p : Element → Prop}
    (h : ∀ e, q e = true ↔ p e) :
    someElement d q = true ↔ ∃ e ∈ d.elements, p e := by
  rw [someElement, List.any_eq_true]
  simp only [h]

theorem isLink_iff {e : Element} : Query.tag ["a"] e = true ↔ e.tag = "a" :=
  Query.tag_singleton_iff (by decide)

theorem isLabel_iff {e : Element} :
    Query.tag ["label"] e = true ↔ e.tag = "label" :=
  Query.tag_singleton_iff (by decide)

theorem language_eq_nil_iff {d : Document} :
    language d = [] ↔ HasLanguage d := by
  unfold language HasLanguage
  cases hroot : d.root? with
  | none =>
      constructor
      · intro h
        cases h
      · intro hgiven
        rcases hgiven with ⟨before, root, after, helements, _, hname, _⟩
        have hnone := List.find?_eq_none.1 hroot root (by rw [helements]; simp)
        exact absurd (beq_iff_eq.2 hname) hnone
  | some root =>
      rcases List.find?_eq_some_iff_append.1 hroot with
        ⟨hname, before, after, helements, hbefore⟩
      have hfirst : ∀ e ∈ before, e.subtree.name ≠ "html" := by
        intro e he
        simpa using hbefore e he
      constructor
      · intro h
        refine ⟨before, root, after, helements, hfirst, beq_iff_eq.1 hname, ?_⟩
        by_contra hblank
        rw [← Query.nonblank_iff] at hblank
        simp only [hblank] at h
        cases h
      · intro hgiven
        rcases hgiven with
          ⟨before', root', after', helements', hfirst', hname', hlang⟩
        have hsome : d.root? = some root' := by
          apply List.find?_eq_some_iff_append.2
          refine ⟨beq_iff_eq.2 hname', before', after', helements', ?_⟩
          intro e he
          simpa using hfirst' e he
        rw [hroot, Option.some.injEq] at hsome
        subst hsome
        rw [← Query.nonblank_iff] at hlang
        simp only [hlang, if_true]

theorem skipLink_eq_nil_iff {d : Document} :
    skipLink d = [] ↔ HasSkipLink d := by
  rw [skipLink, unlessHolds_eq_nil_iff]
  apply someElement_iff
  intro e
  simp only [Query.all_cons_iff, Query.all_nil_iff, Query.any_cons_iff,
    Query.any_nil_iff, isLink_iff, Query.attributeIs_iff,
    Query.hasClass_singleton_iff, Query.textContains_iff, and_true, or_false]
  rfl

theorem skipTarget_eq_nil_iff {d : Document} :
    skipTarget d = [] ↔ HasSkipTarget d := by
  rw [skipTarget, unlessHolds_eq_nil_iff]
  apply someElement_iff
  intro e
  exact Query.attributeIs_iff

theorem isLandmark_iff {l : Catalog.Landmark} (hl : l ∈ Catalog.landmarks)
    {e : Element} :
    isLandmark l e = true ↔ e.tag = l.tag ∨ e.get "role" = some l.role := by
  have hsmall : ∀ l ∈ Catalog.landmarks, Text.lower l.tag = l.tag := by decide
  simp only [isLandmark, Query.any_cons_iff, Query.any_nil_iff,
    Query.tag_singleton_iff (hsmall l hl), Query.attributeIs_iff, or_false]

theorem landmarks_eq_nil_iff {d : Document} :
    landmarks d = [] ↔ HasLandmarks d := by
  have hcatalog : ∀ p : String × String → Prop,
      (∀ landmark ∈ [("header", "banner"), ("main", "main"),
        ("footer", "contentinfo")], p landmark) ↔
        ∀ l ∈ Catalog.landmarks, p (l.tag, l.role) := by
    intro p
    simp only [Catalog.landmarks, List.forall_mem_cons]
    simp
  rw [landmarks, List.map_eq_nil_iff, List.filter_eq_nil_iff, HasLandmarks,
    hcatalog]
  apply forall₂_congr
  intro l hl
  rw [Bool.not_eq_true, Bool.not_eq_false']
  exact someElement_iff fun e => isLandmark_iff hl

theorem component_eq_nil_iff {d : Document} {name : String} :
    unlessHolds (someElement d (.hasClass [name])) = [] ↔
      HasComponent d name := by
  rw [unlessHolds_eq_nil_iff]
  apply someElement_iff
  intro e
  exact Query.hasClass_singleton_iff

theorem isInFooter_iff {d : Document} {e : Element} (he : e ∈ d.elements) :
    isInFooter e = true ↔
      ∃ footer ∈ d.elements,
        (footer.tag = "footer" ∨ "brand-footer" ∈ footer.classes) ∧
        e ∈ footer.descendants := by
  rw [isInFooter, Query.hasAncestor_iff, ← exists_ancestor_iff he]
  simp only [Query.any_cons_iff, Query.any_nil_iff,
    Query.hasClass_singleton_iff, or_false,
    Query.tag_singleton_iff (by decide : Text.lower "footer" = "footer")]

theorem footerLinks_eq_nil_iff {d : Document} :
    footerLinks d = [] ↔ HasFooterLinks d := by
  simp only [footerLinks]
  rw [List.map_eq_nil_iff, List.filter_eq_nil_iff]
  apply forall₂_congr
  intro link _
  rw [Bool.not_eq_true, Bool.not_eq_false', List.any_eq_true]
  simp only [List.mem_map, List.mem_filter, Document.select, Text.isPartOf,
    exists_exists_and_eq_and]
  constructor
  · intro h
    rcases h with ⟨e, ⟨⟨he, htag⟩, hfooter⟩, hpart⟩
    rcases (isInFooter_iff he).1 hfooter with ⟨footer, hmem, hkind, hinside⟩
    exact ⟨footer, hmem, hkind, e, hinside, isLink_iff.1 htag,
      isPartOf_iff.1 hpart⟩
  · intro h
    rcases h with ⟨footer, hmem, hkind, e, hinside, htag, hpart⟩
    have he : e ∈ d.elements := mem_elements_of_mem_descendants hmem hinside
    exact ⟨e, ⟨⟨he, isLink_iff.2 htag⟩,
      (isInFooter_iff he).2 ⟨footer, hmem, hkind, hinside⟩⟩,
      isPartOf_iff.2 hpart⟩

theorem helpLink_eq_nil_iff {d : Document} :
    helpLink d = [] ↔ HasHelpLink d := by
  rw [helpLink, unlessHolds_eq_nil_iff]
  apply someElement_iff
  intro e
  simp only [Query.all_cons_iff, Query.all_nil_iff, Query.any_cons_iff,
    Query.any_nil_iff, isLink_iff, Query.attributeContains_iff,
    Query.textContains_iff, and_true, or_false]

/-!
## Headings and identifiers
-/

theorem mainHeading_eq_nil_iff {d : Document} :
    singleMainHeading d = [] ∧ mainHeading d = [] ↔ HasOneMainHeading d := by
  have hmem :
      ∀ e, e ∈ d.select (.tag ["h1"]) ↔ e ∈ d.elements ∧ e.tag = "h1" := by
    intro e
    rw [Document.select, List.mem_filter, Query.tag_singleton_iff (by decide)]
  have hnodup : (d.select (.tag ["h1"])).Nodup := (inOrder_select d _).nodup
  have hsome : mainHeading d = [] ↔ d.select (.tag ["h1"]) ≠ [] := by
    rw [mainHeading, unlessHolds_eq_nil_iff, someElement, Document.select,
      ne_eq, List.filter_eq_nil_iff, List.any_eq_true]
    simp only [not_forall, not_not, exists_prop]
  simp only [hsome, singleMainHeading, HasOneMainHeading, ← hmem]
  cases h : d.select (.tag ["h1"]) with
  | nil =>
      constructor
      · intro hgiven
        cases hgiven with
        | intro _ hne =>
            exact absurd rfl hne
      · intro hgiven
        rcases hgiven with ⟨e, he, _⟩
        cases he
  | cons first rest =>
      rw [h, List.nodup_cons] at hnodup
      cases rest with
      | nil =>
          constructor
          · intro _
            refine ⟨first, List.mem_cons_self, ?_⟩
            intro e he
            exact List.mem_singleton.1 he
          · intro _
            exact ⟨rfl, List.cons_ne_nil _ _⟩
      | cons second rest =>
          constructor
          · intro hgiven
            cases hgiven with
            | intro hnone _ =>
                cases hnone
          · intro hgiven
            rcases hgiven with ⟨e, _, hunique⟩
            have hfirst : first = e := hunique first List.mem_cons_self
            have hsecond : second = e :=
              hunique second (List.mem_cons_of_mem _ List.mem_cons_self)
            exfalso
            apply hnodup.1
            rw [hfirst, ← hsecond]
            exact List.mem_cons_self

theorem skippedLevels_eq_nil_iff {last : Nat} {es : List Element} :
    skippedLevels last es = [] ↔
      (∀ e ∈ es.head?, 0 < last → headingLevel e ≤ last + 1) ∧
        es.IsChain fun e e' => headingLevel e' ≤ headingLevel e + 1 := by
  induction es generalizing last with
  | nil =>
      constructor
      · intro _
        refine ⟨?_, List.isChain_nil⟩
        intro e he
        cases he
      · intro _
        rfl
  | cons e es ih =>
      have hpositive : 0 < headingLevel e := Nat.succ_pos _
      have hrest : skippedLevels (headingLevel e) es = [] ↔
          (e :: es).IsChain fun e e' =>
            headingLevel e' ≤ headingLevel e + 1 := by
        rw [ih, List.isChain_cons]
        simp only [hpositive, forall_const]
      rw [← hrest, skippedLevels]
      constructor
      · intro h
        split at h
        · cases h
        · rename_i hskip
          refine ⟨?_, h⟩
          intro e' he' hlast
          cases he'
          simp only [Bool.and_eq_true, decide_eq_true_eq] at hskip
          omega
      · intro hgiven
        rcases hgiven with ⟨hhead, hnone⟩
        have hskip : ¬ (decide (0 < last) &&
            decide (last + 1 < headingLevel e)) = true := by
          rw [Bool.and_eq_true, decide_eq_true_eq, decide_eq_true_eq]
          intro hgiven
          cases hgiven with
          | intro hlast hdeeper =>
              have hle := hhead e rfl hlast
              omega
        rw [if_neg hskip]
        exact hnone

theorem headingOrder_eq_nil_iff {d : Document} :
    headingOrder d = [] ↔ HasHeadingOrder d := by
  rw [headingOrder, skippedLevels_eq_nil_iff, HasHeadingOrder]
  constructor
  · intro hgiven
    cases hgiven with
    | intro _ h =>
        exact h
  · intro h
    exact ⟨fun e _ hzero => absurd hzero (Nat.lt_irrefl 0), h⟩

theorem repeatedIds_eq_nil_iff {seen : List String} {es : List Element} :
    repeatedIds seen es = [] ↔
      (∀ e ∈ es, e.getText "id" ∉ seen) ∧ (es.map (·.getText "id")).Nodup := by
  induction es generalizing seen with
  | nil =>
      constructor
      · intro _
        refine ⟨?_, List.nodup_nil⟩
        intro e he
        cases he
      · intro _
        rfl
  | cons e es ih =>
      simp only [repeatedIds, List.map_cons, List.nodup_cons,
        List.forall_mem_cons, List.contains_iff_mem]
      constructor
      · intro h
        split at h
        · cases h
        · rename_i hnew
          cases ih.1 h with
          | intro hrest hnodup =>
              have hother : e.getText "id" ∉ es.map (·.getText "id") := by
                intro hmem
                rcases List.mem_map.1 hmem with ⟨e', he', hid⟩
                exact hrest e' he' (by rw [hid]; exact List.mem_cons_self)
              exact ⟨⟨hnew, fun e' he' hmem =>
                hrest e' he' (List.mem_cons_of_mem _ hmem)⟩, hother, hnodup⟩
      · intro hgiven
        rcases hgiven with ⟨⟨hnew, hrest⟩, hother, hnodup⟩
        rw [if_neg hnew, ih]
        refine ⟨?_, hnodup⟩
        intro e' he' hmem
        cases List.mem_cons.1 hmem with
        | inl hid => exact hother (List.mem_map.2 ⟨e', he', hid⟩)
        | inr hseen => exact hrest e' he' hseen

theorem uniqueIds_eq_nil_iff {d : Document} :
    uniqueIds d = [] ↔ HasUniqueIds d := by
  have hnodup : (d.select (.hasAttribute "id")).Nodup :=
    (inOrder_select d _).nodup
  rw [uniqueIds, repeatedIds_eq_nil_iff, List.nodup_map_iff_inj_on hnodup]
  simp only [Document.select, List.mem_filter, Query.hasAttribute_iff]
  constructor
  · intro hgiven e he e' he' hid hid'
    cases hgiven with
    | intro _ h =>
        exact h e ⟨he, hid⟩ e' ⟨he', hid'⟩
  · intro h
    refine ⟨fun _ _ => List.not_mem_nil, ?_⟩
    intro e hgiven e' hother
    cases hgiven with
    | intro he hid =>
        rcases hother with ⟨he', hid'⟩
        exact h e he e' he' hid hid'

/-!
## Styles
-/

theorem mem_styleSources_iff {d : Document} {s : String} :
    (∃ source ∈ styleSources d, source.2 = s) ↔ IsStyleSheet d s := by
  simp only [styleSources, Document.select, List.mem_append, List.mem_map,
    List.mem_filter, IsStyleSheet, Query.hasAttribute_iff,
    Query.tag_singleton_iff (by decide : Text.lower "style" = "style")]
  constructor
  · intro h
    rcases h with ⟨_, ⟨e, ⟨he, htag⟩, rfl⟩ | ⟨e, ⟨he, hattribute⟩, rfl⟩, rfl⟩
    · exact .inl ⟨e, he, htag, rfl⟩
    · exact .inr ⟨e, he, hattribute, rfl⟩
  · intro h
    rcases h with ⟨e, he, htag, rfl⟩ | ⟨e, he, hattribute, rfl⟩
    · exact ⟨(e, e.text), .inl ⟨e, ⟨he, htag⟩, rfl⟩, rfl⟩
    · exact ⟨(e, e.getText "style"), .inr ⟨e, ⟨he, hattribute⟩, rfl⟩, rfl⟩

theorem focusOutline_eq_nil_iff {d : Document} :
    focusOutline d = [] ↔ KeepsFocusVisible d := by
  have hremoved :
      (styleSources d).filter (fun s => suppressesOutline s.2.toList) = [] ↔
      ∀ s, IsStyleSheet d s → ¬ RemovesOutline s.toList := by
    rw [List.filter_eq_nil_iff]
    simp only [← mem_styleSources_iff, suppressesOutline_iff]
    constructor
    · intro h s hgiven
      rcases hgiven with ⟨source, hsource, rfl⟩
      exact h source hsource
    · intro h source hsource
      exact h source.2 ⟨source, hsource, rfl⟩
  have hshown :
      (styleSources d).any (fun s => replacesOutline s.2.toList) = true ↔
      ∃ s, IsStyleSheet d s ∧ ShowsFocus s.toList := by
    rw [List.any_eq_true]
    simp only [← mem_styleSources_iff, replacesOutline_iff]
    constructor
    · intro hgiven
      rcases hgiven with ⟨source, hsource, hshows⟩
      exact ⟨source.2, ⟨source, hsource, rfl⟩, hshows⟩
    · intro hgiven
      rcases hgiven with ⟨s, ⟨source, hsource, rfl⟩, hshows⟩
      exact ⟨source, hsource, hshows⟩
  rw [KeepsFocusVisible, ← hremoved, ← hshown]
  simp only [focusOutline]
  cases (styleSources d).filter (fun s => suppressesOutline s.2.toList) with
  | nil =>
      constructor
      · intro _
        exact .inl rfl
      · intro _
        rfl
  | cons offender rest =>
      show (if (styleSources d).any (fun s => replacesOutline s.2.toList) then
        []
        else [Violation.of offender.1 []]) = [] ↔ _
      constructor
      · intro h
        split at h
        · rename_i hany
          exact .inr hany
        · cases h
      · intro hgiven
        rcases hgiven with hnil | hany
        · cases hnil
        · rw [if_pos hany]

/-!
## Rules on elements
-/

theorem filter_select_eq_nil_iff {d : Document} {q : Query} {p : Element → Bool}
    {kind good : Element → Prop} (hkind : ∀ e, q e = true ↔ kind e)
    (hgood : ∀ e ∈ d.elements, p e = true ↔ good e) :
    (d.select q).filter (fun e => !p e) = [] ↔ ∀ e ∈ d.elements, kind e →
      good e := by
  rw [List.filter_eq_nil_iff, Document.select]
  simp only [List.mem_filter, hkind]
  constructor
  · intro h e he hk
    have hp := h e ⟨he, hk⟩
    rw [Bool.not_eq_true, Bool.not_eq_false'] at hp
    exact (hgood e he).1 hp
  · intro h e hgiven
    cases hgiven with
    | intro he hk =>
        rw [Bool.not_eq_true, Bool.not_eq_false']
        exact (hgood e he).2 (h e he hk)

theorem hasVisibleText_iff {e : Element} :
    hasVisibleText e = true ↔ e.text ≠ "" := by
  rw [hasVisibleText, ne_eq, text_eq_empty_iff, Bool.not_eq_true',
    List.isEmpty_eq_false_iff]

theorem hasAriaLabel_iff {e : Element} :
    hasAriaLabel e = true ↔ HasAriaName e := by
  rw [hasAriaLabel, Query.any_cons_iff, Query.any_cons_iff, Query.any_nil_iff,
    Query.nonblank_iff, Query.nonblank_iff, or_false]
  rfl

theorem isNamedInside_iff {e : Element} :
    isNamedInside e = true ↔
      (∃ i ∈ e.descendants, i.tag = "img" ∧ i.has "alt" = true) ∨
      ∃ i ∈ e.descendants, "visually-hidden" ∈ i.classes ∨
        "sr-only" ∈ i.classes := by
  simp only [isNamedInside, Query.any_cons_iff, Query.any_nil_iff,
    Query.hasDescendant_iff, Query.all_cons_iff, Query.all_nil_iff,
    Query.tag_singleton_iff (by decide : Text.lower "img" = "img"),
    Query.hasAttribute_iff, Query.hasClass_iff, List.mem_cons, List.not_mem_nil,
    exists_eq_or_imp, exists_eq_left, and_true, or_false]

theorem linkNames_eq_nil_iff {d : Document} :
    linkNames d = [] ↔ ∀ e ∈ d.elements, e.tag = "a" → IsNamedLink e := by
  rw [linkNames, violations, List.map_eq_nil_iff]
  apply filter_select_eq_nil_iff
  · intro e
    exact isLink_iff
  · intro e _
    rw [Bool.or_eq_true, Bool.or_eq_true, hasVisibleText_iff, hasAriaLabel_iff,
      isNamedInside_iff, or_assoc]
    rfl

theorem isDecorative_iff {e : Element} :
    isDecorative e = true ↔ IsDecoration e := by
  rw [isDecorative, List.contains_iff_mem, decorativeRoles, List.mem_cons,
    List.mem_singleton]
  rfl

theorem imageTexts_eq_nil_iff {d : Document} :
    imageTexts d = [] ↔ ∀ e ∈ d.elements, e.tag = "img" →
      IsDescribedImage e := by
  rw [imageTexts, violations, List.map_eq_nil_iff]
  apply filter_select_eq_nil_iff
  · intro e
    exact Query.tag_singleton_iff (by decide)
  · intro e _
    rw [Bool.or_eq_true, Bool.or_eq_true, isDecorative_iff, isAriaHidden,
      beq_iff_eq, or_assoc]
    rfl

theorem tableHeaders_eq_nil_iff {d : Document} :
    tableHeaders d = [] ↔ ∀ e ∈ d.elements, e.tag = "table" →
      IsTableWithHeaders e := by
  rw [tableHeaders, violations, List.map_eq_nil_iff]
  apply filter_select_eq_nil_iff
  · intro e
    exact Query.tag_singleton_iff (by decide)
  · intro e _
    rw [Bool.or_eq_true, isDecorative_iff, Query.hasDescendant_iff]
    simp only [Query.tag_singleton_iff (by decide : Text.lower "th" = "th")]
    rfl

theorem isCaptionTrack_iff {e : Element} :
    isCaptionTrack e = true ↔
      e.tag = "track" ∧ (plainText e "kind" = "captions" ∨
        plainText e "kind" = "subtitles") := by
  rw [isCaptionTrack, Bool.and_eq_true, Query.tag_singleton_iff (by decide),
    List.contains_iff_mem, captionKinds, List.mem_cons, List.mem_singleton]
  rfl

theorem mediaTexts_eq_nil_iff {d : Document} :
    mediaTexts d = [] ↔ ∀ e ∈ d.elements, e.tag = "audio" ∨ e.tag = "video" →
      IsDescribedMedium e := by
  rw [mediaTexts, violations, List.map_eq_nil_iff]
  apply filter_select_eq_nil_iff
  · intro e
    rw [Query.tag_iff (by decide), List.mem_cons, List.mem_singleton]
  · intro e _
    simp only [hasTranscript, Query.any_cons_iff, Query.any_nil_iff,
      Query.hasAttribute_iff, Query.nonblank_iff, Query.hasDescendant_iff,
      isCaptionTrack_iff, or_false]
    rfl

theorem isTarget_iff {d : Document} {e : Element} :
    isTarget (labelTargets d) e = true ↔
      ∃ id, id ≠ "" ∧ e.get "id" = some id ∧ ∃ l ∈ d.elements, l.tag = "label" ∧
        l.get "for" = some id := by
  have htarget : ∀ id, id ≠ "" →
      (id ∈ labelTargets d ↔
        ∃ l ∈ d.elements, l.tag = "label" ∧ l.get "for" = some id) := by
    intro id hid
    simp only [labelTargets, Document.select, List.mem_map, List.mem_filter,
      Query.all_cons_iff, Query.all_nil_iff, isLabel_iff,
      Query.hasAttribute_iff, and_true]
    constructor
    · intro h
      rcases h with ⟨l, ⟨hl, htag, _⟩, hfor⟩
      exact ⟨l, hl, htag, (getText_eq_iff hid).1 hfor⟩
    · intro h
      rcases h with ⟨l, hl, htag, hfor⟩
      exact ⟨l, ⟨hl, htag, has_of_get hfor⟩, (getText_eq_iff hid).2 hfor⟩
  rw [isTarget, Bool.and_eq_true, bne_iff_ne, List.contains_iff_mem]
  constructor
  · intro h
    cases h with
    | intro hne hmem =>
        exact ⟨e.getText "id", hne, (getText_eq_iff hne).1 rfl,
          (htarget _ hne).1 hmem⟩
  · intro h
    rcases h with ⟨id, hne, hget, hlabel⟩
    have hid : e.getText "id" = id := (getText_eq_iff hne).2 hget
    rw [hid]
    exact ⟨hne, (htarget id hne).2 hlabel⟩

theorem isLabelledControl_iff {d : Document} {e : Element}
    (he : e ∈ d.elements) :
    (needsNoLabel e || isTarget (labelTargets d) e || isLabelled e) = true ↔
      IsLabelledControl d e := by
  have haround : Query.hasAncestor (.tag ["label"]) e = true ↔
      ∃ l ∈ d.elements, l.tag = "label" ∧ e ∈ l.descendants := by
    rw [Query.hasAncestor_iff, ← exists_ancestor_iff he]
    simp only [isLabel_iff]
  rw [Bool.or_eq_true, Bool.or_eq_true, isTarget_iff, isLabelled,
    Query.any_cons_iff, Query.any_cons_iff, Query.any_nil_iff, hasAriaLabel_iff,
    haround, or_false, needsNoLabel, List.contains_iff_mem, or_assoc]
  rfl

theorem formLabels_eq_nil_iff {d : Document} :
    formLabels d = [] ↔ ∀ e ∈ d.elements,
      e.tag ∈ ["input", "select", "textarea"] → IsLabelledControl d e := by
  simp only [formLabels]
  rw [violations, List.map_eq_nil_iff]
  apply filter_select_eq_nil_iff
  · intro e
    exact Query.tag_iff (by decide)
  · intro e he
    exact isLabelledControl_iff he

theorem buttonNames_eq_nil_iff {d : Document} :
    buttonNames d = [] ↔
      ∀ e ∈ d.elements, e.tag = "button" ∨ plainText e "role" = "button" →
        IsNamedButton e := by
  rw [buttonNames, violations, List.map_eq_nil_iff]
  apply filter_select_eq_nil_iff
  · intro e
    rw [isButton, Bool.or_eq_true, beq_iff_eq, beq_iff_eq]
    rfl
  · intro e _
    rw [Bool.or_eq_true, hasVisibleText_iff, hasAriaLabel_iff]
    rfl

theorem clickableContainers_eq_nil_iff {d : Document} :
    clickableContainers d = [] ↔
      ∀ e ∈ d.elements,
        e.tag ∈ ["div", "span", "p", "li", "section", "article", "td"] →
        e.has "onclick" = false := by
  rw [clickableContainers, violations, List.map_eq_nil_iff, Document.select,
    List.filter_eq_nil_iff]
  apply forall₂_congr
  intro e _
  rw [Query.all_cons_iff, Query.all_cons_iff, Query.all_nil_iff,
    Query.tag_iff (by decide), Query.hasAttribute_iff, and_true, not_and,
    Bool.not_eq_true]
  rfl

theorem isInteractive_iff {e : Element} :
    isInteractive e = true ↔ IsLinkOrButton e := by
  rw [isInteractive, Query.tag_iff (by decide), List.mem_cons,
    List.mem_singleton]
  rfl

theorem nestedInteractive_eq_nil_iff {d : Document} :
    nestedInteractive d = [] ↔
      ∀ e ∈ d.elements, IsLinkOrButton e →
        ∀ i ∈ e.descendants, ¬ IsLinkOrButton i := by
  rw [nestedInteractive, violations, List.map_eq_nil_iff,
    List.filter_eq_nil_iff]
  simp only [Document.select, List.mem_filter, isInteractive_iff,
    Query.hasAncestor_iff]
  constructor
  · intro h e he hinteractive i hi hinner
    have hmem : i ∈ d.elements := mem_elements_of_mem_descendants he hi
    exact h i ⟨hmem, hinner⟩ ⟨e, mem_ancestors_of_mem_descendants hi,
      hinteractive⟩
  · intro h i hgiven hother
    cases hgiven with
    | intro hmem hinner =>
        rcases hother with ⟨e, he, hinteractive⟩
        rcases (mem_ancestors_iff hmem).1 he with ⟨helement, hi⟩
        exact h e helement hinteractive i hi hinner

theorem isValidRole_iff {value : String} :
    isValidRole value = true ↔
      Text.wordsOf value ≠ [] ∧
        ∀ w ∈ Text.wordsOf value, w ∈ Catalog.validRoles := by
  rw [isValidRole, Bool.and_eq_true, Bool.not_eq_true',
    List.isEmpty_eq_false_iff, List.all_eq_true]
  simp only [List.contains_iff_mem]

theorem knownRoles_eq_nil_iff {d : Document} :
    knownRoles d = [] ↔ ∀ e ∈ d.elements, e.has "role" = true →
      HasKnownRole e := by
  rw [knownRoles, List.map_eq_nil_iff]
  apply filter_select_eq_nil_iff
  · intro e
    exact Query.hasAttribute_iff
  · intro e _
    exact isValidRole_iff

theorem expandedControls_eq_nil_iff {d : Document} :
    expandedControls d = [] ↔ ∀ e ∈ d.elements, e.has "aria-expanded" = true →
      e.HasText "aria-controls" := by
  rw [expandedControls, List.map_eq_nil_iff]
  apply filter_select_eq_nil_iff
  · intro e
    exact Query.hasAttribute_iff
  · intro e _
    exact Query.nonblank_iff

/-- A page on which nothing is found is a compliant page, and the other way
round. -/
theorem check_eq_nil_iff (d : Document) (file : String) :
    check d file = [] ↔ Compliant d := by
  rw [check_eq_nil_iff_criteria]
  simp only [criteria, List.forall_mem_cons, List.not_mem_nil, false_implies,
    implies_true, and_true]
  constructor
  · intro hgiven
    rcases hgiven with
      ⟨hlanguage, hskipLink, hskipTarget, hlandmarks, hbrandBar, hbrandFooter,
        hfooterLinks, hhelpLink, hsingle, hmain, hheadings, hids, hlinks,
        himages, htables, hmedia, hcontrols, hbuttons, _, hfocus, _,
        hcontainers, hnesting, hroles, hexpansion⟩
    exact {
      language := language_eq_nil_iff.1 hlanguage
      skipLink := skipLink_eq_nil_iff.1 hskipLink
      skipTarget := skipTarget_eq_nil_iff.1 hskipTarget
      landmarks := landmarks_eq_nil_iff.1 hlandmarks
      brandBar := component_eq_nil_iff.1 hbrandBar
      brandFooter := component_eq_nil_iff.1 hbrandFooter
      footerLinks := footerLinks_eq_nil_iff.1 hfooterLinks
      helpLink := helpLink_eq_nil_iff.1 hhelpLink
      mainHeading := mainHeading_eq_nil_iff.1 ⟨hsingle, hmain⟩
      headingOrder := headingOrder_eq_nil_iff.1 hheadings
      uniqueIds := uniqueIds_eq_nil_iff.1 hids
      links := linkNames_eq_nil_iff.1 hlinks
      images := imageTexts_eq_nil_iff.1 himages
      tables := tableHeaders_eq_nil_iff.1 htables
      media := mediaTexts_eq_nil_iff.1 hmedia
      controls := formLabels_eq_nil_iff.1 hcontrols
      buttons := buttonNames_eq_nil_iff.1 hbuttons
      focus := focusOutline_eq_nil_iff.1 hfocus
      containers := clickableContainers_eq_nil_iff.1 hcontainers
      nesting := nestedInteractive_eq_nil_iff.1 hnesting
      roles := knownRoles_eq_nil_iff.1 hroles
      expansion := expandedControls_eq_nil_iff.1 hexpansion }
  · intro h
    rcases mainHeading_eq_nil_iff.2 h.mainHeading with ⟨hsingle, hmain⟩
    exact ⟨language_eq_nil_iff.2 h.language, skipLink_eq_nil_iff.2 h.skipLink,
      skipTarget_eq_nil_iff.2 h.skipTarget, landmarks_eq_nil_iff.2 h.landmarks,
      component_eq_nil_iff.2 h.brandBar, component_eq_nil_iff.2 h.brandFooter,
      footerLinks_eq_nil_iff.2 h.footerLinks, helpLink_eq_nil_iff.2 h.helpLink,
      hsingle, hmain,
      headingOrder_eq_nil_iff.2 h.headingOrder,
      uniqueIds_eq_nil_iff.2 h.uniqueIds,
      linkNames_eq_nil_iff.2 h.links, imageTexts_eq_nil_iff.2 h.images,
      tableHeaders_eq_nil_iff.2 h.tables,
      mediaTexts_eq_nil_iff.2 h.media, formLabels_eq_nil_iff.2 h.controls,
      buttonNames_eq_nil_iff.2 h.buttons,
      rfl, focusOutline_eq_nil_iff.2 h.focus, rfl,
      clickableContainers_eq_nil_iff.2 h.containers,
      nestedInteractive_eq_nil_iff.2 h.nesting, knownRoles_eq_nil_iff.2 h.roles,
      expandedControls_eq_nil_iff.2 h.expansion⟩

end Rules
end SiteAudit
