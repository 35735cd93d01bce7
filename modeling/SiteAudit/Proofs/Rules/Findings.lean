import SiteAudit.Proofs.Catalog.Messages
import SiteAudit.Proofs.Rules.Kinds

/-!
# Findings and violations

No criterion of the catalog leaves out a value that the message of its rule asks
for, and none gives a value a reserved name.  So no check fails, and the
findings on a document are the violations of each rule, rule by rule in the
order of the catalog, with the messages filled in.  The findings with one code
are the violations of one rule.
-/

namespace SiteAudit
namespace Rules

open Markup

def Violation.finding (v : Violation) (r : Rule) (file : String) : Finding where
  file := file
  code := r.code
  message := r.filled v.values
  severity := r.severity
  line := v.line

def fieldNamesOf (code : String) : List String :=
  ((Catalog.rules.find? (·.code == code)).map Rule.fieldNames).getD []

/-- The criterion of the rule with the given code; a code without a criterion
has no violations. -/
def criterionOf (code : String) : Criterion :=
  (criteria.lookup code).getD fun _ => []

def findingsOf (code : String) (d : Document) (file : String) : List Finding :=
  (check d file).filter (·.code == code)

/-!
## The values that criteria supply
-/

theorem supplies_colorTokens : colorTokens.Supplies ["value"] := by
  intro d v hv
  cases hv

theorem fieldNamesOf_code {r : Rule} (hr : r ∈ Catalog.rules) :
    fieldNamesOf r.code = r.fieldNames := by
  have hfind : Catalog.rules.find? (·.code == r.code) = some r := by
    revert r
    decide
  rw [fieldNamesOf, hfind]
  rfl

theorem fieldNamesOf_of_find {code : String} {r : Rule} {cs : List Char}
    {names : List String}
    (hfind : Catalog.rules.find? (·.code == code) = some r)
    (hmessage : r.message = String.ofList cs)
    (hnames : (Template.piecesFrom [] cs).flatMap Template.Piece.names =
      names) : fieldNamesOf code = names := by
  rw [fieldNamesOf, hfind]
  exact Rule.fieldNames_of_message hmessage hnames

theorem fieldNamesOf_criteria :
    criteria.map (fun entry => fieldNamesOf entry.1) =
      [[], [], [], ["landmark"], [], [], ["link"], [], [], [], ["from", "to"],
        ["id"], [], [], [], [], [], [], ["value"], [], [], [], [], ["attr"],
        ["attr"]] := by
  rw [← List.forall₂_eq_eq_eq, List.forall₂_map_left_iff]
  unfold criteria
  repeat refine .cons (fieldNamesOf_of_find rfl rfl rfl) ?_
  exact .nil

theorem criteria_supply :
    ∀ entry ∈ criteria, entry.2.Supplies (fieldNamesOf entry.1) := by
  have h : List.Forall₂ Criterion.Supplies (criteria.map (·.2))
      (criteria.map fun entry => fieldNamesOf entry.1) := by
    rw [fieldNamesOf_criteria]
    simp only [criteria, List.map_cons, List.map_nil, List.forall₂_cons,
      List.forall₂_nil_left_iff, and_true]
    exact ⟨objectsOnce_language.supplies, (objectsOnce_unlessHolds _).supplies,
      (objectsOnce_unlessHolds _).supplies, missesSome_landmarks.supplies,
      (objectsOnce_unlessHolds _).supplies,
      (objectsOnce_unlessHolds _).supplies, missesSome_footerLinks.supplies,
      (objectsOnce_unlessHolds _).supplies,
      objectsOnce_singleMainHeading.supplies,
      (objectsOnce_unlessHolds _).supplies, looksAt_headingOrder.supplies,
      looksAt_uniqueIds.supplies,
      looksAt_linkNames.supplies, looksAt_imageTexts.supplies,
      looksAt_tableHeaders.supplies,
      looksAt_mediaTexts.supplies, looksAt_formLabels.supplies,
      looksAt_buttonNames.supplies,
      supplies_colorTokens, objectsOnce_focusOutline.supplies,
      objectsOnce_contrast.supplies,
      looksAt_clickableContainers.supplies, looksAt_nestedInteractive.supplies,
      looksAt_knownRoles.supplies,
      looksAt_expandedControls.supplies⟩
  rw [List.forall₂_map_left_iff, List.forall₂_map_right_iff,
    List.forall₂_same] at h
  exact h

/-!
## Checks do not fail
-/

theorem report_eq {r : Rule} (hr : r ∈ Catalog.rules) {v : Violation}
    (hv : v.values.map (·.1) = r.fieldNames) (file : String) :
    v.report r.code file = .ok (v.finding r file) := by
  rw [Violation.report, Catalog.ofRule_eq hr hv]
  rfl

/-- No check of the catalog fails. -/
theorem check_criterion {r : Rule} (hr : r ∈ Catalog.rules) {c : Criterion}
    (hc : (r.code, c) ∈ criteria) (d : Document) (file : String) :
    c.check r.code d file = .ok ((c d).map (·.finding r file)) := by
  apply mapM_eq_ok
  intro v hv
  apply report_eq hr
  rw [← fieldNamesOf_code hr]
  exact criteria_supply _ hc d v hv

theorem mem_criteria_of_lookup {code : String} {c : Criterion}
    (h : criteria.lookup code = some c) :
    (code, c) ∈ criteria := by
  rcases List.lookup_eq_some_iff.1 h with ⟨before, after, hsplit, _⟩
  rw [hsplit]
  exact List.mem_append_right before List.mem_cons_self

theorem exists_rule_of_mem {code : String} {c : Criterion}
    (h : (code, c) ∈ criteria) :
    ∃ r ∈ Catalog.rules, r.code = code := by
  have hcodes :
      ∀ code ∈ criteria.map (·.1), code ∈ Catalog.rules.map (·.code) := by
    simp only [criteria, List.map_cons, List.map_nil]
    decide
  exact List.mem_map.1 (hcodes code (List.mem_map_of_mem h))

theorem lookup_standard (code : String) :
    standard.lookup code =
      (criteria.lookup code).map (Criterion.check code) := by
  unfold standard
  induction criteria with
  | nil => rfl
  | cons entry entries ih =>
      cases entry with
      | mk code' c =>
          rw [List.map_cons, List.lookup_cons, List.lookup_cons]
          by_cases h : code = code'
          · subst h
            simp
          · have hne : (code == code') = false := by simpa using h
            rw [hne, ih]

/-- The findings on a document are the violations of the rules, rule by rule. -/
theorem check_eq (d : Document) (file : String) :
    check d file = Catalog.rules.flatMap fun r =>
      (criterionOf r.code d).map (·.finding r file) := by
  apply List.flatMap_congr
  intro r hr
  rw [lookup_standard, criterionOf]
  cases hc : criteria.lookup r.code with
  | none => rfl
  | some c =>
      show runCheck r.code (c.check r.code) d file = _
      rw [runCheck, check_criterion hr (mem_criteria_of_lookup hc)]
      rfl

/-!
## The findings with one code
-/

theorem filter_flatMap_of_nodup {α β : Type} {key : α → String}
    {code : β → String} {f : α → List β}
    (hcode : ∀ a, ∀ b ∈ f a, code b = key a) {l : List α}
    (hnodup : (l.map key).Nodup) {a : α} (ha : a ∈ l) :
    (l.flatMap f).filter (code · == key a) = f a := by
  have hother :
      ∀ a', key a' ≠ key a → (f a').filter (code · == key a) = [] := by
    intro a' hne
    rw [List.filter_eq_nil_iff]
    intro b hb
    rw [hcode a' b hb]
    simpa using hne
  have hown : (f a).filter (code · == key a) = f a := by
    rw [List.filter_eq_self]
    intro b hb
    rw [hcode a b hb]
    simp
  induction l with
  | nil => cases ha
  | cons a' l ih =>
      rw [List.map_cons, List.nodup_cons] at hnodup
      rcases hnodup with ⟨hfresh, hrest⟩
      rw [List.flatMap_cons, List.filter_append]
      cases ha with
      | head =>
          have hnone : (l.flatMap f).filter (code · == key a) = [] := by
            rw [List.filter_flatMap, List.flatMap_eq_nil_iff]
            intro a' ha'
            apply hother a'
            intro heq
            exact hfresh (heq ▸ List.mem_map_of_mem ha')
          rw [hown, hnone, List.append_nil]
      | tail _ ha =>
          have hne : key a' ≠ key a := by
            intro heq
            exact hfresh (heq ▸ List.mem_map_of_mem ha)
          rw [hother a' hne, List.nil_append, ih hrest ha]

theorem findingsOf_code {r : Rule} (hr : r ∈ Catalog.rules) (d : Document)
    (file : String) :
    findingsOf r.code d file =
      (criterionOf r.code d).map (·.finding r file) := by
  rw [findingsOf, check_eq]
  apply filter_flatMap_of_nodup _ Catalog.nodup_codes hr
  intro r' f hf
  rcases List.mem_map.1 hf with ⟨v, _, rfl⟩
  rfl

end Rules
end SiteAudit
