import SiteAudit.Proofs.Markup.Order
import SiteAudit.Proofs.Rules.Findings

/-!
# The shape of what is found

Whatever the document, the findings on it come in the order of the catalog.
Some rules object at most once, two of them for each missing item of a list, and
the others at most once for each element, in the order of the elements and with
their lines.
-/

namespace SiteAudit
namespace Rules

open Markup

def placeOf (code : String) : Nat :=
  (Catalog.rules.map (·.code)).idxOf code

/-- The codes that nothing is ever found for: those of the run itself and of the
rules that markup cannot decide. -/
def silentCodes : List String :=
  ["F001", "F002", "S001", "S003"]

def singleCodes : List String :=
  ["E001", "E002", "E003", "E005", "E006", "E008", "E009", "E010", "S002"]

def absenceCodes : List String :=
  ["E002", "E003", "E004", "E005", "E006", "E007", "E008", "E010"]

/-- The codes of the rules that look at elements one by one, with the elements
that they look at. -/
def subjects : List (String × Query) :=
  [("E011", .tag headingTags), ("E012", .hasAttribute "id"),
   ("E013", .tag ["a"]), ("E014", .tag ["img"]), ("E015", .tag ["table"]),
   ("E016", .tag ["audio", "video"]),
   ("E017", .tag ["input", "select", "textarea"]), ("E018", isButton),
   ("C001", .all [.tag containerTags, .hasAttribute "onclick"]),
   ("C002", isInteractive), ("C003", .hasAttribute "role"),
   ("C004", .hasAttribute "aria-expanded")]

def missingLandmark (file : String) (l : Catalog.Landmark) : Finding where
  file := file
  code := "E004"
  message := "Missing required landmark: " ++ l.name
  severity := Severity.error

def missingLink (file link : String) : Finding where
  file := file
  code := "E007"
  message := "Missing required footer link: " ++ link
  severity := Severity.error

def AreAbout (findings : List Finding) (es : List Element) : Prop :=
  ∃ finding : Element →
    Finding, findings = es.map finding ∧ ∀ e ∈ es, (finding e).line = e.line

/-- What holds of the findings on every document. -/
structure WellShaped (d : Document) (file : String) : Prop where
  /-- No check fails. -/
  checks : ∀ entry ∈ standard, ∃ findings, entry.2 d file = .ok findings
  /-- Only rules of the catalog that can decide by markup object. -/
  codes : ∀ f ∈ check d file, f.code ∈ Catalog.rules.map (·.code) ∧
    f.code ∉ silentCodes
  /-- Findings come in the order of the catalog. -/
  order : (check d file).Pairwise fun f g => placeOf f.code ≤ placeOf g.code
  single : ∀ code ∈ singleCodes, (findingsOf code d file).length ≤ 1
  /-- There are not both too many main headings and none. -/
  mainHeading : findingsOf "E009" d file = [] ∨ findingsOf "E010" d file = []
  landmarks :
    ∃ missing : List Catalog.Landmark, missing.Sublist Catalog.landmarks ∧
    findingsOf "E004" d file = missing.map (missingLandmark file)
  footerLinks : ∃ missing : List String, missing.Sublist Catalog.footerLinks ∧
    findingsOf "E007" d file = missing.map (missingLink file)
  /-- Rules on elements object to some of them, in the order of the document. -/
  elements : ∀ entry ∈ subjects, ∃ es : List Element,
    es.Sublist (d.select entry.2) ∧ InOrder es ∧
    AreAbout (findingsOf entry.1 d file) es
  lineless : ∀ code ∈ absenceCodes, ∀ f ∈ findingsOf code d file, f.line = none
  severity : ∀ f ∈ check d file, f.severity = if f.code = "C004" then
    Severity.warning else Severity.error
  path : ∀ f ∈ check d file, f.file = file
  /-- The name of the file changes nothing else. -/
  renamed : ∀ file', check d file' = (check d file).map fun f =>
    { f with file := file' }

/-!
## The criteria by their codes
-/

theorem criterionOf_objectsOnce :
    ∀ code ∈ singleCodes, (criterionOf code).ObjectsOnce := by
  simp only [singleCodes, List.forall_mem_cons, List.not_mem_nil, false_implies,
    implies_true, and_true]
  exact ⟨objectsOnce_language, objectsOnce_unlessHolds _,
    objectsOnce_unlessHolds _, objectsOnce_unlessHolds _,
    objectsOnce_unlessHolds _, objectsOnce_unlessHolds _,
    objectsOnce_singleMainHeading,
    objectsOnce_unlessHolds _, objectsOnce_focusOutline⟩

theorem criterionOf_looksAt : ∀ entry ∈ subjects, ∃ names,
    (criterionOf entry.1).LooksAt entry.2 names := by
  simp only [subjects, List.forall_mem_cons, List.not_mem_nil, false_implies,
    implies_true, and_true]
  exact ⟨⟨_, looksAt_headingOrder⟩, ⟨_, looksAt_uniqueIds⟩,
    ⟨_, looksAt_linkNames⟩, ⟨_, looksAt_imageTexts⟩,
    ⟨_, looksAt_tableHeaders⟩, ⟨_, looksAt_mediaTexts⟩, ⟨_, looksAt_formLabels⟩,
    ⟨_, looksAt_buttonNames⟩,
    ⟨_, looksAt_clickableContainers⟩, ⟨_, looksAt_nestedInteractive⟩,
    ⟨_, looksAt_knownRoles⟩,
    ⟨_, looksAt_expandedControls⟩⟩

theorem criterionOf_silent (d : Document) :
    ∀ code ∈ silentCodes, criterionOf code d = [] := by
  simp only [silentCodes, List.forall_mem_cons, List.not_mem_nil, false_implies,
    implies_true, and_true]
  exact ⟨rfl, rfl, rfl, rfl⟩

theorem line_unlessHolds (condition : Bool) :
    ∀ v ∈ unlessHolds condition, v.line = none := by
  intro v hv
  cases condition with
  | false => rw [List.mem_singleton.1 hv]
  | true => cases hv

theorem criterionOf_absence (d : Document) :
    ∀ code ∈ absenceCodes, ∀ v ∈ criterionOf code d, v.line = none := by
  simp only [absenceCodes, List.forall_mem_cons, List.not_mem_nil,
    false_implies, implies_true, and_true]
  exact ⟨line_unlessHolds _, line_unlessHolds _,
    missesSome_landmarks.line_eq_none d, line_unlessHolds _,
    line_unlessHolds _, missesSome_footerLinks.line_eq_none d,
    line_unlessHolds _, line_unlessHolds _⟩

theorem singleMainHeading_or_mainHeading (d : Document) :
    singleMainHeading d = [] ∨ mainHeading d = [] := by
  cases h : d.select (.tag ["h1"]) with
  | nil =>
      left
      rw [singleMainHeading, h]
  | cons e es =>
      right
      have he : e ∈ d.select (.tag ["h1"]) := by
        rw [h]
        exact List.mem_cons_self
      have hsome : someElement d (.tag ["h1"]) = true := by
        rw [someElement, List.any_eq_true]
        exact ⟨e, List.mem_filter.1 he⟩
      rw [mainHeading, hsome]
      rfl

/-- Different elements may be told apart, so what belongs to each of them is a
function of the element. -/
theorem exists_map_of_forall₂ {β : Type} [Nonempty β] {R : β → Element → Prop}
    {bs : List β} {es : List Element} (h : List.Forall₂ R bs es)
    (hes : es.Nodup) :
    ∃ f : Element → β, bs = es.map f ∧ ∀ e ∈ es, R (f e) e := by
  induction h with
  | nil =>
      refine ⟨fun _ => Classical.ofNonempty, rfl, ?_⟩
      intro e he
      cases he
  | @cons b e bs es hhead _ ih =>
      rcases List.nodup_cons.1 hes with ⟨hfresh, hrest⟩
      rcases ih hrest with ⟨f, hbs, hR⟩
      refine ⟨Function.update f e b, ?_, ?_⟩
      · have hsame : es.map (Function.update f e b) = es.map f := by
          apply List.map_congr_left
          intro e' he'
          apply Function.update_of_ne
          intro heq
          exact hfresh (heq ▸ he')
        rw [List.map_cons, hsame, ← hbs, Function.update_self]
      · intro e' he'
        by_cases heq : e' = e
        · rw [heq, Function.update_self]
          exact hhead
        · rw [Function.update_of_ne heq]
          cases he' with
          | head => exact absurd rfl heq
          | tail _ hmem => exact hR e' hmem

/-!
## The findings
-/

theorem mem_check {d : Document} {file : String} {f : Finding} :
    f ∈ check d file ↔ ∃ r ∈ Catalog.rules, ∃ v ∈ criterionOf r.code d,
      v.finding r file = f := by
  rw [check_eq, List.mem_flatMap]
  simp only [List.mem_map]

theorem exists_rule {code : String} (h : code ∈ Catalog.rules.map (·.code)) :
    ∃ r ∈ Catalog.rules, r.code = code ∧
      ∀ d file, findingsOf code d file =
        (criterionOf code d).map (·.finding r file) := by
  rcases List.mem_map.1 h with ⟨r, hr, rfl⟩
  exact ⟨r, hr, rfl, findingsOf_code hr⟩

theorem order_check (d : Document) (file : String) :
    (check d file).Pairwise fun f g => placeOf f.code ≤ placeOf g.code := by
  have hcode : ∀ r : Rule, ∀ f ∈ (criterionOf r.code d).map (·.finding r file),
      f.code = r.code := by
    intro r f hf
    rcases List.mem_map.1 hf with ⟨v, _, rfl⟩
    rfl
  have hrules : Catalog.rules.Pairwise fun r r' =>
      placeOf r.code ≤ placeOf r'.code := by
    decide
  rw [check_eq, List.pairwise_flatMap]
  constructor
  · intro r _
    rw [List.pairwise_iff_forall_sublist]
    intro f g hsub
    rw [hcode r f (hsub.subset (by simp)), hcode r g (hsub.subset (by simp))]
  · apply List.Pairwise.imp _ hrules
    intro r r' hle f hf g hg
    rw [hcode r f hf, hcode r' g hg]
    exact hle

theorem severity_rules {r : Rule} (hr : r ∈ Catalog.rules) :
    r.severity = if r.code = "C004" then Severity.warning
      else Severity.error := by
  revert r
  decide

theorem finding_of_filled {r : Rule} (hr : r ∈ Catalog.rules) {code : String}
    (hcode : r.code = code) (herror : code ≠ "C004")
    {values : List (String × Template.Value)} {text : String}
    (hfilled : r.filled values = text) (line : Option WritableInt)
    (file : String) :
    Violation.finding ⟨line, values⟩ r file =
      { file := file, code := code, message := text, severity := Severity.error,
        line := line } := by
  have hseverity : r.severity = Severity.error := by
    rw [severity_rules hr, hcode, if_neg herror]
  rw [Violation.finding, hfilled, hcode, hseverity]

theorem finding_landmark {r : Rule} (hr : r ∈ Catalog.rules)
    (hcode : r.code = "E004") (file : String) (l : Catalog.Landmark) :
    Violation.finding { values := [("landmark", .text l.name)] } r file =
      missingLandmark file l := by
  have hmessage : r.message = "Missing required landmark: {landmark}" := by
    revert r
    decide
  have hfilled : r.filled [("landmark", .text l.name)] =
      "Missing required landmark: " ++ l.name :=
    Rule.filled_of_message hmessage rfl l.name
  exact finding_of_filled hr hcode (by decide) hfilled none file

theorem finding_link {r : Rule} (hr : r ∈ Catalog.rules)
    (hcode : r.code = "E007") (file link : String) :
    Violation.finding { values := [("link", .text link)] } r file =
      missingLink file link := by
  have hmessage : r.message = "Missing required footer link: {link}" := by
    revert r
    decide
  have hfilled : r.filled [("link", .text link)] =
      "Missing required footer link: " ++ link :=
    Rule.filled_of_message hmessage rfl link
  exact finding_of_filled hr hcode (by decide) hfilled none file

theorem findingsOf_eq_nil {code : String} {d : Document}
    (h : criterionOf code d = []) (file : String) :
    findingsOf code d file = [] := by
  rw [findingsOf, List.filter_eq_nil_iff]
  intro f hf
  rcases mem_check.1 hf with ⟨r, _, v, hv, rfl⟩
  intro hcode
  have hr : r.code = code := beq_iff_eq.1 hcode
  rw [hr, h] at hv
  cases hv

theorem elements_check (d : Document) (file : String) {entry : String × Query}
    (h : entry ∈ subjects) :
    ∃ es : List Element, es.Sublist (d.select entry.2) ∧ InOrder es ∧
      AreAbout (findingsOf entry.1 d file) es := by
  have hcodes : ∀ entry ∈ subjects, entry.1 ∈ Catalog.rules.map (·.code) := by
    simp only [subjects, List.forall_mem_cons, List.not_mem_nil, false_implies,
      implies_true, and_true]
    decide
  rcases exists_rule (hcodes entry h) with ⟨r, _, _, hfindings⟩
  rcases criterionOf_looksAt entry h with ⟨names, hlooks⟩
  rcases hlooks d with ⟨es, hsub, hfollow⟩
  have horder : InOrder es := (inOrder_select d entry.2).sublist hsub
  have hviolations : Nonempty Violation := ⟨{}⟩
  rcases exists_map_of_forall₂ hfollow horder.nodup with
    ⟨violation, hvs, hlines⟩
  refine ⟨es, hsub, horder, fun e => (violation e).finding r file, ?_, ?_⟩
  · rw [hfindings, hvs, List.map_map]
    rfl
  · intro e he
    exact (hlines e he).1

theorem findingsOf_eq_nil_iff {code : String}
    (h : code ∈ Catalog.rules.map (·.code)) {d : Document} {file : String} :
    findingsOf code d file = [] ↔ criterionOf code d = [] := by
  rcases exists_rule h with ⟨r, _, _, hfindings⟩
  rw [hfindings, List.map_eq_nil_iff]

/-- The findings on every document are well shaped. -/
theorem check_wellShaped (d : Document) (file : String) :
    WellShaped d file where
  checks := by
    intro entry hentry
    rcases List.mem_map.1 hentry with ⟨⟨code, c⟩, hmem, rfl⟩
    rcases exists_rule_of_mem hmem with ⟨r, hr, rfl⟩
    exact ⟨_, check_criterion hr hmem d file⟩
  codes := by
    intro f hf
    rcases mem_check.1 hf with ⟨r, hr, v, hv, rfl⟩
    refine ⟨List.mem_map_of_mem hr, ?_⟩
    intro hsilent
    have hnone : criterionOf r.code d = [] :=
      criterionOf_silent d r.code hsilent
    rw [hnone] at hv
    cases hv
  order := order_check d file
  single := by
    intro code hcode
    have hknown : ∀ code ∈ singleCodes, code ∈ Catalog.rules.map (·.code) := by
      decide
    rcases exists_rule (hknown code hcode) with ⟨r, _, _, hfindings⟩
    rw [hfindings, List.length_map]
    exact (criterionOf_objectsOnce code hcode).length_le d
  mainHeading := by
    have h : criterionOf "E009" d = [] ∨ criterionOf "E010" d = [] :=
      singleMainHeading_or_mainHeading d
    cases h with
    | inl h => exact .inl (findingsOf_eq_nil h file)
    | inr h => exact .inr (findingsOf_eq_nil h file)
  landmarks := by
    rcases exists_rule (by decide : "E004" ∈ Catalog.rules.map (·.code)) with
      ⟨r, hr, hcode, hfindings⟩
    rcases missesSome_landmarks d with ⟨missing, hsub, hmissing⟩
    have hcriterion : criterionOf "E004" d = landmarks d := rfl
    refine ⟨missing, hsub, ?_⟩
    rw [hfindings, hcriterion, hmissing, List.map_map]
    apply List.map_congr_left
    intro l _
    exact finding_landmark hr hcode file l
  footerLinks := by
    rcases exists_rule (by decide : "E007" ∈ Catalog.rules.map (·.code)) with
      ⟨r, hr, hcode, hfindings⟩
    rcases missesSome_footerLinks d with ⟨missing, hsub, hmissing⟩
    have hcriterion : criterionOf "E007" d = footerLinks d := rfl
    refine ⟨missing, hsub, ?_⟩
    rw [hfindings, hcriterion, hmissing, List.map_map]
    apply List.map_congr_left
    intro link _
    exact finding_link hr hcode file link
  elements := fun _ h => elements_check d file h
  lineless := by
    intro code hcode f hf
    have hknown : ∀ code ∈ absenceCodes, code ∈ Catalog.rules.map (·.code) := by
      decide
    rcases exists_rule (hknown code hcode) with ⟨r, _, _, hfindings⟩
    rw [hfindings] at hf
    rcases List.mem_map.1 hf with ⟨v, hv, rfl⟩
    exact criterionOf_absence d code hcode v hv
  severity := by
    intro f hf
    rcases mem_check.1 hf with ⟨r, hr, v, _, rfl⟩
    exact severity_rules hr
  path := by
    intro f hf
    rcases mem_check.1 hf with ⟨r, _, v, _, rfl⟩
    rfl
  renamed := by
    intro file'
    rw [check_eq, check_eq, List.map_flatMap]
    apply List.flatMap_congr
    intro r _
    rw [List.map_map]
    rfl

end Rules
end SiteAudit
