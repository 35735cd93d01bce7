import Mathlib.Data.List.Dedup
import SiteAudit.Proofs.Rules.Composition

/-!
# Identifiers that are taken

An element is reported when an element before it has the same identifier.  So of
the elements that share an identifier all but the first are reported, and the
reported identifiers are those that are left over when each of them is taken out
once.
-/

namespace SiteAudit
namespace Rules

open Markup

inductive ReadsAs : AttributeValue → String → Prop
  | null : ReadsAs .null ""
  | text (s : String) : ReadsAs (.text s) s
  | list (items : List String) : ReadsAs (.list items) (" ".intercalate items)
  | number (n : WritableInt) : ReadsAs (.number n) n.text
  | yes : ReadsAs (.flag true) "True"
  | no : ReadsAs (.flag false) "False"

/-- The element has the given identifier: its first attribute of that name reads
so. -/
def Carries (e : Element) (id : String) : Prop :=
  ∃ before value after,
    e.subtree.attributes = before ++ ⟨"id", value⟩ :: after ∧
    (∀ a ∈ before, a.name ≠ "id") ∧ ReadsAs value id

def identifiers (d : Document) : List String :=
  (identified d).map (·.getText "id")

def IsTaken (d : Document) (e : Element) : Prop :=
  ∃ e' ∈ identified d, e'.position < e.position ∧
    e'.getText "id" = e.getText "id"

open Classical in
structure IdentifiersCounted (d : Document) (file : String) : Prop where
  carriers : InOrder (identified d) ∧
    ∀ e id, (e ∈ identified d ∧ e.getText "id" = id) ↔
      (e ∈ d.elements ∧ Carries e id)
  /-- There is one finding for each element whose identifier is taken, with its
  line and the identifier as it is. -/
  taken : findingsOf "E012" d file =
    ((identified d).filter (IsTaken d)).map (duplicateId file)
  /-- All but one of the elements with an identifier are reported. -/
  perIdentifier : ∀ id,
    (findingsOf "E012" d file).countP (·.message == "Duplicate ID: " ++ id) =
      (identified d).countP (·.getText "id" == id) - 1
  total : (findingsOf "E012" d file).length + (identifiers d).dedup.length =
    (identified d).length
  none : findingsOf "E012" d file = [] ↔ (identifiers d).Nodup

/-!
## Identifiers
-/

theorem readsAs_iff {value : AttributeValue} {s : String} :
    ReadsAs value s ↔ value.text?.getD "" = s := by
  constructor
  · intro h
    cases h with
    | null => rfl
    | text s => rfl
    | list items => rfl
    | number n => rfl
    | yes => rfl
    | no => rfl
  · rintro rfl
    cases value with
    | null => exact .null
    | text s => exact .text s
    | list items => exact .list items
    | number n => exact .number n
    | flag b =>
        cases b with
        | false => exact .no
        | true => exact .yes

theorem carries_iff {e : Element} {id : String} :
    Carries e id ↔ e.has "id" = true ∧ e.getText "id" = id := by
  have hwanted : Text.lower "id" = "id" := by decide
  constructor
  · intro hgiven
    rcases hgiven with ⟨before, value, after, hsplit, hfirst, hreads⟩
    have hfound : e.attribute? "id" = some ⟨"id", value⟩ := by
      rw [Element.attribute?, hwanted, hsplit, List.find?_eq_some_iff_append]
      refine ⟨beq_self_eq_true _, before, after, rfl, ?_⟩
      intro a ha
      simpa using hfirst a ha
    rw [Element.has, Element.getText, Element.get, hfound]
    exact ⟨rfl, readsAs_iff.1 hreads⟩
  · intro hgiven
    rcases hgiven with ⟨hhas, hid⟩
    rcases Option.isSome_iff_exists.1 hhas with ⟨⟨name, value⟩, hfound⟩
    rw [Element.getText, Element.get, hfound] at hid
    rw [Element.attribute?, hwanted, List.find?_eq_some_iff_append] at hfound
    rcases hfound with ⟨hname, before, after, hsplit, hfirst⟩
    have hid' : name = "id" := beq_iff_eq.1 hname
    subst hid'
    refine ⟨before, value, after, hsplit, ?_, readsAs_iff.2 hid⟩
    intro a ha
    simpa using hfirst a ha

theorem mem_identified_iff {d : Document} {e : Element} :
    e ∈ identified d ↔ e ∈ d.elements ∧ e.has "id" = true := by
  rw [identified, Document.select, List.mem_filter, Query.hasAttribute_iff]

/-!
## Counting
-/

open Classical in
theorem uniqueIds_eq (d : Document) :
    uniqueIds d = ((identified d).filter (IsTaken d)).map fun e =>
      .of e [("id", .text (e.getText "id"))] := by
  rw [uniqueIds, repeatedIds_eq_filter (inOrder_select d _)]
  congr 1
  apply List.filter_congr
  intro e _
  rw [Bool.eq_iff_iff, decide_eq_true_eq, IsTaken, List.contains_nil,
    Bool.false_or, List.any_eq_true]
  simp only [Bool.and_eq_true, decide_eq_true_eq, beq_iff_eq]
  rfl

/-- Of the elements with an identifier all are reported, but the first one if
the identifier is new. -/
theorem countP_repeatedIds (id : String) (seen : List String)
    (es : List Element) :
    (repeatedIds seen es).countP (·.values == [("id", .text id)]) =
      es.countP (·.getText "id" == id) - if id ∈ seen then 0 else 1 := by
  induction es generalizing seen with
  | nil => simp [repeatedIds]
  | cons e es ih =>
      rw [repeatedIds, List.countP_cons]
      by_cases hid : e.getText "id" = id
      · subst hid
        by_cases hseen : e.getText "id" ∈ seen
        · simp [hseen, ih, Violation.of]
        · simp [hseen, ih]
      · have hother : id ∈ e.getText "id" :: seen ↔ id ∈ seen := by
          simp [Ne.symm hid]
        by_cases hseen : e.getText "id" ∈ seen
        · simp [hseen, ih, hother, hid, Violation.of]
        · simp [hseen, ih, hother, hid]

open Classical in
theorem countP_taken (d : Document) (id : String) :
    ((identified d).filter (IsTaken d)).countP (·.getText "id" == id) =
      (identified d).countP (·.getText "id" == id) - 1 := by
  have h : (uniqueIds d).countP (·.values == [("id", .text id)]) =
      (identified d).countP (·.getText "id" == id) - 1 :=
    countP_repeatedIds id [] (identified d)
  rw [uniqueIds_eq, List.countP_map] at h
  rw [← h]
  apply List.countP_congr
  intro e _
  simp [Violation.of]

open Classical in
/-- Each identifier once and those that are reported make up all identifiers. -/
theorem taken_append_dedup_perm (d : Document) :
    (((identified d).filter (IsTaken d)).map (·.getText "id") ++
      (identifiers d).dedup).Perm (identifiers d) := by
  rw [List.perm_iff_count]
  intro id
  have hcount : ∀ es : List Element, (es.map (·.getText "id")).count id =
      es.countP (·.getText "id" == id) := by
    intro es
    rw [List.count_eq_countP, List.countP_map]
    rfl
  rw [List.count_append, List.count_dedup, hcount, countP_taken, identifiers,
    ← hcount]
  split
  · rename_i hmem
    have hpositive := List.count_pos_iff.2 hmem
    omega
  · rename_i hmem
    rw [List.count_eq_zero.2 hmem]

/-!
## The main statement
-/

theorem identifiers_counted (d : Document) (file : String) :
    IdentifiersCounted d file := by
  classical
  have htaken : findingsOf "E012" d file =
      ((identified d).filter (IsTaken d)).map (duplicateId file) := by
    rcases exists_rule (by decide : "E012" ∈ Catalog.rules.map (·.code)) with
      ⟨r, hr, hcode, hfindings⟩
    have hcriterion : criterionOf "E012" = uniqueIds := rfl
    rw [hfindings, hcriterion, uniqueIds_eq, List.map_map]
    apply List.map_congr_left
    intro e _
    exact finding_duplicateId hr hcode file e
  refine
    { carriers := ⟨inOrder_select d _, ?_⟩
      taken := ?_
      perIdentifier := ?_
      total := ?_
      none := ?_ }
  · intro e id
    rw [mem_identified_iff, carries_iff, and_assoc]
  · rw [htaken]
  · intro id
    rw [htaken, List.countP_map, ← countP_taken]
    apply List.countP_congr
    intro e _
    have hmessage :
        (duplicateId file e).message = "Duplicate ID: " ++ e.getText "id" := rfl
    rw [Function.comp_apply, hmessage, beq_iff_eq, beq_iff_eq,
      String.append_right_inj]
  · have hlength := (taken_append_dedup_perm d).length_eq
    rw [htaken, List.length_map]
    rw [List.length_append, List.length_map, identifiers, List.length_map]
      at hlength
    exact hlength
  · have hcriterion : criterionOf "E012" = uniqueIds := rfl
    rw [findingsOf_eq_nil_iff (by decide), hcriterion, uniqueIds,
      repeatedIds_eq_nil_iff]
    constructor
    · intro h
      exact h.2
    · intro h
      exact ⟨fun _ _ => List.not_mem_nil, h⟩

end Rules
end SiteAudit
