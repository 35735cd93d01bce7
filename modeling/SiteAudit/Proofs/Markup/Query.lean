import SiteAudit.Proofs.Markup.Order
import SiteAudit.Proofs.Text.Words

/-!
# What queries ask

Each query says of an element what its name promises.
-/

namespace SiteAudit

def Text.Contains (part whole : String) : Prop :=
  part.toList <:+: whole.toList

namespace Markup

open Text

def Element.HasText (e : Element) (name : String) : Prop :=
  ∃ s, e.get name = some s ∧ ∃ c ∈ s.toList, isBlank c = false

theorem isPartOf_iff {part whole : String} :
    isPartOf part whole = true ↔ Contains part whole :=
  occursIn_iff

theorem text_eq_empty_iff (e : Element) : e.text = "" ↔ e.words = [] := by
  apply joinWords_eq_empty_iff
  intro w hw
  rcases List.mem_flatMap.1 hw with ⟨s, _, hword⟩
  exact ne_empty_of_mem_wordsOf hword

theorem getText_eq_iff {e : Element} {name s : String} (hs : s ≠ "") :
    e.getText name = s ↔ e.get name = some s := by
  rw [Element.getText]
  cases e.get name with
  | none =>
      constructor
      · intro h
        exact absurd h.symm hs
      · intro h
        cases h
  | some s' => rw [Option.getD_some, Option.some.injEq]

theorem has_of_get {e : Element} {name s : String} (h : e.get name = some s) :
    e.has name = true := by
  unfold Element.get at h
  unfold Element.has
  cases hattribute : e.attribute? name with
  | none =>
      rw [hattribute] at h
      cases h
  | some a => rfl

namespace Query

theorem tag_iff {names : List String} (h : names.map lower = names)
    {e : Element} :
    tag names e = true ↔ e.tag ∈ names := by
  rw [tag, h, List.contains_iff_mem]

theorem tag_singleton_iff {name : String} (h : lower name = name)
    {e : Element} :
    tag [name] e = true ↔ e.tag = name := by
  have hnames : [name].map lower = [name] := by
    rw [List.map_singleton, h]
  rw [tag_iff hnames, List.mem_singleton]

theorem hasClass_iff {names : List String} {e : Element} :
    hasClass names e = true ↔ ∃ name ∈ names, name ∈ e.classes := by
  rw [hasClass, List.any_eq_true]
  constructor
  · intro h
    rcases h with ⟨name, hclass, hname⟩
    exact ⟨name, List.contains_iff_mem.1 hname, hclass⟩
  · intro h
    rcases h with ⟨name, hname, hclass⟩
    exact ⟨name, hclass, List.contains_iff_mem.2 hname⟩

@[simp] theorem hasClass_singleton_iff {name : String} {e : Element} :
    hasClass [name] e = true ↔ name ∈ e.classes := by
  rw [hasClass_iff]
  simp only [List.mem_singleton, exists_eq_left]

@[simp] theorem attributeIs_iff {name : String} {value : Option String}
    {e : Element} :
    attributeIs name value e = true ↔ e.get name = value := by
  rw [attributeIs, beq_iff_eq]

@[simp] theorem attributeContains_iff {name part : String} {e : Element} :
    attributeContains name part e = true ↔ Contains part (e.getText name) :=
  isPartOf_iff

@[simp] theorem textContains_iff {part : String} {e : Element} :
    textContains part e = true ↔ Contains part e.text :=
  isPartOf_iff

@[simp] theorem hasAncestor_iff {q : Query} {e : Element} :
    hasAncestor q e = true ↔ ∃ a ∈ e.ancestors, q a = true := by
  rw [hasAncestor, List.any_eq_true]

@[simp] theorem hasDescendant_iff {q : Query} {e : Element} :
    hasDescendant q e = true ↔ ∃ i ∈ e.descendants, q i = true := by
  rw [hasDescendant, List.any_eq_true]

@[simp] theorem nonblank_iff {name : String} {e : Element} :
    nonblank name e = true ↔ e.HasText name := by
  rw [nonblank, hasInk, List.any_eq_true, Element.getText, Element.HasText]
  cases e.get name with
  | none =>
      constructor
      · intro h
        rcases h with ⟨c, hc, _⟩
        cases hc
      · intro h
        rcases h with ⟨s, hs, _⟩
        cases hs
  | some s =>
      constructor
      · intro h
        rcases h with ⟨c, hc, hink⟩
        exact ⟨s, rfl, c, hc, by simpa [isInk] using hink⟩
      · intro h
        rcases h with ⟨s', hs, c, hc, hblank⟩
        cases hs
        exact ⟨c, hc, by simp [isInk, hblank]⟩

@[simp] theorem hasAttribute_iff {name : String} {e : Element} :
    hasAttribute name e = true ↔ e.has name = true :=
  Iff.rfl

@[simp] theorem all_nil_iff {e : Element} : all [] e = true ↔ True := by
  rw [all, List.all_nil, eq_self_iff_true]

@[simp] theorem all_cons_iff {q : Query} {qs : List Query} {e : Element} :
    all (q :: qs) e = true ↔ q e = true ∧ all qs e = true := by
  rw [all, List.all_cons, Bool.and_eq_true, all]

@[simp] theorem any_nil_iff {e : Element} : any [] e = true ↔ False := by
  rw [any, List.any_nil, Bool.false_eq_true]

@[simp] theorem any_cons_iff {q : Query} {qs : List Query} {e : Element} :
    any (q :: qs) e = true ↔ q e = true ∨ any qs e = true := by
  rw [any, List.any_cons, Bool.or_eq_true, any]

end Query

theorem exists_ancestor_iff {d : Document} {e : Element} (he : e ∈ d.elements)
    {p : Element → Prop} :
    (∃ a ∈ e.ancestors, p a) ↔ ∃ a ∈ d.elements, p a ∧ e ∈ a.descendants := by
  constructor
  · intro h
    rcases h with ⟨a, ha, hp⟩
    cases (mem_ancestors_iff he).1 ha with
    | intro hmem hinside =>
        exact ⟨a, hmem, hp, hinside⟩
  · intro h
    rcases h with ⟨a, hmem, hp, hinside⟩
    exact ⟨a, mem_ancestors_of_mem_descendants hinside, hp⟩

end Markup
end SiteAudit
