import Mathlib.Data.List.Basic
import SiteAudit.Proofs.Markup.Query

/-!
# Ways through a document

Document order, the way outward from an element, and the way through its subtree
are three walks over one tree.  A subtree is a contiguous run of the elements in
document order, two subtrees are nested or have nothing in common, and the way
outward leads from the nearest element around to an outermost one.  So a query
about what stands around an element is one about the subtrees that it stands in.
-/

namespace SiteAudit
namespace Markup

/-- The element is a node of the document itself, and not of another element. -/
def IsOutermost (d : Document) (e : Element) : Prop :=
  ∃ before after : Forest, e.position = before.size ∧
    d.nodes =
      before ++ .element e.subtree.name e.subtree.attributes e.subtree.line
        e.subtree.children after

def Element.span (e : Element) : List Element :=
  e :: e.descendants

/-- What the walks through a document have to do with each other. -/
structure Navigable (d : Document) : Prop where
  /-- One element stands around another just when the other one stands inside
  it. -/
  around_iff_inside :
    ∀ x ∈ d.elements, ∀ y ∈ d.elements, y ∈ x.ancestors ↔ x ∈ y.descendants
  one_way : ∀ x ∈ d.elements, ∀ y ∈ d.elements, x ∈ y.descendants →
    x ≠ y ∧ y ∉ x.descendants
  /-- What is inside an element comes right after it in document order, and
  nothing else of it comes later. -/
  run : ∀ y ∈ d.elements, ∃ before after,
    d.elements = before ++ y :: (y.descendants ++ after) ∧
    before.length = y.position ∧
      y.descendants.length = y.subtree.children.size ∧
    ∀ z ∈ before ++ after, y ∉ z.ancestors
  /-- The way outward starts at the nearest element around, and each of its
  elements is inside all later ones. -/
  nearest_first : ∀ x ∈ d.elements,
    (x :: x.ancestors).Pairwise fun e a =>
      e ∈ a.descendants ∧ a.position < e.position
  ends_outermost : ∀ x ∈ d.elements, ∃ e, (x :: x.ancestors).getLast? = some e ∧
    IsOutermost d e
  /-- Only elements of the document stand around an element. -/
  ancestors_subset : ∀ x ∈ d.elements, x.ancestors ⊆ d.elements
  nested_or_disjoint : ∀ x ∈ d.elements, ∀ y ∈ d.elements,
    x.span ⊆ y.span ∨ y.span ⊆ x.span ∨ x.span.Disjoint y.span
  hasAncestor_iff : ∀ (q : Query) (x : Element),
    (x ∈ d.elements ∧ Query.hasAncestor q x = true) ↔
      ∃ a ∈ d.select q, x ∈ a.descendants
  hasDescendant_iff : ∀ (q : Query) (x : Element),
    (x ∈ d.elements ∧ x.descendants.filter q ≠ []) ↔
      ∃ i ∈ d.select q, x ∈ i.ancestors

/-!
## Subtrees as runs
-/

theorem length_elements (f : Forest) (enclosing : List Subtree) (next : Nat) :
    (f.elements enclosing next).length = f.size := by
  have h := congrArg List.length (map_position_elements f enclosing next)
  rwa [List.length_map, List.length_range'] at h

theorem exists_run {f : Forest} {enclosing : List Subtree} {next : Nat}
    {e : Element} (h : e ∈ f.elements enclosing next) :
    ∃ before after,
      f.elements enclosing next = before ++ e :: (e.descendants ++ after) ∧
      next + before.length = e.position := by
  induction f generalizing enclosing next with
  | nil => cases h
  | text content rest ih => exact ih h
  | characterData content rest ih => exact ih h
  | remark content rest ih => exact ih h
  | element name attributes line children rest ihchildren ihrest =>
      rw [Forest.elements, List.mem_cons, List.mem_append] at h
      rw [Forest.elements]
      generalize hs :
        (⟨next, name, attributes, line, children⟩ : Subtree) = s at h
      rcases h with rfl | hchildren | hrest
      · subst hs
        exact ⟨[], _, rfl, rfl⟩
      · rcases ihchildren hchildren with ⟨before, after, hrun, hposition⟩
        refine ⟨⟨s, enclosing⟩ :: before,
          after ++ rest.elements enclosing (next + 1 + children.size), ?_, ?_⟩
        · rw [hrun, List.cons_append, List.append_assoc, List.cons_append,
            List.append_assoc]
        · rw [List.length_cons]
          omega
      · rcases ihrest hrest with ⟨before, after, hrun, hposition⟩
        refine
          ⟨⟨s, enclosing⟩ ::
            (children.elements (s :: enclosing) (next + 1) ++ before),
            after, ?_, ?_⟩
        · rw [hrun, List.cons_append, List.append_assoc]
        · rw [List.length_cons, List.length_append, length_elements]
          omega

theorem position_lt_of_mem_descendants {a e : Element} (h : e ∈ a.descendants) :
    a.position < e.position := by
  have hmem : e.position ∈ a.descendants.map Element.position :=
    List.mem_map_of_mem h
  rw [Element.descendants, map_position_elements, List.mem_range'_1] at hmem
  exact hmem.1

theorem descendants_subset {a e : Element} (h : e ∈ a.descendants) :
    e.descendants ⊆ a.descendants := by
  intro i hi
  exact mem_elements_of_mem_descendants h hi

/-!
## The way outward
-/

theorem pairwise_ancestors (e : Element) :
    (e :: e.ancestors).Pairwise fun e' a => a ∈ e'.ancestors := by
  cases e with
  | mk subtree enclosing =>
      induction enclosing generalizing subtree with
      | nil => exact List.pairwise_singleton _ _
      | cons s enclosing ih =>
          apply List.Pairwise.cons _ (ih s)
          intro a ha
          exact ha

theorem eq_or_mem_ancestors {e a b : Element} (ha : a ∈ e.ancestors)
    (hb : b ∈ e.ancestors) :
    a = b ∨ a ∈ b.ancestors ∨ b ∈ a.ancestors := by
  rw [Element.ancestors, mem_ancestorsIn_iff] at ha hb ⊢
  rw [Element.ancestors, mem_ancestorsIn_iff]
  have hcompare :
      ∀ {a b : Element}, a.subtree :: a.enclosing <:+ b.subtree :: b.enclosing →
      a = b ∨ a.subtree :: a.enclosing <:+ b.enclosing := by
    intro a b h
    rcases List.suffix_cons_iff.1 h with hsame | hinside
    · left
      rw [List.cons.injEq] at hsame
      cases a
      cases b
      simp only [Element.mk.injEq]
      exact hsame
    · exact .inr hinside
  rcases List.suffix_or_suffix_of_suffix ha hb with h | h
  · rcases hcompare h with hsame | hinside
    · exact .inl hsame
    · exact .inr (.inl hinside)
  · rcases hcompare h with hsame | hinside
    · exact .inl hsame.symm
    · exact .inr (.inr hinside)

theorem exists_node {f : Forest} {enclosing : List Subtree} {next : Nat}
    {e : Element} (h : e ∈ f.elements enclosing next)
    (hnone : e.enclosing = enclosing) :
    ∃ before after : Forest, e.position = next + before.size ∧
      f = before ++ .element e.subtree.name e.subtree.attributes e.subtree.line
        e.subtree.children after := by
  induction f generalizing next with
  | nil => cases h
  | text content rest ih =>
      rcases ih h with ⟨before, after, hposition, hsplit⟩
      exact ⟨.text content before, after, hposition, by rw [hsplit]; rfl⟩
  | characterData content rest ih =>
      rcases ih h with ⟨before, after, hposition, hsplit⟩
      exact ⟨.characterData content before, after, hposition,
        by rw [hsplit]; rfl⟩
  | remark content rest ih =>
      rcases ih h with ⟨before, after, hposition, hsplit⟩
      exact ⟨.remark content before, after, hposition, by rw [hsplit]; rfl⟩
  | element name attributes line children rest _ ihrest =>
      rw [Forest.elements, List.mem_cons, List.mem_append] at h
      rcases h with rfl | hchildren | hrest
      · exact ⟨.nil, rest, rfl, rfl⟩
      · -- An element of the children has their parent around it as well.
        have hlength := (suffix_enclosing hchildren).length_le
        rw [hnone, List.length_cons] at hlength
        omega
      · rcases ihrest hrest with ⟨before, after, hposition, hsplit⟩
        refine ⟨.element name attributes line children before, after, ?_,
          by rw [hsplit]; rfl⟩
        rw [hposition, Forest.size]
        omega

theorem exists_last_ancestor (e : Element) :
    ∃ last, (e :: e.ancestors).getLast? = some last ∧ last.enclosing = [] := by
  cases e with
  | mk subtree enclosing =>
      induction enclosing generalizing subtree with
      | nil => exact ⟨⟨subtree, []⟩, rfl, rfl⟩
      | cons s enclosing ih =>
          rcases ih s with ⟨last, hlast, hnone⟩
          refine ⟨last, ?_, hnone⟩
          show (⟨subtree, s :: enclosing⟩ :: ⟨s, enclosing⟩ ::
            Element.ancestorsIn enclosing).getLast? = some last
          rw [List.getLast?_cons_cons]
          exact hlast

/-!
## All together
-/

section Elements

variable {d : Document} {x y : Element}

theorem mem_descendants_of_mem_ancestors (hx : x ∈ d.elements)
    (h : y ∈ x.ancestors) : x ∈ y.descendants :=
  ((mem_ancestors_iff hx).1 h).2

theorem mem_elements_of_mem_span (hx : x ∈ d.elements)
    (h : y ∈ x :: x.ancestors) : y ∈ d.elements := by
  rcases List.mem_cons.1 h with rfl | haround
  · exact hx
  · exact ((mem_ancestors_iff hx).1 haround).1

theorem span_subset (h : x ∈ y.descendants) : x.span ⊆ y.span := by
  intro e he
  rw [Element.span, List.mem_cons] at he ⊢
  rcases he with rfl | hinside
  · exact .inr h
  · exact .inr (descendants_subset h hinside)

theorem span_nested_or_disjoint (hx : x ∈ d.elements) (hy : y ∈ d.elements) :
    x.span ⊆ y.span ∨ y.span ⊆ x.span ∨ x.span.Disjoint y.span := by
  by_cases hsame : x = y
  · left
    rw [hsame]
    exact List.Subset.refl _
  by_cases hxy : x ∈ y.descendants
  · exact .inl (span_subset hxy)
  by_cases hyx : y ∈ x.descendants
  · exact .inr (.inl (span_subset hyx))
  right; right
  intro e hex hey
  rw [Element.span, List.mem_cons] at hex hey
  rcases hex with rfl | hex
  · rcases hey with rfl | hey
    · exact hsame rfl
    · exact hxy hey
  · rcases hey with rfl | hey
    · exact hyx hex
    · -- Both stand around the same element, so one stands around the other.
      rcases eq_or_mem_ancestors (mem_ancestors_of_mem_descendants hex)
        (mem_ancestors_of_mem_descendants hey) with
        h | h | h
      · exact hsame h
      · exact hyx (mem_descendants_of_mem_ancestors hy h)
      · exact hxy (mem_descendants_of_mem_ancestors hx h)

theorem not_mem_back (h : x ∈ y.descendants) : x ≠ y ∧ y ∉ x.descendants := by
  have hlt : y.position < x.position := position_lt_of_mem_descendants h
  constructor
  · intro hsame
    rw [hsame] at hlt
    exact Nat.lt_irrefl _ hlt
  · intro hback
    exact Nat.lt_asymm hlt (position_lt_of_mem_descendants hback)

/-- No element before or behind the run of a subtree stands inside it, since no
element occurs twice. -/
theorem not_inside_of_run {before after : List Element}
    (hrun : d.elements = before ++ y :: (y.descendants ++ after)) {z : Element}
    (hz : z ∈ before ++ after) : y ∉ z.ancestors := by
  have hnodup : (before ++ y :: (y.descendants ++ after)).Nodup := by
    rw [← hrun]
    exact (inOrder_elements d).nodup
  have hmem : z ∈ d.elements := by
    rw [hrun]
    rcases List.mem_append.1 hz with hbefore | hafter
    · exact List.mem_append_left _ hbefore
    · exact List.mem_append_right _
        (List.mem_cons_of_mem _ (List.mem_append_right _ hafter))
  intro haround
  have hinside : z ∈ y.descendants :=
    mem_descendants_of_mem_ancestors hmem haround
  rcases List.mem_append.1 hz with hbefore | hafter
  · have hdisjoint := (List.nodup_append.1 hnodup).2.2
    exact hdisjoint z hbefore z
      (List.mem_cons_of_mem _ (List.mem_append_left _ hinside)) rfl
  · have hrest := (List.nodup_cons.1 (List.nodup_append.1 hnodup).2.1).2
    exact (List.nodup_append.1 hrest).2.2 z hinside z hafter rfl

theorem exists_outermost (hx : x ∈ d.elements) :
    ∃ e, (x :: x.ancestors).getLast? = some e ∧ IsOutermost d e := by
  rcases exists_last_ancestor x with ⟨last, hlast, hnone⟩
  have hmem : last ∈ d.nodes.elements [] 0 :=
    mem_elements_of_mem_span hx (List.mem_of_getLast? hlast)
  rcases exists_node hmem hnone with ⟨before, after, hposition, hsplit⟩
  rw [Nat.zero_add] at hposition
  exact ⟨last, hlast, before, after, hposition, hsplit⟩

theorem hasAncestor_select_iff (q : Query) :
    (x ∈ d.elements ∧ Query.hasAncestor q x = true) ↔
      ∃ a ∈ d.select q, x ∈ a.descendants := by
  simp only [Document.select, List.mem_filter, Query.hasAncestor_iff]
  constructor
  · intro hgiven
    rcases hgiven with ⟨hx, a, haround, hq⟩
    rcases (mem_ancestors_iff hx).1 haround with ⟨ha, hinside⟩
    exact ⟨a, ⟨ha, hq⟩, hinside⟩
  · intro hgiven
    rcases hgiven with ⟨a, ⟨ha, hq⟩, hinside⟩
    exact ⟨mem_elements_of_mem_descendants ha hinside, a,
      mem_ancestors_of_mem_descendants hinside, hq⟩

theorem hasDescendant_select_iff (q : Query) :
    (x ∈ d.elements ∧ x.descendants.filter q ≠ []) ↔
      ∃ i ∈ d.select q, x ∈ i.ancestors := by
  simp only [Document.select, List.mem_filter, ne_eq, List.filter_eq_nil_iff,
    not_forall, not_not, exists_prop]
  constructor
  · intro hgiven
    rcases hgiven with ⟨hx, i, hinside, hq⟩
    exact ⟨i, ⟨mem_elements_of_mem_descendants hx hinside, hq⟩,
      mem_ancestors_of_mem_descendants hinside⟩
  · intro hgiven
    rcases hgiven with ⟨i, ⟨hi, hq⟩, haround⟩
    rcases (mem_ancestors_iff hi).1 haround with ⟨hx, hinside⟩
    exact ⟨hx, i, hinside, hq⟩

end Elements

/-- The walks through every document agree. -/
theorem Document.navigable (d : Document) : Navigable d where
  around_iff_inside := by
    intro x hx y _
    exact ⟨mem_descendants_of_mem_ancestors hx,
      mem_ancestors_of_mem_descendants⟩
  one_way := fun _ _ _ _ h => not_mem_back h
  run := by
    intro y hy
    rcases exists_run hy with ⟨before, after, hrun, hposition⟩
    rw [Nat.zero_add] at hposition
    exact ⟨before, after, hrun, hposition, length_elements _ _ _,
      fun _ hz => not_inside_of_run hrun hz⟩
  nearest_first := by
    intro x hx
    apply List.Pairwise.imp_of_mem _ (pairwise_ancestors x)
    intro e a he _ h
    have hinside : e ∈ a.descendants :=
      mem_descendants_of_mem_ancestors (mem_elements_of_mem_span hx he) h
    exact ⟨hinside, position_lt_of_mem_descendants hinside⟩
  ends_outermost := fun _ hx => exists_outermost hx
  ancestors_subset := by
    intro x hx a ha
    exact ((mem_ancestors_iff hx).1 ha).1
  nested_or_disjoint := fun _ hx _ hy => span_nested_or_disjoint hx hy
  hasAncestor_iff := fun q _ => hasAncestor_select_iff q
  hasDescendant_iff := fun q _ => hasDescendant_select_iff q

end Markup
end SiteAudit
