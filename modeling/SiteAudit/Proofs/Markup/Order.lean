import SiteAudit.Markup.Query

/-!
# Document order

The elements of a forest are numbered one after the other, so the numbers of the
elements of a document, and of any selection of them, go up.  An element stands
around another one just when the other one stands inside it.
-/

namespace SiteAudit
namespace Markup

theorem map_position_elements (f : Forest) (enclosing : List Subtree)
    (next : Nat) :
    (f.elements enclosing next).map Element.position =
      List.range' next f.size := by
  induction f generalizing enclosing next with
  | nil => rfl
  | text content rest ih => exact ih enclosing next
  | characterData content rest ih => exact ih enclosing next
  | remark content rest ih => exact ih enclosing next
  | element name attributes line children rest ihchildren ihrest =>
      have hsize :
          children.size + 1 + rest.size = children.size + rest.size + 1 := by
            omega
      rw [Forest.elements, List.map_cons, List.map_append, ihchildren, ihrest,
        List.range'_append_1, Forest.size, hsize, List.range'_succ]
      rfl

def InOrder (es : List Element) : Prop :=
  es.Pairwise fun e e' => e.position < e'.position

theorem inOrder_elements (d : Document) : InOrder d.elements := by
  have h : (d.elements.map Element.position).Pairwise (· < ·) := by
    rw [Document.elements, map_position_elements]
    exact List.pairwise_lt_range'
  exact List.pairwise_map.1 h

theorem InOrder.sublist {es es' : List Element} (h : InOrder es')
    (hsub : es.Sublist es') : InOrder es :=
  List.Pairwise.sublist hsub h

theorem InOrder.nodup {es : List Element} (h : InOrder es) : es.Nodup := by
  apply List.Pairwise.imp _ h
  intro e e' hlt hgiven
  subst hgiven
  exact Nat.lt_irrefl _ hlt

/-- A row in order can be cut at two of its elements, the one that comes first
before the other. -/
theorem InOrder.exists_between {es : List Element} (h : InOrder es)
    {e e' : Element} (he : e ∈ es) (he' : e' ∈ es)
    (hlt : e.position < e'.position) :
    ∃ before between after, es = before ++ e :: (between ++ e' :: after) := by
  rcases List.append_of_mem he with ⟨before, behind, rfl⟩
  have hbehind : e' ∈ behind := by
    rcases List.mem_append.1 he' with hmem | hmem
    · have hearlier : e'.position < e.position :=
        (List.pairwise_append.1 h).2.2 e' hmem e List.mem_cons_self
      omega
    · rcases List.mem_cons.1 hmem with rfl | hmem
      · exact absurd hlt (Nat.lt_irrefl _)
      · exact hmem
  rcases List.append_of_mem hbehind with ⟨between, after, rfl⟩
  exact ⟨before, between, after, rfl⟩

theorem InOrder.position_between {before between after : List Element}
    {e e' : Element} (h : InOrder (before ++ e :: (between ++ e' :: after)))
    {i : Element} (hi : i ∈ between) :
    e.position < i.position ∧ i.position < e'.position := by
  rcases List.pairwise_cons.1 (List.pairwise_append.1 h).2.1 with
    ⟨hbehind, hrest⟩
  exact ⟨hbehind i (List.mem_append_left _ hi),
    (List.pairwise_append.1 hrest).2.2 i hi e' List.mem_cons_self⟩

theorem select_sublist (d : Document) (q : Query) :
    (d.select q).Sublist d.elements :=
  List.filter_sublist

theorem inOrder_select (d : Document) (q : Query) : InOrder (d.select q) :=
  (inOrder_elements d).sublist (select_sublist d q)

/-!
## Around and inside
-/

theorem mem_ancestorsIn_iff {a : Element} {enclosing : List Subtree} :
    a ∈ Element.ancestorsIn enclosing ↔
      a.subtree :: a.enclosing <:+ enclosing := by
  induction enclosing with
  | nil =>
      rw [List.suffix_nil]
      constructor
      · intro h
        cases h
      · intro h
        cases h
  | cons s enclosing ih =>
      rw [Element.ancestorsIn, List.mem_cons, ih, List.suffix_cons_iff,
        List.cons.injEq]
      constructor
      · intro hgiven
        rcases hgiven with rfl | h
        · exact .inl ⟨rfl, rfl⟩
        · exact .inr h
      · intro hgiven
        rcases hgiven with ⟨hsubtree, henclosing⟩ | h
        · left
          cases a
          rw [← hsubtree, ← henclosing]
        · exact .inr h

theorem suffix_enclosing {f : Forest} {enclosing : List Subtree} {next : Nat}
    {e : Element} (h : e ∈ f.elements enclosing next) :
    enclosing <:+ e.enclosing := by
  induction f generalizing enclosing next with
  | nil => cases h
  | text content rest ih => exact ih h
  | characterData content rest ih => exact ih h
  | remark content rest ih => exact ih h
  | element name attributes line children rest ihchildren ihrest =>
      rw [Forest.elements, List.mem_cons, List.mem_append] at h
      rcases h with rfl | hchildren | hrest
      · exact List.suffix_refl enclosing
      · exact (List.suffix_cons _ enclosing).trans (ihchildren hchildren)
      · exact ihrest hrest

theorem mem_ancestors_of_mem_descendants {a e : Element}
    (h : e ∈ a.descendants) : a ∈ e.ancestors := by
  rw [Element.ancestors, mem_ancestorsIn_iff]
  exact suffix_enclosing h

theorem mem_elements_of_mem_descendants {f : Forest} {enclosing : List Subtree}
    {next : Nat} {a e : Element} (ha : a ∈ f.elements enclosing next)
    (h : e ∈ a.descendants) : e ∈ f.elements enclosing next := by
  induction f generalizing enclosing next with
  | nil => cases ha
  | text content rest ih => exact ih ha
  | characterData content rest ih => exact ih ha
  | remark content rest ih => exact ih ha
  | element name attributes line children rest ihchildren ihrest =>
      rw [Forest.elements, List.mem_cons, List.mem_append] at ha ⊢
      rcases ha with rfl | hchildren | hrest
      · exact .inr (.inl h)
      · exact .inr (.inl (ihchildren hchildren))
      · exact .inr (.inr (ihrest hrest))

theorem mem_ancestorsIn_or_mem_elements {f : Forest} {enclosing : List Subtree}
    {next : Nat} {a e : Element} (he : e ∈ f.elements enclosing next)
    (h : a ∈ e.ancestors) :
    a ∈ Element.ancestorsIn enclosing ∨
      (a ∈ f.elements enclosing next ∧ e ∈ a.descendants) := by
  induction f generalizing enclosing next with
  | nil => cases he
  | text content rest ih => exact ih he
  | characterData content rest ih => exact ih he
  | remark content rest ih => exact ih he
  | element name attributes line children rest ihchildren ihrest =>
      rw [Forest.elements, List.mem_cons, List.mem_append] at he
      rw [Forest.elements, List.mem_cons, List.mem_append]
      rcases he with rfl | hchildren | hrest
      · exact .inl h
      · rcases ihchildren hchildren with haround | ⟨hinside, hdescendant⟩
        · rw [Element.ancestorsIn, List.mem_cons] at haround
          rcases haround with rfl | houtside
          · exact .inr ⟨.inl rfl, hchildren⟩
          · exact .inl houtside
        · exact .inr ⟨.inr (.inl hinside), hdescendant⟩
      · rcases ihrest hrest with haround | ⟨hinside, hdescendant⟩
        · exact .inl haround
        · exact .inr ⟨.inr (.inr hinside), hdescendant⟩

/-- The elements around an element are those that it stands inside of. -/
theorem mem_ancestors_iff {d : Document} {a e : Element} (he : e ∈ d.elements) :
    a ∈ e.ancestors ↔ a ∈ d.elements ∧ e ∈ a.descendants := by
  constructor
  · intro h
    rcases mem_ancestorsIn_or_mem_elements he h with hnone | hinside
    · cases hnone
    · exact hinside
  · intro hgiven
    cases hgiven with
    | intro _ h =>
        exact mem_ancestors_of_mem_descendants h

end Markup
end SiteAudit
