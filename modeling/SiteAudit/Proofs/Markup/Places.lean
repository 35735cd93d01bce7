import Mathlib.Logic.Basic
import SiteAudit.Markup.Query

/-!
# The places of elements

The place of an element is its number in document order and its line.  Moving an
element changes the places of it, of what is around it and of what is inside it,
and nothing else.  What a query sees does not depend on places, so it sees the
same of a moved element.

Two kinds of moves matter: the elements of a forest behind another forest have
higher numbers, and the elements of a forest with other lines have other lines.
-/

namespace SiteAudit
namespace Markup

/-- The forest with other lines; `l` tells what becomes of a line, and may take
it away. -/
def Forest.mapLines (l : WritableInt → Option WritableInt) : Forest → Forest
  | nil => nil
  | text content rest => text content (rest.mapLines l)
  | characterData content rest => characterData content (rest.mapLines l)
  | remark content rest => remark content (rest.mapLines l)
  | element name attributes line children rest =>
      element name attributes (line.bind l) (children.mapLines l)
        (rest.mapLines l)

def Subtree.move (k : Nat) (l : WritableInt → Option WritableInt)
    (s : Subtree) : Subtree where
  position := s.position + k
  name := s.name
  attributes := s.attributes
  line := s.line.bind l
  children := s.children.mapLines l

def Element.move (k : Nat) (l : WritableInt → Option WritableInt)
    (e : Element) : Element :=
  ⟨e.subtree.move k l, e.enclosing.map (Subtree.move k l)⟩

namespace Forest

@[simp] theorem size_mapLines (l : WritableInt → Option WritableInt)
    (f : Forest) : (f.mapLines l).size = f.size := by
  induction f with
  | nil => rfl
  | text content rest ih => exact ih
  | characterData content rest ih => exact ih
  | remark content rest ih => exact ih
  | element name attributes line children rest ihchildren ihrest =>
      rw [mapLines, size, size, ihchildren, ihrest]

@[simp] theorem mapLines_some (f : Forest) : f.mapLines some = f := by
  induction f with
  | nil => rfl
  | text content rest ih => rw [mapLines, ih]
  | characterData content rest ih => rw [mapLines, ih]
  | remark content rest ih => rw [mapLines, ih]
  | element name attributes line children rest ihchildren ihrest =>
      rw [mapLines, Option.bind_fun_some, ihchildren, ihrest]

@[simp] theorem strings_mapLines (l : WritableInt → Option WritableInt)
    (reader around : Option String) (f : Forest) :
    (f.mapLines l).strings reader around = f.strings reader around := by
  induction f generalizing around with
  | nil => rfl
  | text content rest ih => rw [mapLines, strings, strings, ih]
  | characterData content rest ih => rw [mapLines, strings, strings, ih]
  | remark content rest ih => exact ih around
  | element name attributes line children rest ihchildren ihrest =>
      rw [mapLines, strings, strings, ihchildren, ihrest]

theorem elements_mapLines (k : Nat) (l : WritableInt → Option WritableInt)
    (f : Forest) (enclosing : List Subtree) (next : Nat) :
    (f.mapLines l).elements (enclosing.map (Subtree.move k l)) (next + k) =
      (f.elements enclosing next).map (Element.move k l) := by
  induction f generalizing enclosing next with
  | nil => rfl
  | text content rest ih => exact ih enclosing next
  | characterData content rest ih => exact ih enclosing next
  | remark content rest ih => exact ih enclosing next
  | element name attributes line children rest ihchildren ihrest =>
      have hnext : next + k + 1 = next + 1 + k := by omega
      have hrest :
          next + 1 + k + children.size = next + 1 + children.size + k := by
            omega
      rw [mapLines, elements, elements, List.map_cons, List.map_append,
        ← ihchildren, ← ihrest, size_mapLines, hnext, hrest]
      rfl

theorem elements_append (f g : Forest) (enclosing : List Subtree) (next : Nat) :
    (f ++ g).elements enclosing next =
      f.elements enclosing next ++ g.elements enclosing (next + f.size) := by
  induction f generalizing next with
  | nil => rfl
  | text content rest ih => exact ih next
  | characterData content rest ih => exact ih next
  | remark content rest ih => exact ih next
  | element name attributes line children rest _ ih =>
      have hnext : next + 1 + children.size + rest.size =
          next + (children.size + 1 + rest.size) := by omega
      rw [element_append, elements, elements, ih, size, hnext, List.cons_append,
        List.append_assoc]

end Forest

/-!
## Moved elements
-/

namespace Element

variable (k : Nat) (l : WritableInt → Option WritableInt) (e : Element)

@[simp] theorem position_move : (e.move k l).position = e.position + k := rfl

@[simp] theorem line_move : (e.move k l).line = e.line.bind l := rfl

@[simp] theorem tag_move : (e.move k l).tag = e.tag := rfl

@[simp] theorem has_move (name : String) : (e.move k l).has name = e.has name :=
  rfl

@[simp] theorem get_move (name : String) : (e.move k l).get name = e.get name :=
  rfl

@[simp] theorem getText_move (name : String) :
    (e.move k l).getText name = e.getText name := rfl

@[simp] theorem classes_move : (e.move k l).classes = e.classes := rfl

theorem containerOf_move (enclosing : List Subtree) :
    containerOf (enclosing.map (Subtree.move k l)) = containerOf enclosing := by
  induction enclosing with
  | nil => rfl
  | cons s enclosing ih =>
      rw [List.map_cons, containerOf, containerOf, ih]
      rfl

@[simp] theorem words_move : (e.move k l).words = e.words := by
  have haround : containerOf ((e.move k l).subtree :: (e.move k l).enclosing) =
      containerOf (e.subtree :: e.enclosing) :=
        containerOf_move k l (e.subtree :: e.enclosing)
  have hstrings : (e.move k l).strings = e.strings := by
    rw [strings, haround]
    exact Forest.strings_mapLines l _ _ e.subtree.children
  rw [words, words, hstrings]

@[simp] theorem text_move : (e.move k l).text = e.text := by
  rw [text, text, words_move]

theorem ancestorsIn_move (enclosing : List Subtree) :
    ancestorsIn (enclosing.map (Subtree.move k l)) =
      (ancestorsIn enclosing).map (move k l) := by
  induction enclosing with
  | nil => rfl
  | cons s enclosing ih =>
      rw [List.map_cons, ancestorsIn, ancestorsIn, List.map_cons, ih]
      rfl

@[simp] theorem ancestors_move :
    (e.move k l).ancestors = e.ancestors.map (move k l) :=
  ancestorsIn_move k l e.enclosing

@[simp] theorem descendants_move :
    (e.move k l).descendants = e.descendants.map (move k l) := by
  have hnext : e.subtree.position + k + 1 = e.subtree.position + 1 + k := by
    omega
  have h := Forest.elements_mapLines k l e.subtree.children
    (e.subtree :: e.enclosing) (e.subtree.position + 1)
  rw [← hnext] at h
  exact h

end Element

namespace Document

/-- The elements of a forest behind another one come with higher numbers. -/
theorem elements_append (f g : Forest) :
    elements ⟨f ++ g⟩ =
      elements ⟨f⟩ ++ (elements ⟨g⟩).map (Element.move f.size some) := by
  have h := Forest.elements_mapLines f.size some g [] 0
  rw [Forest.mapLines_some] at h
  rw [elements, Forest.elements_append]
  exact congrArg (elements ⟨f⟩ ++ ·) h

theorem elements_mapLines (l : WritableInt → Option WritableInt) (f : Forest) :
    elements ⟨f.mapLines l⟩ = (elements ⟨f⟩).map (Element.move 0 l) :=
  Forest.elements_mapLines 0 l f [] 0

end Document

/-!
## Queries
-/

/-- The query sees the same of an element wherever it is. -/
def Query.IgnoresPlaces (q : Query) : Prop :=
  ∀ k l e, q (e.move k l) = q e

namespace Query.IgnoresPlaces

theorem not {q : Query} (h : q.IgnoresPlaces) :
    Query.IgnoresPlaces fun e => !q e := by
  intro k l e
  exact congrArg Bool.not (h k l e)

theorem or {p q : Query} (hp : p.IgnoresPlaces) (hq : q.IgnoresPlaces) :
    Query.IgnoresPlaces fun e => p e || q e := by
  intro k l e
  exact congrArg₂ Bool.or (hp k l e) (hq k l e)

theorem and {p q : Query} (hp : p.IgnoresPlaces) (hq : q.IgnoresPlaces) :
    Query.IgnoresPlaces fun e => p e && q e := by
  intro k l e
  exact congrArg₂ Bool.and (hp k l e) (hq k l e)

theorem all {qs : List Query} (h : ∀ q ∈ qs, q.IgnoresPlaces) :
    (Query.all qs).IgnoresPlaces := by
  intro k l e
  rw [Query.all, Query.all, Bool.eq_iff_iff, List.all_eq_true, List.all_eq_true]
  apply forall₂_congr
  intro q hq
  rw [h q hq k l e]

theorem any {qs : List Query} (h : ∀ q ∈ qs, q.IgnoresPlaces) :
    (Query.any qs).IgnoresPlaces := by
  intro k l e
  rw [Query.any, Query.any, Bool.eq_iff_iff, List.any_eq_true, List.any_eq_true]
  apply exists_congr
  intro q
  apply and_congr_right
  intro hq
  rw [h q hq k l e]

theorem any_map {q : Query} (h : q.IgnoresPlaces) (k : Nat)
    (l : WritableInt → Option WritableInt) (es : List Element) :
    (es.map (Element.move k l)).any q = es.any q := by
  have hcomp : q ∘ Element.move k l = q := funext (h k l)
  rw [List.any_map, hcomp]

theorem filter_map {q : Query} (h : q.IgnoresPlaces) (k : Nat)
    (l : WritableInt → Option WritableInt) (es : List Element) :
    (es.map (Element.move k l)).filter q =
      (es.filter q).map (Element.move k l) := by
  have hcomp : q ∘ Element.move k l = q := funext (h k l)
  rw [List.filter_map, hcomp]

theorem hasAncestor {q : Query} (h : q.IgnoresPlaces) :
    (Query.hasAncestor q).IgnoresPlaces := by
  intro k l e
  rw [Query.hasAncestor, Element.ancestors_move, h.any_map]
  rfl

theorem hasDescendant {q : Query} (h : q.IgnoresPlaces) :
    (Query.hasDescendant q).IgnoresPlaces := by
  intro k l e
  rw [Query.hasDescendant, Element.descendants_move, h.any_map]
  rfl

end Query.IgnoresPlaces

section Select

variable {q : Query} (h : q.IgnoresPlaces)

include h

theorem select_append (f g : Forest) :
    Document.select ⟨f ++ g⟩ q = Document.select ⟨f⟩ q ++
      (Document.select ⟨g⟩ q).map (Element.move f.size some) := by
  simp only [Document.select, Document.elements_append, List.filter_append,
    h.filter_map]

theorem select_mapLines (l : WritableInt → Option WritableInt) (f : Forest) :
    Document.select ⟨f.mapLines l⟩ q =
      (Document.select ⟨f⟩ q).map (Element.move 0 l) := by
  rw [Document.select, Document.elements_mapLines, h.filter_map]
  rfl

end Select

end Markup
end SiteAudit
