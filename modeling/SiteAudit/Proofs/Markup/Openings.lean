import SiteAudit.Markup.Document

/-!
# Start tags and elements

The elements of a forest that is built from tokens are those that the start tags
open, in the order of the start tags, with their names, attributes and lines.
End tags, whether they close something or not, and the end of the tokens only
decide which element stands inside which.
-/

namespace SiteAudit
namespace Markup

structure Opening where
  name : String
  attributes : List Attribute
  line : Option WritableInt

def Element.opening (e : Element) : Opening :=
  ⟨e.subtree.name, e.subtree.attributes, e.subtree.line⟩

namespace Forest

def openings : Forest → List Opening
  | nil => []
  | text _ rest => rest.openings
  | characterData _ rest => rest.openings
  | remark _ rest => rest.openings
  | element name attributes line children rest =>
      ⟨name, attributes, line⟩ :: (children.openings ++ rest.openings)

theorem map_opening_elements (f : Forest) (enclosing : List Subtree)
    (next : Nat) :
    (f.elements enclosing next).map Element.opening = f.openings := by
  induction f generalizing enclosing next with
  | nil => rfl
  | text content rest ih => exact ih enclosing next
  | characterData content rest ih => exact ih enclosing next
  | remark content rest ih => exact ih enclosing next
  | element name attributes line children rest ihchildren ihrest =>
      rw [elements, List.map_cons, List.map_append, ihchildren, ihrest]
      rfl

theorem openings_append (f g : Forest) :
    (f ++ g).openings = f.openings ++ g.openings := by
  induction f with
  | nil => rfl
  | text content rest ih => exact ih
  | characterData content rest ih => exact ih
  | remark content rest ih => exact ih
  | element name attributes line children rest _ ih =>
      rw [element_append, openings, openings, ih, List.cons_append,
        List.append_assoc]

theorem reverseOnto_eq (f g : Forest) : f.reverseOnto g = f.reverse ++ g := by
  induction f generalizing g with
  | nil => rfl
  | text content rest ih =>
      rw [reverse, reverseOnto, reverseOnto, ih, ih (text content nil),
        append_assoc]
      rfl
  | characterData content rest ih =>
      rw [reverse, reverseOnto, reverseOnto, ih, ih (characterData content nil),
        append_assoc]
      rfl
  | remark content rest ih =>
      rw [reverse, reverseOnto, reverseOnto, ih, ih (remark content nil),
        append_assoc]
      rfl
  | element name attributes line children rest _ ih =>
      rw [reverse, reverseOnto, reverseOnto, ih,
        ih (element name attributes line children nil), append_assoc]
      rfl

/-- The start tags of a row of nodes that is kept with the last one first. -/
def openingsBackward (f : Forest) : List Opening :=
  f.reverse.openings

@[simp] theorem openingsBackward_text (content : String) (f : Forest) :
    (text content f).openingsBackward = f.openingsBackward := by
  rw [openingsBackward, reverse, reverseOnto, reverseOnto_eq, openings_append]
  exact List.append_nil _

@[simp] theorem openingsBackward_characterData (content : String) (f : Forest) :
    (characterData content f).openingsBackward = f.openingsBackward := by
  rw [openingsBackward, reverse, reverseOnto, reverseOnto_eq, openings_append]
  exact List.append_nil _

@[simp] theorem openingsBackward_remark (content : String) (f : Forest) :
    (remark content f).openingsBackward = f.openingsBackward := by
  rw [openingsBackward, reverse, reverseOnto, reverseOnto_eq, openings_append]
  exact List.append_nil _

theorem openingsBackward_element (name : String) (attributes : List Attribute)
    (line : Option WritableInt) (children f : Forest) :
    (element name attributes line children f).openingsBackward =
      f.openingsBackward ++ ⟨name, attributes, line⟩ :: children.openings := by
  rw [openingsBackward, reverse, reverseOnto, reverseOnto_eq, openings_append,
    openings]
  simp only [openings, List.append_nil]
  rfl

end Forest

namespace Builder

/-- The start tags of what stands before the innermost open element, and those
of the open elements. -/
def openingsAround : List OpenElement → List Opening
  | [] => []
  | e :: enclosing => openingsAround enclosing ++ e.before.openingsBackward ++
      [⟨e.name, e.attributes, e.line⟩]

def openings (b : Builder) : List Opening :=
  openingsAround b.enclosing ++ b.here.openingsBackward

@[simp] theorem openings_flush (b : Builder) :
    b.flush.openings = b.openings := by
  unfold flush
  split
  · rfl
  · rw [openings, openings, Forest.openingsBackward_text]

theorem openings_openElement (b : Builder) (name : String)
    (attributes : List Attribute) (line : Option WritableInt) :
    (b.openElement name attributes line).openings =
      b.openings ++ [⟨name, attributes, line⟩] :=
  List.append_nil _

theorem openings_closeInnermost (here : Forest) (e : OpenElement)
    (enclosing : List OpenElement) :
    openingsAround enclosing ++ (closeInnermost here e).openingsBackward =
      openingsAround (e :: enclosing) ++ here.openingsBackward := by
  rw [closeInnermost, Forest.openingsBackward_element, openingsAround,
    List.append_assoc, List.append_assoc]
  rfl

theorem openings_closeThrough (name : String) (here : Forest)
    (enclosing : List OpenElement) :
    openingsAround (closeThrough name here enclosing).2 ++
        (closeThrough name here enclosing).1.openingsBackward =
      openingsAround enclosing ++ here.openingsBackward := by
  induction enclosing generalizing here with
  | nil => rfl
  | cons e enclosing ih =>
      rw [closeThrough, ← openings_closeInnermost]
      split
      · rfl
      · exact ih (closeInnermost here e)

@[simp] theorem openings_close (b : Builder) (name : String) :
    (b.close name).openings = b.openings := by
  rw [← openings_flush b]
  simp only [close]
  split
  · exact openings_closeThrough name b.flush.here b.flush.enclosing
  · rfl

def openingOf (t : PlacedToken) : Option Opening :=
  match t.token with
  | .startTag name pairs _ =>
      some ⟨name, attributesOf pairs, some (.ofNat t.line)⟩
  | _ => none

theorem openings_add (b : Builder) (t : PlacedToken) :
    (b.add t).openings = b.openings ++ (openingOf t).toList := by
  cases t with
  | mk line token =>
      cases token with
      | text content => exact (List.append_nil _).symm
      | characterData content =>
          rw [add, openings, Forest.openingsBackward_characterData]
          exact (openings_flush b).trans (List.append_nil _).symm
      | remark content =>
          rw [add, openings, Forest.openingsBackward_remark]
          exact (openings_flush b).trans (List.append_nil _).symm
      | startTag name pairs closed =>
          have hopened : (b.flush.openElement name (attributesOf pairs)
              (some (.ofNat line))).openings =
              b.openings ++
                [⟨name, attributesOf pairs, some (.ofNat line)⟩] := by
            rw [openings_openElement, openings_flush]
          simp only [add]
          split
          · exact (openings_close _ name).trans hopened
          · split
            · exact (openings_close _ name).trans hopened
            · exact hopened
      | endTag name =>
          simp only [add]
          split
          · exact (List.append_nil _).symm
          · exact (openings_close b name).trans (List.append_nil _).symm

theorem openings_foldl (ts : List PlacedToken) (b : Builder) :
    (ts.foldl add b).openings = b.openings ++ ts.filterMap openingOf := by
  induction ts generalizing b with
  | nil => exact (List.append_nil _).symm
  | cons t ts ih =>
      rw [List.foldl_cons, ih, openings_add, List.append_assoc,
        List.filterMap_cons]
      cases openingOf t with
      | none => rfl
      | some o => rfl

theorem openings_closeAll (here : Forest) (enclosing : List OpenElement) :
    (closeAll here enclosing).openingsBackward =
      openingsAround enclosing ++ here.openingsBackward := by
  induction enclosing generalizing here with
  | nil => rfl
  | cons e enclosing ih => rw [closeAll, ih, openings_closeInnermost]

theorem openings_finish (b : Builder) : b.finish.openings = b.openings := by
  rw [← openings_flush b]
  exact openings_closeAll b.flush.here b.flush.enclosing

end Builder

/-- The start tags of a forest built from tokens are those among the tokens. -/
theorem Forest.openings_ofTokens (ts : List PlacedToken) :
    (ofTokens ts).openings = ts.filterMap Builder.openingOf := by
  rw [ofTokens, Builder.openings_finish, Builder.openings_foldl]
  rfl

end Markup
end SiteAudit
