import SiteAudit.Text.Decimal

/-!
# Forests of nodes

A document is a forest: a row of nodes, each of which is a piece of text, a
piece of character data, a remark, or an element with a forest of its own.  The
type is one list-like inductive type, in which every node carries the nodes that
follow it, so that functions and proofs go by plain structural recursion.

An attribute may have a value of several kinds, since trees may be built by hand
as well as read.  All readers of a value see its text, so a number among them is
one that can be written.
-/

namespace SiteAudit
namespace Markup

/-- The value of an attribute. -/
inductive AttributeValue
  | null
  | text (s : String)
  | list (items : List String)
  | number (n : WritableInt)
  | flag (b : Bool)
  deriving DecidableEq, Repr

/-- The text of an attribute value: items are put in a row with spaces, and a
null value has none. -/
def AttributeValue.text? : AttributeValue → Option String
  | null => none
  | text s => some s
  | list items => some (" ".intercalate items)
  | number n => some n.text
  | flag b => some (if b then "True" else "False")

structure Attribute where
  name : String
  value : AttributeValue
  deriving DecidableEq, Repr

inductive Forest
  | nil
  | text (content : String) (rest : Forest)
  | characterData (content : String) (rest : Forest)
  | remark (content : String) (rest : Forest)
  | element (name : String) (attributes : List Attribute)
      (line : Option WritableInt)
      (children rest : Forest)
  deriving DecidableEq, Repr, Inhabited

namespace Forest

def append : Forest → Forest → Forest
  | nil, g => g
  | text s rest, g => text s (rest.append g)
  | characterData s rest, g => characterData s (rest.append g)
  | remark s rest, g => remark s (rest.append g)
  | element n as l children rest, g => element n as l children (rest.append g)

instance : Append Forest := ⟨append⟩

def reverseOnto : Forest → Forest → Forest
  | nil, g => g
  | text s rest, g => rest.reverseOnto (text s g)
  | characterData s rest, g => rest.reverseOnto (characterData s g)
  | remark s rest, g => rest.reverseOnto (remark s g)
  | element n as l children rest, g =>
      rest.reverseOnto (element n as l children g)

/-- The nodes of a forest in reverse order; the children of each stay as they
are. -/
def reverse (f : Forest) : Forest :=
  f.reverseOnto nil

def size : Forest → Nat
  | nil => 0
  | text _ rest => rest.size
  | characterData _ rest => rest.size
  | remark _ rest => rest.size
  | element _ _ _ children rest => children.size + 1 + rest.size

@[simp] theorem nil_append (g : Forest) : nil ++ g = g := rfl

@[simp] theorem text_append (s : String) (f g : Forest) :
    text s f ++ g = text s (f ++ g) := rfl

@[simp] theorem characterData_append (s : String) (f g : Forest) :
    characterData s f ++ g = characterData s (f ++ g) := rfl

@[simp] theorem remark_append (s : String) (f g : Forest) :
    remark s f ++ g = remark s (f ++ g) := rfl

@[simp] theorem element_append (n : String) (as : List Attribute)
    (l : Option WritableInt) (c f g : Forest) :
    element n as l c f ++ g = element n as l c (f ++ g) := rfl

@[simp] theorem append_nil (f : Forest) : f ++ nil = f := by
  induction f with
  | nil => rfl
  | text s rest ih => simp [ih]
  | characterData s rest ih => simp [ih]
  | remark s rest ih => simp [ih]
  | element n as l children rest _ ih => simp [ih]

theorem append_assoc (f g h : Forest) : f ++ g ++ h = f ++ (g ++ h) := by
  induction f with
  | nil => rfl
  | text s rest ih => simp [ih]
  | characterData s rest ih => simp [ih]
  | remark s rest ih => simp [ih]
  | element n as l children rest _ ih => simp [ih]

@[simp] theorem size_append (f g : Forest) :
    (f ++ g).size = f.size + g.size := by
  induction f with
  | nil => simp [size]
  | text s rest ih => simpa [size] using ih
  | characterData s rest ih => simpa [size] using ih
  | remark s rest ih => simpa [size] using ih
  | element n as l children rest _ ih =>
      simp only [element_append, size, ih]
      omega

end Forest

end Markup
end SiteAudit
