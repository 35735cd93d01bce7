import SiteAudit.Markup.Builder
import SiteAudit.Text.Search

/-!
# Documents and their elements

An element of a document is a subtree together with the subtrees around it, the
nearest first.  So it knows its ancestors as well as its descendants, and both
come from the same tree.  Elements are numbered in document order, in which an
element comes right before its descendants.

The visible text of an element is made of words: those of the pieces of text
below it, in order.  Five kinds of elements keep text to themselves.  Text below
such a container belongs to the nearest one, and is part of the visible text of
containers of that kind only.
-/

namespace SiteAudit
namespace Markup

/-- An element without what is around it: its number in document order, its
start tag, and its children. -/
structure Subtree where
  position : Nat
  name : String
  attributes : List Attribute
  line : Option WritableInt
  children : Forest
  deriving DecidableEq, Repr

/-- An element: its subtree, and the subtrees that enclose it, the nearest
first. -/
structure Element where
  subtree : Subtree
  enclosing : List Subtree
  deriving DecidableEq, Repr

structure Document where
  nodes : Forest
  deriving DecidableEq, Repr

/-- The elements of a forest in document order.  `enclosing` holds the subtrees
around the forest, and `next` is the number of its first element. -/
def Forest.elements (enclosing : List Subtree) (next : Nat) :
    Forest → List Element
  | nil => []
  | text _ rest => rest.elements enclosing next
  | characterData _ rest => rest.elements enclosing next
  | remark _ rest => rest.elements enclosing next
  | element name attributes line children rest =>
      let s : Subtree := ⟨next, name, attributes, line, children⟩
      ⟨s, enclosing⟩ ::
        (children.elements (s :: enclosing) (next + 1) ++
          rest.elements enclosing (next + 1 + children.size))

/-- The elements that keep text to themselves. -/
def containers : List String :=
  ["style", "script", "template", "rt", "rp"]

/-- The container that the text of a subtree belongs to, when the text around it
belongs to `around`. -/
def containerIn (around : Option String) (name : String) : Option String :=
  if containers.contains name then some name else around

/-- The pieces of text of a forest that a reader sees, when the text of the
forest belongs to the container `around`.  Character data belongs to no
container. -/
def Forest.strings (reader around : Option String) : Forest → List String
  | nil => []
  | text content rest =>
      if around = reader then content :: rest.strings reader around
        else rest.strings reader around
  | characterData content rest =>
      if reader = none then content :: rest.strings reader around
        else rest.strings reader around
  | remark _ rest => rest.strings reader around
  | element name _ _ children rest =>
      children.strings reader (containerIn around name) ++
        rest.strings reader around

namespace Element

def position (e : Element) : Nat :=
  e.subtree.position

def tag (e : Element) : String :=
  Text.lower e.subtree.name

def line (e : Element) : Option WritableInt :=
  e.subtree.line

def attribute? (e : Element) (name : String) : Option Attribute :=
  let wanted := Text.lower name
  e.subtree.attributes.find? (·.name == wanted)

/-- Whether the element has an attribute, be its value null. -/
def has (e : Element) (name : String) : Bool :=
  (e.attribute? name).isSome

def get (e : Element) (name : String) : Option String :=
  (e.attribute? name).bind (·.value.text?)

def getText (e : Element) (name : String) : String :=
  (e.get name).getD ""

def classes (e : Element) : List String :=
  Text.wordsOf (e.getText "class")

def ancestorsIn : List Subtree → List Element
  | [] => []
  | s :: enclosing => ⟨s, enclosing⟩ :: ancestorsIn enclosing

def ancestors (e : Element) : List Element :=
  ancestorsIn e.enclosing

def descendants (e : Element) : List Element :=
  e.subtree.children.elements (e.subtree :: e.enclosing)
    (e.subtree.position + 1)

/-- The container that text right inside the subtrees belongs to. -/
def containerOf : List Subtree → Option String
  | [] => none
  | s :: enclosing => containerIn (containerOf enclosing) s.name

def strings (e : Element) : List String :=
  e.subtree.children.strings (containerIn none e.subtree.name)
    (containerOf (e.subtree :: e.enclosing))

def words (e : Element) : List String :=
  e.strings.flatMap Text.wordsOf

def text (e : Element) : String :=
  Text.joinWords e.words

end Element

namespace Document

def elements (d : Document) : List Element :=
  d.nodes.elements [] 0

def root? (d : Document) : Option Element :=
  d.elements.find? (·.subtree.name == "html")

def read (s : List Char) : Except Rejection Document :=
  (Forest.read s).map Document.mk

end Document

end Markup
end SiteAudit
