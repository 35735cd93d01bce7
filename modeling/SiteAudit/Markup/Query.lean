import SiteAudit.Markup.Document

/-!
# Queries

A query is a condition on elements.  Simple queries look at the name, an
attribute, a class or the visible text of an element; others combine queries, or
carry one to the ancestors or the descendants.
-/

namespace SiteAudit
namespace Markup

abbrev Query :=
  Element → Bool

namespace Query

def tag (names : List String) : Query :=
  fun e => (names.map Text.lower).contains e.tag

def hasAttribute (name : String) : Query :=
  fun e => e.has name

/-- The text of the attribute is the given one; no text at all is asked for by
none. -/
def attributeIs (name : String) (value : Option String) : Query :=
  fun e => e.get name == value

def attributeContains (name part : String) : Query :=
  fun e => Text.isPartOf part (e.getText name)

def hasClass (names : List String) : Query :=
  fun e => e.classes.any names.contains

def textContains (part : String) : Query :=
  fun e => Text.isPartOf part e.text

def all (queries : List Query) : Query :=
  fun e => queries.all (· e)

def any (queries : List Query) : Query :=
  fun e => queries.any (· e)

def hasAncestor (q : Query) : Query :=
  fun e => e.ancestors.any q

def hasDescendant (q : Query) : Query :=
  fun e => e.descendants.any q

def nonblank (name : String) : Query :=
  fun e => Text.hasInk (e.getText name)

end Query

def Document.select (d : Document) (q : Query) : List Element :=
  d.elements.filter q

end Markup
end SiteAudit
