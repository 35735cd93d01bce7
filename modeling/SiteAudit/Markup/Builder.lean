import SiteAudit.Markup.Forest
import SiteAudit.Markup.Lexer

/-!
# Building a forest from tokens

Tokens are taken one by one.  A start tag opens an element inside the one opened
last; an end tag closes the innermost open element of its name with everything
opened since, or does nothing when there is none.  There are no other rules of
nesting.

Some elements never have content.  They are closed as soon as they are opened,
and one later end tag of the same name is owed to each and passed over.  A start
tag with a slash at its end closes its own element and no other: this is no end
tag, so it is not passed over where one is owed, and it settles no debt.

Text is collected until something else comes, so references and stray brackets
do not cut it; remarks do.
-/

namespace SiteAudit
namespace Markup

def voidElements : List String :=
  ["area", "base", "basefont", "bgsound", "br", "col", "command", "embed",
   "frame", "hr", "image", "img", "input", "isindex", "keygen", "link",
   "menuitem", "meta", "nextid", "param", "source", "spacer", "track", "wbr"]

/-- An element whose end has not come yet: what its start tag said, and the
nodes that stand before it inside the element around it, the last one first. -/
structure OpenElement where
  name : String
  attributes : List Attribute
  line : Option WritableInt
  before : Forest

/-- A forest under construction: the nodes of the innermost open element so far,
the last one first; the open elements, the innermost first; the pieces of text
collected, the last one first; and the end tags to be passed over. -/
structure Builder where
  here : Forest
  enclosing : List OpenElement
  pieces : List (List Char)
  owed : List String

namespace Builder

def empty : Builder :=
  ⟨.nil, [], [], []⟩

def flush (b : Builder) : Builder :=
  match b.pieces with
  | [] => b
  | pieces => { b with
      here := .text (String.ofList pieces.reverse.flatten) b.here
      pieces := [] }

def openElement (b : Builder) (name : String) (attributes : List Attribute)
    (line : Option WritableInt) :
    Builder :=
  { b with
    here := .nil
    enclosing := ⟨name, attributes, line, b.here⟩ :: b.enclosing }

def closeInnermost (here : Forest) (e : OpenElement) : Forest :=
  .element e.name e.attributes e.line here.reverse e.before

/-- Close open elements up to the innermost one of the given name; `here` holds
the nodes of the innermost open element, the last one first. -/
def closeThrough (name : String) (here : Forest) :
    List OpenElement → Forest × List OpenElement
  | [] => (here, [])
  | e :: enclosing =>
      if e.name == name then (closeInnermost here e, enclosing)
      else closeThrough name (closeInnermost here e) enclosing

def close (b : Builder) (name : String) : Builder :=
  let b := b.flush
  if b.enclosing.any (·.name == name) then
    let (here, enclosing) := closeThrough name b.here b.enclosing
    { b with here := here, enclosing := enclosing }
  else b

/-- One attribute more: a repeated name keeps its place and takes the new
value. -/
def setAttribute (attributes : List Attribute) (name value : String) :
    List Attribute :=
  if attributes.any (·.name == name) then
    attributes.map fun a => if a.name == name then ⟨name, .text value⟩ else a
  else attributes ++ [⟨name, .text value⟩]

def attributesOf (pairs : List (String × String)) : List Attribute :=
  pairs.foldl (fun attributes (name, value) =>
    setAttribute attributes name value) []

def add (b : Builder) (t : PlacedToken) : Builder :=
  match t.token with
  | .text content => { b with pieces := content :: b.pieces }
  | .characterData content =>
      let b := b.flush
      { b with here := .characterData (String.ofList content) b.here }
  | .remark content =>
      let b := b.flush
      { b with here := .remark (String.ofList content) b.here }
  | .startTag name pairs closed =>
      let b :=
        b.flush.openElement name (attributesOf pairs) (some (.ofNat t.line))
      if closed then b.close name
      else if voidElements.contains name then
        let b := b.close name
        { b with owed := name :: b.owed }
      else b
  | .endTag name =>
      if b.owed.contains name then { b with owed := b.owed.erase name }
        else b.close name

def closeAll (here : Forest) : List OpenElement → Forest
  | [] => here
  | e :: enclosing => closeAll (closeInnermost here e) enclosing

def finish (b : Builder) : Forest :=
  let b := b.flush
  (closeAll b.here b.enclosing).reverse

end Builder

def Forest.ofTokens (ts : List PlacedToken) : Forest :=
  (ts.foldl Builder.add Builder.empty).finish

def Forest.read (s : List Char) : Except Rejection Forest :=
  (tokens s).map Forest.ofTokens

end Markup
end SiteAudit
