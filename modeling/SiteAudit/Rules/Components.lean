import SiteAudit.Rules.Criterion

/-!
# Rules on components

Containers are not clickable, interactive elements are not nested, roles are
known ones, and what expands says what it controls.
-/

namespace SiteAudit
namespace Rules

open Markup

def containerTags : List String :=
  ["div", "span", "p", "li", "section", "article", "td"]

def clickableContainers : Criterion := fun d =>
  violations (d.select (.all [.tag containerTags, .hasAttribute "onclick"]))

def isInteractive : Query :=
  .tag ["a", "button"]

def nestedInteractive : Criterion := fun d =>
  violations ((d.select isInteractive).filter (Query.hasAncestor isInteractive))

def isValidRole (value : String) : Bool :=
  let names := Text.wordsOf value
  !names.isEmpty && names.all Catalog.validRoles.contains

def knownRoles : Criterion := fun d =>
  ((d.select (.hasAttribute "role")).filter fun e =>
    !isValidRole (e.getText "role")).map fun e =>
    .of e [("attr", .text ("role=\"" ++ e.getText "role" ++ "\""))]

def expandedControls : Criterion := fun d =>
  ((d.select (.hasAttribute "aria-expanded")).filter fun e =>
    !Query.nonblank "aria-controls" e).map
    fun e =>
      .of e [("attr", .text "aria-controls on element with aria-expanded")]

end Rules
end SiteAudit
