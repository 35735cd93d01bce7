import SiteAudit.Rules.Criterion

/-!
# Rules on the structure of a page

These rules look at the page as a whole: its language, the ways to skip to its
content and to get help, its landmarks and brand components, the links of its
footer, its headings, and its identifiers.
-/

namespace SiteAudit
namespace Rules

open Markup

def language : Criterion := fun d =>
  match d.root? with
  | none => [{}]
  | some root => if Query.nonblank "lang" root then [] else [.of root []]

def skipLink : Criterion := fun d =>
  unlessHolds (someElement d (.all
    [.tag ["a"], .attributeIs "href" (some ("#" ++ Catalog.mainContentId)),
     .any [.hasClass ["skip-link"], .textContains "Skip"]]))

def skipTarget : Criterion := fun d =>
  unlessHolds (someElement d (.attributeIs "id" (some Catalog.mainContentId)))

def isLandmark (l : Catalog.Landmark) : Query :=
  .any [.tag [l.tag], .attributeIs "role" (some l.role)]

def landmarks : Criterion := fun d =>
  (Catalog.landmarks.filter fun l => !someElement d (isLandmark l)).map fun l =>
    { values := [("landmark", .text l.name)] }

def brandBar : Criterion := fun d =>
  unlessHolds (someElement d (.hasClass ["brand-bar"]))

def brandFooter : Criterion := fun d =>
  unlessHolds (someElement d (.hasClass ["brand-footer"]))

def isInFooter : Query :=
  .hasAncestor (.any [.tag ["footer"], .hasClass ["brand-footer"]])

def footerLinks : Criterion := fun d =>
  let targets :=
    ((d.select (.tag ["a"])).filter isInFooter).map (·.getText "href")
  (Catalog.footerLinks.filter fun link =>
    !targets.any (Text.isPartOf link ·)).map fun link =>
    { values := [("link", .text link)] }

def helpLink : Criterion := fun d =>
  unlessHolds (someElement d (.all
    [.tag ["a"],
     .any [.attributeContains "href" "accessibility-help",
       .textContains "Report an accessibility issue"]]))

/-- There is at most one main heading; the second one is reported. -/
def singleMainHeading : Criterion := fun d =>
  match d.select (.tag ["h1"]) with
  | _ :: second :: _ => [.of second []]
  | _ => []

def mainHeading : Criterion := fun d =>
  unlessHolds (someElement d (.tag ["h1"]))

def headingTags : List String :=
  ["h1", "h2", "h3", "h4", "h5", "h6"]

def headings (d : Document) : List Element :=
  d.select (.tag headingTags)

def headingLevel (e : Element) : Nat :=
  headingTags.idxOf e.tag + 1

/-- The violations of a row of headings behind a heading of level `last`; no
heading comes before if `last` is zero. -/
def skippedLevels (last : Nat) : List Element → List Violation
  | [] => []
  | e :: rest =>
      let level := headingLevel e
      let others := skippedLevels level rest
      if 0 < last && last + 1 < level then
        .of e [("from", .number (.ofNat last)),
          ("to", .number (.ofNat level))] :: others
      else others

def headingOrder : Criterion := fun d =>
  skippedLevels 0 (headings d)

/-- The violations of a row of elements with identifiers, when the identifiers
in `seen` came before. -/
def repeatedIds (seen : List String) : List Element → List Violation
  | [] => []
  | e :: rest =>
      let id := e.getText "id"
      let others := repeatedIds (id :: seen) rest
      if seen.contains id then .of e [("id", .text id)] :: others else others

def uniqueIds : Criterion := fun d =>
  repeatedIds [] (d.select (.hasAttribute "id"))

end Rules
end SiteAudit
