import SiteAudit.Rules.Criterion

/-!
# Rules on the content of a page

These rules look at elements one by one: links and buttons need names, images
and media need alternatives in text, tables need headers, and form controls need
labels.
-/

namespace SiteAudit
namespace Rules

open Markup

def role (e : Element) : String :=
  Text.lower (Text.stripped (e.getText "role"))

def decorativeRoles : List String :=
  ["presentation", "none"]

def isDecorative : Query := fun e =>
  decorativeRoles.contains (role e)

def hasAriaLabel : Query :=
  .any [.nonblank "aria-label", .nonblank "aria-labelledby"]

/-- Something inside the link names it: an image with an alternative text, or
text for screen readers. -/
def isNamedInside : Query :=
  .any [.hasDescendant (.all [.tag ["img"], .hasAttribute "alt"]),
    .hasDescendant (.hasClass ["visually-hidden", "sr-only"])]

def hasVisibleText : Query := fun e =>
  !e.words.isEmpty

def linkNames : Criterion := fun d =>
  violations ((d.select (.tag ["a"])).filter fun e =>
    !(hasVisibleText e || hasAriaLabel e || isNamedInside e))

def isAriaHidden : Query := fun e =>
  Text.lower (Text.stripped (e.getText "aria-hidden")) == "true"

def imageTexts : Criterion := fun d =>
  violations ((d.select (.tag ["img"])).filter fun e =>
    !(e.has "alt" || isDecorative e || isAriaHidden e))

def tableHeaders : Criterion := fun d =>
  violations ((d.select (.tag ["table"])).filter fun e =>
    !(isDecorative e || Query.hasDescendant (.tag ["th"]) e))

def captionKinds : List String :=
  ["captions", "subtitles"]

def isCaptionTrack : Query := fun e =>
  Query.tag ["track"] e &&
    captionKinds.contains (Text.lower (Text.stripped (e.getText "kind")))

def hasTranscript : Query :=
  .any [.hasAttribute "data-transcript", .hasAttribute "data-captions",
    .nonblank "aria-describedby", .hasDescendant isCaptionTrack]

def mediaTexts : Criterion := fun d =>
  violations ((d.select (.tag ["audio", "video"])).filter fun e =>
    !hasTranscript e)

def labelTargets (d : Document) : List String :=
  (d.select (.all [.tag ["label"], .hasAttribute "for"])).map (·.getText "for")

def unlabeledTypes : List String :=
  ["hidden", "submit", "button"]

def needsNoLabel : Query := fun e =>
  unlabeledTypes.contains (Text.lower (Text.stripped (e.getText "type")))

def isTarget (targets : List String) : Query := fun e =>
  e.getText "id" != "" && targets.contains (e.getText "id")

def isLabelled : Query :=
  .any [hasAriaLabel, .hasAncestor (.tag ["label"])]

def formLabels : Criterion := fun d =>
  let targets := labelTargets d
  violations ((d.select (.tag ["input", "select", "textarea"])).filter fun e =>
    !(needsNoLabel e || isTarget targets e || isLabelled e))

def isButton : Query := fun e =>
  e.tag == "button" || role e == "button"

def buttonNames : Criterion := fun d =>
  violations ((d.select isButton).filter fun e =>
    !(hasVisibleText e || hasAriaLabel e))

end Rules
end SiteAudit
