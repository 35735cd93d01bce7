import SiteAudit.Rules.Criterion
import SiteAudit.Rules.Outline

/-!
# Rules on styles

The focus outline must not be taken away without a replacement.  Two rules of
the catalog need what markup does not show, the compiled style sheet and the
computed colours, so they never object.
-/

namespace SiteAudit
namespace Rules

open Markup

def colorTokens : Criterion := fun _ => []

def contrast : Criterion := fun _ => []

/-- The style sheets of a document with the elements that hold them: those of
style elements, and then those of style attributes. -/
def styleSources (d : Document) : List (Element × String) :=
  (d.select (.tag ["style"])).map (fun e => (e, e.text)) ++
    (d.select (.hasAttribute "style")).map (fun e => (e, e.getText "style"))

/-- The focus outline is not taken away, or it is replaced; the first offender
is reported. -/
def focusOutline : Criterion := fun d =>
  let sources := styleSources d
  match sources.filter fun s => suppressesOutline s.2.toList with
  | [] => []
  | offender :: _ =>
      if sources.any fun s => replacesOutline s.2.toList then []
        else [.of offender.1 []]

end Rules
end SiteAudit
