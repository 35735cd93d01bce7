import Mathlib.Data.List.Chain
import SiteAudit.Proofs.Markup.Query
import SiteAudit.Proofs.Rules.Outline
import SiteAudit.Rules.Check

/-!
# What the rules ask of a page

The conditions behind the rules, stated about the elements of a document and
what stands inside them.  A page is compliant if all of the conditions hold.
-/

namespace SiteAudit
namespace Rules

open Markup
open Text (Contains)

/-!
## The page as a whole
-/

/-- The first element that is named as the root of a page has a language. -/
def HasLanguage (d : Document) : Prop :=
  ∃ before root after, d.elements = before ++ root :: after ∧
    (∀ e ∈ before, e.subtree.name ≠ "html") ∧
    root.subtree.name = "html" ∧ root.HasText "lang"

def HasSkipLink (d : Document) : Prop :=
  ∃ e ∈ d.elements, e.tag = "a" ∧ e.get "href" = some "#main-content" ∧
    ("skip-link" ∈ e.classes ∨ Contains "Skip" e.text)

def HasSkipTarget (d : Document) : Prop :=
  ∃ e ∈ d.elements, e.get "id" = some "main-content"

/-- Each landmark is there, as an element of its own or by its role. -/
def HasLandmarks (d : Document) : Prop :=
  ∀ landmark ∈
    [("header", "banner"), ("main", "main"), ("footer", "contentinfo")],
    ∃ e ∈ d.elements, e.tag = landmark.1 ∨ e.get "role" = some landmark.2

def HasComponent (d : Document) (name : String) : Prop :=
  ∃ e ∈ d.elements, name ∈ e.classes

def HasFooterLinks (d : Document) : Prop :=
  ∀ destination ∈ ["uiowa.edu/privacy",
      "opsmanual.uiowa.edu/community-policies/nondiscrimination-statement",
      "accessibility.uiowa.edu"],
    ∃ footer ∈ d.elements,
    (footer.tag = "footer" ∨ "brand-footer" ∈ footer.classes) ∧
      ∃ e ∈ footer.descendants, e.tag = "a" ∧
        Contains destination (e.getText "href")

def HasHelpLink (d : Document) : Prop :=
  ∃ e ∈ d.elements, e.tag = "a" ∧
    (Contains "accessibility-help" (e.getText "href") ∨
      Contains "Report an accessibility issue" e.text)

def HasOneMainHeading (d : Document) : Prop :=
  ∃! e, e ∈ d.elements ∧ e.tag = "h1"

/-- No heading is more than one level deeper than the heading just before it. -/
def HasHeadingOrder (d : Document) : Prop :=
  (headings d).IsChain fun e e' => headingLevel e' ≤ headingLevel e + 1

/-- Different elements have different identifiers; an identifier without a value
is empty. -/
def HasUniqueIds (d : Document) : Prop :=
  ∀ e ∈ d.elements, ∀ e' ∈ d.elements, e.has "id" = true → e'.has "id" = true →
    e.getText "id" = e'.getText "id" → e = e'

def IsStyleSheet (d : Document) (s : String) : Prop :=
  (∃ e ∈ d.elements, e.tag = "style" ∧ s = e.text) ∨
    (∃ e ∈ d.elements, e.has "style" = true ∧ s = e.getText "style")

/-- No style sheet takes the outline away, or one of them shows the focus in
another way. -/
def KeepsFocusVisible (d : Document) : Prop :=
  (∀ s, IsStyleSheet d s → ¬ RemovesOutline s.toList) ∨
    ∃ s, IsStyleSheet d s ∧ ShowsFocus s.toList

/-!
## Its elements
-/

def plainText (e : Element) (name : String) : String :=
  Text.lower (Text.stripped (e.getText name))

def IsDecoration (e : Element) : Prop :=
  plainText e "role" = "presentation" ∨ plainText e "role" = "none"

def HasAriaName (e : Element) : Prop :=
  e.HasText "aria-label" ∨ e.HasText "aria-labelledby"

/-- A link has a name of its own, or an image or a text for screen readers
inside it. -/
def IsNamedLink (e : Element) : Prop :=
  e.text ≠ "" ∨ HasAriaName e ∨
    (∃ i ∈ e.descendants, i.tag = "img" ∧ i.has "alt" = true) ∨
    ∃ i ∈ e.descendants, "visually-hidden" ∈ i.classes ∨ "sr-only" ∈ i.classes

def IsDescribedImage (e : Element) : Prop :=
  e.has "alt" = true ∨ IsDecoration e ∨ plainText e "aria-hidden" = "true"

def IsTableWithHeaders (e : Element) : Prop :=
  IsDecoration e ∨ ∃ i ∈ e.descendants, i.tag = "th"

def IsDescribedMedium (e : Element) : Prop :=
  e.has "data-transcript" = true ∨ e.has "data-captions" = true ∨
    e.HasText "aria-describedby" ∨
    ∃ i ∈ e.descendants, i.tag = "track" ∧
      (plainText i "kind" = "captions" ∨ plainText i "kind" = "subtitles")

/-- A form control needs no label, or a label refers to it, or it has a name of
its own, or it stands inside a label. -/
def IsLabelledControl (d : Document) (e : Element) : Prop :=
  plainText e "type" ∈ ["hidden", "submit", "button"] ∨
    (∃ id, id ≠ "" ∧ e.get "id" = some id ∧ ∃ l ∈ d.elements, l.tag = "label" ∧
      l.get "for" = some id) ∨
    HasAriaName e ∨ ∃ l ∈ d.elements, l.tag = "label" ∧ e ∈ l.descendants

def IsNamedButton (e : Element) : Prop :=
  e.text ≠ "" ∨ HasAriaName e

def HasKnownRole (e : Element) : Prop :=
  Text.wordsOf (e.getText "role") ≠ [] ∧
    ∀ w ∈ Text.wordsOf (e.getText "role"), w ∈ Catalog.validRoles

def IsLinkOrButton (e : Element) : Prop :=
  e.tag = "a" ∨ e.tag = "button"

structure Compliant (d : Document) : Prop where
  language : HasLanguage d
  skipLink : HasSkipLink d
  skipTarget : HasSkipTarget d
  landmarks : HasLandmarks d
  brandBar : HasComponent d "brand-bar"
  brandFooter : HasComponent d "brand-footer"
  footerLinks : HasFooterLinks d
  helpLink : HasHelpLink d
  mainHeading : HasOneMainHeading d
  headingOrder : HasHeadingOrder d
  uniqueIds : HasUniqueIds d
  links : ∀ e ∈ d.elements, e.tag = "a" → IsNamedLink e
  images : ∀ e ∈ d.elements, e.tag = "img" → IsDescribedImage e
  tables : ∀ e ∈ d.elements, e.tag = "table" → IsTableWithHeaders e
  media :
    ∀ e ∈ d.elements, e.tag = "audio" ∨ e.tag = "video" → IsDescribedMedium e
  controls : ∀ e ∈ d.elements, e.tag ∈ ["input", "select", "textarea"] →
    IsLabelledControl d e
  buttons : ∀ e ∈ d.elements, e.tag = "button" ∨ plainText e "role" = "button" →
    IsNamedButton e
  focus : KeepsFocusVisible d
  containers : ∀ e ∈ d.elements, e.tag ∈ ["div", "span", "p", "li", "section",
    "article", "td"] →
    e.has "onclick" = false
  nesting :
    ∀ e ∈ d.elements, IsLinkOrButton e → ∀ i ∈ e.descendants, ¬ IsLinkOrButton i
  roles : ∀ e ∈ d.elements, e.has "role" = true → HasKnownRole e
  expansion :
    ∀ e ∈ d.elements, e.has "aria-expanded" = true → e.HasText "aria-controls"

end Rules
end SiteAudit
