import SiteAudit.Catalog.Rule

/-!
# The catalog

The rules in the order in which they are checked, and the lists that some of
them refer to: the destinations that the links of a footer must cover, the
landmarks of a page, and the roles that an element may have.
-/

namespace SiteAudit
namespace Catalog

def pageStructure : String := "page-structure"

def styleToken : String := "style-token"

def componentPattern : String := "component-pattern"

def internal : String := "internal"

def rules : List Rule :=
  [{ code := "E001", category := pageStructure,
     message := "Missing lang attribute on <html>" },
   { code := "E002", category := pageStructure,
     message := "Missing skip link" },
   { code := "E003", category := pageStructure,
     message := "Missing skip link target (#main-content)" },
   { code := "E004", category := pageStructure,
     message := "Missing required landmark: {landmark}" },
   { code := "E005", category := pageStructure,
     message := "Missing BrandBar component" },
   { code := "E006", category := pageStructure,
     message := "Missing BrandFooter component" },
   { code := "E007", category := pageStructure,
     message := "Missing required footer link: {link}" },
   { code := "E008", category := pageStructure,
     message := "Missing accessibility help link" },
   { code := "E009", category := pageStructure,
     message := "Multiple h1 elements found" },
   { code := "E010", category := pageStructure,
     message := "Missing h1 element" },
   { code := "E011", category := pageStructure,
     message := "Heading level skipped: h{from} to h{to}" },
   { code := "E012", category := pageStructure,
     message := "Duplicate ID: {id}" },
   { code := "E013", category := pageStructure, message := "Empty link text" },
   { code := "E014", category := pageStructure,
     message := "Image missing alt attribute" },
   { code := "E015", category := pageStructure,
     message := "Table missing headers" },
   { code := "E016", category := pageStructure,
     message := "Media embed missing transcript/captions metadata" },
   { code := "E017", category := pageStructure,
     message := "Form control missing label" },
   { code := "E018", category := pageStructure,
     message := "Interactive element missing accessible name" },
   { code := "S001", category := styleToken,
     message := "Non-token color value detected: {value}" },
   { code := "S002", category := styleToken,
     message := "Focus outline removed without replacement" },
   { code := "S003", category := styleToken,
     message := "Gold/white contrast violation" },
   { code := "C001", category := componentPattern,
     message := "Clickable div detected - use button or link" },
   { code := "C002", category := componentPattern,
     message := "Nested interactive elements" },
   { code := "C003", category := componentPattern,
     message := "Invalid ARIA attribute: {attr}" },
   { code := "C004", category := componentPattern,
     message := "Missing required ARIA attribute: {attr}",
     severity := Severity.warning },
   { code := "F001", category := internal,
     message := "Unable to read or parse document: {reason}" },
   { code := "F002", category := internal,
     message := "Rule {rule} failed: {reason}" }]

def find (code : String) : Except MessageError Rule :=
  match rules.find? (·.code == code) with
  | some r => .ok r
  | none => .error (.unknownRule code)

def footerLinks : List String :=
  ["uiowa.edu/privacy",
   "opsmanual.uiowa.edu/community-policies/nondiscrimination-statement",
   "accessibility.uiowa.edu"]

structure Landmark where
  name : String
  tag : String
  role : String
  deriving DecidableEq, Repr

def landmarks : List Landmark :=
  [⟨"header/banner", "header", "banner"⟩,
   ⟨"main", "main", "main"⟩,
   ⟨"footer/contentinfo", "footer", "contentinfo"⟩]

def mainContentId : String :=
  "main-content"

def validRoles : List String :=
  ["alert", "alertdialog", "application", "article", "banner", "button", "cell",
   "checkbox", "columnheader", "combobox", "complementary", "contentinfo",
   "definition", "dialog", "directory", "document", "feed", "figure", "form",
   "grid", "gridcell", "group", "heading", "img", "link", "list", "listbox",
   "listitem", "log", "main", "marquee", "math", "menu", "menubar", "menuitem",
   "menuitemcheckbox", "menuitemradio", "navigation", "none", "note", "option",
   "presentation", "progressbar", "radio", "radiogroup", "region", "row",
   "rowgroup", "rowheader", "scrollbar", "search", "searchbox", "separator",
   "slider", "spinbutton", "status", "switch", "tab", "table", "tablist",
   "tabpanel", "term", "textbox", "timer", "toolbar", "tooltip", "tree",
   "treegrid", "treeitem"]

end Catalog
end SiteAudit
