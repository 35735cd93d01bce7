import SiteAudit.Rules.Components
import SiteAudit.Rules.Content
import SiteAudit.Rules.PageStructure
import SiteAudit.Rules.Style

/-!
# Checking a document

A document is checked by the rules of the catalog in their order.  A table gives
the check of each code; codes that are not in the catalog are never looked up.
A check that fails counts as one finding of its own, and the other checks still
run.
-/

namespace SiteAudit
namespace Rules

open Markup

def criteria : List (String × Criterion) :=
  [("E001", language), ("E002", skipLink), ("E003", skipTarget),
   ("E004", landmarks), ("E005", brandBar), ("E006", brandFooter),
   ("E007", footerLinks), ("E008", helpLink), ("E009", singleMainHeading),
   ("E010", mainHeading), ("E011", headingOrder), ("E012", uniqueIds),
   ("E013", linkNames), ("E014", imageTexts), ("E015", tableHeaders),
   ("E016", mediaTexts), ("E017", formLabels), ("E018", buttonNames),
   ("S001", colorTokens), ("S002", focusOutline), ("S003", contrast),
   ("C001", clickableContainers), ("C002", nestedInteractive),
   ("C003", knownRoles), ("C004", expandedControls)]

abbrev Table :=
  List (String × Check)

def standard : Table :=
  criteria.map fun (code, criterion) => (code, criterion.check code)

def Table.set (t : Table) (code : String) (check : Check) : Table :=
  if t.any (·.1 == code) then t.map fun entry =>
    if entry.1 == code then (code, check) else entry
  else t ++ [(code, check)]

/-- The findings of one check; if it fails, that is its only finding. -/
def runCheck (code : String) (check : Check) (d : Document) (file : String) :
    List Finding :=
  match check d file with
  | .ok findings => findings
  | .error fault => [.ruleFailure file code fault.describe]

def checkWith (table : Table) (d : Document) (file : String) : List Finding :=
  Catalog.rules.flatMap fun rule =>
    match table.lookup rule.code with
    | none => []
    | some check => runCheck rule.code check d file

def check (d : Document) (file : String) : List Finding :=
  checkWith standard d file

end Rules
end SiteAudit
