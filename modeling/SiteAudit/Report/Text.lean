import SiteAudit.Tally
import SiteAudit.Text.Decimal

/-!
# The report for readers

Findings are put in the order of their files; within a file errors come before
the rest, each in the order of the tally.  Every file has a heading behind an
empty line, and the last line counts the findings.  A run without findings is
reported in one line.
-/

namespace SiteAudit
namespace Report

def successLine : String :=
  "[ok] All lint checks passed"

def label (f : Finding) : String :=
  if f.isError then "[error]" else "[warn]"

/-- Where a finding is; line zero is no place. -/
def place (f : Finding) : String :=
  match f.line with
  | none => ""
  | some n => if n.value = 0 then "" else ":" ++ n.text

def findingLine (f : Finding) : String :=
  "  " ++ label f ++ " " ++ f.code ++ place f ++ " " ++ f.message

def ordered (t : Tally) : List Finding :=
  (t.errors ++ t.warnings).mergeSort fun f g => !decide (g.file < f.file)

/-- The lines of a row of findings behind one on the file `current`; a finding
on another file opens a group. -/
def groupLines (current : Option String) : List Finding → List String
  | [] => []
  | f :: rest =>
      (if current = some f.file then [] else ["", f.file]) ++
        findingLine f :: groupLines (some f.file) rest

def countLine (t : Tally) : String :=
  Text.natural t.errors.length ++ " error(s), " ++
    Text.natural t.warnings.length ++ " warning(s)"

def lines (t : Tally) : List String :=
  if t.isClean then [successLine]
    else groupLines none (ordered t) ++ ["", countLine t]

/-- The report for readers; every line ends in a line feed. -/
def text (t : Tally) : String :=
  String.join ((lines t).map (· ++ "\n"))

end Report
end SiteAudit
