import SiteAudit.Json.Basic
import SiteAudit.Tally

/-!
# The report for programs

The report is one JSON object: the name of its schema, the verdict, the counts,
and all findings in the order of the tally.
-/

namespace SiteAudit

def Finding.toJson (f : Finding) : Json :=
  .object
    [("file", .text f.file), ("code", .text f.code),
     ("message", .text f.message), ("line", match f.line with
       | none => .null
       | some n => .integer n),
     ("severity", .text f.severity)]

def Tally.members (t : Tally) : List (String × Json) :=
  [("ok", .flag !t.hasErrors), ("file_count", .integer (.ofNat t.fileCount)),
   ("error_count", .integer (.ofNat t.errors.length)),
   ("warning_count", .integer (.ofNat t.warnings.length)),
   ("errors", .list (t.errors.map Finding.toJson)),
   ("warnings", .list (t.warnings.map Finding.toJson))]

def Tally.toJson (t : Tally) : Json :=
  .object t.members

namespace Report

def schema : String :=
  "sitelint.report.v1"

def json (t : Tally) : String :=
  (Json.object (("schema", .text schema) :: t.members)).render
    (.indented 2) ++ "\n"

end Report
end SiteAudit
