import SiteAudit.Report.Json
import SiteAudit.Report.Text

/-!
# Report formats

A report comes in one of two formats, which users choose by name.
-/

namespace SiteAudit
namespace Report

inductive Format
  | text
  | json
  deriving DecidableEq, Repr

namespace Format

def name : Format → String
  | text => "text"
  | json => "json"

def all : List Format :=
  [text, json]

def sortedNames : List String :=
  ["json", "text"]

def ofName? (s : String) : Option Format :=
  all.find? (·.name == s)

end Format

def render (t : Tally) : Format → String
  | .text => text t
  | .json => json t

def unsupported (name : String) : String :=
  "Unsupported report format " ++ Text.quoted name ++ " (expected " ++
    ", ".intercalate (Format.all.map Format.name) ++ ")"

def renderNamed (t : Tally) (name : String) : Except String String :=
  match Format.ofName? name with
  | some f => .ok (render t f)
  | none => .error (unsupported name)

end Report
end SiteAudit
