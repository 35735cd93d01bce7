import SiteAudit.Finding
import SiteAudit.Markup.Query

/-!
# Criteria

A rule of the catalog has a criterion: the violations that it sees in a
document, in the order in which they are reported.  A violation knows its line,
if it has one, and the values for the message of its rule.  A check turns
violations into findings on a file.  Checks may fail, and criteria do not.
-/

namespace SiteAudit
namespace Rules

open Markup

structure Violation where
  line : Option WritableInt := none
  values : List (String × Template.Value) := []
  deriving DecidableEq, Repr

abbrev Criterion :=
  Document → List Violation

abbrev Check :=
  Document → String → Except Fault (List Finding)

def Violation.of (e : Element) (values : List (String × Template.Value)) :
    Violation :=
  ⟨e.line, values⟩

def messageFault (e : MessageError) : Fault :=
  ⟨"KeyError", Text.quoted e.message⟩

def Violation.report (v : Violation) (code file : String) :
    Except Fault Finding :=
  match Finding.ofRule code file v.line v.values with
  | .ok f => .ok f
  | .error e => .error (messageFault e)

def Criterion.check (code : String) (c : Criterion) : Check :=
  fun d file => (c d).mapM fun v => v.report code file

def unlessHolds (condition : Bool) : List Violation :=
  if condition then [] else [{}]

def violations (es : List Element) : List Violation :=
  es.map fun e => .of e []

def someElement (d : Document) (q : Query) : Bool :=
  d.elements.any q

end Rules
end SiteAudit
