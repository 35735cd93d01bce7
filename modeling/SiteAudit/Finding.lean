import SiteAudit.Catalog.Basic

/-!
# Findings

A finding says which rule a file breaks, where, and how bad that is.  Findings
are made from the catalog by filling the message of a rule.  The two rules on
the run itself have constructors of their own, which cannot fail.
-/

namespace SiteAudit

structure Finding where
  file : String
  code : String
  message : String
  severity : String
  line : Option WritableInt := none
  deriving DecidableEq, Repr

/-- A failure as reports name it: its kind, and what it says. -/
structure Fault where
  kind : String
  text : String
  deriving DecidableEq, Repr

def Fault.describe (f : Fault) : String :=
  f.kind ++ ": " ++ f.text

theorem mapM_eq_ok {ε α β : Type} {f : α → Except ε β} {g : α → β} {l : List α}
    (h : ∀ a ∈ l, f a = .ok (g a)) : l.mapM f = .ok (l.map g) := by
  induction l with
  | nil => rfl
  | cons a l ih =>
      have hhead : f a = .ok (g a) := h a (by simp)
      have htail : l.mapM f = .ok (l.map g) := ih fun b hb => h b (by simp [hb])
      rw [List.mapM_cons, hhead, htail]
      rfl

namespace Finding

/-- Whether the finding is an error. -/
def isError (f : Finding) : Bool :=
  f.severity == Severity.error

/-- The name under which the line of a finding is passed on; no value may have
it. -/
def lineName : String := "line"

def ofRule (code file : String) (line : Option WritableInt)
    (values : List (String × Template.Value)) :
    Except MessageError Finding := do
  if (values.lookup lineName).isSome then throw .reservedByFinding
  let rule ← Catalog.find code
  let message ← rule.render values
  return { file := file, code := rule.code, message := message,
           severity := rule.severity, line := line }

def unreadable (file reason : String) : Finding where
  file := file
  code := "F001"
  message := "Unable to read or parse document: " ++ reason
  severity := Severity.error

def ruleFailure (file rule reason : String) : Finding where
  file := file
  code := "F002"
  message := "Rule " ++ rule ++ " failed: " ++ reason
  severity := Severity.error

end Finding

end SiteAudit
