import SiteAudit.Proofs.Catalog.Messages
import SiteAudit.Proofs.Lookup
import SiteAudit.Rules.Check

/-!
# Checks that fail

A check that fails costs its own findings and nothing else.  In their place,
among the findings of the other rules, stands one error that tells of the
failure.  It is made from the catalog like any other finding, and making it
never fails, whatever the failure says.
-/

namespace SiteAudit
namespace Rules

open Markup

/-- The check that finds nothing where the given one fails. -/
def Check.quiet (check : Check) : Check :=
  fun d file =>
    match check d file with
    | .ok findings => .ok findings
    | .error _ => .ok []

def Table.quiet (table : Table) : Table :=
  table.map fun entry => (entry.1, entry.2.quiet)

/-- How the findings of a run compare with those of the run in which no check
fails, rule by rule. -/
inductive Isolates (table : Table) (d : Document) (file : String) :
    List Rule → List Finding → List Finding → Prop
  | nil : Isolates table d file [] [] []
  | unchecked {rule : Rule} {rules : List Rule} {quiet found : List Finding}
      (absent : table.lookup rule.code = none)
      (rest : Isolates table d file rules quiet found) :
      Isolates table d file (rule :: rules) quiet found
  | returned {rule : Rule} {rules : List Rule}
      {quiet found findings : List Finding} {check : Check}
      (present : table.lookup rule.code = some check)
      (returns : check d file = .ok findings)
      (rest : Isolates table d file rules quiet found) :
      Isolates table d file (rule :: rules) (findings ++ quiet)
        (findings ++ found)
  | failed {rule : Rule} {rules : List Rule} {quiet found : List Finding}
      {check : Check} {fault : Fault}
      (present : table.lookup rule.code = some check)
      (fails : check d file = .error fault)
      (rest : Isolates table d file rules quiet found) :
      Isolates table d file (rule :: rules) quiet
        ({ file := file
           code := "F002"
           message := "Rule " ++ rule.code ++ " failed: " ++ fault.kind ++
             ": " ++ fault.text
           severity := "error"
           line := none } :: found)

/-!
## The finding that tells of a failure
-/

def failureRule : Rule :=
  { code := "F002", category := Catalog.internal,
    message := "Rule {rule} failed: {reason}" }

theorem failureRule_mem : failureRule ∈ Catalog.rules := by
  decide

/-- The catalog makes the finding of any rule and any reason, and enters both as
they are. -/
theorem ofRule_ruleFailure (file rule reason : String) :
    Finding.ofRule "F002" file none [("rule", .text rule),
      ("reason", .text reason)] =
      .ok (.ruleFailure file rule reason) := by
  have hmessage : failureRule.message = "Rule {rule} failed: {reason}" := rfl
  have hnames : failureRule.fieldNames = ["rule", "reason"] :=
    Rule.fieldNames_of_message hmessage rfl
  have hvalues : [("rule", Template.Value.text rule),
      ("reason", .text reason)].map (·.1) = failureRule.fieldNames :=
    hnames.symm
  have hfilled :
      failureRule.filled [("rule", .text rule), ("reason", .text reason)] =
      "Rule " ++ rule ++ " failed: " ++ reason :=
    Rule.filled_of_message₂ hmessage rfl (by decide) _ _
  have hmade := Catalog.ofRule_eq failureRule_mem hvalues file none
  rw [hfilled] at hmade
  exact hmade

/-!
## Rule by rule

The catalog is gone through by a loop that collects findings.  It would end
early if a finding could not be made.
-/

def findingsUnder (table : Table) (d : Document) (file : String) (rule : Rule) :
    List Finding :=
  match table.lookup rule.code with
  | none => []
  | some check => runCheck rule.code check d file

/-- One turn of the loop, in which the finding that tells of a failure is made
from the catalog. -/
def collect (table : Table) (d : Document) (file : String)
    (found : List Finding) (rule : Rule) :
    Except MessageError (List Finding) :=
  match table.lookup rule.code with
  | none => .ok found
  | some check =>
      match check d file with
      | .ok findings => .ok (found ++ findings)
      | .error fault =>
          match Finding.ofRule "F002" file none [("rule", .text rule.code),
            ("reason", .text fault.describe)] with
          | .ok failure => .ok (found ++ [failure])
          | .error e => .error e

section Run

variable (table : Table) (d : Document) (file : String)

theorem checkWith_eq_flatMap : checkWith table d file =
    Catalog.rules.flatMap (findingsUnder table d file) :=
  rfl

theorem collect_eq (found : List Finding) (rule : Rule) :
    collect table d file found rule =
      .ok (found ++ findingsUnder table d file rule) := by
  unfold collect findingsUnder
  cases table.lookup rule.code with
  | none => rw [List.append_nil]
  | some check =>
      simp only [runCheck, ofRule_ruleFailure]
      cases check d file with
      | ok findings => rfl
      | error fault => rfl

theorem foldlM_collect (rules : List Rule) (found : List Finding) :
    rules.foldlM (collect table d file) found =
      .ok (found ++ rules.flatMap (findingsUnder table d file)) := by
  induction rules generalizing found with
  | nil => simp [pure, Except.pure]
  | cons rule rules ih =>
      rw [List.foldlM_cons, collect_eq, List.flatMap_cons, ← List.append_assoc]
      exact ih _

theorem lookup_quiet (code : String) :
    table.quiet.lookup code = (table.lookup code).map Check.quiet := by
  unfold Table.quiet
  induction table with
  | nil => rfl
  | cons entry table ih =>
      rw [List.map_cons, List.lookup_cons, List.lookup_cons, ih]
      cases code == entry.1 <;> rfl

/-- One rule after another, a run differs from the one in which no check fails
by the failures. -/
theorem isolates_flatMap (rules : List Rule) :
    Isolates table d file rules
      (rules.flatMap (findingsUnder table.quiet d file))
      (rules.flatMap (findingsUnder table d file)) := by
  induction rules with
  | nil => exact .nil
  | cons rule rules ih =>
      rw [List.flatMap_cons, List.flatMap_cons]
      -- what the rule adds to either run stands in front of what the rules
      -- behind it add
      cases hcheck : table.lookup rule.code with
      | none =>
          have hquiet : findingsUnder table.quiet d file rule = [] := by
            simp [findingsUnder, lookup_quiet, hcheck]
          have hfound : findingsUnder table d file rule = [] := by
            simp [findingsUnder, hcheck]
          rw [hquiet, hfound]
          exact .unchecked hcheck ih
      | some check =>
          cases hresult : check d file with
          | ok findings =>
              have hquiet :
                  findingsUnder table.quiet d file rule = findings := by
                simp [findingsUnder, lookup_quiet, hcheck, runCheck,
                  Check.quiet, hresult]
              have hfound : findingsUnder table d file rule = findings := by
                simp [findingsUnder, hcheck, runCheck, hresult]
              rw [hquiet, hfound]
              exact .returned hcheck hresult ih
          | error fault =>
              have hquiet : findingsUnder table.quiet d file rule = [] := by
                simp [findingsUnder, lookup_quiet, hcheck, runCheck,
                  Check.quiet, hresult]
              have hfound : findingsUnder table d file rule =
                  [{ file := file
                     code := "F002"
                     message := "Rule " ++ rule.code ++ " failed: " ++
                       fault.kind ++ ": " ++ fault.text
                     severity := "error"
                     line := none }] := by
                simp [findingsUnder, hcheck, runCheck, hresult,
                  Finding.ruleFailure, Fault.describe, Severity.error,
                  String.append_assoc]
              rw [hquiet, hfound]
              exact .failed hcheck hresult ih

/-!
## What a table says beyond the checks of the catalog
-/

variable {table d file}

theorem checkWith_congr {table' : Table}
    (h : ∀ rule ∈ Catalog.rules, table'.lookup rule.code =
      table.lookup rule.code) :
    checkWith table' d file = checkWith table d file := by
  apply List.flatMap_congr
  intro rule hrule
  rw [h rule hrule]

end Run

theorem faults_isolated (table : Table) (d : Document) (file : String)
    (distinct : (table.map (·.1)).Nodup) :
    Catalog.rules.foldlM (collect table d file) [] =
      .ok (checkWith table d file) ∧
    Isolates table d file Catalog.rules (checkWith table.quiet d file)
      (checkWith table d file) ∧
    checkWith (table.filter fun entry =>
      (Catalog.rules.map (·.code)).contains entry.1) d file =
      checkWith table d file ∧
    ∀ table', table'.Perm table →
      checkWith table' d file = checkWith table d file := by
  refine ⟨?_, ?_, ?_, ?_⟩
  · rw [foldlM_collect, List.nil_append, checkWith_eq_flatMap]
  · rw [checkWith_eq_flatMap, checkWith_eq_flatMap]
    exact isolates_flatMap table d file Catalog.rules
  · apply checkWith_congr
    intro rule hrule
    exact Template.lookup_filter_names (List.mem_map_of_mem hrule)
  · intro table' h
    apply checkWith_congr
    intro rule _
    exact lookup_perm h distinct rule.code

/-- A table with a check that returns, one that fails, and one for a code that
the catalog does not have. -/
def unreliable : Table :=
  [("X001", fun _ _ => .error ⟨"KeyError", "nothing"⟩),
   ("C001", fun _ file => .ok [⟨file, "C001", "Clickable", "error", some 3⟩]),
   ("E002", fun _ _ => .error ⟨"ValueError", "\x7breason\x7d is \"bad\x7d"⟩)]

theorem faults_isolated_unreliable :
    (unreliable.map (·.1)).Nodup ∧
    Catalog.rules.foldlM (collect unreliable ⟨.nil⟩ "a.html") [] =
      .ok [⟨"a.html", "F002",
        "Rule E002 failed: ValueError: \x7breason\x7d is \"bad\x7d",
        "error", none⟩,
        ⟨"a.html", "C001", "Clickable", "error", some 3⟩] ∧
    checkWith unreliable.reverse ⟨.nil⟩ "a.html" =
      checkWith unreliable ⟨.nil⟩ "a.html" := by
  have distinct : (unreliable.map (·.1)).Nodup := by decide
  rcases faults_isolated unreliable ⟨.nil⟩ "a.html" distinct with
    ⟨hcollected, -, -, hperm⟩
  refine ⟨distinct, ?_, hperm _ (List.reverse_perm _)⟩
  rw [hcollected]
  rfl

end Rules
end SiteAudit
