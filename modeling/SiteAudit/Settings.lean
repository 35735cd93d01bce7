import SiteAudit.Config.File
import SiteAudit.Exclusion

/-!
# Settings of a run

Flags of the command line win over the configuration.  An empty flag counts as
none, and exclusions of both are put together.
-/

namespace SiteAudit

/-- The number of workers that flags ask for.  A flag may be there without
naming a number. -/
inductive Workers
  | usual
  | unnamed
  | count (n : Int)
  deriving DecidableEq, Repr

structure Flags where
  config : Option String := none
  root : Option String := none
  pattern : Option String := none
  exclude : List Exclusion := []
  jobs : Workers := .usual
  format : Option String := none
  deriving DecidableEq, Repr

structure Settings where
  root : Path
  pattern : String
  exclude : List Exclusion
  jobs : Int
  format : Report.Format
  deriving DecidableEq, Repr

namespace Settings

/-- Why there are no settings: the configuration fails, or a flag is wrong. -/
inductive Failure
  | config (e : Config.Failure)
  | unknownFormat (name : String)
  | badJobs
  | noJobs
  deriving DecidableEq, Repr

def Failure.message : Failure → String
  | config e => e.message
  | unknownFormat name =>
      "unknown format: " ++ name ++ " (expected " ++
        ", ".intercalate Report.Format.sortedNames ++ ")"
  | badJobs => "--jobs must be at least 1"
  | noJobs => "'<' not supported between instances of 'list' and 'int'"

/-- Whether the failure is one of what the user has configured, and not of the
attempt to find out. -/
def Failure.isConfiguration : Failure → Bool
  | config (.invalid _) => true
  | config _ => false
  | unknownFormat _ => true
  | badJobs => true
  | noJobs => false

def given (flag : Option String) : Option String :=
  flag.filter (· != "")

def formatFor (flag : Option String) (c : Config) :
    Except Failure Report.Format :=
  match given flag with
  | none => .ok c.format
  | some name =>
      match Report.Format.ofName? name with
      | some f => .ok f
      | none => .error (.unknownFormat name)

def jobsFor (flag : Workers) (c : Config) : Except Failure Int :=
  match flag with
  | .unnamed => .error .noJobs
  | .usual => if c.jobs < 1 then .error .badJobs else .ok c.jobs
  | .count n => if n < 1 then .error .badJobs else .ok n

def flagOr {α : Type} (flag : Option α) (other : Except Config.Limit α) :
    Except Failure α :=
  match flag, other with
  | some a, _ => .ok a
  | none, .ok a => .ok a
  | none, .error l => .error (.config (.exceeded l))

def merge (flags : Flags) (c : Config) : Except Failure Settings := do
  let format ← formatFor flags.format c
  let jobs ← jobsFor flags.jobs c
  let root ← flagOr ((given flags.root).map Path.ofString) c.root
  let pattern ← flagOr (given flags.pattern) c.pattern
  return { root, pattern, jobs, format, exclude := c.exclude.map .glob ++
           flags.exclude }

def resolve (t : FileTree) (flags : Flags) : Except Failure Settings :=
  match Config.load t ((given flags.config).map Path.ofString) with
  | .error e => .error (.config e)
  | .ok c => merge flags c

end Settings

end SiteAudit
