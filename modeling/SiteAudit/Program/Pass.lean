import SiteAudit.Batch.Basic
import SiteAudit.CommandLine.Basic

/-!
# A pass over a site

A pass discovers the pages of a site, checks them, and writes a report.  It ends
with an exit code, or fails with a text.  The report goes to the output, and
what the pass tells on its way goes to the log.  Errors go to the log as well,
unless machine-readable output is wanted; then they are objects on the output.

Names of files and what is written about them are Unicode texts.  Output and log
take every text as it is, and nothing keeps the pass from reading an entry that
is there.
-/

namespace SiteAudit
namespace Program

open CommandLine

def exitClean : Nat := 0

def exitErrors : Nat := 1

def exitNoSite : Nat := 2

def exitFailure : Nat := 3

def exitUsage : Nat := 2

structure Writing where
  output : String := ""
  log : String := ""
  deriving DecidableEq, Repr

def Writing.append (a b : Writing) : Writing :=
  ⟨a.output ++ b.output, a.log ++ b.log⟩

instance : Append Writing := ⟨Writing.append⟩

@[simp] theorem Writing.output_append (a b : Writing) :
    (a ++ b).output = a.output ++ b.output := rfl

@[simp] theorem Writing.log_append (a b : Writing) :
    (a ++ b).log = a.log ++ b.log := rfl

def logLine (i : Invocation) (level : LogLevel) (message : String) : Writing :=
  if level.isShownAt i.logLevel then
    { log := "[" ++ level.name ++ "] " ++ message ++ "\n" } else {}

@[simp] theorem output_logLine (i : Invocation) (level : LogLevel)
    (message : String) :
    (logLine i level message).output = "" := by
  unfold logLine
  split <;> rfl

def errorSchema : String := "sitelint.error.v1"

def errorJson (code message : String) : Json :=
  .object
    [("schema", .text errorSchema), ("ok", .flag false), ("code", .text code),
      ("message", .text message)]

def errorReport (i : Invocation) (code message : String) : Writing :=
  if i.json then { output := (errorJson code message).render .oneLine ++ "\n" }
  else { log := "[error] " ++ message ++ "\n" }

/-- How pages come to be checked: what is done with a page of a file tree, and
in which order the workers of a pool finish. -/
structure Workforce where
  worker : FileTree → Batch.Worker := Batch.pageWorker
  schedule : Batch.Schedule := .inTurn

/-- What a pass leaves behind: the pages that it has checked, what it wrote, and
its exit code or why it failed. -/
structure Pass where
  checked : List Batch.PageResult := []
  writing : Writing
  result : Except String Nat

/-- The log as one who is told of checked pages.  It takes every line. -/
def logListener : Batch.Listener :=
  fun _ _ => .ok ()

def progressLog (i : Invocation) (lines : List String) : Writing :=
  lines.foldl (fun w line => w ++ logLine i .debug line) {}

def exitCode (t : Tally) : Nat :=
  if t.hasErrors then exitErrors else exitClean

def passOver (i : Invocation) (s : Settings) (t : FileTree) (elapsed : String)
    (paths : List Path) (crew : Workforce) : Pass :=
  let work := crew.worker t
  let turns := Batch.turns s.jobs crew.schedule paths.length
  let log :=
    logLine i .info ("Checking " ++ Text.natural paths.length ++
      " HTML file(s)...") ++
      progressLog i (Batch.toldLines work elapsed (Batch.jobsOf t paths) turns)
  match Batch.processPages t work (some logListener)
    elapsed s.jobs turns paths with
  | .error fault => { writing := log, result := .error fault.text }
  | .ok results =>
      let tally := Tally.ofFiles results
      { checked := results
        writing := log ++ { output := Report.render tally s.format }
        result := .ok (exitCode tally) }

def pass (i : Invocation) (s : Settings) (t : FileTree) (elapsed : String)
    (crew : Workforce := {}) : Pass :=
  let started := logLine i .info "Running site lint rules..."
  match Discovery.pages t s.root s.pattern s.exclude with
  | .ok paths =>
      let p := passOver i s t elapsed paths crew
      { p with writing := started ++ p.writing }
  | .error (.noSite e) =>
      { writing := started ++ errorReport i "DISCOVERY_FAILED" e.message,
        result := .ok exitNoSite }
  | .error e => { writing := started, result := .error e.message }

end Program
end SiteAudit
