import SiteAudit.Program.Pass
import SiteAudit.Watch.Session

/-!
# The program

A run of the program takes a command line, a file tree and, for watching, the
changes that come, and leaves behind what it wrote, an exit code, and what it
asked of its observer.  All of it is a function: the outer layer only carries it
out.  The pages are checked by a workforce, whose workers finish in an order of
their own.
-/

namespace SiteAudit
namespace Program

open CommandLine

structure Outcome where
  exitCode : Nat
  writing : Writing := {}
  observer : List Watch.ObserverCall := []
  deriving DecidableEq, Repr

/-- A change while a site is watched: the event, the file tree after it, when it
comes, and how long a pass on it takes. -/
structure Change where
  event : Watch.Event
  tree : FileTree
  time : Rat := 0
  duration : Rat := 0
  deriving DecidableEq, Repr

def failed (i : Invocation) (code message : String) : Outcome :=
  { exitCode := exitFailure, writing := errorReport i code message }

def withoutSettings (i : Invocation) (e : Settings.Failure) : Outcome :=
  failed i (if e.isConfiguration then "CONFIG_ERROR" else "CLI_ERROR") e.message

/-- The flags of an invocation; machine-readable output decides the format. -/
def effectiveFlags (i : Invocation) (flags : Flags) : Flags :=
  if i.json then { flags with format := some Report.Format.json.name }
    else flags

def ofPass (i : Invocation) (p : Pass) : Outcome :=
  match p.result with
  | .ok code => { exitCode := code, writing := p.writing }
  | .error message =>
      { exitCode := exitFailure
        writing := p.writing ++ errorReport i "CLI_ERROR" message }

def runCheck (i : Invocation) (t : FileTree) (elapsed : String) (flags : Flags)
    (crew : Workforce) :
    Outcome :=
  match Settings.resolve t (effectiveFlags i flags) with
  | .error e => withoutSettings i e
  | .ok s => ofPass i (pass i s t elapsed crew)

def leftAligned (width : Nat) (s : String) : String :=
  s ++ String.ofList (List.replicate (width - s.length) ' ')

def ruleLine (r : Rule) : String :=
  r.code ++ "  " ++ leftAligned 7 r.severity ++ "  " ++
    leftAligned 17 r.category ++ "  " ++ r.message ++ "\n"

def ruleJson (r : Rule) : Json :=
  .object
    [("code", .text r.code), ("category", .text r.category),
     ("severity", .text r.severity), ("message", .text r.message)]

def catalogJson : Json :=
  .object [("schema", .text "sitelint.rules.v1"),
    ("rules", .list (Catalog.rules.map ruleJson))]

def runRules (i : Invocation) : Outcome :=
  { exitCode := exitClean
    writing :=
      { output :=
          if i.json then catalogJson.render .oneLine ++ "\n"
          else String.join (Catalog.rules.map ruleLine) } }

def runOutcome (p : Pass) : Watch.RunOutcome :=
  { output := p.writing.output
    log := p.writing.log
    failure := match p.result with
      | .ok _ => none
      | .error message => some message }

def watching (i : Invocation) (s : Settings) (t : FileTree) (elapsed : String)
    (changes : List Change) (crew : Workforce) : Watch.Watching :=
  Watch.watch t.cwd s.root Watch.usualDelay
    (runOutcome (pass i s t elapsed crew))
    (changes.map fun c =>
      ⟨c.event, c.time, c.duration, runOutcome (pass i s c.tree elapsed crew)⟩)

def ofWatching (i : Invocation) (w : Watch.Watching) : Outcome :=
  let writing : Writing := ⟨w.session.output, w.session.log⟩
  match w.failure with
  | none => { exitCode := exitClean, writing, observer := w.observer }
  | some f =>
      { exitCode := exitFailure
        writing := writing ++ errorReport i "CLI_ERROR" f.message
        observer := w.observer }

def missingSite (root : Path) : String :=
  (Discovery.Error.missingRoot root).message

def runWatch (i : Invocation) (t : FileTree) (elapsed : String) (flags : Flags)
    (changes : List Change) (crew : Workforce) : Outcome :=
  match Settings.resolve t (effectiveFlags i flags) with
  | .error e => withoutSettings i e
  | .ok s =>
      match t.entry? s.root with
      | .error f => failed i "CLI_ERROR" f.message
      | .ok (some (.directory _)) =>
          ofWatching i (watching i s t elapsed changes crew)
      | .ok _ =>
          { exitCode := exitNoSite,
            writing := errorReport i "DISCOVERY_FAILED" (missingSite s.root) }

def ofStop : Stop → Outcome
  | .help g => { exitCode := exitClean, writing := { output := g.helpText } }
  | .version =>
      { exitCode := exitClean, writing := { output := versionText ++ "\n" } }
  | .problem g p =>
      { exitCode := exitUsage
        writing :=
          { log := g.usage ++ g.program ++ ": error: " ++ p.message ++ "\n" } }

def run (t : FileTree) (elapsed : String) (args : List String)
    (changes : List Change) (crew : Workforce := {}) : Outcome :=
  match parse args with
  | .error stop => ofStop stop
  | .ok i =>
      match i.command with
      | .check flags => runCheck i t elapsed flags crew
      | .rules => runRules i
      | .watch flags => runWatch i t elapsed flags changes crew

end Program
end SiteAudit
