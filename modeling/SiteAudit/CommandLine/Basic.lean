import SiteAudit.CommandLine.Grammar
import SiteAudit.Settings

/-!
# The command line of the program

The program has three commands: to check a site, to list the catalog, and to
watch a site.  Switches of the program stand before the command and switches of
a command behind it, but one of them may stand anywhere.
-/

namespace SiteAudit
namespace CommandLine

/-- How much the log tells, from the least to the most. -/
inductive LogLevel
  | error
  | warn
  | info
  | debug
  deriving DecidableEq, Repr

namespace LogLevel

def name : LogLevel → String
  | error => "error"
  | warn => "warn"
  | info => "info"
  | debug => "debug"

def all : List LogLevel :=
  [error, warn, info, debug]

def ofName? (s : String) : Option LogLevel :=
  all.find? (·.name == s)

def isShownAt (level wanted : LogLevel) : Bool :=
  all.idxOf level ≤ all.idxOf wanted

end LogLevel

inductive Command
  | check (flags : Flags)
  | rules
  | watch (flags : Flags)
  deriving DecidableEq, Repr

structure Invocation where
  logLevel : LogLevel
  json : Bool
  command : Command
  deriving DecidableEq, Repr

def programName : String := "sitelint"

def versionText : String := "sitelint 0.1.0"

def jsonSwitch : String := "--json"

def helpSwitch : Switch :=
  ⟨["-h", "--help"], .help⟩

def commandNames : List String :=
  ["check", "rules", "watch"]

def programGrammar : Grammar where
  program := programName
  usage :=
    "usage: sitelint [-h] [--config CONFIG] [--log-level \x7berror,warn,info,debug\x7d]\n" ++
    "                [--version] [--json]\n" ++
    "                \x7bcheck,rules,watch\x7d ...\n"
  details :=
    "positional arguments:\n" ++
    "  \x7bcheck,rules,watch\x7d\n" ++
    "    check               Lint rendered HTML pages and fail on errors\n" ++
    "    rules               List the rule catalog\n" ++
    "    watch               Re-run the lint whenever pages under the root change\n" ++
    "\n" ++
    "options:\n" ++
    "  -h, --help            show this help message and exit\n" ++
    "  --config CONFIG\n" ++
    "  --log-level \x7berror,warn,info,debug\x7d\n" ++
    "  --version             show program's version number and exit\n" ++
    "  --json\n"
  switches :=
    [helpSwitch, ⟨["--config"], .text⟩,
      ⟨["--log-level"], .choice (LogLevel.all.map LogLevel.name)⟩,
     ⟨["--version"], .version⟩, ⟨[jsonSwitch], .mark⟩]
  commands := commandNames

def pagesGrammar (command : String) : Grammar where
  program := programName ++ " " ++ command
  usage :=
    "usage: sitelint " ++ command ++
      " [-h] [--root ROOT] [--pattern PATTERN]\n" ++
    "                      [--exclude EXCLUDE] [--jobs JOBS] [--format \x7bjson,text\x7d]\n"
  details :=
    "options:\n" ++
    "  -h, --help            show this help message and exit\n" ++
    "  --root ROOT           Site root to scan (default: _site)\n" ++
    "  --pattern PATTERN     Glob relative to the root (default: **/*.html)\n" ++
    "  --exclude EXCLUDE     Glob (relative to the root) to skip; repeatable\n" ++
    "  --jobs JOBS           Worker threads used to check files\n" ++
    "  --format \x7bjson,text\x7d\n"
  switches :=
    [helpSwitch, ⟨["--root"], .text⟩, ⟨["--pattern"], .text⟩,
      ⟨["--exclude"], .text⟩,
     ⟨["--jobs"], .number⟩, ⟨["--format"], .choice Report.Format.sortedNames⟩]
  commands := []

def rulesGrammar : Grammar where
  program := programName ++ " rules"
  usage := "usage: sitelint rules [-h]\n"
  details := "options:\n  -h, --help  show this help message and exit\n"
  switches := [helpSwitch]
  commands := []

def grammarOf? (command : String) : Option Grammar :=
  if command == "rules" then some rulesGrammar
  else if commandNames.contains command then some (pagesGrammar command)
  else none

def Grammar.helpText (g : Grammar) : String :=
  g.usage ++ "\n" ++ g.details

def workersOf (r : Reading) : Workers :=
  match (r.values "--jobs").getLast? with
  | none => .usual
  | some none => .unnamed
  | some (some s) =>
      match Text.integer? s.toList with
      | some n => .count n
      | none => .unnamed

/-- The flags of a reading behind a command; `config` is the file named in front
of it. -/
def flagsOf (config : Option String) (r : Reading) : Flags where
  config := config
  root := r.last? "--root"
  pattern := r.last? "--pattern"
  exclude := (r.values "--exclude").map Exclusion.ofFlag
  jobs := workersOf r
  format := r.last? "--format"

def commandOf (name : String) (config : Option String) (r : Reading) :
    Command :=
  if name == "check" then .check (flagsOf config r)
  else if name == "watch" then .watch (flagsOf config r)
  else .rules

def logLevelOf (r : Reading) : LogLevel :=
  ((r.last? "--log-level").bind LogLevel.ofName?).getD .info

def invocationOf (front : Reading) (name : String) (behind : Reading) :
    Except Stop Invocation :=
  match front.extras ++ behind.extras with
  | [] =>
      .ok
        { logLevel := logLevelOf front
          json := front.has jsonSwitch
          command := commandOf name (front.last? "--config") behind }
  | extras => .error (.problem programGrammar (.unrecognized extras))

def parseWords (args : List String) : Except Stop Invocation :=
  match programGrammar.read args with
  | .error stop => .error stop
  | .ok front =>
      match front.command with
      | none => .error (.problem programGrammar .missingCommand)
      | some (name, rest) =>
          match grammarOf? name with
          | none => .error (.problem programGrammar
              (.unknownChoice "command" name commandNames))
          | some g =>
              match g.read rest with
              | .error stop => .error stop
              | .ok behind => invocationOf front name behind

/-- What a command line asks for.  The switch for machine-readable output is
taken out first, wherever it stands. -/
def parse (args : List String) : Except Stop Invocation :=
  match parseWords (args.filter (· != jsonSwitch)) with
  | .error stop => .error stop
  | .ok i => .ok { i with json := i.json || args.contains jsonSwitch }

end CommandLine
end SiteAudit
