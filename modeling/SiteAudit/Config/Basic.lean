import SiteAudit.Config.Value
import SiteAudit.FileTree
import SiteAudit.Report.Format
import SiteAudit.Text.Utf8

/-!
# Configurations

A configuration says which pages are checked, by how many workers, and how the
report comes.  It is made from a table of settings, each of which has a default,
and every setting is checked before any is used.  Root and pattern may be given
as values of any kind; their texts are looked at when they are needed.
-/

namespace SiteAudit

/-- A checked configuration.  `base` is where the root is seen from. -/
structure Config where
  base : Path
  rootText : Except Config.Limit String
  pattern : Except Config.Limit String
  exclude : List String
  jobs : Int
  format : Report.Format
  deriving Repr

namespace Config

def root (c : Config) : Except Limit Path :=
  c.rootText.map fun s => c.base.join (.ofString s)

def tableName : String := "lint"

def defaultRoot : String := "_site"

def defaultPattern : String := "**/*.html"

def settingNames : List String :=
  ["root", "pattern", "exclude", "jobs", "format"]

inductive Error
  | missingFile (path : Path)
  | unreadable (failure : AccessFailure)
  | malformed (path : Path) (complaint : String)
  | noTable
  | unknownNames (names : List String)
  | badJobs
  | badFormat
  | badExclude
  deriving DecidableEq, Repr

def Error.message : Error → String
  | missingFile path => "Config file not found: " ++ path.text
  | unreadable failure =>
      "Failed to parse " ++ failure.path.text ++ ": " ++ failure.message
  | malformed path complaint =>
      "Failed to parse " ++ path.text ++ ": " ++ complaint
  | noTable => "[lint] must be a table"
  | unknownNames names => "Unknown [lint] key(s): " ++ ", ".intercalate names
  | badJobs => "[lint] jobs must be a positive integer"
  | badFormat => "[lint] format must be one of: " ++
      ", ".intercalate Report.Format.sortedNames
  | badExclude => "[lint] exclude must be a list of glob patterns"

/-- Why there is no configuration: one is given and wrong, or the question
cannot be answered.  A value with parts cannot be looked up among the
formats. -/
inductive Failure
  | invalid (e : Error)
  | access (f : AccessFailure)
  | undecodable (m : Text.Utf8.Malformed)
  | exceeded (l : Limit)
  | noFormatName (kind : String)
  deriving DecidableEq, Repr

def Failure.message : Failure → String
  | invalid e => e.message
  | access f => f.message
  | undecodable m => m.message
  | exceeded l => l.message
  | noFormatName kind => "unhashable type: '" ++ kind ++ "'"

def settingsOf (data : Table) : Except Failure Table :=
  match data.get? tableName with
  | none => .ok []
  | some (.table settings) => .ok settings
  | some _ => .error (.invalid .noTable)

def unknownNames (settings : Table) : List String :=
  ((settings.map (·.1)).filter (!settingNames.contains ·)).mergeSort fun a b =>
    !decide (b < a)

def jobsOf? : Option Value → Option Int
  | none => some 1
  | some (.integer n) => if 1 ≤ n then some n else none
  | some (.flag b) => if b then some 1 else none
  | some _ => none

def formatOf : Option Value → Except Failure Report.Format
  | none => .ok .text
  | some (.text name) =>
      match Report.Format.ofName? name with
      | some f => .ok f
      | none => .error (.invalid .badFormat)
  | some (.list _) => .error (.noFormatName "list")
  | some (.table _) => .error (.noFormatName "dict")
  | some _ => .error (.invalid .badFormat)

def textOf? : Value → Option String
  | .text s => some s
  | _ => none

/-- The globs that a setting excludes; one text is a list of one. -/
def excludeOf? : Option Value → Option (List String)
  | none => some []
  | some (.text s) => some [s]
  | some (.list items) => items.mapM textOf?
  | some _ => none

def textOr (other : String) : Option Value → Except Limit String
  | none => .ok other
  | some v => v.display

def ofSettings (base : Path) (settings : Table) : Except Failure Config :=
  match unknownNames settings with
  | name :: names => .error (.invalid (.unknownNames (name :: names)))
  | [] =>
      match jobsOf? (settings.get? "jobs") with
      | none => .error (.invalid .badJobs)
      | some jobs =>
          match formatOf (settings.get? "format") with
          | .error e => .error e
          | .ok format =>
              match excludeOf? (settings.get? "exclude") with
              | none => .error (.invalid .badExclude)
              | some exclude =>
                  .ok
                    { base, exclude, jobs, format
                      rootText := textOr defaultRoot (settings.get? "root")
                      pattern :=
                        textOr defaultPattern (settings.get? "pattern") }

def ofTable (base : Path) (data : Table) : Except Failure Config :=
  match settingsOf data with
  | .error e => .error e
  | .ok settings => ofSettings base settings

end Config

end SiteAudit
