import SiteAudit.Program.Run
import SiteAudit.Watch.Observation

/-!
# The executable

The outer layer reads the part of the file system that a command line is about
into a file tree, runs the program on it, and carries out what the run leaves
behind.  To watch a site it reads the tree again every second.
-/

namespace SiteAudit
namespace Executable

/-- What lies deeper is not followed by a search. -/
def maxDepth : Nat := usualReach + 1

def readDirectory : Nat → String → IO Directory
  | 0, _ => return .empty
  | depth + 1, place => do
      let mut d := Directory.empty
      for e in ← ((← IO.currentDir) / place).readDir do
        if ← e.path.isDir then
          d := .folder e.fileName (← readDirectory depth e.path.toString) d
        else
          try
            d := .file e.fileName (← IO.FS.readBinFile e.path).toList d
          catch _ => pure ()
      return d

/-- The tree with what is at the end of a row of names; a directory is read if
`deep` says so. -/
def addPlace (deep : Bool) (t : FileTree) (names : List String) :
    IO FileTree := do
  let place := (Path.ofNames names).text
  let there := (← IO.currentDir) / place
  if ← there.isDir then
    let read ← if deep then readDirectory maxDepth place else pure .empty
    let keep := fun
      | some (.directory inner) => if deep then Entry.directory read
          else .directory inner
      | _ => .directory read
    return { t with root := t.root.update keep names }
  else if ← there.pathExists then
    let bytes := (← IO.FS.readBinFile there).toList
    return { t with root := t.root.update (fun _ => .file bytes) names }
  else return t

def addPath (deep : Bool) (t : FileTree) (p : Path) : IO FileTree := do
  let parts := t.fromRoot p
  let mut t := t
  for count in List.range parts.length do
    t ← addPlace false t ((Path.ofNames (parts.take (count + 1))).resolve [])
  addPlace deep t ((Path.ofNames parts).resolve [])

def stepsUp (pattern : String) : Nat :=
  (Path.ofString pattern).parts.count ".."

def addSite (t : FileTree) (s : Settings) : IO FileTree :=
  addPath true t ⟨s.root.anchor,
    s.root.parts ++ List.replicate (stepsUp s.pattern) ".."⟩

def flagsOf? (args : List String) : Option Flags :=
  match CommandLine.parse args with
  | .ok i =>
      match i.command with
      | .check flags => some (Program.effectiveFlags i flags)
      | .watch flags => some (Program.effectiveFlags i flags)
      | .rules => none
  | .error _ => none

def readTree (args : List String) : IO FileTree := do
  let cwd := (Path.ofString (← IO.currentDir).toString).parts
  let t ← addPlace false { root := .empty, cwd } cwd
  match flagsOf? args with
  | none => return t
  | some flags =>
      let config := (Settings.given flags.config).map Path.ofString
      let t ← addPath false t
          (config.getD ((Config.workingDirectory t).child Config.fileName))
      match Settings.resolve t flags with
      | .ok s => addSite t s
      | .error _ => return t

def elapsed : String := "0.0"

def carryOut (w : Program.Writing) : IO Unit := do
  IO.print w.output
  IO.eprint w.log

def siteOf (t : FileTree) (root : Path) : Directory :=
  match t.lookup root with
  | .ok (.directory d) => d
  | _ => .empty

def carryOutSince (before after : Watch.Session) : IO Unit :=
  carryOut ⟨(after.output.drop before.output.length).toString,
    (after.log.drop before.log.length).toString⟩

partial def keepWatching (args : List String) (i : CommandLine.Invocation)
  (s : Settings) (t : FileTree)
    (w : Watch.Session) : IO Unit := do
  IO.sleep 1000
  let later ← readTree args
  let h := Watch.handlerFor t.cwd s.root Watch.usualDelay
  let mut w := w
  for event in Watch.eventsBetween s.root (siteOf t s.root)
    (siteOf later s.root) do
    let time : Rat := mkRat (← IO.monoMsNow) 1000
    let outcome := Program.runOutcome (Program.pass i s later elapsed)
    let after := w.receive h { event, time, outcome }
    carryOutSince w after
    w := after
  keepWatching args i s later w

def watched? (t : FileTree) (args : List String) :
    Option (CommandLine.Invocation × Settings) :=
  match CommandLine.parse args with
  | .ok i =>
      match i.command with
      | .watch flags =>
          match Settings.resolve t (Program.effectiveFlags i flags) with
          | .ok s =>
              match t.lookup s.root with
              | .ok (.directory _) => some (i, s)
              | _ => none
          | .error _ => none
      | _ => none
  | .error _ => none

end Executable
end SiteAudit

open SiteAudit SiteAudit.Executable in
def main (args : List String) : IO UInt32 := do
  let t ← readTree args
  match watched? t args with
  | some (i, s) =>
      let w := Watch.Session.begin s.root
        (Program.runOutcome (Program.pass i s t elapsed))
      carryOut ⟨w.output, w.log⟩
      keepWatching args i s t w
      return 0
  | none =>
      let o := Program.run t elapsed args []
      carryOut o.writing
      return o.exitCode.toUInt32
