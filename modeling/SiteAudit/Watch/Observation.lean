import SiteAudit.FileTree
import SiteAudit.Watch.Event

/-!
# Observing a directory

Two states of a directory are compared file by file.  A file that only the first
one has was deleted, one that only the second one has was created, and one that
both have with different bytes was modified.
-/

namespace SiteAudit

def Directory.files : Directory → List (List String × List UInt8)
  | empty => []
  | file name bytes rest => ([name], bytes) :: rest.files
  | folder name contents rest =>
      contents.files.map (fun (names, bytes) => (name :: names, bytes)) ++
        rest.files

namespace Watch

def eventAt (base : Path) (kind : EventKind) (names : List String) : Event :=
  { kind, source := .text (Path.text ⟨base.anchor, base.parts ++ names⟩) }

def eventsBetween (base : Path) (before after : Directory) : List Event :=
  let old := before.files
  let new := after.files
  (old.filterMap fun (names, _) =>
    if (new.lookup names).isNone then some (eventAt base .deleted names)
      else none) ++
  new.filterMap fun (names, bytes) =>
    match old.lookup names with
    | none => some (eventAt base .created names)
    | some oldBytes =>
        if oldBytes = bytes then none else some (eventAt base .modified names)

end Watch

end SiteAudit
