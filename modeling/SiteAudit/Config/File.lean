import SiteAudit.Config.Basic
import SiteAudit.Toml.Decode

/-!
# Configuration files

A configuration is read from the file that is asked for, which must then be
there, or from the usual file in the working directory, which may be absent.
The root of a site is seen from the directory of the file.
-/

namespace SiteAudit
namespace Config

def fileName : String := "sitelint.toml"

def workingDirectory (t : FileTree) : Path :=
  .ofNames t.cwd

def ofBytes (path : Path) (bytes : List UInt8) : Except Failure Config :=
  match Text.Utf8.decode bytes with
  | .error m => .error (.undecodable m)
  | .ok s =>
      match Toml.decode s with
      | .ok data => ofTable path.parent data
      | .error e =>
          match e.cause with
          | .exceeded l => .error (.exceeded l)
          | _ => .error (.invalid (.malformed path (Toml.complaint s e)))

def ofFile (t : FileTree) (path : Path) : Except Failure Config :=
  match t.readBytes path with
  | .ok bytes => ofBytes path bytes
  | .error e => .error (.invalid (.unreadable ⟨e, path⟩))

def defaults (t : FileTree) : Except Failure Config :=
  ofTable (workingDirectory t) []

theorem defaults_eq (t : FileTree) :
    defaults t =
      .ok
        { base := workingDirectory t, rootText := .ok defaultRoot,
          pattern := .ok defaultPattern,
          exclude := [], jobs := 1, format := .text } := by
  simp [defaults, ofTable, settingsOf, ofSettings, unknownNames, Table.get?,
    jobsOf?, formatOf, excludeOf?, textOr]

def load (t : FileTree) (path : Option Path) : Except Failure Config :=
  let file := path.getD ((workingDirectory t).child fileName)
  match t.entry? file with
  | .error f => .error (.access f)
  | .ok (some _) => ofFile t file
  | .ok none =>
      match path with
      | some path => .error (.invalid (.missingFile path))
      | none => defaults t

end Config
end SiteAudit
