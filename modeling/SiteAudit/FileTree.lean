import SiteAudit.Path
import SiteAudit.Text.Decimal
import SiteAudit.Text.Quoted

/-!
# File trees

A file tree is a root directory and the names on the way to the working
directory.  A path is followed part by part; every part but the last one must
lead to a directory, and a double dot goes back up.  There are no links, so what
a path leads to depends on its parts alone.  Names are Unicode texts.  Every
directory can be listed and every file can be read: nothing is forbidden.

A name may have 255 bytes and a path 4095.  A path with a null character leads
nowhere and cannot even be tried.  A search through all directories follows them
to a certain depth and no further.
-/

namespace SiteAudit

inductive Directory
  | empty
  | file (name : String) (bytes : List UInt8) (rest : Directory)
  | folder (name : String) (contents rest : Directory)
  deriving DecidableEq, Repr, Inhabited

inductive Entry
  | file (bytes : List UInt8)
  | directory (d : Directory)
  deriving DecidableEq, Repr, Inhabited

def Entry.isDirectory : Entry → Bool
  | directory _ => true
  | file _ => false

def Entry.isFile : Entry → Bool
  | directory _ => false
  | file _ => true

namespace Directory

def find? (name : String) : Directory → Option Entry
  | empty => none
  | file n bytes rest =>
      if n == name then some (.file bytes) else rest.find? name
  | folder n contents rest => if n == name then some (.directory contents)
      else rest.find? name

def entries : Directory → List (String × Entry)
  | empty => []
  | file name bytes rest => (name, .file bytes) :: rest.entries
  | folder name contents rest => (name, .directory contents) :: rest.entries

/-- The directories inside, at any depth; each is given by the names on the way
to it. -/
def folders : Directory → List (List String)
  | empty => []
  | file _ _ rest => rest.folders
  | folder name contents rest =>
      [name] :: contents.folders.map (name :: ·) ++ rest.folders

def cons (name : String) : Entry → Directory → Directory
  | .file bytes, rest => file name bytes rest
  | .directory contents, rest => folder name contents rest

def erase (name : String) : Directory → Directory
  | empty => empty
  | file n bytes rest =>
      if n == name then rest.erase name else file n bytes (rest.erase name)
  | folder n contents rest =>
      if n == name then rest.erase name else folder n contents (rest.erase name)

/-- The directory with a changed entry at the end of a way; directories on the
way are made if they are not there. -/
def update (change : Option Entry → Entry) : List String → Directory → Directory
  | [], d => d
  | [name], d => cons name (change (d.find? name)) (d.erase name)
  | name :: names, d =>
      let inner := match d.find? name with
        | some (.directory contents) => contents
        | _ => empty
      cons name (.directory (inner.update change names)) (d.erase name)

end Directory

inductive AccessError
  | missing
  | notDirectory
  | isDirectory
  | nameTooLong
  | nullCharacter
  deriving DecidableEq, Repr

namespace AccessError

def kind : AccessError → String
  | missing => "FileNotFoundError"
  | notDirectory => "NotADirectoryError"
  | isDirectory => "IsADirectoryError"
  | nameTooLong => "OSError"
  | nullCharacter => "ValueError"

def message (p : Path) : AccessError → String
  | missing => complaint 2 "No such file or directory"
  | notDirectory => complaint 20 "Not a directory"
  | isDirectory => complaint 21 "Is a directory"
  | nameTooLong => complaint 36 "File name too long"
  | nullCharacter => "embedded null byte"
where
  complaint (number : Nat) (text : String) : String :=
    "[Errno " ++ Text.natural number ++ "] " ++ text ++ ": " ++
      Text.quoted p.text

end AccessError

structure AccessFailure where
  error : AccessError
  path : Path
  deriving DecidableEq, Repr

def AccessFailure.message (f : AccessFailure) : String :=
  f.error.message f.path

/-- How deep a search gets that is made close to the bottom of the stack. -/
def usualReach : Nat := 980

/-- The files, the working directory, and how many directories deep the stack
lets a search for files get.  That depends on who makes the search. -/
structure FileTree where
  root : Directory
  cwd : List String
  reach : Nat := usualReach
  deriving DecidableEq, Repr

namespace FileTree

def maxNameBytes : Nat := 255

def maxPathBytes : Nat := 4095

/-- What a row of parts leads to from an entry.  `above` holds the directories
above it, the nearest first. -/
def follow (above : List Directory) :
    Entry → List String → Except AccessError Entry
  | e, [] => .ok e
  | .file _, _ :: _ => .error .notDirectory
  | .directory d, part :: rest =>
      if part == ".." then
        match above with
        | [] => follow [] (.directory d) rest
        | outer :: others => follow others (.directory outer) rest
      else if maxNameBytes < part.utf8ByteSize then .error .nameTooLong
      else
        match d.find? part with
        | none => .error .missing
        | some e => follow (d :: above) e rest

def fromRoot (t : FileTree) (p : Path) : List String :=
  if p.isAbsolute then p.parts else t.cwd ++ p.parts

def lookup (t : FileTree) (p : Path) : Except AccessError Entry :=
  if !p.isUsable then .error .nullCharacter
  else if maxPathBytes < p.text.utf8ByteSize then .error .nameTooLong
  else follow [] (.directory t.root) (t.fromRoot p)

/-- What a path leads to, if anything; that a name is too long is still a
failure. -/
def entry? (t : FileTree) (p : Path) : Except AccessFailure (Option Entry) :=
  match t.lookup p with
  | .ok e => .ok (some e)
  | .error .nameTooLong => .error ⟨.nameTooLong, p⟩
  | .error _ => .ok none

def readBytes (t : FileTree) (p : Path) : Except AccessError (List UInt8) :=
  match t.lookup p with
  | .ok (.file bytes) => .ok bytes
  | .ok (.directory _) => .error .isDirectory
  | .error e => .error e

end FileTree

end SiteAudit
