import SiteAudit.Text.Search

/-!
# Paths

A path is an anchor and a row of parts.  Reading a path drops its empty parts
and its dots, and keeps the double dots: what they mean is up to the files that
a path is followed through.  Resolving a path is the other way to treat them.
It starts at a working directory and takes every double dot back at once, which
gives the one absolute row of names that the path stands for as long as no file
is a link.
-/

namespace SiteAudit

/-- Where a path starts: at the working directory, or at the root, which two
slashes stand for as well. -/
inductive Anchor
  | relative
  | slash
  | doubleSlash
  deriving DecidableEq, Repr

structure Path where
  anchor : Anchor
  parts : List String
  deriving DecidableEq, Repr

namespace Anchor

def ofText : List Char → Anchor
  | '/' :: '/' :: '/' :: _ => slash
  | '/' :: '/' :: _ => doubleSlash
  | '/' :: _ => slash
  | _ => relative

def text : Anchor → String
  | relative => ""
  | slash => "/"
  | doubleSlash => "//"

end Anchor

namespace Path

def isPart (s : String) : Bool :=
  s != "" && s != "."

def partsOf (s : List Char) : List String :=
  ((Text.pieces '/' s).map String.ofList).filter isPart

def ofString (s : String) : Path :=
  ⟨.ofText s.toList, partsOf s.toList⟩

def here : Path :=
  ⟨.relative, []⟩

def ofNames (names : List String) : Path :=
  ⟨.slash, names⟩

/-- The text of a path.  A path without anchor and parts is written as a dot. -/
def text (p : Path) : String :=
  match p.anchor, p.parts with
  | .relative, [] => "."
  | anchor, parts => anchor.text ++ "/".intercalate parts

def isAbsolute (p : Path) : Bool :=
  p.anchor != .relative

def join (p q : Path) : Path :=
  if q.isAbsolute then q else ⟨p.anchor, p.parts ++ q.parts⟩

def child (p : Path) (name : String) : Path :=
  ⟨p.anchor, p.parts ++ [name]⟩

def parent (p : Path) : Path :=
  ⟨p.anchor, p.parts.dropLast⟩

def name (p : Path) : String :=
  p.parts.getLastD ""

/-- Whether the path can be passed on to a file system: no character of it is
the null character. -/
def isUsable (p : Path) : Bool :=
  p.parts.all fun part => !part.toList.contains (Char.ofNat 0)

def step (names : List String) (part : String) : List String :=
  if part == ".." then names.tail else part :: names

/-- The names from the root to what the path stands for, seen from the directory
with the names `cwd`. -/
def resolve (cwd : List String) (p : Path) : List String :=
  let start := if p.isAbsolute then [] else cwd.reverse
  (p.parts.foldl step start).reverse

def below? : List String → List String → Option (List String)
  | [], names => some names
  | _ :: _, [] => none
  | a :: as, b :: bs => if a == b then below? as bs else none

end Path

end SiteAudit
