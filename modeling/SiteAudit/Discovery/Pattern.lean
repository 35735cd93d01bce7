import SiteAudit.FileTree
import SiteAudit.Glob

/-!
# Path patterns

A pattern describes paths below a directory, part by part.  A part is a name, a
glob for the names of entries, or two stars, which stand for the directory
itself and all directories inside it, as deep as a search gets.  A slash at the
end asks for directories.

Main definition: the rows of names below a directory that a pattern selects.
-/

namespace SiteAudit
namespace Discovery

inductive Component
  | name (s : String)
  | entries (g : Glob)
  | everywhere
  deriving DecidableEq, Repr

structure Pattern where
  components : List Component
  directoriesOnly : Bool
  deriving DecidableEq, Repr

inductive PatternError
  | empty
  | absolute
  | noParts
  | noPartsBeforeSlash
  | doubleStarInName
  deriving DecidableEq, Repr

def PatternError.message : PatternError → String
  | empty => "Unacceptable pattern: ''"
  | absolute => "Non-relative patterns are unsupported"
  | noParts => "tuple index out of range"
  | noPartsBeforeSlash =>
      "'_TerminatingSelector' object has no attribute 'select_from'"
  | doubleStarInName =>
      "Invalid pattern: '**' can only be an entire path component"

def Component.ofString (s : String) : Except PatternError Component :=
  if s == "**" then .ok .everywhere
  else if Text.isPartOf "**" s then .error .doubleStarInName
  else if s.toList.any ['*', '?', '['].contains then
    .ok (.entries (.ofString s))
  else .ok (.name s)

def Pattern.ofString (s : String) : Except PatternError Pattern :=
  let p := Path.ofString s
  let closed := s.toList.getLast? == some '/'
  if s == "" then .error .empty
  else if p.isAbsolute then .error .absolute
  else if p.parts.isEmpty then
    .error (if closed then .noPartsBeforeSlash else .noParts)
  else (p.parts.mapM Component.ofString).map fun components =>
    ⟨components, closed⟩

def below (base : Path) (names : List String) : Path :=
  ⟨base.anchor, base.parts ++ names⟩

/-- Why a search is broken off: the file system refuses a path, or there are
directories too deep inside each other to follow them all. -/
inductive Obstacle
  | refused (f : AccessFailure)
  | tooDeep
  deriving DecidableEq, Repr

/-- The rows of names that a search comes upon, in this order, and what breaks
it off behind the last one if it does not get to its end. -/
structure Search where
  rows : List (List String)
  obstacle : Option Obstacle := none
  deriving DecidableEq, Repr

namespace Search

def followedBy (s others : Search) : Search :=
  match s.obstacle with
  | some _ => s
  | none => ⟨s.rows ++ others.rows, others.obstacle⟩

/-- A search from each row that a search comes upon, one after another. -/
def behind (s : Search) (next : List String → Search) : Search :=
  s.rows.foldr (fun row others => (next row).followedBy others)
    ⟨[], s.obstacle⟩

end Search

/-- A search that looks at one path and goes by what is there. -/
def lookAt (t : FileTree) (p : Path)
    (found : Option Entry → List (List String)) : Search :=
  match t.entry? p with
  | .error f => ⟨[], some (.refused f)⟩
  | .ok e => ⟨found e, none⟩

/-- A directory and those inside it, as deep as the search gets. -/
def selectEverywhere (reach : Nat) (names : List String) (d : Directory) :
    Search where
  rows := names ::
    (d.folders.takeWhile (·.length ≤ reach)).map (names ++ ·)
  obstacle := if d.folders.all (·.length ≤ reach) then none else some .tooDeep

/-- The rows of names that one more part of a pattern selects behind the row
`names`; directories alone if `inside` says that more is to come. -/
def selectPart (t : FileTree) (base : Path) (inside : Bool)
    (names : List String) : Component → Search
  | .name s =>
      lookAt t (below base (names ++ [s])) fun
        | none => []
        | some e => if inside && !e.isDirectory then [] else [names ++ [s]]
  | .entries g =>
      lookAt t (below base names) fun
        | some (.directory d) =>
            (d.entries.filter fun (name, e) =>
              (!inside || e.isDirectory) && g.accepts name).map (names ++ [·.1])
        | _ => []
  | .everywhere =>
      match t.entry? (below base names) with
      | .error f => ⟨[], some (.refused f)⟩
      | .ok (some (.directory d)) => selectEverywhere t.reach names d
      | .ok _ => ⟨[], none⟩

/-- The rows of names that a row of parts selects behind the row `names`. -/
def selectBehind (t : FileTree) (base : Path) (directoriesOnly : Bool) :
    List Component → List String → Search
  | [], names => ⟨[names], none⟩
  | c :: rest, names =>
      (selectPart t base (directoriesOnly || !rest.isEmpty) names c).behind
        (selectBehind t base directoriesOnly rest)

def Pattern.select (p : Pattern) (t : FileTree) (base : Path) : Search :=
  let found := selectBehind t base p.directoriesOnly p.components []
  { found with rows := found.rows.eraseDups }

end Discovery
end SiteAudit
