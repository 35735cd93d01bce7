import SiteAudit.Discovery.Pattern
import SiteAudit.Exclusion

/-!
# Discovery

The pages of a site are the files below its root that a pattern selects and no
exclusion matches, in the order of their rows of names.  Finding none is a
failure: a site that was not built must not pass.
-/

namespace SiteAudit
namespace Discovery

inductive Error
  | missingRoot (root : Path)
  | rootIsNoDirectory (root : Path)
  | unreadableRoot (root : Path) (failure : AccessFailure)
  | noPages (root : Path) (pattern : String)
  deriving DecidableEq, Repr

def Error.message : Error → String
  | missingRoot root =>
      "Site root not found: " ++ root.text ++ ". Build the site first."
  | rootIsNoDirectory root => "Site root is not a directory: " ++ root.text
  | unreadableRoot root failure =>
      "Cannot read site root " ++ root.text ++ ": " ++ failure.message
  | noPages root pattern =>
      "No HTML files found in " ++ root.text ++ "/ matching " ++
        Text.quoted pattern ++
        ". Build the site first."

/-- Why discovery fails: the site has no pages, or the question cannot be
put. -/
inductive Failure
  | noSite (e : Error)
  | access (f : AccessFailure)
  | pattern (e : PatternError)
  | voidExclusion
  | tooDeep
  deriving DecidableEq, Repr

def Failure.message : Failure → String
  | noSite e => e.message
  | access f => f.message
  | pattern e => e.message
  | voidExclusion => "expected str, bytes or os.PathLike object, not list"
  | tooDeep => "maximum recursion depth exceeded"

def relativeText (names : List String) : String :=
  (Path.mk .relative names).text

def comesBefore (a b : List String) : Bool :=
  !decide (b < a)

def isPage (t : FileTree) (root : Path) (exclude : List Exclusion)
    (names : List String) :
    Except Failure Bool :=
  match t.entry? (below root names) with
  | .error f => .error (.noSite (.unreadableRoot root f))
  | .ok (some (.file _)) =>
      match isExcluded? (relativeText names) exclude with
      | none => .error .voidExclusion
      | some excluded => .ok !excluded
  | .ok _ => .ok false

def Obstacle.failure (root : Path) : Obstacle → Failure
  | .refused f => .noSite (.unreadableRoot root f)
  | .tooDeep => .tooDeep

/-- The pages among what a pattern selects.  Each row is looked at when the
search comes upon it. -/
def pagesOf (t : FileTree) (root : Path) (pattern : Pattern)
    (exclude : List Exclusion) : Except Failure (List (List String)) := do
  let found := pattern.select t root
  let kept ← found.rows.filterM (isPage t root exclude)
  match found.obstacle with
  | none => return kept
  | some o => throw (o.failure root)

def pages (t : FileTree) (root : Path) (pattern : String)
    (exclude : List Exclusion) :
    Except Failure (List Path) :=
  match t.entry? root with
  | .error f => .error (.access f)
  | .ok none => .error (.noSite (.missingRoot root))
  | .ok (some (.file _)) => .error (.noSite (.rootIsNoDirectory root))
  | .ok (some (.directory _)) =>
      match Pattern.ofString pattern with
      | .error e => .error (.pattern e)
      | .ok p =>
          match pagesOf t root p exclude with
          | .error e => .error e
          | .ok [] => .error (.noSite (.noPages root pattern))
          | .ok found => .ok ((found.mergeSort comesBefore).map (below root))

theorem ne_nil_of_pages {t : FileTree} {root : Path} {pattern : String}
    {exclude : List Exclusion} {paths : List Path}
    (h : pages t root pattern exclude = .ok paths) : paths ≠ [] := by
  unfold pages at h
  repeat' split at h
  all_goals cases h
  rename_i found hfound _
  intro hnil
  have hempty : found = [] := by
    simpa using congrArg List.length hnil
  exact hfound hempty

end Discovery
end SiteAudit
