import SiteAudit.Glob

/-!
# Exclusions

An exclusion keeps pages out of a site.  It is a glob, or it was asked for
without one; then it can be tried on no page.
-/

namespace SiteAudit

inductive Exclusion
  | glob (s : String)
  | void
  deriving DecidableEq, Repr

namespace Exclusion

def ofFlag : Option String → Exclusion
  | some s => glob s
  | none => void

/-- Whether an exclusion matches a path; it is unknown for an exclusion without
a glob. -/
def accepts? (path : String) : Exclusion → Option Bool
  | glob s => some ((Glob.ofString s).accepts path)
  | void => none

end Exclusion

/-- Whether one of the exclusions matches a path.  They are tried in order, up
to the first one that matches. -/
def isExcluded? (path : String) : List Exclusion → Option Bool
  | [] => some false
  | e :: rest =>
      match e.accepts? path with
      | none => none
      | some true => some true
      | some false => isExcluded? path rest

end SiteAudit
