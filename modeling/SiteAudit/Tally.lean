import SiteAudit.Finding

/-!
# Tallies

A tally collects the findings of a run, errors apart from the rest, each in the
order in which they come, and counts the files.  It has no more memory than
that: findings may be submitted one by one or in any batches.
-/

namespace SiteAudit

structure Tally where
  errors : List Finding := []
  warnings : List Finding := []
  fileCount : Nat := 0
  deriving DecidableEq, Repr

namespace Tally

def empty : Tally := {}

def add (t : Tally) (f : Finding) : Tally :=
  if f.isError then { t with errors := t.errors ++ [f] }
    else { t with warnings := t.warnings ++ [f] }

def extend (t : Tally) (fs : List Finding) : Tally :=
  fs.foldl add t

def addFile (t : Tally) (fs : List Finding) : Tally :=
  extend { t with fileCount := t.fileCount + 1 } fs

def ofFiles (files : List (String × List Finding)) : Tally :=
  files.foldl (fun t file => t.addFile file.2) empty

def hasErrors (t : Tally) : Bool :=
  !t.errors.isEmpty

def isClean (t : Tally) : Bool :=
  t.errors.isEmpty && t.warnings.isEmpty

end Tally

end SiteAudit
