import SiteAudit.Text.Blank
import SiteAudit.Text.Caseless

/-!
# Closing marks

Comments, marked sections and raw text end at a closing mark: a row of
characters in which blanks are admitted in places, and in which letters count in
any case.  A search finds the first place where the mark stands.
-/

namespace SiteAudit
namespace Markup

/-- One part of a closing mark. -/
inductive MarkPart
  | exactly (c : Char)
  | letter (small : Char)
  | blanks
  deriving DecidableEq, Repr

def markLength? : List MarkPart → List Char → Option Nat
  | [], _ => some 0
  | .blanks :: mark, s =>
      (markLength? mark (s.dropWhile Text.isBlank)).map
        ((s.takeWhile Text.isBlank).length + ·)
  | .exactly p :: mark, c :: s =>
      if c == p then (markLength? mark s).map (· + 1) else none
  | .letter p :: mark, c :: s =>
      if Text.isFormOf p c then (markLength? mark s).map (· + 1) else none
  | _ :: _, [] => none

/-- Where a closing mark first stands: the text before it, and the length of the
mark.  `before` holds the characters already passed, the last one first. -/
def searchMark (mark : List MarkPart) (before : List Char) :
    List Char → Option (List Char × Nat)
  | [] => none
  | c :: rest =>
      match markLength? mark (c :: rest) with
      | some n => some (before.reverse, n)
      | none => searchMark mark (c :: before) rest

def beforeMark? (mark : List MarkPart) (s : List Char) :
    Option (List Char × Nat) :=
  searchMark mark [] s

def commentEnd : List MarkPart :=
  [.exactly '-', .exactly '-', .blanks, .exactly '>']

def sectionEnd : List MarkPart :=
  [.exactly ']', .blanks, .exactly ']', .blanks, .exactly '>']

def conditionEnd : List MarkPart :=
  [.exactly ']', .blanks, .exactly '>']

def rawEnd (element : String) : List MarkPart :=
  .exactly '<' :: .exactly '/' :: .blanks :: element.toList.map .letter ++
    [.blanks, .exactly '>']

end Markup
end SiteAudit
