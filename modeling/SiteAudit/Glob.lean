import SiteAudit.Text.Search

/-!
# Globs

A glob is text with wildcards: a star stands for any run of characters, a
question mark for any one character, and square brackets for one character of a
set.  A set is a row of characters and ranges, and a mark of negation may stand
in front.  A bracket that is not closed is text.

An empty range counts as nothing, and takes the characters next to it along: the
pieces of the set on either side of its hyphen are put together without the two
ends.  A mark of negation that comes to the front in this way counts as one.
-/

namespace SiteAudit

namespace Glob

inductive Item
  | char (c : Char)
  | one
  | run
  | oneOf (negated : Bool) (ranges : List (Char × Char))
  deriving DecidableEq, Repr

/-- A character or the hyphen of a range inside a set. -/
inductive SetItem
  | char (c : Char)
  | hyphen
  deriving DecidableEq, Repr

end Glob

abbrev Glob :=
  List Glob.Item

namespace Glob

/-- The pieces of a set between hyphens that make ranges.  The first `skipped`
characters are no such hyphens, and `piece` holds the characters of the piece so
far, the last one first. -/
def setPieces (skipped : Nat) (piece : List Char) : List Char → List (List Char)
  | [] => [piece.reverse]
  | c :: rest =>
      match skipped with
      | n + 1 => setPieces n (c :: piece) rest
      | 0 => if c == '-' then piece.reverse :: setPieces 2 [] rest
          else setPieces 0 (c :: piece) rest

/-- The pieces with a hyphen at the end of the set put into the last piece that
is not empty. -/
def closeLast : List (List Char) → List (List Char)
  | [piece, []] => [piece ++ ['-']]
  | [] => []
  | piece :: rest => piece :: closeLast rest

/-- One piece in front of others; an empty range between it and the next one is
dropped with its ends. -/
def joinPiece (piece : List Char) : List (List Char) → List (List Char)
  | [] => [piece]
  | next :: rest =>
      match piece.getLast?, next.head? with
      | some a, some b => if b < a then (piece.dropLast ++ next.tail) :: rest
          else piece :: next :: rest
      | _, _ => piece :: next :: rest

def hyphenated : List (List Char) → List SetItem
  | [] => []
  | [piece] => piece.map .char
  | piece :: rest => piece.map .char ++ .hyphen :: hyphenated rest

/-- The ranges of a set; a character on its own is a range of one. -/
def rangesOf : List SetItem → List (Char × Char)
  | .char a :: .hyphen :: .char b :: rest => (a, b) :: rangesOf rest
  | .char a :: rest => (a, a) :: rangesOf rest
  | .hyphen :: rest => ('-', '-') :: rangesOf rest
  | [] => []

def ofSet (s : List Char) : Item :=
  let skipped := if s.head? == some '!' then 2 else 1
  match hyphenated
    ((closeLast (setPieces skipped [] s)).foldr joinPiece []) with
  | .char '!' :: rest => .oneOf true (rangesOf rest)
  | items => .oneOf false (rangesOf items)

/-- The text up to the bracket that closes a set, and what follows it.  A
bracket right at the start, or right behind the mark of negation, belongs to the
set. -/
def readSet (s : List Char) : Option (List Char × List Char) :=
  let (mark, s) := Text.takeOne '!' s
  let (first, s) := Text.takeOne ']' s
  (Text.cutAt? (· == ']') s).map fun (inner, _, rest) =>
  (mark ++ first ++ inner, rest)

theorem length_rest_readSet {s inner rest : List Char}
    (h : readSet s = some (inner, rest)) :
    rest.length < s.length := by
  simp only [readSet, Option.map_eq_some_iff, Prod.mk.injEq] at h
  obtain ⟨⟨before, c, after⟩, hc, -, rfl⟩ := h
  have h1 := congrArg List.length (Text.takeOne_append '!' s)
  have h2 :=
    congrArg List.length (Text.takeOne_append ']' (Text.takeOne '!' s).2)
  have h3 := congrArg List.length (Text.append_of_cutAt? hc)
  simp only [List.length_append, List.length_cons] at h1 h2 h3
  show after.length < s.length
  omega

def ofChars (s : List Char) : Glob :=
  match s with
  | [] => []
  | '*' :: rest => .run :: ofChars rest
  | '?' :: rest => .one :: ofChars rest
  | '[' :: rest =>
      match _h : readSet rest with
      | some (inner, rest) => ofSet inner :: ofChars rest
      | none => .char '[' :: ofChars rest
  | c :: rest => .char c :: ofChars rest
termination_by s.length
decreasing_by
  all_goals simp_wf
  have := length_rest_readSet _h
  omega

def ofString (s : String) : Glob :=
  ofChars s.toList

def Item.meets (c : Char) : Item → Bool
  | char d => c == d
  | one => true
  | run => false
  | oneOf negated ranges => (ranges.any fun r => r.1 ≤ c && c ≤ r.2) != negated

/-- Whether the rest of a glob matches some end of a text. -/
def matchesEnd (rest : List Char → Bool) : List Char → Bool
  | [] => rest []
  | c :: s => rest (c :: s) || matchesEnd rest s

def matchesChars : Glob → List Char → Bool
  | [], s => s.isEmpty
  | .run :: items, s => matchesEnd (matchesChars items) s
  | _ :: _, [] => false
  | item :: items, c :: s => item.meets c && matchesChars items s

def accepts (g : Glob) (s : String) : Bool :=
  g.matchesChars s.toList

end Glob

end SiteAudit
