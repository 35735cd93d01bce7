/-!
# Finding text inside text

A text occurs in another when the second one starts with it at some place.
-/

namespace SiteAudit
namespace Text

/-- Whether the first text is a contiguous part of the second. -/
def occursIn (part : List Char) : List Char → Bool
  | [] => part.isEmpty
  | c :: rest => part.isPrefixOf (c :: rest) || occursIn part rest

def isPartOf (part whole : String) : Bool :=
  occursIn part.toList whole.toList

def afterPrefix? : List Char → List Char → Option (List Char)
  | [], s => some s
  | _ :: _, [] => none
  | p :: ps, c :: s => if p == c then afterPrefix? ps s else none

/-- The text cut at the first character of a class: what stands before it, and
it with the rest. -/
def cutAt? (stop : Char → Bool) (s : List Char) :
    Option (List Char × Char × List Char) :=
  match s.dropWhile (!stop ·) with
  | [] => none
  | c :: rest => some (s.takeWhile (!stop ·), c, rest)

/-- The pieces of a text between the separators, one more than there are
separators. -/
def pieces (separator : Char) : List Char → List (List Char)
  | [] => [[]]
  | c :: rest =>
      if c == separator then [] :: pieces separator rest
      else
        match pieces separator rest with
        | [] => [[c]]
        | piece :: others => (c :: piece) :: others

def takeOne (c : Char) : List Char → List Char × List Char
  | [] => ([], [])
  | d :: s => if d == c then ([d], s) else ([], d :: s)

theorem takeOne_append (c : Char) (s : List Char) :
    (takeOne c s).1 ++ (takeOne c s).2 = s := by
  cases s with
  | nil => rfl
  | cons d s =>
      rw [takeOne]
      split <;> rfl

theorem append_of_cutAt? {stop : Char → Bool} {s before after : List Char}
    {c : Char} (h : cutAt? stop s = some (before, c, after)) :
    before ++ c :: after = s := by
  unfold cutAt? at h
  split at h
  · simp at h
  · rename_i heq
    simp only [Option.some.injEq, Prod.mk.injEq] at h
    obtain ⟨rfl, rfl, rfl⟩ := h
    rw [← heq, List.takeWhile_append_dropWhile]

theorem occursIn_iff {part whole : List Char} :
    occursIn part whole = true ↔ part <:+: whole := by
  induction whole with
  | nil => cases part <;> simp [occursIn]
  | cons c rest ih =>
    rw [occursIn, Bool.or_eq_true, ih, List.infix_cons_iff,
      List.isPrefixOf_iff_prefix]

end Text
end SiteAudit
