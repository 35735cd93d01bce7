import SiteAudit.Template.Layout

/-!
# Templates

A template is text with fields.  A brace that is text is written twice; a field
is a name between braces, with an optional conversion behind an exclamation mark
and an optional layout behind a colon.  A layout may hold fields of its own.

A template is read once, into segments.  The names of its fields and the filled
text both come from them.  What cannot be read is a segment too, the last one,
so that the segments in front of it can still be filled.
-/

namespace SiteAudit
namespace Template

structure Field where
  name : List Char
  conversion : Option Char
  layout : List Char
  deriving DecidableEq, Repr

/-- A part of a template: one character of text, a field, or a mistake, behind
which nothing is read. -/
inductive Segment
  | char (c : Char)
  | field (f : Field)
  | mistake (e : Error)
  deriving DecidableEq, Repr

/-- The name of a field up to the character that ends it, with that character
and what follows.  Between square brackets all characters belong to the name.
`done` holds the characters so far, the last one first. -/
def readName (inBrackets : Bool) (done : List Char) :
    List Char → Except Error (List Char × Char × List Char)
  | [] => .error .unclosedField
  | c :: rest =>
      if inBrackets then readName (c != ']') (c :: done) rest
      else if c == '{' then .error .openingInName
      else if c == '}' || c == ':' || c == '!' then .ok (done.reverse, c, rest)
      else readName (c == '[') (c :: done) rest

/-- A layout up to the brace that closes its field, and what follows.  `open_`
counts the open braces. -/
def readLayoutText (open_ : Nat) (done : List Char) :
    List Char → Except Error (List Char × List Char)
  | [] => .error .unclosedLayout
  | c :: rest =>
      if c == '{' then readLayoutText (open_ + 1) (c :: done) rest
      else if c == '}' then
        if open_ ≤ 1 then .ok (done.reverse, rest)
          else readLayoutText (open_ - 1) (c :: done) rest
      else readLayoutText open_ (c :: done) rest

def readField (s : List Char) : Except Error (Field × List Char) := do
  let (name, ending, rest) ← readName false [] s
  if ending == '}' then return (⟨name, none, []⟩, rest)
  else if ending == ':' then do
    let (layout, rest) ← readLayoutText 1 [] rest
    return (⟨name, none, layout⟩, rest)
  else
    match rest with
    | [] => .error .missingConversion
    | conversion :: '}' :: rest => return (⟨name, some conversion, []⟩, rest)
    | conversion :: ':' :: rest => do
        let (layout, rest) ← readLayoutText 1 [] rest
        return (⟨name, some conversion, layout⟩, rest)
    | [_] => .error .unclosedLayout
    | _ => .error .textAfterConversion

theorem length_rest_readName {inBrackets : Bool} {done s name rest : List Char}
    {ending : Char}
    (h : readName inBrackets done s = .ok (name, ending, rest)) :
    rest.length < s.length := by
  induction s generalizing inBrackets done with
  | nil => simp [readName] at h
  | cons c s ih =>
      rw [readName] at h
      split at h
      · exact Nat.lt_succ_of_lt (ih h)
      · split at h
        · simp at h
        · split at h
          · simp only [Except.ok.injEq, Prod.mk.injEq] at h
            simp [h.2.2]
          · exact Nat.lt_succ_of_lt (ih h)

theorem length_rest_readLayoutText {n : Nat} {done s layout rest : List Char}
    (h : readLayoutText n done s = .ok (layout, rest)) :
    rest.length < s.length := by
  induction s generalizing n done with
  | nil => simp [readLayoutText] at h
  | cons c s ih =>
      rw [readLayoutText] at h
      split at h
      · exact Nat.lt_succ_of_lt (ih h)
      · split at h
        · split at h
          · simp only [Except.ok.injEq, Prod.mk.injEq] at h
            simp [h.2]
          · exact Nat.lt_succ_of_lt (ih h)
        · exact Nat.lt_succ_of_lt (ih h)

theorem length_rest_readField {s rest : List Char} {f : Field}
    (h : readField s = .ok (f, rest)) :
    rest.length < s.length := by
  unfold readField at h
  cases hn : readName false [] s with
  | error e => simp [hn, bind, Except.bind] at h
  | ok r =>
      obtain ⟨name, ending, tail⟩ := r
      have hlt := length_rest_readName hn
      simp only [hn, bind, Except.bind] at h
      split at h
      · simp only [pure, Except.pure, Except.ok.injEq, Prod.mk.injEq] at h
        exact h.2 ▸ hlt
      · split at h
        · cases hl : readLayoutText 1 [] tail with
          | error e => simp [hl] at h
          | ok l =>
              have := length_rest_readLayoutText hl
              simp only [hl, pure, Except.pure, Except.ok.injEq, Prod.mk.injEq]
                at h
              rw [← h.2]
              omega
        · split at h
          · simp at h
          · rename_i conversion more
            simp only [pure, Except.pure, Except.ok.injEq, Prod.mk.injEq] at h
            rw [← h.2]
            simp only [List.length_cons] at hlt
            omega
          · rename_i conversion more
            cases hl : readLayoutText 1 [] more with
            | error e => simp [hl] at h
            | ok l =>
                have := length_rest_readLayoutText hl
                simp only [hl, pure, Except.pure, Except.ok.injEq,
                  Prod.mk.injEq] at h
                rw [← h.2]
                simp only [List.length_cons] at hlt
                omega
          · simp at h
          · simp at h

def parse (s : List Char) : List Segment :=
  match s with
  | [] => []
  | '{' :: '{' :: rest => .char '{' :: parse rest
  | '}' :: '}' :: rest => .char '}' :: parse rest
  | '{' :: rest =>
      if rest.isEmpty then [.mistake .loneOpening]
      else
        match _h : readField rest with
        | .error e => [.mistake e]
        | .ok (f, rest) => .field f :: parse rest
  | '}' :: _ => [.mistake .loneClosing]
  | c :: rest => .char c :: parse rest
termination_by s.length
decreasing_by
  all_goals simp only [List.length_cons]
  · omega
  · omega
  · have := length_rest_readField _h
    omega
  · omega

/-- The names of the fields, each once, in the order in which they first come,
behind the names that are known. -/
def placeholdersFrom (names : List String) :
    List Segment → Except Error (List String)
  | [] => .ok names
  | .char _ :: rest => placeholdersFrom names rest
  | .field f :: rest =>
      let name := String.ofList f.name
      placeholdersFrom (if f.name.isEmpty || names.contains name then names
        else names ++ [name]) rest
  | .mistake e :: _ => .error e

def placeholders (segments : List Segment) : Except Error (List String) :=
  placeholdersFrom [] segments

/-- The value that a field's name stands for.  A name is a value's name and
perhaps the way to a part of it; a number, or no name at all, would stand for a
value by its place, and there are no such values. -/
def findValue (values : List (String × Value)) (name : List Char) :
    Except Error Value :=
  let head := name.takeWhile isPartName
  match readCount head with
  | .error e => .error e
  | .ok place =>
      if head.isEmpty || place.isSome then .error .positionalField
      else
        match values.lookup (String.ofList head) with
        | none => .error (.noValue (String.ofList head))
        | some v => follow v (name.dropWhile isPartName)

def asciiOnly (s : List Char) : List Char :=
  s.flatMap fun c =>
    if c.toNat < 128 then [c]
    else if c.toNat < 0x100 then '\\' :: 'x' :: Text.hexPadded 2 c.toNat
    else if c.toNat < 0x10000 then '\\' :: 'u' :: Text.hexPadded 4 c.toNat
    else '\\' :: 'U' :: Text.hexPadded 8 c.toNat

/-- The value after the conversion that a field asks for; the null character
asks for none. -/
def convert (conversion : Option Char) (v : Value) : Except Error Value :=
  match conversion.filter (·.toNat != 0) with
  | none => .ok v
  | some 's' => .ok (.text v.display)
  | some 'r' => .ok (.text v.quote)
  | some 'a' => .ok (.text (String.ofList (asciiOnly v.quote.toList)))
  | some c => .error (.unknownConversion c)

/-- The text of a row of segments, filled with values; `depth` bounds the
nesting of layouts. -/
def fill (values : List (String × Value)) :
    Nat → List Segment → Except Error (List Char)
  | 0, _ => .error .tooDeep
  | depth + 1, segments => fillAll depth segments
where
  fillField (depth : Nat) (f : Field) : Except Error (List Char) := do
    let v ← findValue values f.name
    let v ← convert f.conversion v
    let layout ← if f.layout.contains '{' then
        fill values depth (parse f.layout) else .ok f.layout
    return (← applyLayout layout v).toList
  fillAll (depth : Nat) : List Segment → Except Error (List Char)
    | [] => .ok []
    | .char c :: rest => (fillAll depth rest).map (c :: ·)
    | .field f :: rest => do
        let text ← fillField depth f
        let others ← fillAll depth rest
        return text ++ others
    | .mistake e :: _ => .error e

def maxDepth : Nat :=
  2

end Template
end SiteAudit
