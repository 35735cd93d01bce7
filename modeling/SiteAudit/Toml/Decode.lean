import SiteAudit.Toml.Nest
import SiteAudit.Toml.Scalar

/-!
# Reading configuration files

A file is a row of lines.  A line holds nothing, a header, or a key and a value,
and perhaps a comment.  A header names the table that the following lines belong
to; a header in double brackets adds a table to a list.
-/

namespace SiteAudit
namespace Toml

open Config

def isBare (c : Char) : Bool :=
  c.isAlphanum || c == '-' || c == '_'

def readName : Reader String := fun s =>
  match s with
  | '"' :: s =>
      (readBasic false .text [] s).map fun (t, s) => (String.ofList t, s)
  | '\'' :: s => (readLiteral false s).map fun (t, s) => (String.ofList t, s)
  | s =>
      let name := s.takeWhile isBare
      if name.isEmpty then Cause.keyStart.at_ s
        else .ok (String.ofList name, s.dropWhile isBare)

/-- The names of a key behind the first ones.  `fuel` bounds their number, and
`done` holds the names so far, the last one first. -/
def readNames : Nat → List String → Reader Key
  | 0, _, s => Cause.keyStart.at_ s
  | fuel + 1, done, s => do
      let (name, s) ← readName s
      match skipBlanks s with
      | '.' :: s => readNames fuel (name :: done) (skipBlanks s)
      | s => return ((name :: done).reverse, s)

/-- A key: names with points between them. -/
def readKey : Reader Key := fun s =>
  readNames (s.length + 1) [] s

def skipComment (s : List Char) : Except Error (List Char) :=
  match s with
  | '#' :: s =>
      let rest := s.dropWhile (· != '\n')
      match (s.takeWhile (· != '\n')).dropWhile (!isControl ·) with
      | [] => .ok rest
      | c :: others => (Cause.illegalInText c).at_ (c :: others ++ rest)
  | s => .ok s

/-- What follows blanks, line feeds and comments.  `fuel` bounds the number of
comments. -/
def skipLines : Nat → List Char → Except Error (List Char)
  | 0, s => .ok s
  | fuel + 1, s =>
      match s.dropWhile fun c => isBlank c || c == '\n' with
      | '#' :: rest => do skipLines fuel (← skipComment ('#' :: rest))
      | rest => .ok rest

def skipGap (s : List Char) : Except Error (List Char) :=
  skipLines (s.length + 1) s

def readAssigned : Reader Key := fun s => do
  let (key, s) ← readKey s
  match s with
  | '=' :: s => return (key, skipBlanks s)
  | s => Cause.missingEquals.at_ s

def hasParts : Value → Bool
  | .list _ => true
  | .table _ => true
  | _ => false

/-- A table inside a line with one more entry; `rest` is the text behind the
entry. -/
def addEntry (marks : Marks) (key : Key) (v : Value) (t : Table)
    (rest : List Char) :
    Except Error Table :=
  let name := key.getLastD ""
  if marks.isFrozen key then (Cause.immutable key).at_ rest
  else
    match reach false key.dropLast t with
    | none => Cause.overwritten.at_ rest
    | some nest =>
        if (nest.get? name).isSome then (Cause.duplicate name).at_ rest
        else
          match alter false (fun nest =>
            some (put name v nest)) key.dropLast t with
          | some t => .ok t
          | none => Cause.overwritten.at_ rest

mutual

/-- A value.  `nesting` is how much nesting is left for it, and `fuel` bounds
how often readers call each other. -/
def readValue (nesting : Nat) : Nat → Reader Value
  | 0, s => Cause.value.at_ s
  | fuel + 1, s =>
      match s with
      | '[' :: s =>
          if nesting < 2 then (Cause.exceeded .nestingRead).at_ s
          else do
            match ← skipGap s with
            | ']' :: s => return (.list [], s)
            | s => do
                let (items, s) ← readItems (nesting - 2) fuel [] s
                return (.list items, s)
      | '\x7b' :: s =>
          if nesting < 3 then (Cause.exceeded .nestingRead).at_ s
          else
            match skipBlanks s with
            | '\x7d' :: s => return (.table [], s)
            | s => do
                let (entries, s) ← readEntries (nesting - 3) fuel {} [] s
                return (.table entries, s)
      | s => readScalar s

/-- The items of a list up to its closing bracket, and what follows.  `done`
holds the items so far, the last one first. -/
def readItems (nesting : Nat) : Nat → List Value → Reader (List Value)
  | 0, _, s => Cause.unclosedArray.at_ s
  | fuel + 1, done, s => do
      let (v, s) ← readValue nesting fuel s
      let done := v :: done
      match ← skipGap s with
      | ']' :: s => return (done.reverse, s)
      | ',' :: s => do
          match ← skipGap s with
          | ']' :: s => return (done.reverse, s)
          | s => readItems nesting fuel done s
      | s => Cause.unclosedArray.at_ s

def readEntries (nesting : Nat) : Nat → Marks → Table → Reader Table
  | 0, _, _, s => Cause.unclosedTable.at_ s
  | fuel + 1, marks, t, s => do
      let (key, s) ← readAssigned s
      let (v, s) ← readValue nesting fuel s
      let t ← addEntry marks key v t s
      match skipBlanks s with
      | '\x7d' :: s => return (t, s)
      | ',' :: s =>
          readEntries nesting fuel (if hasParts v then marks.freeze key
          else marks) t (skipBlanks s)
      | s => Cause.unclosedTable.at_ s

end

/-- What has been read: the tables so far, the marks on names, and the names of
the header above. -/
structure State where
  data : Table := []
  marks : Marks := {}
  header : Key := []
  deriving Inhabited

def readTableHeader (st : State) : Reader State := fun s => do
  let (key, s) ← readKey (skipBlanks s)
  if st.marks.isDeclared key || st.marks.isFrozen key then
    (Cause.declaredTwice key).at_ s
  else
    match alter true some key st.data, s with
    | none, s => Cause.overwritten.at_ s
    | some data, ']' :: s => return (⟨data, st.marks.declare key, key⟩, s)
    | some _, s => Cause.missingTableEnd.at_ s

def readListHeader (st : State) : Reader State := fun s => do
  let (key, s) ← readKey (skipBlanks s)
  if st.marks.isFrozen key then (Cause.immutable key).at_ s
  else
    match appendTable key st.data, s with
    | none, s => Cause.overwritten.at_ s
    | some data, ']' :: ']' :: s =>
        return (⟨data, (st.marks.clear key).declare key, key⟩, s)
    | some _, s => Cause.missingArrayEnd.at_ s

/-- The marks after a dotted key: the tables on its way must not have a header,
and must not get one. -/
def markDotted (header : Key) (rest : List Char) :
    List Key → Marks → Except Error Marks
  | [], marks => .ok marks
  | way :: ways, marks =>
      let key := header ++ way
      if marks.isDeclared key then (Cause.redefined key).at_ rest
      else markDotted header rest ways (marks.postpone key)

def waysOf (key : Key) : List Key :=
  (List.range key.length).tail.map key.take

def readEntry (st : State) : Reader State := fun s => do
  let (key, s) ← readAssigned s
  let (v, s) ← readValue maxNesting (s.length + 1) s
  let name := key.getLastD ""
  let parent := st.header ++ key.dropLast
  let marks ← markDotted st.header s (waysOf key) st.marks
  if marks.isFrozen parent then (Cause.immutable parent).at_ s
  else
    let change := fun nest : Table => if (nest.get? name).isSome then none
      else some (put name v nest)
    match alter true change parent st.data with
    | none => Cause.overwritten.at_ s
    | some data =>
        return (⟨data, if hasParts v then marks.freeze (st.header ++ key)
        else marks, st.header⟩, s)

def readStatement (st : State) : Reader State := fun s =>
  match s with
  | '[' :: '[' :: s => readListHeader { st with marks := st.marks.settle } s
  | '[' :: s => readTableHeader { st with marks := st.marks.settle } s
  | c :: s =>
      if isBare c || c == '"' || c == '\'' then readEntry st (c :: s)
      else if c == '#' then .ok (st, c :: s)
      else Cause.statement.at_ (c :: s)
  | [] => .ok (st, [])

/-- The tables of the lines of a text.  `fuel` bounds the number of lines. -/
def readLines : Nat → State → List Char → Except Error Table
  | 0, st, _ => .ok st.data
  | fuel + 1, st, s =>
      match skipBlanks s with
      | [] => .ok st.data
      | '\n' :: s => readLines fuel st s
      | s => do
          let (st, s) ← readStatement st s
          match ← skipComment (skipBlanks s) with
          | [] => return st.data
          | '\n' :: s => readLines fuel st s
          | s => Cause.textAfterStatement.at_ s

def unifyBreaks : List Char → List Char
  | '\r' :: '\n' :: s => '\n' :: unifyBreaks s
  | c :: s => c :: unifyBreaks s
  | [] => []

def decode (s : List Char) : Except Error Table :=
  let s := unifyBreaks s
  readLines (s.length + 1) {} s

def complaint (s : List Char) (e : Error) : String :=
  e.message (unifyBreaks s)

end Toml
end SiteAudit
