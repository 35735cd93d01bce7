import Mathlib.Data.List.Basic
import SiteAudit.Path

/-!
# Paths below paths

A text with a separator in it has the parts of what stands before the separator,
and then those of what stands behind it.  So a path that is continued by names
has its own parts and then the names, resolves to what it resolves to and then
the names, and the names are what is left of it below itself.
-/

namespace SiteAudit

namespace Text

theorem exists_pieces (separator : Char) (s : List Char) :
    ∃ piece others, pieces separator s = piece :: others := by
  cases s with
  | nil => exact ⟨[], [], rfl⟩
  | cons c s =>
      rw [pieces]
      split
      · exact ⟨_, _, rfl⟩
      · split
        · exact ⟨_, _, rfl⟩
        · exact ⟨_, _, rfl⟩

theorem pieces_append (separator : Char) (s t : List Char) :
    pieces separator (s ++ separator :: t) =
      pieces separator s ++ pieces separator t := by
  induction s with
  | nil => simp [pieces]
  | cons c s ih =>
      rw [List.cons_append, pieces, pieces, ih]
      split
      · rfl
      · rcases exists_pieces separator s with ⟨piece, others, hpieces⟩
        rw [hpieces]
        rfl

theorem pieces_of_notMem {separator : Char} {s : List Char}
    (h : separator ∉ s) : pieces separator s = [s] := by
  induction s with
  | nil => rfl
  | cons c s ih =>
      rw [List.mem_cons, not_or] at h
      have hc : (c == separator) = false := beq_eq_false_iff_ne.2 (Ne.symm h.1)
      rw [pieces, hc, ih h.2]
      rfl

theorem notMem_of_mem_pieces {separator : Char} {s piece : List Char}
    (h : piece ∈ pieces separator s) :
    separator ∉ piece := by
  induction s generalizing piece with
  | nil => simp_all [pieces]
  | cons c s ih =>
      rw [pieces] at h
      rcases exists_pieces separator s with ⟨first, others, hpieces⟩
      rw [hpieces] at h ih
      by_cases hc : c = separator
      · rw [if_pos (beq_iff_eq.2 hc)] at h
        rcases List.mem_cons.1 h with rfl | h
        · exact List.not_mem_nil
        · exact ih h
      · rw [if_neg (by simpa using hc)] at h
        rcases List.mem_cons.1 h with rfl | h
        · rw [List.mem_cons, not_or]
          exact ⟨Ne.symm hc, ih List.mem_cons_self⟩
        · exact ih (List.mem_cons_of_mem _ h)

theorem mem_of_mem_pieces {separator c : Char} {s piece : List Char}
    (h : piece ∈ pieces separator s) (hc : c ∈ piece) : c ∈ s := by
  induction s generalizing piece with
  | nil => simp_all [pieces]
  | cons d s ih =>
      rw [pieces] at h
      rcases exists_pieces separator s with ⟨first, others, hpieces⟩
      rw [hpieces] at h ih
      split at h
      · rcases List.mem_cons.1 h with rfl | h
        · cases hc
        · exact List.mem_cons_of_mem d (ih h hc)
      · rcases List.mem_cons.1 h with rfl | h
        · rcases List.mem_cons.1 hc with rfl | hc
          · exact List.mem_cons_self
          · exact List.mem_cons_of_mem d (ih List.mem_cons_self hc)
        · exact List.mem_cons_of_mem d (ih (List.mem_cons_of_mem _ h) hc)

end Text

namespace Path

structure IsName (name : String) : Prop where
  nonempty : name ≠ ""
  notHere : name ≠ "."
  notUp : name ≠ ".."
  noSeparator : '/' ∉ name.toList
  noNull : Char.ofNat 0 ∉ name.toList

instance (name : String) : Decidable (IsName name) :=
  decidable_of_iff
    (name ≠ "" ∧ name ≠ "." ∧ name ≠ ".." ∧ '/' ∉ name.toList ∧
      Char.ofNat 0 ∉ name.toList)
    ⟨fun ⟨nonempty, notHere, notUp, noSeparator, noNull⟩ =>
      ⟨nonempty, notHere, notUp, noSeparator, noNull⟩,
      fun h => ⟨h.nonempty, h.notHere, h.notUp, h.noSeparator, h.noNull⟩⟩

/-- The texts for a row of names: any number of separators may stand between two
names, and at the end. -/
inductive Spells : List String → List Char → Prop
  | last {name : String} (named : IsName name) (separators : Nat) :
      Spells [name] (name.toList ++ List.replicate separators '/')
  | cons {name : String} {names : List String} {s : List Char}
      (named : IsName name) (more : Nat)
      (rest : Spells names s) :
      Spells (name :: names) (name.toList ++ List.replicate (more + 1) '/' ++ s)

/-!
## Parts
-/

theorem IsName.isPart {name : String} (h : IsName name) :
    isPart name = true := by
  simp [Path.isPart, h.nonempty, h.notHere]

theorem partsOf_append (s t : List Char) :
    partsOf (s ++ '/' :: t) = partsOf s ++ partsOf t := by
  rw [partsOf, Text.pieces_append, List.map_append, List.filter_append]
  rfl

theorem partsOf_separators (count : Nat) (s : List Char) :
    partsOf (List.replicate count '/' ++ s) = partsOf s := by
  induction count with
  | zero => rfl
  | succ count ih =>
      have h := partsOf_append [] (List.replicate count '/' ++ s)
      rw [ih] at h
      exact h

theorem partsOf_of_isPart {part : String} (h : isPart part = true)
    (separator : '/' ∉ part.toList) :
    partsOf part.toList = [part] := by
  rw [partsOf, Text.pieces_of_notMem separator]
  simp [h]

theorem isPart_of_mem_partsOf {part : String} {s : List Char}
    (h : part ∈ partsOf s) :
    isPart part = true ∧ '/' ∉ part.toList := by
  rcases List.mem_filter.1 h with ⟨hmem, hpart⟩
  rcases List.mem_map.1 hmem with ⟨piece, hpiece, rfl⟩
  refine ⟨hpart, ?_⟩
  rw [String.toList_ofList]
  exact Text.notMem_of_mem_pieces hpiece

theorem isUsable_ofString {s : String} (h : Char.ofNat 0 ∉ s.toList) :
    (ofString s).isUsable = true := by
  rw [isUsable, List.all_eq_true]
  intro part hpart
  rcases List.mem_map.1 (List.mem_filter.1 hpart).1 with ⟨piece, hpiece, rfl⟩
  have hnull : Char.ofNat 0 ∉ piece :=
    fun hc => h (Text.mem_of_mem_pieces hpiece hc)
  simpa using hnull

theorem isAbsolute_ofString {s : String} {rest : List Char}
    (h : s.toList = '/' :: rest) :
    (ofString s).isAbsolute = true := by
  rw [isAbsolute, ofString, h]
  unfold Anchor.ofText
  split <;> simp_all

theorem partsOf_spelled {names : List String} {s : List Char}
    (h : Spells names s) : partsOf s = names := by
  induction h with
  | last named separators =>
      cases separators with
      | zero => simpa using partsOf_of_isPart named.isPart named.noSeparator
      | succ more =>
          have hrest := partsOf_separators more []
          rw [List.append_nil] at hrest
          rw [List.replicate_succ, partsOf_append,
            partsOf_of_isPart named.isPart named.noSeparator, hrest]
          rfl
  | cons named more rest ih =>
      rw [List.append_assoc, List.replicate_succ, List.cons_append,
        partsOf_append, partsOf_separators, ih,
        partsOf_of_isPart named.isPart named.noSeparator]
      rfl

theorem isName_of_spelled {names : List String} {s : List Char}
    (h : Spells names s) :
    ∀ name ∈ names, IsName name := by
  induction h with
  | last named separators => simpa using named
  | cons named more rest ih => exact List.forall_mem_cons.2 ⟨named, ih⟩

theorem ne_nil_of_spelled {names : List String} {s : List Char}
    (h : Spells names s) : names ≠ [] := by
  cases h with
  | last named separators => exact List.cons_ne_nil _ _
  | cons named more rest => exact List.cons_ne_nil _ _

/-!
## What lies below a path
-/

/-- A path that starts where another one starts, and goes on from its end by a
row of names. -/
structure LiesBelow (root : Path) (names : List String) (p : Path) : Prop where
  absolute : p.isAbsolute = root.isAbsolute
  parts : p.parts = root.parts ++ names

theorem foldl_step {names : List String} (h : ∀ name ∈ names, name ≠ "..")
    (above : List String) :
    names.foldl step above = names.reverse ++ above := by
  induction names generalizing above with
  | nil => rfl
  | cons name names ih =>
      rw [List.forall_mem_cons] at h
      have hstep : step above name = name :: above :=
        if_neg (by simpa using h.1)
      rw [List.foldl_cons, hstep, ih h.2]
      simp

section LiesBelow

variable {root p : Path} {names : List String}

theorem resolve_of_liesBelow (h : LiesBelow root names p)
    (named : ∀ name ∈ names, IsName name) (cwd : List String) :
    p.resolve cwd = root.resolve cwd ++ names := by
  rw [resolve, resolve, h.absolute, h.parts, List.foldl_append,
    foldl_step fun name hname => (named name hname).notUp]
  simp

theorem below?_eq_some_iff {root full names : List String} :
    below? root full = some names ↔ full = root ++ names := by
  induction root generalizing full with
  | nil => simp [below?]
  | cons name root ih =>
      cases full with
      | nil => simp [below?]
      | cons first full =>
          rw [below?, List.cons_append, List.cons.injEq]
          by_cases hname : name = first
          · rw [if_pos (beq_iff_eq.2 hname), ih, hname]
            simp
          · rw [if_neg (by simpa using hname)]
            simp [Ne.symm hname]

theorem below?_append (root names : List String) :
    below? root (root ++ names) = some names :=
  below?_eq_some_iff.2 rfl

theorem isUsable_of_liesBelow (h : LiesBelow root names p)
    (usable : root.isUsable = true) (named : ∀ name ∈ names, IsName name) :
    p.isUsable = true := by
  have hnames :
      names.all (fun name => !name.toList.contains (Char.ofNat 0)) = true := by
    rw [List.all_eq_true]
    intro name hname
    simpa using (named name hname).noNull
  rw [isUsable, h.parts, List.all_append, hnames, Bool.and_true]
  exact usable

theorem name_of_liesBelow (h : LiesBelow root names p) (nonempty : names ≠ []) :
    p.name = names.getLast nonempty := by
  rw [name, h.parts, List.getLastD_eq_getLast?,
    List.getLast?_append_of_ne_nil _ nonempty,
    List.getLast?_eq_some_getLast nonempty]
  rfl

end LiesBelow

/-!
## The text of a path
-/

/-- A path none of whose parts is empty, a dot, or more than one part. -/
def IsRead (p : Path) : Prop :=
  ∀ part ∈ p.parts, isPart part = true ∧ '/' ∉ part.toList

theorem isRead_ofString (s : String) : (ofString s).IsRead :=
  fun _ hpart => isPart_of_mem_partsOf hpart

theorem isRead_of_liesBelow {root p : Path} {names : List String}
    (h : LiesBelow root names p) (read : root.IsRead)
    (named : ∀ name ∈ names, IsName name) : p.IsRead := by
  intro part hpart
  rw [h.parts, List.mem_append] at hpart
  cases hpart with
  | inl hroot => exact read part hroot
  | inr hname =>
      exact ⟨(named part hname).isPart, (named part hname).noSeparator⟩

theorem partsOf_intercalate {parts : List String}
    (h : ∀ part ∈ parts, isPart part = true ∧ '/' ∉ part.toList) :
    partsOf ("/".intercalate parts).toList = parts := by
  induction parts with
  | nil => rfl
  | cons part parts ih =>
      rw [List.forall_mem_cons] at h
      have hpart := partsOf_of_isPart h.1.1 h.1.2
      cases parts with
      | nil => rw [String.intercalate_singleton, hpart]
      | cons next parts =>
          rw [String.intercalate_cons_cons, String.toList_append,
            String.toList_append, List.append_assoc]
          have happend :=
            partsOf_append part.toList ("/".intercalate (next :: parts)).toList
          rw [hpart, ih h.2] at happend
          exact happend

theorem exists_intercalate {part : String} {parts : List String}
    (h : ∀ other ∈ part :: parts, isPart other = true ∧ '/' ∉ other.toList) :
    ∃ c s, ("/".intercalate (part :: parts)).toList = c :: s ∧ c ≠ '/' := by
  rw [List.forall_mem_cons] at h
  have hne : part.toList ≠ [] := by
    intro hnil
    have hempty : part = "" := String.toList_inj.1 hnil
    rw [hempty] at h
    exact absurd h.1.1 (by decide)
  rcases List.exists_cons_of_ne_nil hne with ⟨c, rest, hpart⟩
  have hc : c ≠ '/' := by
    intro heq
    apply h.1.2
    rw [hpart, heq]
    exact List.mem_cons_self
  cases parts with
  | nil => exact ⟨c, rest, by rw [String.intercalate_singleton, hpart], hc⟩
  | cons next parts =>
      refine
        ⟨c, rest ++ '/' :: ("/".intercalate (next :: parts)).toList, ?_, hc⟩
      rw [String.intercalate_cons_cons, String.toList_append,
        String.toList_append, hpart, List.append_assoc]
      rfl

theorem ofText_anchor (anchor : Anchor) {c : Char} (hc : c ≠ '/')
    (s : List Char) :
    Anchor.ofText (anchor.text.toList ++ c :: s) = anchor := by
  cases anchor with
  | relative => simp [Anchor.text, Anchor.ofText, hc]
  | slash => simp [Anchor.text, Anchor.ofText, hc]
  | doubleSlash => simp [Anchor.text, Anchor.ofText, hc]

theorem partsOf_anchor (anchor : Anchor) (s : List Char) :
    partsOf (anchor.text.toList ++ s) = partsOf s := by
  cases anchor with
  | relative => rfl
  | slash => exact partsOf_separators 1 s
  | doubleSlash => exact partsOf_separators 2 s

/-- The text of a path reads as that path. -/
theorem ofString_text {p : Path} (h : p.IsRead) : ofString p.text = p := by
  cases p with
  | mk anchor parts =>
      cases parts with
      | nil => cases anchor <;> rfl
      | cons part parts =>
          have hparts := partsOf_intercalate h
          rcases exists_intercalate h with ⟨c, s, hcs, hc⟩
          rw [hcs] at hparts
          have htext : (Path.text ⟨anchor, part :: parts⟩).toList =
              anchor.text.toList ++ c :: s := by
            cases anchor <;> simp [Path.text, hcs]
          rw [ofString, htext, ofText_anchor anchor hc, partsOf_anchor, hparts]

end Path
end SiteAudit
