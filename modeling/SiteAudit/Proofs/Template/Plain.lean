import Mathlib.Data.List.Basic
import Mathlib.Data.List.TakeWhile
import SiteAudit.Catalog.Rule

/-!
# Plain templates

A plain template is a row of pieces: literal text, whose braces are written
twice, and fields that have a name made of letters and underscores and nothing
else.  Reading back what was written gives the pieces, and filling it puts the
text of the values into the places of the fields.  The texts of the values are
not read again.
-/

namespace SiteAudit
namespace Template

inductive Piece
  | literal (s : List Char)
  | field (name : List Char)
  deriving DecidableEq, Repr

def isNameChar (c : Char) : Bool :=
  c.isAlpha || c == '_'

def writeChar (c : Char) : List Char :=
  if c = '{' ∨ c = '}' then [c, c] else [c]

namespace Piece

/-- Whether a piece is written in a way that reads back: fields need a proper
name. -/
def IsPlain : Piece → Prop
  | literal _ => True
  | field name => name ≠ [] ∧ name.all isNameChar = true

instance : DecidablePred IsPlain
  | literal _ => inferInstanceAs (Decidable True)
  | field name =>
      inferInstanceAs (Decidable (name ≠ [] ∧ name.all isNameChar = true))

def write : Piece → List Char
  | literal s => s.flatMap writeChar
  | field name => '{' :: name ++ ['}']

def segments : Piece → List Segment
  | literal s => s.map .char
  | field name => [.field ⟨name, none, []⟩]

def names : Piece → List String
  | literal _ => []
  | field name => [String.ofList name]

def text (values : List (String × Value)) : Piece → List Char
  | literal s => s
  | field name =>
      ((values.lookup (String.ofList name)).map (·.display.toList)).getD []

end Piece

def write (pieces : List Piece) : List Char :=
  pieces.flatMap Piece.write

/-!
## Reading
-/

theorem ne_of_isNameChar {c d : Char} (hc : isNameChar c = true)
    (hd : isNameChar d = false) : c ≠ d := by
  intro h
  rw [h, hd] at hc
  exact Bool.noConfusion hc

theorem parse_writeChar (c : Char) (rest : List Char) :
    parse (writeChar c ++ rest) = .char c :: parse rest := by
  unfold writeChar
  by_cases hopen : c = '{'
  · subst hopen
    simp [parse]
  · by_cases hclose : c = '}'
    · subst hclose
      simp [parse]
    · simp only [hopen, hclose, or_self, if_false, List.singleton_append]
      rw [parse]
      · simp [hopen]
      · simp [hclose]
      · exact hopen
      · exact hclose

theorem parse_literal (s rest : List Char) :
    parse (s.flatMap writeChar ++ rest) = s.map .char ++ parse rest := by
  induction s with
  | nil => rfl
  | cons c s ih =>
      rw [List.flatMap_cons, List.append_assoc, parse_writeChar, ih]
      rfl

theorem readName_plain {name : List Char}
    (hname : ∀ c ∈ name, isNameChar c = true) (done rest : List Char) :
    readName false done (name ++ '}' :: rest) =
      .ok (done.reverse ++ name, '}', rest) := by
  induction name generalizing done with
  | nil => simp [readName]
  | cons c name ih =>
      have hc : isNameChar c = true := hname c (by simp)
      have hopen : c ≠ '{' := ne_of_isNameChar hc (by decide)
      have hclose : c ≠ '}' := ne_of_isNameChar hc (by decide)
      have hcolon : c ≠ ':' := ne_of_isNameChar hc (by decide)
      have hmark : c ≠ '!' := ne_of_isNameChar hc (by decide)
      have hbracket : c ≠ '[' := ne_of_isNameChar hc (by decide)
      have htail : ∀ d ∈ name, isNameChar d = true :=
        fun d hd => hname d (by simp [hd])
      have houtside : (c == '[') = false := by simpa using hbracket
      rw [List.cons_append, readName, houtside]
      simp [hopen, hclose, hcolon, hmark, ih htail]

theorem parse_field {name : List Char} (hplain : (Piece.field name).IsPlain)
    (rest : List Char) :
    parse ('{' :: name ++ '}' :: rest) =
      .field ⟨name, none, []⟩ :: parse rest := by
  rcases hplain with ⟨hne, hall⟩
  have hname : ∀ c ∈ name, isNameChar c = true := List.all_eq_true.1 hall
  cases name with
  | nil => exact absurd rfl hne
  | cons c name =>
      have hopen : c ≠ '{' := ne_of_isNameChar (hname c (by simp)) (by decide)
      have hend : readName false [] (c :: (name ++ '}' :: rest)) =
          .ok (c :: name, '}', rest) :=
        readName_plain hname [] rest
      have hread : readField (c :: (name ++ '}' :: rest)) =
          .ok (⟨c :: name, none, []⟩, rest) := by
        unfold readField
        rw [hend]
        rfl
      rw [List.cons_append, List.cons_append, parse]
      · split
        · rename_i hempty
          cases hempty
        · split
          · rename_i e he
            cases hread.symm.trans he
          · rename_i f others hf
            cases hread.symm.trans hf
            rfl
      · simp [hopen]

theorem parse_write_append {pieces : List Piece}
    (hplain : ∀ p ∈ pieces, p.IsPlain) (rest : List Char) :
    parse (write pieces ++ rest) =
      pieces.flatMap Piece.segments ++ parse rest := by
  induction pieces with
  | nil => rfl
  | cons p pieces ih =>
      have htail : ∀ q ∈ pieces, q.IsPlain :=
        fun q hq => hplain q (by simp [hq])
      have hhead : p.IsPlain := hplain p (by simp)
      rw [List.flatMap_cons, List.append_assoc, ← ih htail]
      have hsplit :
          write (p :: pieces) ++ rest = p.write ++ (write pieces ++ rest) := by
        simp [write]
      rw [hsplit]
      cases p with
      | literal s => exact parse_literal s _
      | field name =>
          have hwrite : (Piece.field name).write ++ (write pieces ++ rest) =
              '{' :: name ++ '}' :: (write pieces ++ rest) := by
            simp [Piece.write]
          rw [hwrite, parse_field hhead]
          rfl

/-- What was written reads back. -/
theorem parse_write {pieces : List Piece} (hplain : ∀ p ∈ pieces, p.IsPlain) :
    parse (write pieces) = pieces.flatMap Piece.segments := by
  have h := parse_write_append hplain []
  have hnil : parse [] = [] := by rw [parse]
  rwa [List.append_nil, hnil, List.append_nil] at h

/-!
## The names of the fields
-/

theorem placeholdersFrom_segments {p : Piece} (hplain : p.IsPlain)
    (known : List String) (rest : List Segment) :
    placeholdersFrom known (p.segments ++ rest) =
      placeholdersFrom (p.names.foldl (fun ns n => if ns.contains n then ns
        else ns ++ [n]) known) rest := by
  cases p with
  | literal s =>
      induction s with
      | nil => rfl
      | cons c s ih => exact ih trivial
  | field name =>
      have hne : name.isEmpty = false := by simpa using hplain.1
      simp [Piece.segments, Piece.names, placeholdersFrom, hne]

theorem mem_foldl_names {name : String} (names known : List String) :
    name ∈ names.foldl (fun ns n => if ns.contains n then ns
      else ns ++ [n]) known ↔
      name ∈ known ∨ name ∈ names := by
  induction names generalizing known with
  | nil => simp
  | cons n names ih =>
      rw [List.foldl_cons, ih]
      by_cases h : known.contains n = true
      · have hn : n ∈ known := by simpa using h
        rw [if_pos h, List.mem_cons]
        constructor
        · intro hgiven
          rcases hgiven with hknown | hnames
          · exact .inl hknown
          · exact .inr (.inr hnames)
        · intro hgiven
          rcases hgiven with hknown | rfl | hnames
          · exact .inl hknown
          · exact .inl hn
          · exact .inr hnames
      · rw [if_neg h, List.mem_append, List.mem_singleton, List.mem_cons]
        exact or_assoc

theorem placeholders_of_plain {pieces : List Piece}
    (hplain : ∀ p ∈ pieces, p.IsPlain) (known : List String) :
    placeholdersFrom known (pieces.flatMap Piece.segments) =
      .ok ((pieces.flatMap Piece.names).foldl (fun ns n =>
        if ns.contains n then ns else ns ++ [n]) known) := by
  induction pieces generalizing known with
  | nil => rfl
  | cons p pieces ih =>
      have htail : ∀ q ∈ pieces, q.IsPlain :=
        fun q hq => hplain q (by simp [hq])
      rw [List.flatMap_cons, placeholdersFrom_segments (hplain p (by simp)),
        ih htail, List.flatMap_cons, List.foldl_append]

/-!
## Filling
-/

theorem digitValue?_of_isNameChar {c : Char} (h : isNameChar c = true) :
    Text.digitValue? c = none := by
  have hsmall : ∀ n < 128, (n < 48 ∨ 57 < n) →
      (Text.zeros.find? fun z => z ≤ n && n < z + 10) = none := by decide
  have hrange : c.toNat < 128 ∧ (c.toNat < 48 ∨ 57 < c.toNat) := by
    change ((c.isUpper || c.isLower) || c == '_') = true at h
    rw [Bool.or_eq_true, Bool.or_eq_true, beq_iff_eq] at h
    rcases h with (hupper | hlower) | hscore
    · have hbounds : 'A'.val ≤ c.val ∧ c.val ≤ 'Z'.val :=
        of_decide_eq_true hupper
      have hlow : 65 ≤ c.toNat := UInt32.le_iff_toNat_le.1 hbounds.1
      have hhigh : c.toNat ≤ 90 := UInt32.le_iff_toNat_le.1 hbounds.2
      omega
    · change (decide ('a'.val ≤ c.val) && decide (c.val ≤ 'z'.val)) =
        true at hlower
      rw [Bool.and_eq_true, decide_eq_true_eq, decide_eq_true_eq] at hlower
      have hlow : 97 ≤ c.toNat := UInt32.le_iff_toNat_le.1 hlower.1
      have hhigh : c.toNat ≤ 122 := UInt32.le_iff_toNat_le.1 hlower.2
      omega
    · subst hscore
      decide
  rw [Text.digitValue?, hsmall c.toNat hrange.1 hrange.2]
  rfl

theorem findValue_of_plain {name : List Char}
    (hplain : (Piece.field name).IsPlain) {values : List (String × Value)}
    {v : Value} (hvalue : values.lookup (String.ofList name) = some v) :
    findValue values name = .ok v := by
  rcases hplain with ⟨hne, hall⟩
  have hname : ∀ c ∈ name, isNameChar c = true := List.all_eq_true.1 hall
  have hpart : ∀ c ∈ name, isPartName c = true := by
    intro c hc
    have hdot : c ≠ '.' := ne_of_isNameChar (hname c hc) (by decide)
    have hbracket : c ≠ '[' := ne_of_isNameChar (hname c hc) (by decide)
    simp [isPartName, hdot, hbracket]
  have htake : name.takeWhile isPartName = name :=
    List.takeWhile_eq_self_iff.2 hpart
  have hdrop : name.dropWhile isPartName = [] :=
    List.dropWhile_eq_nil_iff.2 hpart
  cases name with
  | nil => exact absurd rfl hne
  | cons c name =>
      have hcount : readCount (c :: name) = .ok none := by
        simp [readCount, countFrom,
          digitValue?_of_isNameChar (hname c (by simp))]
      simp only [findValue, htake, hdrop, hcount, hvalue]
      simp [follow]

theorem fillField_of_plain {name : List Char}
    (hplain : (Piece.field name).IsPlain) {values : List (String × Value)}
    {v : Value} (hvalue : values.lookup (String.ofList name) = some v)
    (depth : Nat) :
    fill.fillField values depth ⟨name, none, []⟩ = .ok v.display.toList := by
  rw [fill.fillField, findValue_of_plain hplain hvalue]
  rfl

theorem fillAll_of_plain {pieces : List Piece}
    (hplain : ∀ p ∈ pieces, p.IsPlain) {values : List (String × Value)}
    (hvalues :
      ∀ name ∈ pieces.flatMap Piece.names, (values.lookup name).isSome = true)
    (depth : Nat) :
    fill.fillAll values depth (pieces.flatMap Piece.segments) =
      .ok (pieces.flatMap (Piece.text values)) := by
  induction pieces with
  | nil => rw [List.flatMap_nil, fill.fillAll]; rfl
  | cons p pieces ih =>
      have htail : ∀ q ∈ pieces, q.IsPlain :=
        fun q hq => hplain q (by simp [hq])
      have hrest := ih htail fun name hname => hvalues name (by simp [hname])
      rw [List.flatMap_cons, List.flatMap_cons]
      cases p with
      | literal s =>
          clear hplain hvalues
          induction s with
          | nil => exact hrest
          | cons c s ihs =>
              have hstep : fill.fillAll values depth
                  ((Piece.literal s).segments ++
                    pieces.flatMap Piece.segments) =
                    .ok ((Piece.literal s).text values ++
                      pieces.flatMap (Piece.text values)) := ihs
              show fill.fillAll values depth
                (.char c :: ((Piece.literal s).segments ++
                  pieces.flatMap Piece.segments)) = _
              rw [fill.fillAll, hstep]
              rfl
      | field name =>
          rcases Option.isSome_iff_exists.1
            (hvalues (String.ofList name) (by simp [Piece.names])) with
            ⟨v, hv⟩
          show fill.fillAll values depth (.field ⟨name, none, []⟩ ::
            pieces.flatMap Piece.segments) = _
          rw [fill.fillAll, fillField_of_plain (hplain _ (by simp)) hv, hrest]
          simp [Piece.text, hv, bind, Except.bind, pure, Except.pure]

/-!
## The message of a rule
-/

theorem lookup_filter_names {α : Type} {values : List (String × α)}
    {names : List String} {name : String} (h : name ∈ names) :
    (values.filter (names.contains ·.1)).lookup name = values.lookup name := by
  induction values with
  | nil => rfl
  | cons entry values ih =>
      rcases entry with ⟨key, v⟩
      by_cases hkey : names.contains key = true
      · rw [List.filter_cons, if_pos hkey, List.lookup_cons, List.lookup_cons,
          ih]
      · have hne : (name == key) = false := by
          rw [beq_eq_false_iff_ne]
          intro hgiven
          subst hgiven
          exact hkey (by simpa using h)
        rw [List.filter_cons, if_neg hkey, List.lookup_cons, hne, ih]

end Template

namespace Rule

open Template

theorem render_of_plain {r : Rule} {pieces : List Piece}
    (hwrite : write pieces = r.message.toList)
    (hplain : ∀ p ∈ pieces, p.IsPlain) {values : List (String × Value)}
    (hvalues :
      ∀ name ∈ pieces.flatMap Piece.names, (values.lookup name).isSome = true) :
    r.render values =
      .ok (String.ofList (pieces.flatMap (Piece.text values))) := by
  have hparse : parse r.message.toList = pieces.flatMap Piece.segments := by
    rw [← hwrite]
    exact parse_write hplain
  obtain ⟨names, hnames, hmem⟩ : ∃ names,
      Template.placeholders (parse r.message.toList) = .ok names ∧
      ∀ name, name ∈ names ↔ name ∈ pieces.flatMap Piece.names := by
    refine ⟨_, by rw [hparse]; exact placeholders_of_plain hplain [], ?_⟩
    intro name
    rw [mem_foldl_names]
    simp
  have hfound : r.placeholders = .ok names := by
    rw [placeholders, hnames]
  have hmissing :
      (names.filter fun name => (values.lookup name).isNone) = [] := by
    rw [List.filter_eq_nil_iff]
    intro name hname
    cases Option.isSome_iff_exists.1 (hvalues name ((hmem name).1 hname)) with
    | intro v hv =>
        simp [hv]
  have hlookup : ∀ name ∈ pieces.flatMap Piece.names,
      (values.filter (names.contains ·.1)).lookup name = values.lookup name :=
        fun name hname =>
    lookup_filter_names ((hmem name).2 hname)
  have hfill : fill (values.filter (names.contains ·.1)) maxDepth
      (parse r.message.toList) =
      .ok (pieces.flatMap
        (Piece.text (values.filter (names.contains ·.1)))) := by
    rw [hparse, maxDepth, fill]
    apply fillAll_of_plain hplain
    intro name hname
    rw [hlookup name hname]
    exact hvalues name hname
  have htext :
      pieces.flatMap (Piece.text (values.filter (names.contains ·.1))) =
      pieces.flatMap (Piece.text values) := by
    apply List.flatMap_congr
    intro p hp
    cases p with
    | literal s => rfl
    | field name =>
        have hname : String.ofList name ∈ pieces.flatMap Piece.names :=
          List.mem_flatMap.2 ⟨_, hp, by simp [Piece.names]⟩
        rw [Piece.text, Piece.text, hlookup _ hname]
  rw [render, hfound]
  simp only [hmissing, List.isEmpty_nil, if_true, hfill, htext]

end Rule

end SiteAudit
