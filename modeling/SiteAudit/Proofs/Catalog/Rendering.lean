import Mathlib.Data.List.Induction
import SiteAudit.Proofs.Catalog.Messages

/-!
# What a message says

A message is a row of literal texts and fields.  It can be filled just when each
of its fields has a value, and then it says the literal texts, with the text of
a value in the place of each field.  Braces in a literal text or in a value are
characters like any other.  Nothing else about the values plays a part.
-/

namespace SiteAudit

namespace Template

open Text

inductive Shows : Value → List Char → Prop
  | text (s : String) : Shows (.text s) s.toList
  | number (n : WritableInt) : Shows (.number n) (numeral n.value)
  | truth : Shows (.flag true) "True".toList
  | untruth : Shows (.flag false) "False".toList
  | null : Shows .null "None".toList
  | kind (k : Kind) : Shows (.kind k) (("<class '" ++ k.name ++ "'>").toList)

inductive Fills (values : List (String × Value)) : List Piece → List Char → Prop
  | nil : Fills values [] []
  | literal {pieces : List Piece} {text : List Char} (s : List Char)
      (hrest : Fills values pieces text) :
      Fills values (.literal s :: pieces) (s ++ text)
  | field {pieces : List Piece} {name shown text : List Char} {v : Value}
      (hvalue : values.lookup (String.ofList name) = some v)
      (hshown : Shows v shown)
      (hrest : Fills values pieces text) :
      Fills values (.field name :: pieces) (shown ++ text)

def firstNames (pieces : List Piece) : List String :=
  (pieces.flatMap Piece.names).eraseDups

def missingNames (values : List (String × Value)) (pieces : List Piece) :
    List String :=
  (firstNames pieces).filter fun name => (values.lookup name).isNone

end Template

open Template

/-- What the message of a rule says. -/
structure RendersExactly (r : Rule) (pieces : List Piece) : Prop where
  placeholders : r.placeholders = .ok (firstNames pieces)
  raised : ∀ values e, r.render values = .error e ↔
    missingNames values pieces ≠ [] ∧
      e = .missingValues r.code (missingNames values pieces)
  /-- The complaint names what is missing. -/
  complaint : ∀ values e, r.render values = .error e → e.message =
    "Rule " ++ r.code ++ " message needs values for: " ++
      ", ".intercalate (missingNames values pieces)
  rendered :
    ∀ values text, r.render values = .ok text ↔ Fills values pieces text.toList
  /-- Other values than those of the fields play no part. -/
  dependence : ∀ values values',
    (∀ name ∈ firstNames pieces, values.lookup name = values'.lookup name) →
    r.render values = r.render values'

namespace Template

/-!
## Values and pieces
-/

theorem shows_display (v : Value) : Shows v v.display.toList := by
  cases v with
  | text s => exact .text s
  | number n =>
      have hnumeral : (Value.number n).display.toList = Text.numeral n.value :=
        String.toList_ofList
      rw [hnumeral]
      exact .number n
  | flag b =>
      cases b with
      | true => exact .truth
      | false => exact .untruth
  | null => exact .null
  | kind k => exact .kind k

theorem Shows.eq_display {v : Value} {shown : List Char} (h : Shows v shown) :
    shown = v.display.toList := by
  cases h with
  | text s => rfl
  | number n => exact String.toList_ofList.symm
  | truth => rfl
  | untruth => rfl
  | null => rfl
  | kind k => rfl

section Pieces

variable {values values' : List (String × Value)} {pieces : List Piece}

theorem fills_text
    (h :
      ∀ name ∈ pieces.flatMap Piece.names,
        (values.lookup name).isSome = true) :
    Fills values pieces (pieces.flatMap (Piece.text values)) := by
  induction pieces with
  | nil => exact .nil
  | cons p pieces ih =>
      rw [List.flatMap_cons, List.forall_mem_append] at h
      rcases h with ⟨hp, hpieces⟩
      rw [List.flatMap_cons]
      cases p with
      | literal s => exact .literal s (ih hpieces)
      | field name =>
          rcases Option.isSome_iff_exists.1 (hp _ (List.mem_singleton.2 rfl))
            with ⟨v, hv⟩
          have htext : Piece.text values (.field name) = v.display.toList := by
            rw [Piece.text, hv]
            rfl
          rw [htext]
          exact .field hv (shows_display v) (ih hpieces)

theorem Fills.eq_text {text : List Char} (h : Fills values pieces text) :
    text = pieces.flatMap (Piece.text values) := by
  induction h with
  | nil => rfl
  | literal s hrest ih =>
      rw [List.flatMap_cons, ← ih]
      rfl
  | field hvalue hshown hrest ih =>
      rw [List.flatMap_cons, ← ih, hshown.eq_display, Piece.text, hvalue]
      rfl

theorem Fills.isSome_lookup {text : List Char} (h : Fills values pieces text) :
    ∀ name ∈ pieces.flatMap Piece.names,
      (values.lookup name).isSome = true := by
  induction h with
  | nil =>
      intro name hname
      cases hname
  | literal s hrest ih => exact ih
  | field hvalue hshown hrest ih =>
      intro name hname
      rcases List.mem_cons.1 hname with rfl | hname
      · rw [hvalue]
        rfl
      · exact ih name hname

theorem Fills.congr {text : List Char} (h : Fills values pieces text)
    (hsame : ∀ name ∈ pieces.flatMap Piece.names, values.lookup name =
      values'.lookup name) :
    Fills values' pieces text := by
  induction h with
  | nil => exact .nil
  | literal s hrest ih => exact .literal s (ih hsame)
  | field hvalue hshown hrest ih =>
      rw [hsame _ List.mem_cons_self] at hvalue
      exact .field hvalue hshown (ih fun name hname =>
        hsame name (List.mem_cons_of_mem _ hname))

theorem mem_firstNames {name : String} :
    name ∈ firstNames pieces ↔ name ∈ pieces.flatMap Piece.names :=
  List.mem_eraseDups

theorem missingNames_eq_nil_iff :
    missingNames values pieces = [] ↔ ∀ name ∈ pieces.flatMap Piece.names,
      (values.lookup name).isSome = true := by
  rw [missingNames, List.filter_eq_nil_iff]
  simp only [mem_firstNames, Bool.not_eq_true, Option.isNone_eq_false_iff]

theorem missingNames_congr
    (hsame :
      ∀ name ∈ firstNames pieces, values.lookup name = values'.lookup name) :
    missingNames values pieces = missingNames values' pieces := by
  apply List.filter_congr
  intro name hname
  rw [hsame name hname]

theorem foldl_names_eq (names : List String) :
    names.foldl (fun ns n => if ns.contains n then ns else ns ++ [n]) [] =
      names.eraseDups := by
  induction names using List.reverseRecOn with
  | nil => rfl
  | append_singleton names n ih =>
      rw [List.foldl_append, ih, List.eraseDups_append, List.removeAll,
        List.foldl_cons, List.foldl_nil]
      by_cases h : n ∈ names
      · rw [if_pos (List.contains_iff_mem.2 (List.mem_eraseDups.2 h)),
          List.filter_cons_of_neg, List.filter_nil]
        · exact (List.append_nil _).symm
        · simpa using h
      · rw [if_neg, List.filter_cons_of_pos, List.filter_nil]
        · rfl
        · simpa using h
        · rw [List.contains_iff_mem, List.mem_eraseDups]
          exact h

end Pieces

end Template

/-!
## The message of a rule
-/

namespace Rule

variable {r : Rule} {pieces : List Piece}

theorem placeholders_of_plain (hwrite : write pieces = r.message.toList)
    (hplain : ∀ p ∈ pieces, p.IsPlain) :
    r.placeholders = .ok (firstNames pieces) := by
  rw [placeholders, ← hwrite, parse_write hplain, Template.placeholders,
    Template.placeholders_of_plain hplain, foldl_names_eq]
  rfl

theorem render_of_missing (hwrite : write pieces = r.message.toList)
    (hplain : ∀ p ∈ pieces, p.IsPlain) {values : List (String × Value)}
    (hmissing : missingNames values pieces ≠ []) :
    r.render values =
      .error (.missingValues r.code (missingNames values pieces)) := by
  have hempty : ((firstNames pieces).filter fun name =>
      (values.lookup name).isNone).isEmpty = false := by
    rw [List.isEmpty_eq_false_iff]
    exact hmissing
  rw [render, placeholders_of_plain hwrite hplain]
  simp only [hempty]
  rfl

/-- A plain message is filled with the values of its fields, and nothing else
can go wrong than that one is missing. -/
theorem rendersExactly_of_plain (hwrite : write pieces = r.message.toList)
    (hplain : ∀ p ∈ pieces, p.IsPlain) :
    RendersExactly r pieces := by
  have hraised : ∀ values e, r.render values = .error e ↔
      missingNames values pieces ≠ [] ∧
        e = .missingValues r.code (missingNames values pieces) := by
    intro values e
    by_cases hmissing : missingNames values pieces = []
    · rw [render_of_plain hwrite hplain (missingNames_eq_nil_iff.1 hmissing)]
      constructor
      · intro h
        cases h
      · intro h
        exact absurd hmissing h.1
    · rw [render_of_missing hwrite hplain hmissing, Except.error.injEq]
      exact ⟨fun h => ⟨hmissing, h.symm⟩, fun h => h.2.symm⟩
  have hrendered : ∀ values text, r.render values = .ok text ↔
      Fills values pieces text.toList := by
    intro values text
    by_cases hmissing : missingNames values pieces = []
    · have hvalues := missingNames_eq_nil_iff.1 hmissing
      rw [render_of_plain hwrite hplain hvalues, Except.ok.injEq]
      constructor
      · intro htext
        rw [← htext, String.toList_ofList]
        exact fills_text hvalues
      · intro hfills
        rw [← hfills.eq_text, String.ofList_toList]
    · rw [render_of_missing hwrite hplain hmissing]
      constructor
      · intro h
        cases h
      · intro hfills
        exact absurd (missingNames_eq_nil_iff.2 hfills.isSome_lookup) hmissing
  have hcomplaint : ∀ values e, r.render values = .error e → e.message =
      "Rule " ++ r.code ++ " message needs values for: " ++
        ", ".intercalate (missingNames values pieces) := by
    intro values e herror
    rw [((hraised values e).1 herror).2]
    rfl
  refine
    ⟨placeholders_of_plain hwrite hplain, hraised, hcomplaint, hrendered, ?_⟩
  intro values values' hsame
  cases hresult : r.render values with
  | error e =>
      rw [hraised, missingNames_congr hsame] at hresult
      exact ((hraised values' e).2 hresult).symm
  | ok text =>
      rw [hrendered] at hresult
      have hfills := hresult.congr fun name hname =>
        hsame name (mem_firstNames.2 hname)
      exact ((hrendered values' text).2 hfills).symm

end Rule

def bracedRule : Rule where
  code := "X001"
  category := Catalog.internal
  message := "\x7b\x7b\x7ba\x7d\x7d\x7d\x7b\x7b\x7bb_\x7d\x7ba\x7d"

def bracedPieces : List Piece :=
  [.literal ['{'], .field ['a'], .literal ['}', '{'], .field ['b', '_'],
    .field ['a']]

end SiteAudit
