import SiteAudit.Markup.Builder

/-!
# Writing markup

A forest is written in one plain way: attribute values stand in double quotes,
every element but the void ones has an end tag, four characters are written as
references in texts and values, and nothing is put between the nodes.

Not every forest can be read again.  Names must be spelled as names, no
attribute may be said twice in a tag, a void element has no place for children,
two texts in a row would become one, and the text of scripts and styles knows no
references.
-/

namespace SiteAudit
namespace Markup

def references : List (Char × List Char) :=
  [('&', "amp".toList), ('<', "lt".toList), ('>', "gt".toList),
    ('"', "quot".toList)]

/-- The name of the reference that a character is written as; none if it stands
for itself. -/
def referenceName? (c : Char) : Option (List Char) :=
  references.lookup c

def escapeChar (c : Char) : List Char :=
  match referenceName? c with
  | some name => '&' :: name ++ [';']
  | none => [c]

def escape (s : List Char) : List Char :=
  s.flatMap escapeChar

namespace Attribute

def writtenText (a : Attribute) : String :=
  a.value.text?.getD ""

def markup (a : Attribute) : List Char :=
  a.name.toList ++ '=' :: '"' :: escape a.writtenText.toList ++ ['"']

end Attribute

def rowMarkup (attributes : List Attribute) : List Char :=
  attributes.flatMap fun a => ' ' :: a.markup

def rowPairs (attributes : List Attribute) : List (String × String) :=
  attributes.map fun a => (a.name, a.writtenText)

def startMarkup (name : String) (attributes : List Attribute) : List Char :=
  '<' :: name.toList ++ rowMarkup attributes ++ ['>']

def endMarkup (name : String) : List Char :=
  if name ∈ voidElements then [] else '<' :: '/' :: name.toList ++ ['>']

def Forest.markup : Forest → List Char
  | nil => []
  | text content rest => escape content.toList ++ rest.markup
  | characterData content rest =>
      "<![CDATA[".toList ++ content.toList ++ "]]>".toList ++ rest.markup
  | remark content rest =>
      "<!--".toList ++ content.toList ++ "-->".toList ++ rest.markup
  | element name attributes _ children rest =>
      startMarkup name attributes ++
        (children.markup ++ (endMarkup name ++ rest.markup))

theorem Forest.markup_element (name : String) (attributes : List Attribute)
    (line : Option WritableInt) (children rest : Forest) :
    (element name attributes line children rest).markup =
      startMarkup name attributes ++
        (children.markup ++ (endMarkup name ++ rest.markup)) := rfl

/-!
## Forests that can be read again
-/

/-- A small letter and then any characters of a kind. -/
def isSpelled (kind : Char → Bool) : List Char → Bool
  | [] => false
  | c :: rest => c.isLower && rest.all kind

def isTagChar (c : Char) : Bool :=
  c.isLower || c.isDigit

def isNameChar (c : Char) : Bool :=
  isTagChar c || c == '-'

def Attribute.Writable (a : Attribute) : Prop :=
  isSpelled isNameChar a.name.toList = true ∧ ∃ s, a.value = .text s

theorem Attribute.Writable.eq {a : Attribute} (h : a.Writable) :
    (⟨a.name, .text a.writtenText⟩ : Attribute) = a := by
  rcases h with ⟨-, s, hs⟩
  cases a
  cases hs
  rfl

structure Sayable (name : String) (attributes : List Attribute) : Prop where
  spelled : isSpelled isTagChar name.toList = true
  ordinary : name ∉ rawElements
  writable : ∀ a ∈ attributes, a.Writable
  distinct : (attributes.map (·.name)).Nodup

def Forest.startsWithText : Forest → Bool
  | text _ _ => true
  | _ => false

inductive Forest.Writable : Forest → Prop
  | nil : Writable .nil
  | text {content : String} {rest : Forest} (hcontent : content ≠ "")
      (hsingle : rest.startsWithText = false)
      (hrest : Writable rest) : Writable (.text content rest)
  | element {name : String} {attributes : List Attribute}
      {line : Option WritableInt} {children rest : Forest}
      (hsayable : Sayable name attributes)
      (hvoid : name ∈ voidElements → children = .nil)
      (hchildren : Writable children) (hrest : Writable rest) :
      Writable (.element name attributes line children rest)

/-!
## Characters of names
-/

theorem toNat_of_isLower {c : Char} (h : c.isLower = true) :
    97 ≤ c.toNat ∧ c.toNat ≤ 122 := by
  rcases Bool.and_eq_true_iff.1 h with ⟨hlow, hhigh⟩
  exact ⟨UInt32.le_iff_toNat_le.1 (of_decide_eq_true hlow),
    UInt32.le_iff_toNat_le.1 (of_decide_eq_true hhigh)⟩

theorem toNat_of_isDigit {c : Char} (h : c.isDigit = true) :
    48 ≤ c.toNat ∧ c.toNat ≤ 57 := by
  rcases Bool.and_eq_true_iff.1 h with ⟨hlow, hhigh⟩
  exact ⟨UInt32.le_iff_toNat_le.1 (of_decide_eq_true hlow),
    UInt32.le_iff_toNat_le.1 (of_decide_eq_true hhigh)⟩

theorem toNat_of_isNameChar {c : Char} (h : isNameChar c = true) :
    c.toNat = 45 ∨ (48 ≤ c.toNat ∧ c.toNat ≤ 57) ∨
      (97 ≤ c.toNat ∧ c.toNat ≤ 122) := by
  rw [isNameChar, isTagChar, Bool.or_eq_true, Bool.or_eq_true, beq_iff_eq] at h
  rcases h with (hlower | hdigit) | rfl
  · exact .inr (.inr (toNat_of_isLower hlower))
  · exact .inr (.inl (toNat_of_isDigit hdigit))
  · exact .inl rfl

theorem isNameChar_of_isTagChar {c : Char} (h : isTagChar c = true) :
    isNameChar c = true :=
  Bool.or_eq_true_iff.2 (.inl h)

theorem isNameChar_of_isLower {c : Char} (h : c.isLower = true) :
    isNameChar c = true :=
  isNameChar_of_isTagChar (Bool.or_eq_true_iff.2 (.inl h))

theorem ne_of_isNameChar {c d : Char} (h : isNameChar c = true)
    (hd : isNameChar d = false) : c ≠ d := by
  rintro rfl
  rw [h] at hd
  cases hd

theorem isBlank_of_isNameChar {c : Char} (h : isNameChar c = true) :
    Text.isBlank c = false := by
  have hcode := toNat_of_isNameChar h
  simp only [Text.isBlank, Bool.or_eq_false_iff, Bool.and_eq_false_iff,
    beq_eq_false_iff_ne, decide_eq_false_iff_not]
  omega

theorem lowerChar_of_isNameChar {c : Char} (h : isNameChar c = true) :
    Text.lowerChar c = [c] := by
  have hcode := toNat_of_isNameChar h
  have hascii : c.toNat < 128 := by omega
  have hlower : c.toLower = c := by
    unfold Char.toLower
    split
    · rename_i hupper
      have hlow : 65 ≤ c.toNat := UInt32.le_iff_toNat_le.1 hupper.1
      have hhigh : c.toNat ≤ 90 := UInt32.le_iff_toNat_le.1 hupper.2
      omega
    · rfl
  rw [Text.lowerChar, if_pos hascii, hlower]

theorem lowerFrom_of_isNameChar {s : List Char}
    (h : ∀ c ∈ s, isNameChar c = true) (before : List Char) :
    Text.lowerFrom before s = s := by
  induction s generalizing before with
  | nil => rfl
  | cons c s ih =>
      rcases List.forall_mem_cons.1 h with ⟨hc, hs⟩
      have hcode := toNat_of_isNameChar hc
      have hsigma : ¬(c.toNat == 0x3A3) = true := by
        rw [beq_iff_eq]
        omega
      rw [Text.lowerFrom, if_neg hsigma, lowerChar_of_isNameChar hc, ih hs]
      rfl

section Spelled

variable {kind : Char → Bool} (hkind : ∀ c, kind c = true → isNameChar c = true)

theorem exists_cons_of_isSpelled {name : List Char}
    (h : isSpelled kind name = true) :
    ∃ first rest, name = first :: rest ∧ first.isLower = true ∧
      ∀ c ∈ rest, kind c = true := by
  cases name with
  | nil => cases h
  | cons first rest =>
      rw [isSpelled, Bool.and_eq_true, List.all_eq_true] at h
      exact ⟨first, rest, rfl, h⟩

include hkind

theorem isNameChar_of_isSpelled {name : List Char}
    (h : isSpelled kind name = true) :
    ∀ c ∈ name, isNameChar c = true := by
  rcases exists_cons_of_isSpelled h with ⟨first, rest, rfl, hfirst, hrest⟩
  exact List.forall_mem_cons.2 ⟨isNameChar_of_isLower hfirst,
    fun c hc => hkind c (hrest c hc)⟩

theorem lower_of_isSpelled {name : String}
    (h : isSpelled kind name.toList = true) : Text.lower name = name := by
  rw [Text.lower, lowerFrom_of_isNameChar (isNameChar_of_isSpelled hkind h),
    String.ofList_toList]

end Spelled

theorem Attribute.Writable.exists_cons {a : Attribute} (h : a.Writable) :
    ∃ first rest, a.name.toList = first :: rest ∧ isNameChar first = true ∧
      ∀ c ∈ rest, isNameChar c = true := by
  rcases exists_cons_of_isSpelled h.1 with ⟨first, rest, hname, hfirst, hrest⟩
  exact ⟨first, rest, hname, isNameChar_of_isLower hfirst, hrest⟩

theorem Sayable.isNameChar {name : String} {attributes : List Attribute}
    (h : Sayable name attributes) :
    ∀ c ∈ name.toList, Markup.isNameChar c = true :=
  isNameChar_of_isSpelled (fun _ => isNameChar_of_isTagChar) h.spelled

/-!
## References
-/

theorem reference_of_name {c : Char} {name : List Char}
    (h : referenceName? c = some name) :
    name ≠ [] ∧ name.length ≤ 4 ∧ (∀ d ∈ name, d.isAlpha = true) ∧
      Reference.expansion? name = some [c] := by
  have hall : ∀ entry ∈ references, entry.2 ≠ [] ∧ entry.2.length ≤ 4 ∧
      entry.2.all Char.isAlpha = true ∧
      Reference.expansion? entry.2 = some [entry.1] := by decide +kernel
  rcases List.lookup_eq_some_iff.1 h with ⟨before, after, hreferences, -⟩
  have hmem : (c, name) ∈ references := by
    rw [hreferences]
    exact List.mem_append_right before List.mem_cons_self
  rcases hall _ hmem with ⟨hne, hlength, halpha, hexpansion⟩
  exact ⟨hne, hlength, List.all_eq_true.1 halpha, hexpansion⟩

theorem escape_cons (c : Char) (s : List Char) :
    escape (c :: s) = escapeChar c ++ escape s :=
  List.flatMap_cons

theorem escapeChar_of_name {c : Char} {name : List Char}
    (h : referenceName? c = some name) :
    escapeChar c = '&' :: name ++ [';'] := by
  rw [escapeChar, h]

theorem escapeChar_of_none {c : Char} (h : referenceName? c = none) :
    escapeChar c = [c] := by
  rw [escapeChar, h]

theorem referenceName?_eq_none {c : Char} (h : referenceName? c = none) :
    c ≠ '&' ∧ c ≠ '<' ∧ c ≠ '>' ∧ c ≠ '"' := by
  refine ⟨?_, ?_, ?_, ?_⟩
  all_goals
    rintro rfl
    cases h

/-- No written text closes a quote. -/
theorem quote_notMem_escape (s : List Char) : '"' ∉ escape s := by
  rw [escape, List.mem_flatMap]
  rintro ⟨c, -, hmem⟩
  cases hname : referenceName? c with
  | none =>
      rw [escapeChar_of_none hname, List.mem_singleton] at hmem
      exact (referenceName?_eq_none hname).2.2.2 hmem.symm
  | some name =>
      rw [escapeChar_of_name hname, List.cons_append, List.mem_cons,
        List.mem_append, List.mem_singleton] at hmem
      rcases hmem with hamp | hletter | hsemicolon
      · cases hamp
      · have halpha := (reference_of_name hname).2.2.1 '"' hletter
        cases halpha
      · cases hsemicolon

end Markup
end SiteAudit
