import Mathlib.Data.List.DropRight
import SiteAudit.Proofs.Json.Grammar

/-!
# Reading follows the grammar

Each part of the reader takes what the grammar says, whatever follows it, and
leaves the rest.  Main statement: a text of a value is read as that value, so it
is a text of no other.
-/

namespace SiteAudit
namespace Json

/-!
## Strings
-/

theorem exists_hexValue {c : Char} (h : Text.isHexDigit c = true) :
    ∃ n, Text.hexValue? c = some n :=
  Option.isSome_iff_exists.1 h

theorem unit?_of_isUnit {n : Nat} {digits : List Char} (h : IsUnit n digits) :
    ∃ a b c d, digits = [a, b, c, d] ∧ unit? a b c d = some n := by
  rcases h with ⟨hfour, hhex, hvalue⟩
  match digits, hfour with
  | [a, b, c, d], _ =>
      rcases exists_hexValue (hhex a (by simp)) with ⟨x, hx⟩
      rcases exists_hexValue (hhex b (by simp)) with ⟨y, hy⟩
      rcases exists_hexValue (hhex c (by simp)) with ⟨z, hz⟩
      rcases exists_hexValue (hhex d (by simp)) with ⟨w, hw⟩
      refine ⟨a, b, c, d, rfl, ?_⟩
      simp only [Text.hexNumber, List.foldl_cons, List.foldl_nil, hx, hy, hz,
        hw, Option.getD_some] at hvalue
      simp only [unit?, hx, hy, hz, hw, Option.bind_eq_bind, Option.bind_some]
      congr 1
      omega

theorem not_surrogate (c : Char) :
    isHigh c.toNat = false ∧ isLow c.toNat = false := by
  have hvalid : c.toNat < 0xD800 ∨ 0xDFFF < c.toNat ∧ c.toNat < 0x110000 :=
    c.valid
  unfold isHigh isLow
  simp only [Bool.and_eq_false_iff, decide_eq_false_iff_not]
  omega

theorem toNat_ofPair {high low : Nat} {c : Char}
    (h : c.toNat = 0x10000 + high * 0x400 + low) :
    ofPair (0xD800 + high) (0xDC00 + low) = c := by
  rw [ofPair, Nat.add_sub_cancel_left, Nat.add_sub_cancel_left, ← h,
    Char.ofNat_toNat]

theorem readString_char {c : Char} {s : List Char} (h : CharDenotes c s)
    (done rest : List Char) :
    readString done (s ++ rest) = readString (c :: done) rest := by
  cases h with
  | plain printable quote backslash =>
      rw [List.singleton_append, readString, if_neg (Nat.not_lt.2 printable)]
      · exact quote
      · intro _ _ _ _ _ hc
        exact absurd hc backslash
      · intro _ _ hc
        exact absurd hc backslash
  | short listed =>
      simp only [shortEscapes, List.mem_cons, Prod.mk.injEq, List.not_mem_nil,
        or_false] at listed
      rcases listed with ⟨rfl, rfl⟩ | ⟨rfl, rfl⟩ | ⟨rfl, rfl⟩ | ⟨rfl, rfl⟩ |
        ⟨rfl, rfl⟩ | ⟨rfl, rfl⟩ | ⟨rfl, rfl⟩ |
        ⟨rfl, rfl⟩
      all_goals
        rw [List.cons_append, List.singleton_append, readString]
        · rfl
        · intro _ _ _ _ _ hu
          exact absurd hu (by decide)
  | unit spelled =>
      rcases unit?_of_isUnit spelled with ⟨a, b, d, e, rfl, hunit⟩
      cases not_surrogate c with
      | intro hhigh hlow =>
          simp only [List.cons_append, List.nil_append]
          rw [readString]
          simp only [hunit, hhigh, hlow, Bool.false_eq_true, if_false,
            Char.ofNat_toNat]
  | pair high_lt low_lt value spelled_high spelled_low =>
      rename_i high low first second
      rcases unit?_of_isUnit spelled_high with ⟨a, b, d, e, rfl, hfirst⟩
      rcases unit?_of_isUnit spelled_low with ⟨a', b', d', e', rfl, hsecond⟩
      have hhigh : isHigh (0xD800 + high) = true := by
        simp only [isHigh, Bool.and_eq_true, decide_eq_true_eq]
        omega
      have hlow : isLow (0xDC00 + low) = true := by
        simp only [isLow, Bool.and_eq_true, decide_eq_true_eq]
        omega
      simp only [List.cons_append, List.nil_append]
      rw [readString]
      simp only [hfirst, hsecond, hhigh, hlow, if_true, toNat_ofPair value]

theorem readString_chars {cs s : List Char} (h : CharsDenote cs s)
    (done rest : List Char) :
    readString done (s ++ '"' :: rest) = some (done.reverse ++ cs, rest) := by
  induction h generalizing done with
  | nil => rw [List.nil_append, readString, List.append_nil]
  | cons head tail ih =>
      rw [List.append_assoc, readString_char head, ih, List.reverse_cons,
        List.append_assoc, List.singleton_append]

theorem exists_quote {t : String} {s : List Char} (h : StringDenotes t s) :
    ∃ body, s = '"' :: body ∧
      ∀ rest, readString [] (body ++ rest) = some (t.toList, rest) := by
  cases h with
  | quoted chars =>
      rename_i s
      refine ⟨s ++ ['"'], rfl, ?_⟩
      intro rest
      rw [List.append_assoc, List.singleton_append, readString_chars chars]
      rfl

/-!
## Numbers
-/

/-- What follows a number does not go on with it. -/
def EndsNumber (rest : List Char) : Prop :=
  ∀ c ∈ rest.head?, Text.isDigit c = false ∧ c ≠ '.' ∧ c ≠ 'e' ∧ c ≠ 'E'

theorem readDigits_append {digits rest : List Char} (h : IsDigits digits)
    (hrest : ∀ c ∈ rest.head?, Text.isDigit c = false) :
    readDigits (digits ++ rest) = some (digits, rest) := by
  have htake : rest.takeWhile Text.isDigit = [] := by
    cases rest with
    | nil => rfl
    | cons c rest => rw [List.takeWhile_cons_of_neg (by simp [hrest c rfl])]
  have hdrop : rest.dropWhile Text.isDigit = rest := by
    cases rest with
    | nil => rfl
    | cons c rest => rw [List.dropWhile_cons_of_neg (by simp [hrest c rfl])]
  unfold readDigits
  rw [List.takeWhile_append_of_pos h.decimal,
    List.dropWhile_append_of_pos h.decimal, htake, hdrop, List.append_nil]
  cases digits with
  | nil => exact absurd rfl h.nonempty
  | cons d digits => rfl

theorem readFraction_append {digits s rest : List Char}
    (h : FractionDenotes digits s)
    (hrest : ∀ c ∈ rest.head?, Text.isDigit c = false ∧ c ≠ '.') :
    readFraction (s ++ rest) = some (digits, rest) := by
  cases h with
  | absent =>
      cases rest with
      | nil => rfl
      | cons c rest =>
          rw [List.nil_append, readFraction]
          intro _ heq
          exact (hrest c rfl).2 (List.cons.inj heq).1
  | present isDigits =>
      exact readDigits_append isDigits fun c hc => (hrest c hc).1

theorem ne_of_isDigit {c d : Char} (h : Text.isDigit c = true)
    (hd : Text.isDigit d = false) : c ≠ d := by
  rintro rfl
  rw [h] at hd
  exact Bool.noConfusion hd

theorem IsDigits.exists_cons {s : List Char} (h : IsDigits s) :
    ∃ d s', s = d :: s' ∧ Text.isDigit d = true := by
  cases s with
  | nil => exact absurd rfl h.nonempty
  | cons d s => exact ⟨d, s, rfl, h.decimal d List.mem_cons_self⟩

theorem readSign_append {digits : List Char} (h : IsDigits digits)
    (negative : Bool) (rest : List Char) :
    readSign (minus negative ++ (digits ++ rest)) =
      (negative, digits ++ rest) := by
  cases negative with
  | true => rfl
  | false =>
      rcases h.exists_cons with ⟨d, digits, rfl, hd⟩
      have hminus : d ≠ '-' := ne_of_isDigit hd (by decide)
      show readSign (d :: (digits ++ rest)) = (false, d :: (digits ++ rest))
      rw [readSign]
      intro _ heq
      exact hminus (List.cons.inj heq).1

theorem head?_sign {digits : List Char} (h : IsDigits digits) (negative : Bool)
    (rest : List Char) :
    ∀ c ∈ (minus negative ++ (digits ++ rest)).head?, c = '-' ∨
      Text.isDigit c = true := by
  intro c hc
  cases negative with
  | true => exact .inl (Option.some.inj hc).symm
  | false =>
      rcases h.exists_cons with ⟨d, digits, rfl, hd⟩
      exact .inr (Option.some.inj hc ▸ hd)

theorem readExponent_append {e : Option Int} {s rest : List Char}
    (h : ExponentDenotes e s)
    (hrest : ∀ c ∈ rest.head?, Text.isDigit c = false ∧ c ≠ 'e' ∧ c ≠ 'E') :
    readExponent (s ++ rest) = some (e, rest) := by
  have hdigit : ∀ c ∈ rest.head?, Text.isDigit c = false :=
    fun c hc => (hrest c hc).1
  cases h with
  | absent =>
      cases rest with
      | nil => rfl
      | cons c rest =>
          have hmark : (c == 'e' || c == 'E') = false := by
            simp [(hrest c rfl).2]
          simp only [List.nil_append, readExponent, hmark, Bool.false_eq_true,
            if_false]
  | signed letter isDigits =>
      rename_i mark negative digits
      have hmark : (mark == 'e' || mark == 'E') = true := by simpa using letter
      rw [List.cons_append, List.append_assoc, readExponent, if_pos hmark,
        readSign_append isDigits]
      · simp only [readDigits_append isDigits hdigit, Option.map_some]
      · intro s heq
        rcases head?_sign isDigits negative rest '+' (by rw [heq]; rfl) with
          hc | hc
        · exact absurd hc (by decide)
        · exact absurd hc (by decide)
  | plus letter isDigits =>
      rename_i mark digits
      have hmark : (mark == 'e' || mark == 'E') = true := by simpa using letter
      rw [List.cons_append, List.cons_append, readExponent, if_pos hmark]
      simp only [readDigits_append isDigits hdigit, Option.map_some]
      rfl

theorem head?_exponent {e : Option Int} {s rest : List Char}
    (h : ExponentDenotes e s) (hrest : EndsNumber rest) :
    ∀ c ∈ (s ++ rest).head?, Text.isDigit c = false ∧ c ≠ '.' := by
  cases h with
  | absent => exact fun c hc => ⟨(hrest c hc).1, (hrest c hc).2.1⟩
  | signed letter isDigits =>
      intro c hc
      cases hc
      rcases letter with rfl | rfl <;> decide
  | plus letter isDigits =>
      intro c hc
      cases hc
      rcases letter with rfl | rfl <;> decide

theorem head?_fraction {digits s rest : List Char}
    (h : FractionDenotes digits s)
    (hrest : ∀ c ∈ rest.head?, Text.isDigit c = false) :
    ∀ c ∈ (s ++ rest).head?, Text.isDigit c = false := by
  cases h with
  | absent => exact hrest
  | present isDigits =>
      intro c hc
      cases hc
      decide

theorem IsWhole.not_padded {s : List Char} (h : IsWhole s) :
    (s.head? == some '0' && decide (1 < s.length)) = false := by
  rw [Bool.and_eq_false_iff, decide_eq_false_iff_not, beq_eq_false_iff_ne]
  by_cases hzero : s.head? = some '0'
  · right
    rw [h.unpadded hzero]
    exact Nat.lt_irrefl 1
  · exact .inl hzero

theorem readNumber_append {v : Json} {s rest : List Char}
    (h : NumberDenotes v s) (hrest : EndsNumber rest) :
    readNumber (s ++ rest) = some (v, rest) := by
  cases h with
  | integer isWhole value =>
      rename_i negative whole n
      have hfraction := readFraction_append .absent (fun c hc =>
        ⟨(hrest c hc).1, (hrest c hc).2.1⟩)
      have hexponent := readExponent_append .absent (fun c hc =>
        ⟨(hrest c hc).1, (hrest c hc).2.2⟩)
      simp only [List.nil_append] at hfraction hexponent
      unfold readNumber
      rw [List.append_assoc, readSign_append isWhole.toIsDigits]
      simp only [Option.bind_eq_bind,
        readDigits_append isWhole.toIsDigits fun c hc => (hrest c hc).1,
        Option.bind_some, isWhole.not_padded, Bool.false_eq_true, if_false,
        hfraction, hexponent, List.append_nil]
      exact congrArg (Option.map fun n => (Json.integer n, rest))
        (WritableInt.ofInt?_eq_some_iff.2 value)
  | decimal isWhole isFraction isExponent inexact =>
      rename_i negative whole digits fraction exponent e
      have hend := head?_exponent isExponent hrest
      have hfraction := readFraction_append isFraction hend
      have hexponent := readExponent_append isExponent (fun c hc =>
        ⟨(hrest c hc).1, (hrest c hc).2.2⟩)
      have hwhole := readDigits_append isWhole.toIsDigits
        (head?_fraction isFraction fun c hc => (hend c hc).1)
      have hkind : (digits.isEmpty && e.isNone) = false := by
        rw [Bool.and_eq_false_iff]
        rcases inexact with hdigits | he
        · exact .inl (by simpa using hdigits)
        · exact .inr (by simpa [Option.isSome_iff_ne_none] using he)
      unfold readNumber
      simp only [List.append_assoc]
      rw [readSign_append isWhole.toIsDigits]
      simp only [Option.bind_eq_bind, hwhole, Option.bind_some,
        isWhole.not_padded, Bool.false_eq_true, if_false, hfraction, hexponent,
        hkind]
      rfl

/-!
## Values

A reader with as much fuel as its text is long does not run out of it: readers
that call each other have read a character in between.
-/

theorem skipSpace_append {blank : List Char} (h : IsBlank blank)
    (s : List Char) :
    skipSpace (blank ++ s) = skipSpace s :=
  List.dropWhile_append_of_pos h

theorem skipSpace_cons {c : Char} (h : isSpace c = false) (s : List Char) :
    skipSpace (c :: s) = c :: s :=
  List.dropWhile_cons_of_neg (by simp [h])

theorem skipSpace_before {blank : List Char} (h : IsBlank blank) {c : Char}
    (hc : isSpace c = false) (s : List Char) :
    skipSpace (blank ++ c :: s) = c :: s := by
  rw [skipSpace_append h, skipSpace_cons hc]

theorem skipSpace_skipSpace (s : List Char) :
    skipSpace (skipSpace s) = skipSpace s :=
  List.dropWhile_idempotent _ _

theorem readValue_skipSpace (fuel : Nat) (s : List Char) :
    readValue fuel (skipSpace s) = readValue fuel s := by
  cases fuel with
  | zero => rw [readValue, readValue]
  | succ fuel => rw [readValue, readValue, skipSpace_skipSpace]

theorem readValue_append {blank : List Char} (h : IsBlank blank) (fuel : Nat)
    (s : List Char) :
    readValue fuel (blank ++ s) = readValue fuel s := by
  rw [← readValue_skipSpace, skipSpace_append h, readValue_skipSpace]

theorem readItems_skipSpace (fuel : Nat) (done : List Json) (s : List Char) :
    readItems fuel done (skipSpace s) = readItems fuel done s := by
  cases fuel with
  | zero => rw [readItems, readItems]
  | succ fuel => rw [readItems, readItems, readValue_skipSpace]

theorem readMembers_skipSpace (fuel : Nat) (done : List (String × Json))
    (s : List Char) :
    readMembers fuel done (skipSpace s) = readMembers fuel done s := by
  cases fuel with
  | zero => rw [readMembers, readMembers]
  | succ fuel => rw [readMembers, readMembers, skipSpace_skipSpace]

theorem readValue_list {s : List Char} (h : ∀ s', skipSpace s ≠ ']' :: s')
    (fuel : Nat) :
    readValue (fuel + 1) ('[' :: s) = (readItems fuel [] s).map fun (vs, s) =>
      (list vs, s) := by
  rw [readValue, ← readItems_skipSpace]
  -- the branch of the empty list is ruled out by what is given
  simp only [skipSpace_cons (show isSpace '[' = false by decide)]

theorem readValue_object {s : List Char} (h : ∀ s', skipSpace s ≠ '\x7d' :: s')
    (fuel : Nat) :
    readValue (fuel + 1) ('\x7b' :: s) =
      (readMembers fuel [] s).map fun (ms, s) => (object ms, s) := by
  rw [readValue, ← readMembers_skipSpace]
  simp only [skipSpace_cons (show isSpace '\x7b' = false by decide)]

theorem readValue_number {c : Char} (h : c = '-' ∨ Text.isDigit c = true)
    (fuel : Nat) (s : List Char) :
    readValue (fuel + 1) (c :: s) = readNumber (c :: s) := by
  have hne : ∀ d, Text.isDigit d = false → d ≠ '-' → c ≠ d := by
    intro d hd hminus
    rcases h with rfl | h
    · exact hminus.symm
    · exact ne_of_isDigit h hd
  have hspace : isSpace c = false := by
    simp only [isSpace, Bool.or_eq_false_iff, beq_eq_false_iff_ne]
    exact ⟨⟨⟨hne ' ' (by decide) (by decide), hne '\t' (by decide) (by decide)⟩,
      hne '\n' (by decide) (by decide)⟩, hne '\r' (by decide) (by decide)⟩
  rw [readValue, skipSpace_cons hspace]
  split
  case h_7 => rfl
  all_goals
    rename_i heq
    exact absurd (List.cons.inj heq).1 (hne _ (by decide) (by decide))

theorem endsNumber_cons {c : Char} (h : c = ',' ∨ c = ']' ∨ c = '\x7d')
    (s : List Char) : EndsNumber (c :: s) := by
  intro d hd
  cases hd
  rcases h with rfl | rfl | rfl <;> decide

theorem endsNumber_append {blank s : List Char} (h : IsBlank blank)
    (hs : EndsNumber s) :
    EndsNumber (blank ++ s) := by
  cases blank with
  | nil => exact hs
  | cons b blank =>
      intro c hc
      cases hc
      have hb : isSpace b = true := h b List.mem_cons_self
      simp only [isSpace, Bool.or_eq_true, beq_iff_eq] at hb
      rcases hb with ((rfl | rfl) | rfl) | rfl <;> decide

structure StartsValue (c : Char) : Prop where
  isSpace_eq : isSpace c = false
  ne_bracket : c ≠ ']'

theorem isSpace_of_number {c : Char} (h : c = '-' ∨ Text.isDigit c = true) :
    isSpace c = false := by
  rcases h with rfl | h
  · decide
  · simp only [isSpace, Bool.or_eq_false_iff, beq_eq_false_iff_ne]
    exact ⟨⟨⟨ne_of_isDigit h (by decide), ne_of_isDigit h (by decide)⟩,
      ne_of_isDigit h (by decide)⟩,
      ne_of_isDigit h (by decide)⟩

theorem startsValue_of_number {c : Char} (h : c = '-' ∨ Text.isDigit c = true) :
    StartsValue c := by
  refine ⟨isSpace_of_number h, ?_⟩
  rcases h with rfl | h
  · decide
  · exact ne_of_isDigit h (by decide)

theorem exists_cons_of_sign {digits : List Char} (h : IsDigits digits)
    (negative : Bool) (rest : List Char) :
    ∃ c s', minus negative ++ (digits ++ rest) = c :: s' ∧
      (c = '-' ∨ Text.isDigit c = true) := by
  rcases h.exists_cons with ⟨d, digits', rfl, hd⟩
  cases negative with
  | true => exact ⟨_, _, rfl, .inl rfl⟩
  | false => exact ⟨_, _, rfl, .inr hd⟩

theorem NumberDenotes.exists_cons {v : Json} {s : List Char}
    (h : NumberDenotes v s) :
    ∃ c s', s = c :: s' ∧ (c = '-' ∨ Text.isDigit c = true) := by
  cases h with
  | integer isWhole value =>
      rename_i negative whole n
      rw [← List.append_nil whole]
      exact exists_cons_of_sign isWhole.toIsDigits negative []
  | decimal isWhole isFraction isExponent inexact =>
      exact exists_cons_of_sign isWhole.toIsDigits _ _

theorem Denotes.exists_cons {v : Json} {s : List Char} (h : Denotes v s) :
    ∃ c s', s = c :: s' ∧ StartsValue c := by
  cases h with
  | null => exact ⟨_, _, rfl, by decide, by decide⟩
  | true => exact ⟨_, _, rfl, by decide, by decide⟩
  | false => exact ⟨_, _, rfl, by decide, by decide⟩
  | number isNumber =>
      rcases isNumber.exists_cons with ⟨c, s', rfl, hc⟩
      exact ⟨c, s', rfl, startsValue_of_number hc⟩
  | text isString =>
      cases isString with
      | quoted chars => exact ⟨_, _, rfl, by decide, by decide⟩
  | emptyList isBlank => exact ⟨_, _, rfl, by decide, by decide⟩
  | list items => exact ⟨_, _, rfl, by decide, by decide⟩
  | emptyObject isBlank => exact ⟨_, _, rfl, by decide, by decide⟩
  | object members => exact ⟨_, _, rfl, by decide, by decide⟩

theorem IsTextOf.exists_cons {v : Json} {s : List Char} (h : IsTextOf v s) :
    ∃ c s', StartsValue c ∧
      ∀ rest, skipSpace (s ++ rest) = c :: (s' ++ rest) := by
  cases h with
  | padded isBefore denotes isAfter =>
      rename_i before s after
      rcases denotes.exists_cons with ⟨c, s', rfl, hc⟩
      refine ⟨c, s' ++ after, hc, ?_⟩
      intro rest
      rw [List.append_assoc, List.append_assoc, List.cons_append,
        skipSpace_before isBefore hc.isSpace_eq, List.append_assoc]

theorem ItemsDenote.skipSpace_ne {vs : List Json} {s : List Char}
    (h : ItemsDenote vs s) (rest s' : List Char) :
    skipSpace (s ++ rest) ≠ ']' :: s' := by
  cases h with
  | last head =>
      rcases head.exists_cons with ⟨c, tail, hc, hskip⟩
      rw [hskip]
      intro heq
      exact hc.ne_bracket (List.cons.inj heq).1
  | cons head tail =>
      rcases head.exists_cons with ⟨c, tail, hc, hskip⟩
      rw [List.append_assoc, hskip]
      intro heq
      exact hc.ne_bracket (List.cons.inj heq).1

theorem NameDenotes.exists_quote {name : String} {s : List Char}
    (h : NameDenotes name s) :
    ∃ body after, IsBlank after ∧
      (∀ rest, skipSpace (s ++ rest) = '"' :: (body ++ rest)) ∧
      ∀ rest, readString [] (body ++ rest) =
        some (name.toList, after ++ rest) := by
  cases h with
  | padded isBefore isString isAfter =>
      rename_i before s after
      rcases Json.exists_quote isString with ⟨body, rfl, hread⟩
      refine ⟨body ++ after, after, isAfter, ?_, ?_⟩
      · intro rest
        rw [List.append_assoc, List.append_assoc, List.cons_append,
          skipSpace_before isBefore (by decide), List.append_assoc]
      · intro rest
        rw [List.append_assoc, hread]

theorem MembersDenote.skipSpace_ne {ms : List (String × Json)} {s : List Char}
    (h : MembersDenote ms s) (rest s' : List Char) :
    skipSpace (s ++ rest) ≠ '\x7d' :: s' := by
  cases h with
  | last isName head =>
      rcases isName.exists_quote with ⟨body, after, -, hskip, -⟩
      rw [List.append_assoc, hskip]
      intro heq
      exact absurd (List.cons.inj heq).1 (by decide)
  | cons isName head tail =>
      rcases isName.exists_quote with ⟨body, after, -, hskip, -⟩
      rw [List.append_assoc, hskip]
      intro heq
      exact absurd (List.cons.inj heq).1 (by decide)

section Member

variable {name : String} {key s after : List Char} {v : Json} {fuel : Nat}

theorem readMembers_comma (isName : NameDenotes name key)
    (hafter : IsBlank after) {rest : List Char}
    (hvalue : readValue fuel s = some (v, after ++ ',' :: rest))
    (done : List (String × Json)) :
    readMembers (fuel + 1) done (key ++ ':' :: s) =
      readMembers fuel ((name, v) :: done) rest := by
  rcases isName.exists_quote with ⟨body, blank, hblank, hskip, hread⟩
  have hcolon : skipSpace (blank ++ ':' :: s) = ':' :: s :=
    skipSpace_before hblank (by decide) _
  have hcomma : skipSpace (after ++ ',' :: rest) = ',' :: rest :=
    skipSpace_before hafter (by decide) _
  rw [readMembers, hskip]
  simp only [hread, hcolon, hvalue, hcomma, String.ofList_toList]

theorem readMembers_brace (isName : NameDenotes name key)
    (hafter : IsBlank after) {rest : List Char}
    (hvalue : readValue fuel s = some (v, after ++ '\x7d' :: rest))
    (done : List (String × Json)) :
    readMembers (fuel + 1) done (key ++ ':' :: s) =
      some (((name, v) :: done).reverse, rest) := by
  rcases isName.exists_quote with ⟨body, blank, hblank, hskip, hread⟩
  have hcolon : skipSpace (blank ++ ':' :: s) = ':' :: s :=
    skipSpace_before hblank (by decide) _
  have hbrace : skipSpace (after ++ '\x7d' :: rest) = '\x7d' :: rest :=
    skipSpace_before hafter (by decide) _
  rw [readMembers, hskip]
  simp only [hread, hcolon, hvalue, hbrace, String.ofList_toList]

end Member

mutual

theorem readValue_of_denotes {v : Json} {s : List Char} (h : Denotes v s)
    {fuel : Nat} {rest : List Char} (hfuel : s.length ≤ fuel)
    (hrest : EndsNumber rest) :
    readValue fuel (s ++ rest) = some (v, rest) := by
  cases fuel with
  | zero =>
      rcases h.exists_cons with ⟨c, s', rfl, -⟩
      exact absurd hfuel (by simp)
  | succ fuel =>
      cases h with
      | null => rfl
      | true => rfl
      | false => rfl
      | number isNumber =>
          have hread := readNumber_append isNumber hrest
          rcases isNumber.exists_cons with ⟨c, s', rfl, hc⟩
          rw [List.cons_append, readValue_number hc]
          exact hread
      | text isString =>
          rcases exists_quote isString with ⟨body, rfl, hread⟩
          rw [List.cons_append, readValue, skipSpace_cons (by decide)]
          simp only [hread, Option.map_some, String.ofList_toList]
      | emptyList isBlank =>
          have hskip :=
            skipSpace_before isBlank (show isSpace ']' = false by decide) rest
          rw [List.cons_append, List.append_assoc, List.singleton_append,
            readValue, skipSpace_cons (by decide)]
          simp only [hskip]
      | list items =>
          rename_i vs s
          rw [List.cons_append, List.append_assoc, List.singleton_append,
            readValue_list (items.skipSpace_ne _),
            readItems_of_denote items (by simp at hfuel; omega)]
          rfl
      | emptyObject isBlank =>
          have hskip := skipSpace_before isBlank (show isSpace '\x7d' =
            false by decide) rest
          rw [List.cons_append, List.append_assoc, List.singleton_append,
            readValue, skipSpace_cons (by decide)]
          simp only [hskip]
      | object members =>
          rename_i ms s
          rw [List.cons_append, List.append_assoc, List.singleton_append,
            readValue_object (members.skipSpace_ne _),
            readMembers_of_denote members (by simp at hfuel; omega)]
          rfl
termination_by (fuel, 0)

theorem readValue_of_isTextOf {v : Json} {s : List Char} (h : IsTextOf v s)
    {fuel : Nat} {rest : List Char} (hfuel : s.length ≤ fuel)
    (hrest : EndsNumber rest) :
    ∃ after, IsBlank after ∧
      readValue fuel (s ++ rest) = some (v, after ++ rest) := by
  cases h with
  | padded isBefore denotes isAfter =>
      rename_i before s after
      have hlength : s.length ≤ fuel := by
        simp only [List.length_append] at hfuel
        omega
      refine ⟨after, isAfter, ?_⟩
      rw [List.append_assoc, readValue_append isBefore, List.append_assoc,
        readValue_of_denotes denotes hlength (endsNumber_append isAfter hrest)]
termination_by (fuel, 1)

theorem readItems_of_denote {vs : List Json} {s : List Char}
    (h : ItemsDenote vs s) {fuel : Nat} {done : List Json} {rest : List Char}
    (hfuel : s.length < fuel) :
    readItems fuel done (s ++ ']' :: rest) =
      some (done.reverse ++ vs, rest) := by
  cases fuel with
  | zero => exact absurd hfuel (Nat.not_lt_zero _)
  | succ fuel =>
      cases h with
      | last head =>
          rcases readValue_of_isTextOf head (Nat.le_of_lt_succ hfuel)
            (endsNumber_cons (.inr (.inl rfl)) rest) with
            ⟨after, hafter, hread⟩
          have hskip :=
            skipSpace_before hafter (show isSpace ']' = false by decide) rest
          rw [readItems, hread]
          simp only [hskip, List.reverse_cons]
      | cons head tail =>
          rename_i v vs s tailText
          simp only [List.length_append, List.length_cons] at hfuel
          have hs : s.length ≤ fuel := by omega
          rcases readValue_of_isTextOf head hs
            (endsNumber_cons (.inl rfl) (tailText ++ ']' :: rest)) with
              ⟨after, hafter, hread⟩
          have hskip := skipSpace_before hafter (show isSpace ',' =
            false by decide) (tailText ++ ']' :: rest)
          rw [List.append_assoc, List.cons_append, readItems, hread]
          simp only [hskip]
          rw [readItems_of_denote tail (by omega), List.reverse_cons,
            List.append_assoc, List.singleton_append]
termination_by (fuel, 0)

theorem readMembers_of_denote {ms : List (String × Json)} {s : List Char}
    (h : MembersDenote ms s) {fuel : Nat} {done : List (String × Json)}
    {rest : List Char} (hfuel : s.length < fuel) :
    readMembers fuel done (s ++ '\x7d' :: rest) =
      some (done.reverse ++ ms, rest) := by
  cases fuel with
  | zero => exact absurd hfuel (Nat.not_lt_zero _)
  | succ fuel =>
      cases h with
      | last isName head =>
          rename_i name v key s
          simp only [List.length_append, List.length_cons] at hfuel
          have hs : s.length ≤ fuel := by omega
          rcases readValue_of_isTextOf head hs
            (endsNumber_cons (.inr (.inr rfl)) rest) with ⟨after, hafter, hread⟩
          rw [List.append_assoc, List.cons_append,
            readMembers_brace isName hafter hread, List.reverse_cons]
      | cons isName head tail =>
          rename_i name v ms key s tailText
          simp only [List.length_append, List.length_cons] at hfuel
          have hs : s.length ≤ fuel := by omega
          rcases readValue_of_isTextOf head hs
            (endsNumber_cons (.inl rfl) (tailText ++ '\x7d' :: rest)) with
              ⟨after, hafter, hread⟩
          rw [List.append_assoc, List.cons_append, List.append_assoc,
            List.cons_append, readMembers_comma isName hafter hread,
            readMembers_of_denote tail (by omega), List.reverse_cons,
            List.append_assoc, List.singleton_append]
termination_by (fuel, 0)

end

/-- The reader follows the grammar: it reads a text of a value as that value. -/
theorem decode_of_isTextOf {v : Json} {s : List Char} (h : IsTextOf v s) :
    decode s = some v := by
  have hend : EndsNumber [] := fun c hc => nomatch hc
  rcases readValue_of_isTextOf h (Nat.le_succ s.length) hend with
    ⟨after, hafter, hread⟩
  rw [List.append_nil, List.append_nil] at hread
  have hskip := skipSpace_append hafter []
  rw [List.append_nil] at hskip
  rw [decode, hread]
  simp only [hskip]
  rfl

end Json
end SiteAudit
