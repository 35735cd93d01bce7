import SiteAudit.Text.Utf8

/-!
# Decoding undoes encoding

The decoder accepts what the encoder writes and nothing else.  A lead byte opens
the sequence of a character; what completes it are the bytes in which the
character is written, because the range of the second byte keeps out the longer
forms, the surrogates, and what lies beyond the last code point.
-/

namespace SiteAudit
namespace Text
namespace Utf8

/-- The bytes complete a sequence under way, which is then worth `value`. -/
inductive Completes : Pending → List UInt8 → Nat → Prop
  | last {p : Pending} {b : UInt8} (one : p.missing = 1) (low : p.low ≤ b.toNat)
      (high : b.toNat ≤ p.high) :
      Completes p [b] (p.extend b).value
  | more {p : Pending} {b : UInt8} {bytes : List UInt8} {value : Nat}
      (several : 1 < p.missing) (low : p.low ≤ b.toNat)
      (high : b.toNat ≤ p.high) (rest : Completes (p.extend b) bytes value) :
      Completes p (b :: bytes) value

/-- The numbers in the sequence of a code point: a lead that tells how many
follow, and six bits in each that does. -/
def numbers (v : Nat) : List Nat :=
  if v ≤ 0x7F then [v]
  else if v ≤ 0x7FF then [v / 64 + 0xC0, v % 64 + 0x80]
  else if v ≤ 0xFFFF then [v / 4096 + 0xE0, v / 64 % 64 + 0x80, v % 64 + 0x80]
  else [v / 262144 + 0xF0, v / 4096 % 64 + 0x80, v / 64 % 64 + 0x80,
    v % 64 + 0x80]

def IsScalar (v : Nat) : Prop :=
  v < 0xD800 ∨ 0xDFFF < v ∧ v < 0x110000

/-!
## A sequence under way
-/

section Pending

variable {done s : List Char} {p : Pending} {position value : Nat}
    {bytes : List UInt8}

theorem decodeFrom_of_completes (h : Completes p bytes value) (done : List Char)
    (position : Nat) (rest : List UInt8) :
    decodeFrom done (some p) position (bytes ++ rest) =
      decodeFrom (Char.ofNat value :: done) none (position + bytes.length)
        rest := by
  induction h generalizing position with
  | @last p b one low high =>
      have hmissing : (p.extend b).missing = 0 := by simp [Pending.extend, one]
      simp [decodeFrom, low, high, hmissing]
  | @more p b bytes value several low high _ ih =>
      have hmissing : (p.extend b).missing ≠ 0 := Nat.sub_ne_zero_of_lt several
      have hlength :
          position + (b :: bytes).length = position + 1 + bytes.length := by
        rw [List.length_cons, Nat.add_comm bytes.length 1, Nat.add_assoc]
      rw [hlength, ← ih]
      simp [decodeFrom, low, high, hmissing]

theorem exists_of_decodeFrom (under : 0 < p.missing)
    (h : decodeFrom done (some p) position bytes = .ok s) :
    ∃ sequence value rest, Completes p sequence value ∧
      bytes = sequence ++ rest ∧
      decodeFrom (Char.ofNat value :: done) none (position + sequence.length)
        rest = .ok s := by
  induction bytes generalizing p position with
  | nil => cases h
  | cons b bytes ih =>
      rw [decodeFrom] at h
      split at h
      · rename_i hrange
        rw [Bool.and_eq_true, decide_eq_true_iff, decide_eq_true_iff] at hrange
        dsimp only at h
        split at h
        · rename_i hlast
          have hone : p.missing = 1 :=
            Nat.le_antisymm (Nat.sub_eq_zero_iff_le.1 hlast) under
          exact ⟨[b], _, bytes, .last hone hrange.1 hrange.2, rfl, h⟩
        · rename_i hmore
          have hseveral : 1 < p.missing := Nat.lt_of_sub_ne_zero hmore
          rcases ih (Nat.pos_of_ne_zero hmore) h with
            ⟨sequence, value, rest, hcompletes, hbytes, hrest⟩
          refine ⟨b :: sequence, value, rest,
            .more hseveral hrange.1 hrange.2 hcompletes, ?_, ?_⟩
          · rw [hbytes, List.cons_append]
          · rw [List.length_cons, Nat.add_comm sequence.length 1,
              ← Nat.add_assoc]
            exact hrest
      · cases h

theorem completes_iff_last (one : p.missing = 1) :
    Completes p bytes value ↔
      ∃ b, bytes = [b] ∧ p.low ≤ b.toNat ∧ b.toNat ≤ p.high ∧
        p.value * 64 + (b.toNat - 0x80) = value := by
  constructor
  · intro h
    cases h with
    | last _ low high => exact ⟨_, rfl, low, high, rfl⟩
    | more several low high rest => exact absurd one (Nat.ne_of_gt several)
  · intro h
    rcases h with ⟨b, rfl, low, high, rfl⟩
    exact .last one low high

theorem completes_iff_more (several : 1 < p.missing) :
    Completes p bytes value ↔
      ∃ b rest, bytes = b :: rest ∧ p.low ≤ b.toNat ∧ b.toNat ≤ p.high ∧
        Completes (p.extend b) rest value := by
  constructor
  · intro h
    cases h with
    | last one low high => exact absurd one (Nat.ne_of_gt several)
    | more _ low high rest => exact ⟨_, _, rfl, low, high, rest⟩
  · intro h
    rcases h with ⟨b, rest, rfl, low, high, hrest⟩
    exact .more several low high hrest

end Pending

/-!
## Lead bytes

There are three kinds of them, for sequences of two, three and four bytes.
-/

section Leads

variable (b : UInt8) (position : Nat)

def leadOfTwo : Pending where
  lead := b
  position := position
  length := 1
  value := b.toNat - 0xC0
  missing := 1
  low := 0x80
  high := 0xBF

def leadOfThree : Pending where
  lead := b
  position := position
  length := 1
  value := b.toNat - 0xE0
  missing := 2
  low := if b.toNat = 0xE0 then 0xA0 else 0x80
  high := if b.toNat = 0xED then 0x9F else 0xBF

def leadOfFour : Pending where
  lead := b
  position := position
  length := 1
  value := b.toNat - 0xF0
  missing := 3
  low := if b.toNat = 0xF0 then 0x90 else 0x80
  high := if b.toNat = 0xF4 then 0x8F else 0xBF

variable {b position} {p : Pending} {bytes : List UInt8} {value : Nat}

theorem opening?_two (low : 0xC2 ≤ b.toNat) (high : b.toNat ≤ 0xDF) :
    opening? b position = some (leadOfTwo b position) := by
  simp [opening?, leadOfTwo, low, high]

theorem opening?_three (low : 0xE0 ≤ b.toNat) (high : b.toNat ≤ 0xEF) :
    opening? b position = some (leadOfThree b position) := by
  by_cases hfirst : b.toNat = 0xE0
  · simp [opening?, leadOfThree, hfirst]
  · by_cases hsurrogates : b.toNat = 0xED
    · simp [opening?, leadOfThree, hsurrogates]
    · have hnotTwo : ¬ b.toNat ≤ 0xDF := by omega
      have hlow : 0xE1 ≤ b.toNat := by omega
      simp [opening?, leadOfThree, hnotTwo, hfirst, hsurrogates, hlow, high]

theorem opening?_four (low : 0xF0 ≤ b.toNat) (high : b.toNat ≤ 0xF4) :
    opening? b position = some (leadOfFour b position) := by
  have hnotTwo : ¬ b.toNat ≤ 0xDF := by omega
  have hnotThree : ¬ b.toNat ≤ 0xEF := by omega
  have hnotFirst : b.toNat ≠ 0xE0 := by omega
  have hnotSurrogates : b.toNat ≠ 0xED := by omega
  by_cases hfirst : b.toNat = 0xF0
  · simp [opening?, leadOfFour, hfirst]
  · by_cases hlast : b.toNat = 0xF4
    · simp [opening?, leadOfFour, hlast]
    · have hlow : 0xF1 ≤ b.toNat := by omega
      have hhigh : b.toNat ≤ 0xF3 := by omega
      simp [opening?, leadOfFour, hnotTwo, hnotThree, hnotFirst, hnotSurrogates,
        hlow, hhigh, hfirst, hlast]

theorem opening?_eq_some (h : opening? b position = some p) :
    p = leadOfTwo b position ∧ 0xC2 ≤ b.toNat ∧ b.toNat ≤ 0xDF ∨
      p = leadOfThree b position ∧ 0xE0 ≤ b.toNat ∧ b.toNat ≤ 0xEF ∨
      p = leadOfFour b position ∧ 0xF0 ≤ b.toNat ∧ b.toNat ≤ 0xF4 := by
  have hlead : 0xC2 ≤ b.toNat ∧ b.toNat ≤ 0xF4 := by
    unfold opening? at h
    grind
  by_cases htwo : b.toNat ≤ 0xDF
  · rw [opening?_two hlead.1 htwo] at h
    exact .inl ⟨(Option.some.inj h).symm, hlead.1, htwo⟩
  · have hlow : 0xE0 ≤ b.toNat := Nat.not_le.1 htwo
    by_cases hthree : b.toNat ≤ 0xEF
    · rw [opening?_three hlow hthree] at h
      exact .inr (.inl ⟨(Option.some.inj h).symm, hlow, hthree⟩)
    · have hlow : 0xF0 ≤ b.toNat := Nat.not_le.1 hthree
      rw [opening?_four hlow hlead.2] at h
      exact .inr (.inr ⟨(Option.some.inj h).symm, hlow, hlead.2⟩)

theorem completes_two_iff (low : 0xC2 ≤ b.toNat) (high : b.toNat ≤ 0xDF) :
    Completes (leadOfTwo b position) bytes value ↔
      0x7F < value ∧ value ≤ 0x7FF ∧
        (b :: bytes).map UInt8.toNat =
          [value / 64 + 0xC0, value % 64 + 0x80] := by
  rw [completes_iff_last rfl]
  simp only [leadOfTwo, List.map_cons, List.cons.injEq, List.map_eq_cons_iff,
    List.map_eq_nil_iff]
  constructor
  · intro h
    rcases h with ⟨b₁, rfl, hlow, hhigh, hvalue⟩
    refine ⟨by omega, by omega, by omega, b₁, [], rfl, by omega, rfl⟩
  · intro h
    rcases h with ⟨hmore, hless, hb, b₁, _, rfl, hb₁, rfl⟩
    exact ⟨b₁, rfl, by omega, by omega, by omega⟩

theorem leadOfThree_low_le_iff {n : Nat} :
    (leadOfThree b position).low ≤ n ↔
      0x80 ≤ n ∧ (b.toNat = 0xE0 → 0xA0 ≤ n) := by
  simp only [leadOfThree]
  split <;> omega

theorem le_leadOfThree_high_iff {n : Nat} :
    n ≤ (leadOfThree b position).high ↔
      n ≤ 0xBF ∧ (b.toNat = 0xED → n ≤ 0x9F) := by
  simp only [leadOfThree]
  split <;> omega

theorem leadOfFour_low_le_iff {n : Nat} :
    (leadOfFour b position).low ≤ n ↔
      0x80 ≤ n ∧ (b.toNat = 0xF0 → 0x90 ≤ n) := by
  simp only [leadOfFour]
  split <;> omega

theorem le_leadOfFour_high_iff {n : Nat} :
    n ≤ (leadOfFour b position).high ↔
      n ≤ 0xBF ∧ (b.toNat = 0xF4 → n ≤ 0x8F) := by
  simp only [leadOfFour]
  split <;> omega

/-- The first continuation byte keeps out values below 0x800 and surrogates. -/
theorem completes_three_iff (low : 0xE0 ≤ b.toNat) (high : b.toNat ≤ 0xEF) :
    Completes (leadOfThree b position) bytes value ↔
      IsScalar value ∧ 0x7FF < value ∧ value ≤ 0xFFFF ∧
        (b :: bytes).map UInt8.toNat =
          [value / 4096 + 0xE0, value / 64 % 64 + 0x80, value % 64 + 0x80] := by
  have hseveral : 1 < (leadOfThree b position).missing := Nat.lt_succ_self 1
  simp only [completes_iff_more hseveral, leadOfThree_low_le_iff,
    le_leadOfThree_high_iff, List.map_cons, List.cons.injEq,
    List.map_eq_cons_iff, List.map_eq_nil_iff]
  constructor
  · intro h
    rcases h with ⟨b₁, rest, rfl, hlow₁, hhigh₁, hrest⟩
    rcases (completes_iff_last rfl).1 hrest with
      ⟨b₂, rfl, hlow₂, hhigh₂, hvalue⟩
    simp only [leadOfThree, Pending.extend] at hlow₂ hhigh₂ hvalue
    have hscalar : IsScalar value := by
      unfold IsScalar
      omega
    exact ⟨hscalar, by omega, by omega, by omega, b₁, [b₂], rfl, by omega,
      b₂, [], rfl, by omega, rfl⟩
  · intro h
    rcases h with
      ⟨hscalar, hmore, hless, hb, b₁, _, rfl, hb₁, b₂, _, rfl, hb₂, rfl⟩
    unfold IsScalar at hscalar
    refine ⟨b₁, [b₂], rfl, by omega, by omega,
      (completes_iff_last rfl).2 ⟨b₂, rfl, ?_, ?_, ?_⟩⟩
    all_goals
      simp only [leadOfThree, Pending.extend]
      omega

/-- The first continuation byte keeps out values below 0x10000 and above the
last code point. -/
theorem completes_four_iff (low : 0xF0 ≤ b.toNat) (high : b.toNat ≤ 0xF4) :
    Completes (leadOfFour b position) bytes value ↔
      0xFFFF < value ∧ value < 0x110000 ∧
        (b :: bytes).map UInt8.toNat =
          [value / 262144 + 0xF0, value / 4096 % 64 + 0x80,
            value / 64 % 64 + 0x80, value % 64 + 0x80] := by
  have hseveral : 1 < (leadOfFour b position).missing :=
    Nat.lt_add_of_pos_left Nat.two_pos
  have hmore : ∀ b₁, 1 < ((leadOfFour b position).extend b₁).missing :=
    fun _ => Nat.lt_succ_self 1
  simp only [completes_iff_more hseveral, completes_iff_more (hmore _),
    leadOfFour_low_le_iff, le_leadOfFour_high_iff, List.map_cons,
    List.cons.injEq, List.map_eq_cons_iff, List.map_eq_nil_iff]
  constructor
  · intro h
    rcases h with
      ⟨b₁, _, rfl, hlow₁, hhigh₁, b₂, rest, rfl, hlow₂, hhigh₂, hrest⟩
    rcases (completes_iff_last rfl).1 hrest with
      ⟨b₃, rfl, hlow₃, hhigh₃, hvalue⟩
    simp only [leadOfFour, Pending.extend] at hlow₂ hhigh₂ hlow₃ hhigh₃ hvalue
    exact ⟨by omega, by omega, by omega, b₁, [b₂, b₃], rfl, by omega,
      b₂, [b₃], rfl, by omega, b₃, [], rfl, by omega, rfl⟩
  · intro h
    rcases h with
      ⟨hmore, hless, hb, b₁, _, rfl, hb₁, b₂, _, rfl, hb₂, b₃, _, rfl, hb₃, rfl⟩
    refine ⟨b₁, [b₂, b₃], rfl, by omega, by omega, b₂, [b₃], rfl, ?_, ?_,
      (completes_iff_last rfl).2 ⟨b₃, rfl, ?_, ?_, ?_⟩⟩
    all_goals
      simp only [leadOfFour, Pending.extend]
      omega

end Leads

/-!
## Characters
-/

section Characters

variable {b : UInt8} {position value : Nat} {p : Pending} {bytes : List UInt8}
    {c : Char}

theorem isScalar_toNat (c : Char) : IsScalar c.toNat :=
  c.valid

theorem exists_char (h : IsScalar value) : ∃ c : Char, c.toNat = value :=
  ⟨Char.ofNatAux value h, rfl⟩

theorem map_toNat_utf8EncodeChar (c : Char) :
    (String.utf8EncodeChar c).map UInt8.toNat = numbers c.toNat := by
  have hscalar := isScalar_toNat c
  have hval : c.val.toNat = c.toNat := rfl
  unfold IsScalar at hscalar
  simp only [String.utf8EncodeChar, numbers, hval]
  split
  · simp
    omega
  · split
    · simp
      omega
    · split
      · simp
        omega
      · simp
        omega

theorem utf8EncodeChar_eq_iff : String.utf8EncodeChar c = bytes ↔
    bytes.map UInt8.toNat = numbers c.toNat := by
  rw [← map_toNat_utf8EncodeChar, eq_comm,
    List.map_inj_right fun _ _ => UInt8.toNat_inj.1]

theorem numbers_one (less : value ≤ 0x7F) : numbers value = [value] :=
  if_pos less

theorem numbers_two (more : 0x7F < value) (less : value ≤ 0x7FF) :
    numbers value = [value / 64 + 0xC0, value % 64 + 0x80] := by
  rw [numbers, if_neg (Nat.not_le.2 more), if_pos less]

theorem numbers_three (more : 0x7FF < value) (less : value ≤ 0xFFFF) :
    numbers value =
      [value / 4096 + 0xE0, value / 64 % 64 + 0x80, value % 64 + 0x80] := by
  rw [numbers, if_neg (by omega), if_neg (Nat.not_le.2 more), if_pos less]

theorem numbers_four (more : 0xFFFF < value) :
    numbers value = [value / 262144 + 0xF0, value / 4096 % 64 + 0x80,
      value / 64 % 64 + 0x80, value % 64 + 0x80] := by
  rw [numbers, if_neg (by omega), if_neg (by omega), if_neg (Nat.not_le.2 more)]

/-- What completes the sequence that a lead byte opens is the rest of the bytes
of a character. -/
theorem exists_char_of_completes (hopening : opening? b position = some p)
    (h : Completes p bytes value) :
    ∃ c : Char, c.toNat = value ∧ String.utf8EncodeChar c = b :: bytes := by
  rcases opening?_eq_some hopening with
    ⟨rfl, low, high⟩ | ⟨rfl, low, high⟩ | ⟨rfl, low, high⟩
  · rcases (completes_two_iff low high).1 h with ⟨more, less, hnumbers⟩
    have hscalar : IsScalar value := .inl (by omega)
    rcases exists_char hscalar with ⟨c, rfl⟩
    exact ⟨c, rfl,
      utf8EncodeChar_eq_iff.2 (hnumbers.trans (numbers_two more less).symm)⟩
  · rcases (completes_three_iff low high).1 h with
      ⟨hscalar, more, less, hnumbers⟩
    rcases exists_char hscalar with ⟨c, rfl⟩
    exact ⟨c, rfl,
      utf8EncodeChar_eq_iff.2 (hnumbers.trans (numbers_three more less).symm)⟩
  · rcases (completes_four_iff low high).1 h with ⟨more, less, hnumbers⟩
    have hscalar : IsScalar value := .inr ⟨by omega, less⟩
    rcases exists_char hscalar with ⟨c, rfl⟩
    exact ⟨c, rfl,
      utf8EncodeChar_eq_iff.2 (hnumbers.trans (numbers_four more).symm)⟩

theorem completes_of_utf8EncodeChar (more : 0x7F < c.toNat) (position : Nat) :
    ∃ b bytes p, String.utf8EncodeChar c = b :: bytes ∧ 0x7F < b.toNat ∧
      opening? b position = some p ∧
      Completes p bytes c.toNat := by
  have hscalar := isScalar_toNat c
  cases hbytes : String.utf8EncodeChar c with
  | nil => exact absurd hbytes String.utf8EncodeChar_ne_nil
  | cons b bytes =>
      have hnumbers := utf8EncodeChar_eq_iff.1 hbytes
      by_cases two : c.toNat ≤ 0x7FF
      · rw [numbers_two more two] at hnumbers
        have hb : b.toNat = c.toNat / 64 + 0xC0 := (List.cons.inj hnumbers).1
        have low : 0xC2 ≤ b.toNat := by omega
        have high : b.toNat ≤ 0xDF := by omega
        exact ⟨b, bytes, _, rfl, by omega, opening?_two low high,
          (completes_two_iff low high).2 ⟨more, two, hnumbers⟩⟩
      · rw [Nat.not_le] at two
        by_cases three : c.toNat ≤ 0xFFFF
        · rw [numbers_three two three] at hnumbers
          have hb : b.toNat = c.toNat / 4096 + 0xE0 :=
            (List.cons.inj hnumbers).1
          have low : 0xE0 ≤ b.toNat := by omega
          have high : b.toNat ≤ 0xEF := by omega
          exact ⟨b, bytes, _, rfl, by omega, opening?_three low high,
            (completes_three_iff low high).2 ⟨hscalar, two, three, hnumbers⟩⟩
        · rw [Nat.not_le] at three
          rw [numbers_four three] at hnumbers
          have less : c.toNat < 0x110000 := hscalar.elim (by omega) And.right
          have hb : b.toNat = c.toNat / 262144 + 0xF0 :=
            (List.cons.inj hnumbers).1
          have low : 0xF0 ≤ b.toNat := by omega
          have high : b.toNat ≤ 0xF4 := by omega
          exact ⟨b, bytes, _, rfl, by omega, opening?_four low high,
            (completes_four_iff low high).2 ⟨three, less, hnumbers⟩⟩

theorem utf8EncodeChar_one (less : c.toNat ≤ 0x7F) :
    ∃ b, String.utf8EncodeChar c = [b] ∧ b.toNat = c.toNat := by
  have hnumbers := map_toNat_utf8EncodeChar c
  rw [numbers_one less] at hnumbers
  simpa [List.map_eq_cons_iff] using hnumbers

end Characters

/-!
## Texts
-/

section Texts

variable {done s : List Char} {position : Nat} {bytes : List UInt8}

theorem decodeFrom_utf8EncodeChar (done : List Char) (position : Nat) (c : Char)
    (rest : List UInt8) :
    decodeFrom done none position (String.utf8EncodeChar c ++ rest) =
      decodeFrom (c :: done) none
        (position + (String.utf8EncodeChar c).length) rest := by
  by_cases less : c.toNat ≤ 0x7F
  · rcases utf8EncodeChar_one less with ⟨b, hc, hb⟩
    have hlow : b.toNat < 0x80 := by omega
    rw [hc, List.singleton_append, decodeFrom, if_pos hlow, hb,
      Char.ofNat_toNat]
    rfl
  · rcases completes_of_utf8EncodeChar (Nat.not_le.1 less) position with
      ⟨b, bytes, p, hc, more, hopening, hcompletes⟩
    have hnot : ¬ b.toNat < 0x80 := by omega
    rw [hc, List.cons_append, decodeFrom, if_neg hnot, hopening]
    simp only [decodeFrom_of_completes hcompletes, Char.ofNat_toNat,
      List.length_cons]
    rw [Nat.add_comm bytes.length 1, Nat.add_assoc]

theorem exists_of_decodeFrom_cons {b : UInt8}
    (h : decodeFrom done none position (b :: bytes) = .ok s) :
    ∃ c rest position', b :: bytes = String.utf8EncodeChar c ++ rest ∧
      decodeFrom (c :: done) none position' rest = .ok s := by
  rw [decodeFrom] at h
  split at h
  · rename_i hlow
    have hscalar : IsScalar b.toNat := .inl (by omega)
    rcases exists_char hscalar with ⟨c, hc⟩
    rw [← hc, Char.ofNat_toNat] at h
    refine ⟨c, bytes, _, ?_, h⟩
    have hbytes : String.utf8EncodeChar c = [b] := by
      rw [utf8EncodeChar_eq_iff, numbers_one (by omega), hc]
      rfl
    rw [hbytes, List.singleton_append]
  · split at h
    · rename_i p hopening
      have hunder : 0 < p.missing := by
        rcases opening?_eq_some hopening with ⟨rfl, -⟩ | ⟨rfl, -⟩ | ⟨rfl, -⟩
        · exact Nat.succ_pos _
        · exact Nat.succ_pos _
        · exact Nat.succ_pos _
      rcases exists_of_decodeFrom hunder h with
        ⟨sequence, value, rest, hcompletes, hbytes, hrest⟩
      rcases exists_char_of_completes hopening hcompletes with ⟨c, rfl, hc⟩
      rw [Char.ofNat_toNat] at hrest
      exact ⟨c, rest, _, by rw [hc, hbytes, List.cons_append], hrest⟩
    · cases h

theorem decodeFrom_encode (done : List Char) (position : Nat) (s : List Char) :
    decodeFrom done none position (encode s) = .ok (done.reverse ++ s) := by
  induction s generalizing done position with
  | nil => rw [List.append_nil]; rfl
  | cons c s ih =>
      have hencode : encode (c :: s) = String.utf8EncodeChar c ++ encode s :=
        List.flatMap_cons
      rw [hencode, decodeFrom_utf8EncodeChar, ih, List.reverse_cons,
        List.append_assoc, List.singleton_append]

theorem eq_encode_of_decodeFrom
    (h : decodeFrom done none position bytes = .ok s) :
    ∃ t, s = done.reverse ++ t ∧ bytes = encode t := by
  -- A character takes several bytes, so the induction is on how many are left.
  induction hlength : bytes.length using Nat.strongRecOn
    generalizing bytes done position with
  | ind length ih =>
      cases bytes with
      | nil =>
          cases h
          exact ⟨[], (List.append_nil _).symm, rfl⟩
      | cons b bytes =>
          rcases exists_of_decodeFrom_cons h with
            ⟨c, rest, position', hbytes, hrest⟩
          have hshorter : rest.length < length := by
            have hpos :=
              List.length_pos_iff.2 (String.utf8EncodeChar_ne_nil (c := c))
            rw [← hlength, hbytes, List.length_append]
            omega
          rcases ih _ hshorter hrest rfl with ⟨t, rfl, rfl⟩
          refine ⟨c :: t, ?_, hbytes⟩
          rw [List.reverse_cons, List.append_assoc, List.singleton_append]

/-- Bytes are decoded to a text exactly if they are the bytes in which that text
is written. -/
theorem decode_eq_ok_iff : decode bytes = .ok s ↔ bytes = encode s := by
  constructor
  · intro h
    rcases eq_encode_of_decodeFrom h with ⟨t, rfl, rfl⟩
    rfl
  · intro h
    rw [h]
    exact decodeFrom_encode [] 0 s

end Texts

end Utf8
end Text
end SiteAudit
