/-!
# Decimal numerals

Numerals in base ten without leading zeros, with a minus sign in front of
negative numbers, and the number that a run of digits stands for.  Main
statement: a written natural number reads back.

A numeral has a largest number of digits, whether it is read or written.  An
integer that is handed in to be written carries the proof that it has no more.
-/

namespace SiteAudit
namespace Text

/-- How many digits of an integer are read or written. -/
def maxDigits : Nat := 4300

def digit (n : Nat) : Char :=
  Char.ofNat (48 + n)

def isDigit (c : Char) : Bool :=
  '0' ≤ c && c ≤ '9'

def digitsOf (n : Nat) : List Char :=
  if n < 10 then [digit n] else digitsOf (n / 10) ++ [digit (n % 10)]

def numberOf (s : List Char) : Nat :=
  s.foldl (fun n c => 10 * n + (c.toNat - 48)) 0

def numeral : Int → List Char
  | .ofNat n => digitsOf n
  | .negSucc n => '-' :: digitsOf (n + 1)

def natural (n : Nat) : String :=
  String.ofList (digitsOf n)

def integer (n : Int) : String :=
  String.ofList (numeral n)

theorem toNat_digit {n : Nat} (h : n < 10) : (digit n).toNat = 48 + n := by
  have : ∀ m < 10, (digit m).toNat = 48 + m := by decide
  exact this n h

theorem isDigit_digit {n : Nat} (h : n < 10) : isDigit (digit n) = true := by
  have : ∀ m < 10, isDigit (digit m) = true := by decide
  exact this n h

@[simp] theorem numberOf_digitsOf (n : Nat) : numberOf (digitsOf n) = n := by
  fun_induction digitsOf n with
  | case1 n h =>
      rw [numberOf, List.foldl_cons, List.foldl_nil, toNat_digit h]
      omega
  | case2 n h ih =>
      rw [numberOf, List.foldl_append, ← numberOf, ih, List.foldl_cons,
        List.foldl_nil, toNat_digit (Nat.mod_lt n (by omega))]
      omega

theorem isDigit_of_mem_digitsOf {n : Nat} {c : Char} (h : c ∈ digitsOf n) :
    isDigit c = true := by
  fun_induction digitsOf n with
  | case1 n hn =>
      rw [List.mem_singleton.1 h]
      exact isDigit_digit hn
  | case2 n hn ih =>
      rcases List.mem_append.1 h with h | h
      · exact ih h
      · rw [List.mem_singleton.1 h]
        exact isDigit_digit (Nat.mod_lt n (by omega))

theorem length_digitsOf_le {n count : Nat} (positive : 0 < count)
    (h : n < Nat.pow 10 count) : (digitsOf n).length ≤ count := by
  fun_induction digitsOf n generalizing count with
  | case1 n hn => exact positive
  | case2 n hn ih =>
      cases count with
      | zero => exact absurd positive (Nat.lt_irrefl 0)
      | succ count =>
          have hpow : Nat.pow 10 (count + 1) = Nat.pow 10 count * 10 := rfl
          have hleft : n / 10 < Nat.pow 10 count := by omega
          have hmore : 0 < count := by
            cases count with
            | zero =>
                have hzero : n / 10 < 1 := hleft
                omega
            | succ count => exact Nat.succ_pos count
          rw [List.length_append, List.length_singleton]
          exact Nat.succ_le_succ (ih hmore hleft)

end Text

/-- An integer that can be written. -/
structure WritableInt where
  value : Int
  writable : (Text.digitsOf value.natAbs).length ≤ Text.maxDigits
  deriving DecidableEq, Repr

namespace WritableInt

def text (n : WritableInt) : String :=
  Text.integer n.value

def ofInt? (n : Int) : Option WritableInt :=
  if h : (Text.digitsOf n.natAbs).length ≤ Text.maxDigits then some ⟨n, h⟩
  else none

def largest : Nat :=
  Nat.pow 10 Text.maxDigits - 1

theorem pow_pred_lt (count : Nat) : Nat.pow 10 count - 1 < Nat.pow 10 count :=
  Nat.sub_lt (Nat.pow_pos (by decide)) Nat.one_pos

theorem nine_le_pow_pred {count : Nat} (positive : 0 < count) :
    9 ≤ Nat.pow 10 count - 1 :=
  Nat.sub_le_sub_right (Nat.pow_le_pow_right (Nat.succ_pos 9) positive) 1

/-- A count of things at hand.  No count comes near the largest integer that
can be written, which stands for those beyond. -/
def ofNat (n : Nat) : WritableInt where
  value := (min n largest : Nat)
  writable :=
    Text.length_digitsOf_le (by decide)
      (Nat.lt_of_le_of_lt (Nat.min_le_right n largest)
        (pow_pred_lt Text.maxDigits))

instance (n : Nat) : OfNat WritableInt n := ⟨ofNat n⟩

theorem ofInt?_eq_some_iff {m : Int} {n : WritableInt} :
    ofInt? m = some n ↔ n.value = m := by
  unfold ofInt?
  constructor
  · intro h
    split at h
    · cases h
      rfl
    · cases h
  · intro h
    subst h
    exact dif_pos n.writable

theorem value_ofNat {n : Nat} (h : n ≤ largest) : (ofNat n).value = n := by
  have hmin : min n largest = n := Nat.min_eq_left h
  exact congrArg Int.ofNat hmin

theorem text_ofNat {n : Nat} (h : n ≤ largest) :
    (ofNat n).text = Text.natural n :=
  congrArg Text.integer (value_ofNat h)

theorem value_ofNat_le (n : Nat) : (ofNat n).value ≤ n :=
  Int.ofNat_le.2 (Nat.min_le_left n largest)

theorem value_ofNat_mono {m n : Nat} (h : m ≤ n) :
    (ofNat m).value ≤ (ofNat n).value := by
  apply Int.ofNat_le.2
  exact Nat.le_min.2 ⟨Nat.le_trans (Nat.min_le_left _ _) h,
    Nat.min_le_right _ _⟩

theorem le_largest {n : Nat} (h : n ≤ 9) : n ≤ largest :=
  Nat.le_trans h (nine_le_pow_pred (by decide))

theorem one_le_value_ofNat {n : Nat} (h : 1 ≤ n) : 1 ≤ (ofNat n).value :=
  Int.ofNat_le.2 (Nat.le_min.2 ⟨h, le_largest (by decide)⟩)

end WritableInt

end SiteAudit
