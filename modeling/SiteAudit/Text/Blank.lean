/-!
# Blanks and words

The blanks are the characters that separate words in any script: the ASCII
blanks with the four information separators, the next-line control, and the
spaces and line separators of the general category.  The zero-width characters
are no blanks.

A text's words are its maximal runs without blanks.  The statements below say
that every word is a nonempty run without blanks and that a blank between two
texts keeps their words apart.
-/

namespace SiteAudit
namespace Text

def isBlank (c : Char) : Bool :=
  let n := c.toNat
  (9 ≤ n && n ≤ 13) || (28 ≤ n && n ≤ 32) || n == 0x85 || n == 0xA0 ||
    n == 0x1680 ||
    (0x2000 ≤ n && n ≤ 0x200A) || n == 0x2028 || n == 0x2029 || n == 0x202F ||
      n == 0x205F || n == 0x3000

def isInk (c : Char) : Bool :=
  !isBlank c

theorem length_dropWhile_le (p : Char → Bool) (s : List Char) :
    (s.dropWhile p).length ≤ s.length :=
  (List.dropWhile_suffix p).length_le

def words (s : List Char) : List (List Char) :=
  match _h : s.dropWhile isBlank with
  | [] => []
  | c :: rest => (c :: rest.takeWhile isInk) :: words (rest.dropWhile isInk)
termination_by s.length
decreasing_by
  have h1 := length_dropWhile_le isBlank s
  have h2 := length_dropWhile_le isInk rest
  rw [_h] at h1
  simp at h1
  omega

def wordsOf (s : String) : List String :=
  (words s.toList).map String.ofList

def trim (p : Char → Bool) (s : List Char) : List Char :=
  ((s.dropWhile p).reverse.dropWhile p).reverse

def strip (s : List Char) : List Char :=
  trim isBlank s

def stripped (s : String) : String :=
  String.ofList (strip s.toList)

def hasInk (s : String) : Bool :=
  s.toList.any isInk

def joinWords (ws : List String) : String :=
  " ".intercalate ws

@[simp] theorem words_nil : words [] = [] := by
  rw [words]
  simp

theorem isBlank_head_dropWhile {s rest : List Char} {c : Char}
    (h : s.dropWhile isBlank = c :: rest) :
    isBlank c = false := by
  have := List.head?_dropWhile_not isBlank s
  rw [h] at this
  simpa using this

theorem words_of_dropWhile_eq_nil {s : List Char}
    (h : s.dropWhile isBlank = []) : words s = [] := by
  rw [words]
  split
  · rfl
  · simp_all

theorem words_of_dropWhile_eq_cons {s rest : List Char} {c : Char}
    (h : s.dropWhile isBlank = c :: rest) :
    words s = (c :: rest.takeWhile isInk) :: words (rest.dropWhile isInk) := by
  rw [words]
  split
  · simp_all
  · rename_i heq
    rw [h] at heq
    simp only [List.cons.injEq] at heq
    obtain ⟨rfl, rfl⟩ := heq
    rfl

theorem words_cons_blank {b : Char} (hb : isBlank b = true) (s : List Char) :
    words (b :: s) = words s := by
  have hd : (b :: s).dropWhile isBlank = s.dropWhile isBlank := by simp [hb]
  cases h : s.dropWhile isBlank with
  | nil =>
      rw [words_of_dropWhile_eq_nil h, words_of_dropWhile_eq_nil (hd.trans h)]
  | cons c rest =>
      rw [words_of_dropWhile_eq_cons h, words_of_dropWhile_eq_cons (hd.trans h)]

theorem words_cons_ink {c : Char} (hc : isBlank c = false) (s : List Char) :
    words (c :: s) = (c :: s.takeWhile isInk) :: words (s.dropWhile isInk) :=
  words_of_dropWhile_eq_cons (by simp [hc])

theorem ink_of_mem_words {s w : List Char} (h : w ∈ words s) :
    w ≠ [] ∧ ∀ c ∈ w, isBlank c = false := by
  fun_induction words s with
  | case1 => simp at h
  | case2 s c rest hd ih =>
      cases List.mem_cons.1 h with
      | inl h =>
          subst h
          refine ⟨by simp, fun d hm => ?_⟩
          cases List.mem_cons.1 hm with
          | inl hm => exact hm ▸ isBlank_head_dropWhile hd
          | inr hm =>
              have := List.all_takeWhile (p := isInk) (l := rest)
              have := List.all_eq_true.1 this d hm
              simpa [isInk] using this
      | inr h => exact ih h

theorem takeWhile_append_stop {p : Char → Bool} {b : Char} (hb : p b = false)
    (s t : List Char) :
    (s ++ b :: t).takeWhile p = s.takeWhile p := by
  induction s with
  | nil => simp [hb]
  | cons c s ih =>
      cases hc : p c with
      | true => simp [hc, ih]
      | false => simp [hc]

theorem dropWhile_append_stop {p : Char → Bool} {b : Char} (hb : p b = false)
    (s t : List Char) :
    (s ++ b :: t).dropWhile p = s.dropWhile p ++ b :: t := by
  induction s with
  | nil => simp [hb]
  | cons c s ih =>
      cases hc : p c with
      | true => simp [hc, ih]
      | false => simp [hc]

theorem words_append_blank {b : Char} (hb : isBlank b = true)
    (s t : List Char) :
    words (s ++ b :: t) = words s ++ words t := by
  have hb' : isInk b = false := by simp [isInk, hb]
  fun_induction words s with
  | case1 s hd =>
      induction s with
      | nil => exact words_cons_blank hb t
      | cons c s ih =>
          cases hc : isBlank c with
          | false => simp [hc] at hd
          | true =>
              rw [List.cons_append, words_cons_blank hc]
              exact ih (by simpa [hc] using hd)
  | case2 s c rest hd ih =>
      have hd' : (s ++ b :: t).dropWhile isBlank = c :: (rest ++ b :: t) := by
        rw [List.dropWhile_append, hd]
        simp
      rw [words_of_dropWhile_eq_cons hd', takeWhile_append_stop hb',
        dropWhile_append_stop hb', ih, List.cons_append]

end Text
end SiteAudit
