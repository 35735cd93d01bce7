import SiteAudit.Proofs.Json.Reading

/-!
# Writing follows the grammar

What is written for a value is a text of the value, in any layout, and consists
of ASCII characters.  So it reads back, and different values have different
texts.
-/

namespace SiteAudit
namespace Json

def IsAscii (s : List Char) : Prop :=
  ∀ c ∈ s, c.toNat < 128

@[simp] theorem isAscii_nil : IsAscii [] :=
  fun _ hc => nomatch hc

@[simp] theorem isAscii_cons {c : Char} {s : List Char} :
    IsAscii (c :: s) ↔ c.toNat < 128 ∧ IsAscii s :=
  List.forall_mem_cons

@[simp] theorem isAscii_append {s s' : List Char} :
    IsAscii (s ++ s') ↔ IsAscii s ∧ IsAscii s' :=
  List.forall_mem_append

/-!
## Strings
-/

theorem hexValue?_hexDigit {n : Nat} (h : n < 16) :
    Text.hexValue? (Text.hexDigit n) = some n := by
  have hall : ∀ m < 16, Text.hexValue? (Text.hexDigit m) = some m := by decide
  exact hall n h

theorem toNat_hexDigit_lt {n : Nat} (h : n < 16) :
    (Text.hexDigit n).toNat < 128 := by
  have hall : ∀ m < 16, (Text.hexDigit m).toNat < 128 := by decide
  exact hall n h

theorem exists_of_mem_hexPadded {width n : Nat} {c : Char}
    (h : c ∈ Text.hexPadded width n) :
    ∃ m < 16, c = Text.hexDigit m := by
  induction width generalizing n with
  | zero => cases h
  | succ width ih =>
      rcases List.mem_append.1 h with h | h
      · exact ih h
      · exact ⟨n % 16, Nat.mod_lt n (by decide), List.mem_singleton.1 h⟩

theorem isUnit_hexPadded {n : Nat} (h : n < 0x10000) :
    IsUnit n (Text.hexPadded 4 n) where
  four := Text.length_hexPadded 4 n
  hexadecimal := by
    intro c hc
    rcases exists_of_mem_hexPadded hc with ⟨m, hm, rfl⟩
    rw [Text.isHexDigit, hexValue?_hexDigit hm]
    rfl
  value := by
    have hdigit :
        ∀ m, Text.hexValue? (Text.hexDigit (m % 16)) = some (m % 16) :=
      fun m => hexValue?_hexDigit (Nat.mod_lt m (by decide))
    simp only [Text.hexNumber, Text.hexPadded, List.nil_append,
      List.cons_append, List.foldl_cons, List.foldl_nil, hdigit,
      Option.getD_some]
    omega

theorem isAscii_hexPadded (width n : Nat) :
    IsAscii (Text.hexPadded width n) := by
  intro c hc
  rcases exists_of_mem_hexPadded hc with ⟨m, hm, rfl⟩
  exact toNat_hexDigit_lt hm

theorem isAscii_escapeUnit (n : Nat) : IsAscii (escapeUnit n) := by
  simp [escapeUnit, isAscii_hexPadded]

inductive IsEscapeOf (c : Char) : List Char → Prop
  | short {letter : Char} (listed : (letter, c) ∈ shortEscapes)
      (ascii : letter.toNat < 128) :
      IsEscapeOf c ['\\', letter]
  | plain (low : 32 ≤ c.toNat) (high : c.toNat ≤ 126) (quote : c ≠ '"')
      (backslash : c ≠ '\\') : IsEscapeOf c [c]
  | unit (small : c.toNat < 0x10000) : IsEscapeOf c (escapeUnit c.toNat)
  | pair (large : 0x10000 ≤ c.toNat) :
      IsEscapeOf c (escapeUnit (0xD800 + (c.toNat - 0x10000) / 0x400) ++
        escapeUnit (0xDC00 + (c.toNat - 0x10000) % 0x400))

theorem isEscapeOf_escapeChar (c : Char) : IsEscapeOf c (escapeChar c) := by
  have hcode : ∀ n, (c.toNat == n) = true → c = Char.ofNat n := by
    intro n h
    rw [← beq_iff_eq.1 h, Char.ofNat_toNat]
  unfold escapeChar
  by_cases hquote : (c == '"') = true
  · rw [if_pos hquote]
    exact .short (by rw [beq_iff_eq.1 hquote]; decide) (by decide)
  rw [if_neg hquote]
  by_cases hbackslash : (c == '\\') = true
  · rw [if_pos hbackslash]
    exact .short (by rw [beq_iff_eq.1 hbackslash]; decide) (by decide)
  rw [if_neg hbackslash]
  by_cases hfeed : (c == '\n') = true
  · rw [if_pos hfeed]
    exact .short (by rw [beq_iff_eq.1 hfeed]; decide) (by decide)
  rw [if_neg hfeed]
  by_cases hreturn : (c == '\r') = true
  · rw [if_pos hreturn]
    exact .short (by rw [beq_iff_eq.1 hreturn]; decide) (by decide)
  rw [if_neg hreturn]
  by_cases htab : (c == '\t') = true
  · rw [if_pos htab]
    exact .short (by rw [beq_iff_eq.1 htab]; decide) (by decide)
  rw [if_neg htab]
  by_cases hback : (c.toNat == 8) = true
  · rw [if_pos hback]
    exact .short (by rw [hcode 8 hback]; decide) (by decide)
  rw [if_neg hback]
  by_cases hform : (c.toNat == 12) = true
  · rw [if_pos hform]
    exact .short (by rw [hcode 12 hform]; decide) (by decide)
  rw [if_neg hform]
  by_cases hplain : (decide (32 ≤ c.toNat) && decide (c.toNat ≤ 126)) = true
  · rw [if_pos hplain]
    rw [Bool.and_eq_true, decide_eq_true_eq, decide_eq_true_eq] at hplain
    exact .plain hplain.1 hplain.2 (fun hc =>
      hquote (beq_iff_eq.2 hc)) (fun hc => hbackslash (beq_iff_eq.2 hc))
  rw [if_neg hplain]
  by_cases hsmall : c.toNat < 0x10000
  · rw [if_pos hsmall]
    exact .unit hsmall
  · rw [if_neg hsmall]
    exact .pair (Nat.not_lt.1 hsmall)

theorem IsEscapeOf.charDenotes {c : Char} {s : List Char} (h : IsEscapeOf c s) :
    CharDenotes c s := by
  cases h with
  | short listed ascii => exact .short listed
  | plain low high quote backslash => exact .plain low quote backslash
  | unit small => exact .unit (isUnit_hexPadded small)
  | pair large =>
      have hvalid : c.toNat < 0xD800 ∨ 0xDFFF < c.toNat ∧ c.toNat < 0x110000 :=
        c.valid
      have hhigh : (c.toNat - 0x10000) / 0x400 < 0x400 := by omega
      have hlow : (c.toNat - 0x10000) % 0x400 < 0x400 :=
        Nat.mod_lt _ (by decide)
      exact .pair hhigh hlow (by omega) (isUnit_hexPadded (by omega))
        (isUnit_hexPadded (by omega))

theorem IsEscapeOf.isAscii {c : Char} {s : List Char} (h : IsEscapeOf c s) :
    IsAscii s := by
  cases h with
  | short listed ascii => simp [ascii]
  | plain low high quote backslash =>
      simp [Nat.lt_succ_of_le (Nat.le_succ_of_le high)]
  | unit small => exact isAscii_escapeUnit _
  | pair large =>
      exact isAscii_append.2 ⟨isAscii_escapeUnit _, isAscii_escapeUnit _⟩

theorem charsDenote_escape (cs : List Char) :
    CharsDenote cs (cs.flatMap escapeChar) := by
  induction cs with
  | nil => exact .nil
  | cons c cs ih => exact .cons (isEscapeOf_escapeChar c).charDenotes ih

theorem stringDenotes_quote (s : String) : StringDenotes s (quote s) :=
  .quoted (charsDenote_escape s.toList)

theorem isAscii_quote (s : String) : IsAscii (quote s) := by
  have hchars : IsAscii (s.toList.flatMap escapeChar) := by
    intro c hc
    rcases List.mem_flatMap.1 hc with ⟨d, -, hd⟩
    exact (isEscapeOf_escapeChar d).isAscii c hd
  simp [quote, hchars]

/-!
## Numbers
-/

theorem digitsOf_ne_nil (n : Nat) : Text.digitsOf n ≠ [] := by
  unfold Text.digitsOf
  split
  · exact List.cons_ne_nil _ _
  · exact List.append_ne_nil_of_right_ne_nil _ (List.cons_ne_nil _ _)

theorem isDigits_digitsOf (n : Nat) : IsDigits (Text.digitsOf n) :=
  ⟨digitsOf_ne_nil n, fun _ => Text.isDigit_of_mem_digitsOf⟩

theorem head?_digitsOf_ne_zero {n : Nat} (h : 0 < n) :
    (Text.digitsOf n).head? ≠ some '0' := by
  fun_induction Text.digitsOf n with
  | case1 n hn =>
      have hall : ∀ m < 10, 0 < m → Text.digit m ≠ '0' := by decide
      intro heq
      exact hall n hn h (Option.some.inj heq)
  | case2 n hn ih =>
      rw [List.head?_append_of_ne_nil _ (digitsOf_ne_nil _)]
      exact ih (by omega)

theorem isWhole_digitsOf (n : Nat) : IsWhole (Text.digitsOf n) where
  toIsDigits := isDigits_digitsOf n
  unpadded := by
    intro hzero
    by_cases h : 0 < n
    · exact absurd hzero (head?_digitsOf_ne_zero h)
    · rw [Nat.eq_zero_of_not_pos h, Text.digitsOf]
      rfl

theorem numeral_eq (n : Int) :
    Text.numeral n = minus (decide (n < 0)) ++ Text.digitsOf n.natAbs := by
  cases n with
  | ofNat n => rfl
  | negSucc n =>
      have hsign : decide (Int.negSucc n < 0) = true :=
        decide_eq_true (Int.negSucc_lt_zero n)
      rw [hsign]
      rfl

theorem signed_natAbs (n : Int) : signed (decide (n < 0)) n.natAbs = n := by
  unfold signed
  split
  · rename_i h
    rw [decide_eq_true_eq] at h
    omega
  · rename_i h
    rw [decide_eq_true_eq] at h
    omega

theorem numberDenotes_numeral (n : WritableInt) :
    NumberDenotes (integer n) (Text.numeral n.value) := by
  rw [numeral_eq]
  apply NumberDenotes.integer (isWhole_digitsOf n.value.natAbs)
  rw [Text.numberOf_digitsOf, signed_natAbs]

theorem exponentDenotes_numeral (n : Int) :
    ExponentDenotes (some n) ('e' :: Text.numeral n) := by
  have h := @ExponentDenotes.signed 'e' (decide (n < 0)) _ (.inl rfl)
    (isDigits_digitsOf n.natAbs)
  rw [Text.numberOf_digitsOf, signed_natAbs, ← numeral_eq] at h
  exact h

theorem numberDenotes_decimal (negative : Bool) (mantissa : Nat)
    (exponent : Int) :
    NumberDenotes (decimal negative mantissa exponent)
      (minus negative ++ Text.digitsOf mantissa ++ 'e' ::
        Text.numeral exponent) := by
  have h := @NumberDenotes.decimal negative _ _ _ _ _
    (isWhole_digitsOf mantissa) .absent
    (exponentDenotes_numeral exponent) (.inr (Option.some_ne_none exponent))
  rw [List.append_nil, Text.numberOf_digitsOf] at h
  simpa using h

theorem isAscii_digitsOf (n : Nat) : IsAscii (Text.digitsOf n) := by
  intro c hc
  have h := Text.isDigit_of_mem_digitsOf hc
  rw [Text.isDigit, Bool.and_eq_true, decide_eq_true_eq, decide_eq_true_eq] at h
  have hnine : c.toNat ≤ 57 := UInt32.le_iff_toNat_le.1 h.2
  omega

theorem isAscii_minus (negative : Bool) : IsAscii (minus negative) := by
  cases negative <;> simp [minus]

theorem isAscii_numeral (n : Int) : IsAscii (Text.numeral n) := by
  rw [numeral_eq]
  exact isAscii_append.2 ⟨isAscii_minus _, isAscii_digitsOf _⟩

/-!
## Values
-/

theorem isBlank_break (l : Layout) (depth : Nat) : IsBlank (l.break depth) := by
  intro c hc
  cases l with
  | oneLine => cases hc
  | indented width =>
      rcases List.mem_cons.1 hc with rfl | hc
      · decide
      · rw [List.eq_of_mem_replicate hc]
        decide

theorem isAscii_of_isBlank {s : List Char} (h : IsBlank s) : IsAscii s := by
  intro c hc
  have hspace : isSpace c = true := h c hc
  simp only [isSpace, Bool.or_eq_true, beq_iff_eq] at hspace
  rcases hspace with ((rfl | rfl) | rfl) | rfl <;> decide

theorem isBlank_nil : IsBlank [] :=
  fun _ hc => nomatch hc

theorem isBlank_space : IsBlank [' '] := by
  intro c hc
  rw [List.mem_singleton.1 hc]
  decide

theorem isBlank_lineFeed : IsBlank ['\n'] := by
  intro c hc
  rw [List.mem_singleton.1 hc]
  decide

theorem exists_separator (l : Layout) (depth : Nat) :
    ∃ gap, IsBlank gap ∧ l.separator depth = ',' :: gap := by
  cases l with
  | oneLine => exact ⟨_, isBlank_space, rfl⟩
  | indented width => exact ⟨_, isBlank_break (.indented width) depth, rfl⟩

variable (l : Layout)

mutual

theorem denotes_print (depth : Nat) : (v : Json) → Denotes v (v.print l depth)
  | null => .null
  | flag true => .true
  | flag false => .false
  | integer n => .number (numberDenotes_numeral n)
  | decimal negative mantissa exponent =>
      .number (numberDenotes_decimal negative mantissa exponent)
  | text s => .text (stringDenotes_quote s)
  | list [] => .emptyList isBlank_nil
  | list (v :: vs) => by
      have h := itemsDenote_print (depth + 1) vs
        (isBlank_break l (depth + 1)) (denotes_print (depth + 1) v)
        (isBlank_break l depth)
      rw [print]
      simpa only [List.cons_append, List.append_assoc] using Denotes.list h
  | object [] => .emptyObject isBlank_nil
  | object ((name, v) :: ms) => by
      have h := membersDenote_print (depth + 1) ms name
        (isBlank_break l (depth + 1)) (denotes_print (depth + 1) v)
        (isBlank_break l depth)
      rw [print]
      simpa only [List.cons_append, List.append_assoc] using Denotes.object h

theorem itemsDenote_print (depth : Nat) :
    (vs : List Json) → {v : Json} → {before s after : List Char} →
    IsBlank before → Denotes v s → IsBlank after →
    ItemsDenote (v :: vs) (before ++ (s ++ (printItems l depth vs ++ after)))
  | [], _, _, _, _, hbefore, hv, hafter => .last (.padded hbefore hv hafter)
  | w :: vs, v, before, s, after, hbefore, hv, hafter => by
      rcases exists_separator l depth with ⟨gap, hgap, hseparator⟩
      have hrest :=
        itemsDenote_print depth vs hgap (denotes_print depth w) hafter
      rw [printItems, hseparator]
      simpa only [List.cons_append, List.nil_append, List.append_assoc] using
        ItemsDenote.cons (.padded hbefore hv isBlank_nil) hrest

theorem membersDenote_print (depth : Nat) :
    (ms : List (String × Json)) → (name : String) → {v : Json} →
    {before s after : List Char} → IsBlank before → Denotes v s →
    IsBlank after →
    MembersDenote ((name, v) :: ms)
      (before ++
        (quote name ++ ':' :: ' ' :: (s ++ (printMembers l depth ms ++ after))))
  | [], name, _, _, _, _, hbefore, hv, hafter => by
      rw [printMembers]
      simpa only [List.cons_append, List.nil_append, List.append_nil,
        List.append_assoc] using
        MembersDenote.last (.padded hbefore (stringDenotes_quote name)
          isBlank_nil) (.padded isBlank_space hv hafter)
  | (other, w) :: ms, name, v, before, s, after, hbefore, hv, hafter => by
      rcases exists_separator l depth with ⟨gap, hgap, hseparator⟩
      have hrest :=
        membersDenote_print depth ms other hgap (denotes_print depth w) hafter
      rw [printMembers, hseparator]
      simpa only [List.cons_append, List.nil_append, List.append_nil,
        List.append_assoc] using
        MembersDenote.cons
          (.padded hbefore (stringDenotes_quote name) isBlank_nil)
          (.padded isBlank_space hv isBlank_nil) hrest

end

theorem isAscii_break (depth : Nat) : IsAscii (l.break depth) :=
  isAscii_of_isBlank (isBlank_break l depth)

theorem isAscii_separator (depth : Nat) : IsAscii (l.separator depth) := by
  rcases exists_separator l depth with ⟨gap, hgap, hseparator⟩
  simp [hseparator, isAscii_of_isBlank hgap]

mutual

theorem isAscii_print (depth : Nat) : (v : Json) → IsAscii (v.print l depth)
  | null => by simp [print]
  | flag true => by simp [print]
  | flag false => by simp [print]
  | integer n => isAscii_numeral n.value
  | decimal negative mantissa exponent => by
      have hminus : IsAscii (if negative = true then ['-'] else []) :=
        isAscii_minus negative
      simp [print, hminus, isAscii_digitsOf, isAscii_numeral]
  | text s => isAscii_quote s
  | list [] => by simp [print]
  | list (v :: vs) => by
      simp [print, isAscii_break, isAscii_print (depth + 1) v,
        isAscii_printItems (depth + 1) vs]
  | object [] => by simp [print]
  | object ((name, v) :: ms) => by
      simp [print, isAscii_break, isAscii_quote, isAscii_print (depth + 1) v,
        isAscii_printMembers (depth + 1) ms]

theorem isAscii_printItems (depth : Nat) :
    (vs : List Json) → IsAscii (printItems l depth vs)
  | [] => isAscii_nil
  | v :: vs => by
      simp [printItems, isAscii_separator, isAscii_print depth v,
        isAscii_printItems depth vs]

theorem isAscii_printMembers (depth : Nat) :
    (ms : List (String × Json)) → IsAscii (printMembers l depth ms)
  | [] => isAscii_nil
  | (name, v) :: ms => by
      simp [printMembers, isAscii_separator, isAscii_quote,
        isAscii_print depth v, isAscii_printMembers depth ms]

end

theorem isAscii_render (v : Json) : IsAscii (v.render l).toList := by
  rw [render, String.toList_ofList]
  exact isAscii_print l 0 v

/-- What is rendered is a text of the value, and of no other value. -/
theorem isTextOf_render_iff (v w : Json) :
    IsTextOf w (v.render l).toList ↔ w = v := by
  have htext : IsTextOf v (v.render l).toList := by
    rw [render, String.toList_ofList, ← List.nil_append (v.print l 0),
      ← List.append_nil (v.print l 0)]
    exact .padded isBlank_nil (denotes_print l 0 v) isBlank_nil
  constructor
  · intro h
    exact Option.some.inj
      ((decode_of_isTextOf h).symm.trans (decode_of_isTextOf htext))
  · intro h
    rw [h]
    exact htext

theorem denotes_render_iff (v w : Json) :
    Denotes w (v.render l).toList ↔ w = v := by
  constructor
  · intro h
    have htext : IsTextOf w ([] ++ ((v.render l).toList ++ [])) :=
      .padded isBlank_nil h isBlank_nil
    rw [List.nil_append, List.append_nil] at htext
    exact (isTextOf_render_iff l v w).1 htext
  · intro h
    rw [h, render, String.toList_ofList]
    exact denotes_print l 0 v

theorem decode_render_lineFeed (v : Json) :
    decode (v.render l ++ "\n").toList = some v := by
  apply decode_of_isTextOf
  rw [String.toList_append, render, String.toList_ofList,
    ← List.nil_append (v.print l 0), List.append_assoc]
  exact .padded isBlank_nil (denotes_print l 0 v) isBlank_lineFeed

end Json
end SiteAudit
