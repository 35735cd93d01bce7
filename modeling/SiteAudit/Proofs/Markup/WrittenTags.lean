import SiteAudit.Markup.Lexer
import SiteAudit.Proofs.Markup.Writer

/-!
# Reading what is written

What the writer writes for a value, an attribute, a row of attributes or a tag
is read just so, and reading stops where it ends.
-/

namespace SiteAudit
namespace Markup

section Run

variable {p : Char → Bool} {word : List Char} {stop : Char}

theorem takeWhile_run (hword : ∀ c ∈ word, p c = true) (hstop : p stop = false)
    (rest : List Char) :
    (word ++ stop :: rest).takeWhile p = word := by
  rw [List.takeWhile_append_of_pos hword, List.takeWhile_cons, hstop]
  exact List.append_nil word

theorem dropWhile_run (hword : ∀ c ∈ word, p c = true) (hstop : p stop = false)
    (rest : List Char) :
    (word ++ stop :: rest).dropWhile p = stop :: rest := by
  rw [List.dropWhile_append_of_pos hword, List.dropWhile_cons, hstop]
  rfl

end Run

/-!
## References in values
-/

theorem toNat_of_isAlpha {c : Char} (h : c.isAlpha = true) :
    65 ≤ c.toNat ∧ c.toNat ≤ 122 := by
  rcases Bool.or_eq_true_iff.1 h with hupper | hlower
  · have hbounds := of_decide_eq_true hupper
    have hhigh : c.toNat ≤ 90 := UInt32.le_iff_toNat_le.1 hbounds.2
    exact ⟨UInt32.le_iff_toNat_le.1 hbounds.1, Nat.le_trans hhigh (by decide)⟩
  · have hbounds := toNat_of_isLower hlower
    exact ⟨Nat.le_trans (by decide) hbounds.1, hbounds.2⟩

theorem ne_of_isAlpha {c d : Char} (h : c.isAlpha = true)
    (hd : d.isAlpha = false) : c ≠ d := by
  rintro rfl
  rw [h] at hd
  cases hd

theorem isNameInValue_of_isAlpha {c : Char} (h : c.isAlpha = true) :
    Reference.isNameInValue c = true := by
  have hcode : c.toNat ≠ 0xC := by
    have hbounds := toNat_of_isAlpha h
    omega
  simp only [Reference.isNameInValue, Bool.not_eq_true', Bool.or_eq_false_iff,
    beq_eq_false_iff_ne, and_assoc]
  exact ⟨ne_of_isAlpha h rfl, ne_of_isAlpha h rfl, hcode, ne_of_isAlpha h rfl,
    ne_of_isAlpha h rfl,
    ne_of_isAlpha h rfl, ne_of_isAlpha h rfl, ne_of_isAlpha h rfl⟩

theorem inValue?_name {c : Char} {name : List Char}
    (h : referenceName? c = some name) (rest : List Char) :
    Reference.inValue? (name ++ ';' :: rest) = .ok (some ([c], rest)) := by
  rcases reference_of_name h with ⟨hne, hshort, halpha, hexpansion⟩
  have hname :
      ((name ++ ';' :: rest).take 32).takeWhile Reference.isNameInValue =
        name := by
    have htake :
        (name ++ ';' :: rest).take 32 =
          name ++ ';' :: rest.take (31 - name.length) := by
      have hlength : 32 - name.length = 31 - name.length + 1 := by omega
      rw [List.take_append, List.take_of_length_le (by omega), hlength,
        List.take_succ_cons]
    rw [htake]
    exact takeWhile_run (fun d hd =>
      isNameInValue_of_isAlpha (halpha d hd)) rfl _
  have hnumber : ∀ rest', name ++ ';' :: rest ≠ '#' :: rest' := by
    cases name with
    | nil => exact absurd rfl hne
    | cons first name =>
        intro rest' heq
        rw [List.cons_append, List.cons.injEq] at heq
        exact ne_of_isAlpha (halpha first List.mem_cons_self)
          (show '#'.isAlpha = false from rfl) heq.1
  unfold Reference.inValue?
  split
  · rename_i heq
    exact absurd heq (hnumber _)
  · simp only [hname, List.isEmpty_iff, hne, if_false, List.drop_left]
    simp [Reference.dropSemicolon, Reference.namedInValue, hexpansion]

theorem resolveFrom_escape (done s : List Char) :
    Reference.resolveFrom done (escape s) = .ok (done.reverse ++ s) := by
  induction s generalizing done with
  | nil =>
      rw [escape, List.flatMap_nil, Reference.resolveFrom, List.append_nil]
  | cons c s ih =>
      rw [escape_cons]
      cases hname : referenceName? c with
      | none =>
          have hamp : ¬(c == '&') = true := by
            rw [beq_iff_eq]
            exact (referenceName?_eq_none hname).1
          rw [escapeChar_of_none hname, List.singleton_append,
            Reference.resolveFrom, if_neg hamp, ih, List.reverse_cons,
            List.append_assoc]
          rfl
      | some name =>
          rw [escapeChar_of_name hname, List.cons_append, List.cons_append,
            List.append_assoc, Reference.resolveFrom,
            if_pos (beq_self_eq_true '&'), List.singleton_append]
          have hread := inValue?_name hname (escape s)
          split
          · rename_i e herror
            rw [hread] at herror
            cases herror
          · rename_i text after hok
            rw [hread] at hok
            cases hok
            rw [ih, List.reverse_append, List.append_assoc]
            rfl
          · rename_i hok
            rw [hread] at hok
            cases hok

theorem resolve_escape (s : List Char) : Reference.resolve (escape s) = .ok s :=
  resolveFrom_escape [] s

/-!
## Attributes
-/

theorem startsAttribute_of_isNameChar {c : Char} (h : isNameChar c = true) :
    startsAttribute c = true := by
  simp only [startsAttribute, Bool.not_eq_true', Bool.or_eq_false_iff,
    beq_eq_false_iff_ne]
  exact ⟨⟨isBlank_of_isNameChar h, ne_of_isNameChar h rfl⟩,
    ne_of_isNameChar h rfl⟩

theorem continuesName_of_isNameChar {c : Char} (h : isNameChar c = true) :
    continuesName c = true :=
  Bool.and_eq_true_iff.2 ⟨startsAttribute_of_isNameChar h,
    bne_iff_ne.2 (ne_of_isNameChar h rfl)⟩

theorem endsTagName_of_isNameChar {c : Char} (h : isNameChar c = true) :
    endsTagName c = false := by
  have hcode := toNat_of_isNameChar h
  simp only [endsTagName, Bool.or_eq_false_iff, beq_eq_false_iff_ne, and_assoc]
  refine ⟨ne_of_isNameChar h rfl, ne_of_isNameChar h rfl,
    ne_of_isNameChar h rfl, ne_of_isNameChar h rfl,
    ne_of_isNameChar h rfl, ne_of_isNameChar h rfl, ?_, ?_⟩
  · omega
  · omega

theorem gapLength_eq_zero {c : Char} (h : startsAttribute c = true)
    (s : List Char) : gapLength (c :: s) = 0 := by
  simp only [startsAttribute, Bool.not_eq_true', Bool.or_eq_false_iff,
    and_assoc] at h
  rw [gapLength, h.1, h.2.1]
  rfl

theorem gapLength_blank {c : Char} (h : startsAttribute c = true)
    (s : List Char) : gapLength (' ' :: c :: s) = 1 := by
  have hblank :
      (Text.isBlank ' ' || (' ' == '/' && (c :: s).head? != some '>')) = true :=
        rfl
  rw [gapLength, if_pos hblank, gapLength_eq_zero h]

theorem quotedValue?_written {value : List Char} (h : '"' ∉ value)
    (rest : List Char) :
    quotedValue? ('"' :: (value ++ '"' :: rest)) = some value := by
  have hrun : ∀ c ∈ value, (c != '"') = true := by
    intro c hc
    rw [bne_iff_ne]
    rintro rfl
    exact h hc
  have hcontains : (value ++ '"' :: rest).contains '"' = true := by simp
  have hquote :
      (isQuote '"' && (value ++ '"' :: rest).contains '"') = true := by
    rw [hcontains]
    rfl
  rw [quotedValue?, if_pos hquote, takeWhile_run hrun (bne_self_eq_false _)]

theorem readValue?_written {value : List Char} (h : '"' ∉ value)
    (rest : List Char) :
    readValue? ('=' :: '"' :: (value ++ '"' :: rest)) =
      some ⟨value.length + 3, value⟩ := by
  have hblank : Text.isBlank '=' = false := rfl
  have hquote : Text.isBlank '"' = false := rfl
  have hsign : ('"' == '=') = false := rfl
  simp only [readValue?, List.takeWhile_cons, List.dropWhile_cons, hblank,
    hquote, hsign, beq_self_eq_true, Bool.false_eq_true, if_false, if_true,
    quotedValue?_written h]
  simp
  omega

def Attribute.pair (a : Attribute) : List Char × List Char :=
  (a.name.toList, escape a.writtenText.toList)

theorem Attribute.markup_append (a : Attribute) (rest : List Char) :
    a.markup ++ rest = a.pair.1 ++ '=' :: '"' :: (a.pair.2 ++ '"' :: rest) := by
  rw [markup, pair, List.append_assoc, List.append_assoc, List.cons_append,
    List.cons_append, List.singleton_append]

theorem Attribute.length_markup (a : Attribute) :
    a.markup.length = a.pair.1.length + (a.pair.2.length + 3) := by
  have h := congrArg List.length (a.markup_append [])
  simpa using h

theorem readAttribute?_written {a : Attribute} (h : a.Writable)
    {previous : Char} (hadmits : admitsAttribute previous = true)
    (rest : List Char) :
    ∃ r, readAttribute? previous (a.markup ++ rest) = some r ∧
      r.used = a.markup.length + gapLength rest ∧
      (r.name, r.value) = a.pair := by
  rcases h.exists_cons with ⟨first, name, hname, hfirst, hkind⟩
  have hpair : a.pair.1 = first :: name := hname
  have hstarts :
      (admitsAttribute previous && startsAttribute first) = true := by
    rw [hadmits, startsAttribute_of_isNameChar hfirst]
    rfl
  have hrun : ∀ c ∈ name, continuesName c = true :=
    fun c hc => continuesName_of_isNameChar (hkind c hc)
  have hstop : continuesName '=' = false := rfl
  have hquote : '"' ∉ a.pair.2 := quote_notMem_escape a.writtenText.toList
  have hdrop :
      ('=' :: '"' :: (a.pair.2 ++ '"' :: rest)).drop (a.pair.2.length + 3) =
        rest := by
    rw [List.drop_succ_cons, List.drop_succ_cons, ← List.singleton_append,
      ← List.append_assoc]
    exact List.drop_left' (by simp)
  simp only [a.markup_append, hpair, List.cons_append, readAttribute?, hstarts,
    if_true, takeWhile_run hrun hstop, dropWhile_run hrun hstop,
    readValue?_written hquote, Option.getD_some, hdrop]
  refine ⟨_, rfl, ?_, ?_⟩
  · rw [a.length_markup, hpair, List.length_cons, Nat.add_comm name.length 1]
  · rw [← hpair]

/-!
## Rows of attributes
-/

theorem rowMarkup_cons (a : Attribute) (attributes : List Attribute) :
    rowMarkup (a :: attributes) =
      ' ' :: (a.markup ++ rowMarkup attributes) := by
  rw [rowMarkup, List.flatMap_cons, List.cons_append]
  rfl

theorem readAttributes_closing (previous : Char) (rest : List Char) :
    readAttributes previous ('>' :: rest) = ⟨0, []⟩ := by
  have hstarts : (admitsAttribute previous && startsAttribute '>') = false :=
    Bool.and_false _
  rw [readAttributes, readAttribute?, hstarts]
  rfl

/-- Behind an attribute that ends with the character `last`, reading goes on as
it does behind that character. -/
theorem readAttributes_cons {previous last : Char} {source rest : List Char}
    {r : AttributeReading}
    (h : readAttribute? previous (source ++ last :: rest) = some r)
    (hused : r.used = source.length + 1) :
    readAttributes previous (source ++ last :: rest) =
      ⟨r.used + (readAttributes last rest).used,
        (r.name, r.value) :: (readAttributes last rest).attributes⟩ := by
  have hsplit : source ++ last :: rest = source ++ [last] ++ rest := by simp
  have htake : (source ++ last :: rest).take r.used = source ++ [last] := by
    rw [hsplit, hused]
    exact List.take_left' (by simp)
  have hdrop : (source ++ last :: rest).drop r.used = rest := by
    rw [hsplit, hused]
    exact List.drop_left' (by simp)
  have hlast : ∀ c, ((source ++ [last]).getLast?).getD c = last := by simp
  cases hs : source ++ last :: rest with
  | nil => simp at hs
  | cons c s =>
      rw [hs] at h htake hdrop
      simp only [readAttributes, h, htake, hdrop, hlast]

theorem readAttributes_written {a : Attribute} {attributes : List Attribute}
    (h : ∀ b ∈ a :: attributes, b.Writable) {previous : Char}
    (hadmits : admitsAttribute previous = true) (rest : List Char) :
    readAttributes previous (a.markup ++
      (rowMarkup attributes ++ '>' :: rest)) =
      ⟨(a.markup ++ rowMarkup attributes).length,
        (a :: attributes).map Attribute.pair⟩ := by
  induction attributes generalizing a previous with
  | nil =>
      rcases readAttribute?_written (h a List.mem_cons_self) hadmits
        ('>' :: rest) with ⟨r, hread, hused, hpair⟩
      -- The last character of an attribute is its closing quote.
      have hsource : a.markup ++ '>' :: rest = (a.pair.1 ++ '=' :: '"' ::
          a.pair.2) ++ '"' :: '>' :: rest := by
        rw [a.markup_append, List.append_assoc]
        rfl
      have hend : gapLength ('>' :: rest) = 0 := rfl
      have hlength : (a.pair.1 ++ '=' :: '"' :: a.pair.2).length + 1 =
          a.markup.length := by
        rw [a.length_markup, List.length_append, List.length_cons,
          List.length_cons]
        omega
      rw [hend, Nat.add_zero] at hused
      rw [hsource] at hread
      rw [rowMarkup, List.flatMap_nil, List.nil_append, hsource,
        readAttributes_cons hread (hused.trans hlength.symm),
        readAttributes_closing, hused, hpair, List.append_nil]
      rfl
  | cons b attributes ih =>
      have hothers := (List.forall_mem_cons.1 h).2
      rcases readAttribute?_written (h a List.mem_cons_self) hadmits
        (' ' :: (b.markup ++ (rowMarkup attributes ++ '>' :: rest))) with
          ⟨r, hread, hused, hpair⟩
      have hgap : gapLength (' ' ::
          (b.markup ++ (rowMarkup attributes ++ '>' :: rest))) = 1 := by
        rcases (hothers b List.mem_cons_self).exists_cons with
          ⟨first, name, hname, hfirst, -⟩
        have hfirstpair : b.pair.1 = first :: name := hname
        rw [b.markup_append, hfirstpair]
        exact gapLength_blank (startsAttribute_of_isNameChar hfirst) _
      rw [hgap] at hused
      have hmore := ih hothers (show admitsAttribute ' ' = true from rfl)
      have hlength :
          (a.markup ++ ' ' :: (b.markup ++ rowMarkup attributes)).length =
          a.markup.length + 1 + (b.markup ++ rowMarkup attributes).length := by
        rw [List.length_append, List.length_cons]
        omega
      rw [rowMarkup_cons, List.cons_append, List.append_assoc,
        readAttributes_cons hread hused, hmore, hused, hpair, hlength]
      rfl

/-!
## Tags
-/

theorem gap_before_attribute {a : Attribute} (h : a.Writable)
    (rest : List Char) :
    (' ' :: (a.markup ++ rest)).takeWhile (fun c => Text.isBlank c ||
      c == '/') = [' '] ∧
      (' ' :: (a.markup ++ rest)).dropWhile (fun c => Text.isBlank c ||
        c == '/') = a.markup ++ rest := by
  rcases h.exists_cons with ⟨first, name, hname, hfirst, -⟩
  have hpair : a.pair.1 = first :: name := hname
  have hstop : (Text.isBlank first || first == '/') = false :=
    Bool.or_eq_false_iff.2 ⟨isBlank_of_isNameChar hfirst,
      beq_eq_false_iff_ne.2 (ne_of_isNameChar hfirst rfl)⟩
  have hblank : ∀ c ∈ [' '], (Text.isBlank c || c == '/') = true :=
    List.forall_mem_singleton.2 rfl
  rw [a.markup_append, hpair, List.cons_append, ← List.singleton_append]
  exact ⟨takeWhile_run hblank hstop _, dropWhile_run hblank hstop _⟩

theorem readStartTag_written {name : String} {attributes : List Attribute}
    (h : Sayable name attributes) (rest : List Char) :
    let tag :=
      readStartTag (name.toList ++ (rowMarkup attributes ++ '>' :: rest))
    tag.used = (startMarkup name attributes).length ∧ tag.name = name.toList ∧
      tag.attributes = attributes.map Attribute.pair ∧
        tag.ending = .closed false := by
  have hname : ∀ c ∈ name.toList, (!endsTagName c) = true := by
    intro c hc
    rw [endsTagName_of_isNameChar (h.isNameChar c hc)]
    rfl
  have hclosing : Text.isBlank '>' = false := rfl
  cases attributes with
  | nil =>
      have hstop : (!endsTagName '>') = false := rfl
      simp only [rowMarkup, List.flatMap_nil, List.nil_append, readStartTag,
        takeWhile_run hname hstop, dropWhile_run hname hstop,
        List.takeWhile_cons, List.dropWhile_cons, hclosing]
      simp [readAttributes_closing, startMarkup, rowMarkup, hclosing]
  | cons a attributes =>
      have hstop : (!endsTagName ' ') = false := rfl
      rcases gap_before_attribute (h.writable a List.mem_cons_self)
        (rowMarkup attributes ++ '>' :: rest) with
        ⟨htake, hdrop⟩
      have hadmits :
          admitsAttribute ((some ' ' <|> name.toList.getLast?).getD '<') =
            true := rfl
      have hbehind : (a.markup ++ (rowMarkup attributes ++ '>' :: rest)).drop
          (a.markup ++ rowMarkup attributes).length = '>' :: rest := by
        rw [← List.append_assoc]
        exact List.drop_left
      simp only [rowMarkup_cons, List.cons_append, List.append_assoc,
        readStartTag, takeWhile_run hname hstop, dropWhile_run hname hstop,
        htake, hdrop, List.getLast?_singleton,
        readAttributes_written h.writable hadmits, hbehind, List.takeWhile_cons,
        hclosing]
      simp [startMarkup, rowMarkup_cons]
      omega

theorem resolveAttributes_written {attributes : List Attribute}
    (h : ∀ a ∈ attributes, a.Writable) :
    resolveAttributes (attributes.map Attribute.pair) =
      .ok (rowPairs attributes) := by
  induction attributes with
  | nil => rfl
  | cons a attributes ih =>
      rcases List.forall_mem_cons.1 h with ⟨ha, hothers⟩
      have hlower : Text.lower a.name = a.name :=
        lower_of_isSpelled (fun _ => id) ha.1
      rw [List.map_cons, Attribute.pair, resolveAttributes, resolve_escape,
        ih hothers, String.ofList_toList, hlower]
      exact congrArg (fun text =>
        Except.ok ((a.name, text) :: rowPairs attributes))
        String.ofList_toList

/-- A start tag is read, behind its opening bracket, as the name and the
attributes that it says. -/
theorem readStartTag?_written {name : String} {attributes : List Attribute}
    (h : Sayable name attributes) (rest : List Char) :
    ∃ r, readStartTag? (name.toList ++ (rowMarkup attributes ++ '>' :: rest)) =
      .ok (some r) ∧
      r.used = (startMarkup name attributes).length ∧
      r.token = some (.startTag name (rowPairs attributes) false) ∧
        r.mode = .markup := by
  rcases readStartTag_written h rest with ⟨hused, hname, hattributes, hending⟩
  have hlower : Text.lower name = name :=
    lower_of_isSpelled (fun _ => isNameChar_of_isTagChar) h.spelled
  have hordinary : rawElements.contains name = false :=
    Bool.eq_false_iff.2 (mt List.contains_iff_mem.1 h.ordinary)
  have hmode : (if (!false && rawElements.contains name) =
      true then Mode.raw name else .markup) = .markup := by
    rw [hordinary]
    rfl
  simp only [readStartTag?]
  rw [hending]
  simp only [hattributes, resolveAttributes_written h.writable]
  refine ⟨_, rfl, hused, ?_, ?_⟩
  · rw [hname, String.ofList_toList, hlower]
  · rw [hname, String.ofList_toList, hlower]
    exact hmode

theorem isAlpha_of_isLower {c : Char} (h : c.isLower = true) :
    c.isAlpha = true :=
  Bool.or_eq_true_iff.2 (.inr h)

theorem continuesEndName_of_isTagChar {c : Char} (h : isTagChar c = true) :
    continuesEndName c = true := by
  have halphanum : c.isAlphanum = true :=
    Bool.or_eq_true_iff.2
      ((Bool.or_eq_true_iff.1 h).imp_left isAlpha_of_isLower)
  simp only [continuesEndName, halphanum, Bool.true_or]

theorem plainEndName?_spelled {name : List Char}
    (h : isSpelled isTagChar name = true) :
    plainEndName? name = some name := by
  rcases exists_cons_of_isSpelled h with ⟨first, rest, rfl, hfirst, hkind⟩
  have hrest : ∀ c ∈ rest, continuesEndName c = true :=
    fun c hc => continuesEndName_of_isTagChar (hkind c hc)
  have hblank : Text.isBlank first = false :=
    isBlank_of_isNameChar (isNameChar_of_isLower hfirst)
  have hwhole : rest.takeWhile continuesEndName = rest ∧
      rest.dropWhile continuesEndName = [] := by
    have htake :=
      @List.takeWhile_append_of_pos Char continuesEndName rest [] hrest
    have hdrop :=
      @List.dropWhile_append_of_pos Char continuesEndName rest [] hrest
    rw [List.append_nil] at htake hdrop
    exact ⟨htake.trans (List.append_nil rest), hdrop⟩
  simp only [plainEndName?, List.dropWhile_cons, hblank, hwhole,
    isAlpha_of_isLower hfirst, Bool.false_eq_true, if_false]
  rfl

theorem endTagMeaning_spelled {name : List Char}
    (h : isSpelled isTagChar name = true) :
    endTagMeaning .markup name =
      (some (.endTag (Text.lower (String.ofList name))), .markup) := by
  unfold endTagMeaning
  rw [plainEndName?_spelled h]

/-- An end tag is read, behind its opening bracket and slash, as the name that
it says. -/
theorem readEndTag?_written {name : String}
    (h : isSpelled isTagChar name.toList = true) (rest : List Char) :
    ∃ r, readEndTag? .markup (name.toList ++ '>' :: rest) = some r ∧
      r.used = name.toList.length + 3 ∧
      r.token = some (.endTag name) ∧ r.mode = .markup := by
  have hkind := isNameChar_of_isSpelled (fun _ => isNameChar_of_isTagChar) h
  have hrun : ∀ c ∈ name.toList, (c != '>') = true :=
    fun c hc => bne_iff_ne.2 (ne_of_isNameChar (hkind c hc) rfl)
  have hcontains : (name.toList ++ '>' :: rest).contains '>' = true := by simp
  have hlower : Text.lower name = name :=
    lower_of_isSpelled (fun _ => isNameChar_of_isTagChar) h
  have hmeaning := endTagMeaning_spelled h
  rw [String.ofList_toList, hlower] at hmeaning
  rw [readEndTag?, if_pos hcontains]
  simp only [takeWhile_run hrun (bne_self_eq_false _), hmeaning]
  exact ⟨_, rfl, rfl, rfl, rfl⟩

end Markup
end SiteAudit
