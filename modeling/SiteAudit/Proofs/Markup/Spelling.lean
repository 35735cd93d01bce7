import SiteAudit.Proofs.Markup.Lexemes
import SiteAudit.Proofs.Markup.WrittenTags

/-!
# Cutting what is written

The markup of a forest is cut into the tokens that spell the forest: a start
tag, the tokens of the children, and an end tag for each element, and a few
pieces for each text.
-/

namespace SiteAudit
namespace Markup

/-- The tokens say what the forest is made of.  A text may come in several
pieces. -/
inductive Spells : Forest → List Token → Prop
  | nil : Spells .nil []
  | text {content : String} {rest : Forest} {pieces : List (List Char)}
      {ts : List Token}
      (hpieces : pieces.flatten = content.toList) (hrest : Spells rest ts) :
      Spells (.text content rest) (pieces.map .text ++ ts)
  | void {name : String} {attributes : List Attribute}
      {line : Option WritableInt} {rest : Forest} {ts : List Token}
      (hvoid : name ∈ voidElements) (hrest : Spells rest ts) :
      Spells (.element name attributes line .nil rest)
        (.startTag name (rowPairs attributes) false :: ts)
  | element {name : String} {attributes : List Attribute}
      {line : Option WritableInt} {children rest : Forest}
      {ts ts' : List Token} (hvoid : name ∉ voidElements)
      (hchildren : Spells children ts) (hrest : Spells rest ts') :
      Spells (.element name attributes line children rest)
        (.startTag name (rowPairs attributes) false ::
          (ts ++ .endTag name :: ts'))

/-- The first reading cuts the source, when the text goes on with the rest, into
lexemes that mean the tokens. -/
def CutsInto (source : List Char) (ts : List Token) (rest : List Char) : Prop :=
  ∃ ls : List Lexeme, ls.filterMap (·.token) = ts ∧
    ∀ done, scan false done .markup (source ++ rest) =
      scan false (ls.reverse ++ done) .markup rest

namespace CutsInto

theorem nil (rest : List Char) : CutsInto [] [] rest :=
  ⟨[], rfl, fun _ => rfl⟩

theorem append {s s' rest : List Char} {ts ts' : List Token}
    (h : CutsInto s ts (s' ++ rest)) (h' : CutsInto s' ts' rest) :
    CutsInto (s ++ s') (ts ++ ts') rest := by
  rcases h with ⟨ls, rfl, hscan⟩
  rcases h' with ⟨ls', rfl, hscan'⟩
  refine ⟨ls ++ ls', List.filterMap_append, ?_⟩
  intro done
  rw [List.append_assoc, hscan, hscan', List.reverse_append, List.append_assoc]

theorem one {c : Char} {source rest : List Char} {t : Token} {r : Reading}
    (h : step false .markup c (source ++ rest) = .ok (.read r))
    (hused : r.used = source.length + 1) (htoken : r.token = some t)
    (hmode : r.mode = .markup) : CutsInto (c :: source) [t] rest := by
  refine ⟨[⟨c :: source, some t⟩], rfl, ?_⟩
  intro done
  have htake : (c :: (source ++ rest)).take r.used = c :: source := by
    rw [hused, List.take_succ_cons, List.take_left]
  have hdrop : (c :: (source ++ rest)).drop r.used = rest := by
    rw [hused, List.drop_succ_cons, List.drop_left]
  rw [List.cons_append, scan, h]
  simp only [Reading.lexeme, htake, hdrop, htoken, hmode]
  rfl

end CutsInto

/-!
## Texts
-/

/-- A text that may follow a piece of running text: it does not go on with more
of it. -/
def Interrupts (rest : List Char) : Prop :=
  ∀ c ∈ rest.head?, c = '<'

theorem interrupts_nil : Interrupts [] := by
  intro c hc
  cases hc

theorem readName?_written {c : Char} {name : List Char}
    (h : referenceName? c = some name) (rest : List Char) :
    ∃ r, readName? .markup (name ++ ';' :: rest) = some r ∧
      r.used = name.length + 2 ∧ r.token = some (.text [c]) ∧
      r.mode = .markup := by
  rcases reference_of_name h with ⟨-, -, halpha, hexpansion⟩
  have hrun : ∀ d ∈ name, continuesReference d = true := by
    intro d hd
    have halphanum : d.isAlphanum = true :=
      Bool.or_eq_true_iff.2 (.inl (halpha d hd))
    simp only [continuesReference, halphanum, Bool.true_or]
  have hstop : continuesReference ';' = false := rfl
  have hlength :
      referenceNameLength? (name ++ ';' :: rest) = some name.length := by
    simp only [referenceNameLength?, takeWhile_run hrun hstop,
      dropWhile_run hrun hstop]
    rfl
  simp only [readName?, hlength, Option.map_some, List.take_left,
    List.drop_left, hexpansion]
  refine ⟨_, rfl, ?_, rfl, rfl⟩
  show 1 + name.length + 1 = name.length + 2
  omega

theorem stepAtAmpersand_of_isAlpha {c : Char} {s : List Char} {r : Reading}
    (h : c.isAlpha = true) (hread : readName? .markup (c :: s) = some r) :
    stepAtAmpersand false .markup (c :: s) = .ok (.read r) := by
  unfold stepAtAmpersand
  split
  · rename_i hs
    cases hs
  · rename_i hs
    cases hs
    cases h
  · rename_i c' s' _ hs
    cases hs
    rw [if_pos h, hread]

theorem cutsInto_reference {c : Char} {name : List Char}
    (h : referenceName? c = some name) (rest : List Char) :
    CutsInto ('&' :: name ++ [';']) [.text [c]] rest := by
  rcases readName?_written h rest with ⟨r, hread, hused, htoken, hmode⟩
  have hstep :
      step false .markup '&' (name ++ [';'] ++ rest) = .ok (.read r) := by
    rcases reference_of_name h with ⟨hne, -, halpha, -⟩
    rw [List.append_assoc, List.singleton_append]
    cases name with
    | nil => exact absurd rfl hne
    | cons first name =>
        rw [List.cons_append] at hread ⊢
        have hampersand :=
          stepAtAmpersand_of_isAlpha (halpha first List.mem_cons_self) hread
        simp only [step, hampersand]
        rfl
  exact CutsInto.one hstep (by simp [hused]) htoken hmode

theorem cutsInto_run {c : Char} {run rest : List Char}
    (hfirst : isPlain c = true) (hrun : ∀ d ∈ run, isPlain d = true)
    (hrest : rest.takeWhile isPlain = []) :
    CutsInto (c :: run) [.text (c :: run)] rest := by
  have htake : (run ++ rest).takeWhile isPlain = run := by
    rw [List.takeWhile_append_of_pos hrun, hrest, List.append_nil]
  have hstep : step false .markup c (run ++ rest) =
      .ok (.read (.text (c :: run) .markup)) := by
    rw [isPlain, Bool.and_eq_true, bne_iff_ne, bne_iff_ne] at hfirst
    simp only [step, beq_iff_eq, hfirst.1, hfirst.2, if_false, htake]
  exact CutsInto.one hstep (Nat.max_eq_right (Nat.succ_pos run.length)) rfl rfl

theorem isPlain_of_none {c : Char} (h : referenceName? c = none) :
    isPlain c = true := by
  rcases referenceName?_eq_none h with ⟨hamp, hless, -, -⟩
  exact Bool.and_eq_true_iff.2 ⟨bne_iff_ne.2 hless, bne_iff_ne.2 hamp⟩

theorem escape_append (s s' : List Char) :
    escape (s ++ s') = escape s ++ escape s' :=
  List.flatMap_append

theorem escape_of_none {s : List Char} (h : ∀ c ∈ s, referenceName? c = none) :
    escape s = s := by
  induction s with
  | nil => rfl
  | cons c s ih =>
      rcases List.forall_mem_cons.1 h with ⟨hc, hs⟩
      rw [escape_cons, escapeChar_of_none hc, ih hs]
      rfl

theorem takeWhile_isPlain_interrupt {rest : List Char} (h : Interrupts rest) :
    rest.takeWhile isPlain = [] := by
  cases rest with
  | nil => rfl
  | cons c rest =>
      have hc : c = '<' := h c rfl
      rw [hc]
      rfl

/-- Where a character that is written as a reference stands, or where the text
ends, a run of plain text ends. -/
theorem takeWhile_isPlain_escape {s rest : List Char}
    (h : ∀ c ∈ s.head?, referenceName? c ≠ none) (hrest : Interrupts rest) :
    (escape s ++ rest).takeWhile isPlain = [] := by
  cases s with
  | nil => exact takeWhile_isPlain_interrupt hrest
  | cons c s =>
      cases hname : referenceName? c with
      | none => exact absurd hname (h c rfl)
      | some name =>
          rw [escape_cons, escapeChar_of_name hname]
          rfl

/-- A text starts with a run of characters that stand for themselves. -/
theorem exists_verbatim_run (s : List Char) :
    ∃ run others, s = run ++ others ∧ (∀ c ∈ run, referenceName? c = none) ∧
    ∀ c ∈ others.head?, referenceName? c ≠ none := by
  induction s with
  | nil => exact ⟨[], [], rfl, List.forall_mem_nil _, fun _ hc => nomatch hc⟩
  | cons c s ih =>
      cases hname : referenceName? c with
      | none =>
          rcases ih with ⟨run, others, rfl, hrun, hothers⟩
          exact ⟨c :: run, others, rfl, List.forall_mem_cons.2 ⟨hname, hrun⟩,
            hothers⟩
      | some name =>
          refine ⟨[], c :: s, rfl, List.forall_mem_nil _, ?_⟩
          rintro d hd hnone
          cases hd
          rw [hname] at hnone
          cases hnone

/-- Running text is cut at its references. -/
theorem cutsInto_escape (content : List Char) {rest : List Char}
    (hrest : Interrupts rest) :
    ∃ pieces : List (List Char), pieces.flatten = content ∧
      CutsInto (escape content) (pieces.map .text) rest := by
  induction hlength : content.length using Nat.strongRecOn
    generalizing content with
  | ind n ih =>
      cases content with
      | nil => exact ⟨[], rfl, CutsInto.nil rest⟩
      | cons c content =>
          rw [List.length_cons] at hlength
          cases hname : referenceName? c with
          | some name =>
              rcases ih content.length (by omega) content rfl with
                ⟨pieces, rfl, hcut⟩
              refine ⟨[c] :: pieces, rfl, ?_⟩
              rw [escape_cons, escapeChar_of_name hname]
              exact (cutsInto_reference hname _).append hcut
          | none =>
              rcases exists_verbatim_run content with
                ⟨run, others, rfl, hrun, hothers⟩
              rw [List.length_append] at hlength
              rcases ih others.length (by omega) others rfl with
                ⟨pieces, rfl, hcut⟩
              have hwritten : escape (c :: (run ++ pieces.flatten)) =
                  c :: run ++ escape pieces.flatten := by
                rw [escape_cons, escapeChar_of_none hname, escape_append,
                  escape_of_none hrun]
                rfl
              refine ⟨(c :: run) :: pieces, rfl, ?_⟩
              rw [hwritten]
              exact (cutsInto_run (isPlain_of_none hname) (fun d hd =>
                isPlain_of_none (hrun d hd))
                (takeWhile_isPlain_escape hothers hrest)).append hcut

/-!
## Tags
-/

theorem readConstruct?_of_isLower {c : Char} (h : c.isLower = true)
    (s : List Char) :
    readConstruct? .markup (c :: s) = readStartTag? (c :: s) := by
  unfold readConstruct?
  split
  all_goals
    rename_i hs
    cases hs
  -- The marks that the other constructs start with are no letters.
  any_goals cases h
  rw [if_pos (isAlpha_of_isLower h)]

theorem cutsInto_startMarkup {name : String} {attributes : List Attribute}
    (h : Sayable name attributes) (rest : List Char) :
    CutsInto (startMarkup name attributes)
      [.startTag name (rowPairs attributes) false] rest := by
  rcases readStartTag?_written h rest with ⟨r, hread, hused, htoken, hmode⟩
  have hstep : step false .markup '<' (name.toList ++ rowMarkup attributes ++
      ['>'] ++ rest) = .ok (.read r) := by
    rcases exists_cons_of_isSpelled h.spelled with
      ⟨first, others, hname, hfirst, -⟩
    rw [List.append_assoc, List.append_assoc, List.singleton_append]
    rw [hname, List.cons_append] at hread ⊢
    have hconstruct := readConstruct?_of_isLower hfirst (others ++
      (rowMarkup attributes ++ '>' :: rest))
    rw [hread] at hconstruct
    simp only [step, stepAtBracket, hconstruct]
    rfl
  exact CutsInto.one hstep hused htoken hmode

theorem cutsInto_endMarkup {name : String}
    (h : isSpelled isTagChar name.toList = true) (hvoid : name ∉ voidElements)
    (rest : List Char) : CutsInto (endMarkup name) [.endTag name] rest := by
  rcases readEndTag?_written h rest with ⟨r, hread, hused, htoken, hmode⟩
  have hstep : step false .markup '<' ('/' :: name.toList ++ ['>'] ++ rest) =
      .ok (.read r) := by
    rw [List.append_assoc, List.singleton_append, List.cons_append]
    simp only [step, stepAtBracket, readConstruct?, hread]
    rfl
  rw [endMarkup, if_neg hvoid]
  exact CutsInto.one hstep (by simp [hused]) htoken hmode

/-- Behind a text, which no other text follows, running text does not go on. -/
theorem interrupts_markup {f : Forest} (h : f.Writable)
    (hsingle : f.startsWithText = false) {rest : List Char}
    (hrest : Interrupts rest) : Interrupts (f.markup ++ rest) := by
  cases h with
  | nil => exact hrest
  | text hcontent _ _ => cases hsingle
  | element _ _ _ _ =>
      intro c hc
      cases hc
      rfl

theorem interrupts_endMarkup {name : String} (hvoid : name ∉ voidElements)
    (rest : List Char) :
    Interrupts (endMarkup name ++ rest) := by
  rw [endMarkup, if_neg hvoid]
  intro c hc
  cases hc
  rfl

/-- The markup of a forest is cut into tokens that spell it. -/
theorem exists_spells_of_writable {f : Forest} (h : f.Writable)
    {rest : List Char} (hrest : Interrupts rest) :
    ∃ ts, Spells f ts ∧ CutsInto f.markup ts rest := by
  induction h generalizing rest with
  | nil => exact ⟨[], .nil, CutsInto.nil rest⟩
  | @text content others hcontent hsingle hothers ih =>
      rcases cutsInto_escape content.toList
        (interrupts_markup hothers hsingle hrest) with ⟨pieces, hpieces, hcut⟩
      rcases ih hrest with ⟨ts, hspells, hcuts⟩
      exact ⟨_, .text hpieces hspells, hcut.append hcuts⟩
  | @element name attributes line children others hsayable hvoid hchildren
      hothers ihchildren ihothers =>
      have hstart := cutsInto_startMarkup hsayable
      rcases ihothers hrest with ⟨ts', hspells', hcuts'⟩
      by_cases hname : name ∈ voidElements
      · have hnil := hvoid hname
        subst hnil
        have hend : endMarkup name = [] := by rw [endMarkup, if_pos hname]
        refine ⟨_, .void hname hspells', ?_⟩
        rw [Forest.markup_element, hend]
        exact (hstart _).append hcuts'
      · rcases ihchildren (interrupts_endMarkup hname (others.markup ++ rest))
          with ⟨ts, hspells, hcuts⟩
        refine ⟨_, .element hname hspells hspells', ?_⟩
        rw [← List.append_assoc] at hcuts
        exact (hstart _).append (hcuts.append
          ((cutsInto_endMarkup hsayable.spelled hname _).append hcuts'))

theorem lexemes_of_cutsInto {s : List Char} {ts : List Token}
    (h : CutsInto s ts []) :
    ∃ ls, lexemes s = .ok ls ∧ ls.filterMap (·.token) = ts := by
  rcases h with ⟨ls, htokens, hscan⟩
  have hfirst := hscan []
  rw [List.append_nil, List.append_nil, scan] at hfirst
  refine ⟨ls, ?_, htokens⟩
  simp only [lexemes, hfirst, scan, leftover]
  simp

theorem exists_tokens_of_writable {f : Forest} (h : f.Writable) :
    ∃ ts, tokens f.markup = .ok ts ∧ Spells f (ts.map (·.token)) := by
  rcases exists_spells_of_writable h interrupts_nil with ⟨ts, hspells, hcut⟩
  rcases lexemes_of_cutsInto hcut with ⟨ls, hlexemes, rfl⟩
  refine ⟨placeTokens 1 ls, ?_, ?_⟩
  · rw [tokens, hlexemes]
    rfl
  · rw [map_token_placeTokens]
    exact hspells

end Markup
end SiteAudit
