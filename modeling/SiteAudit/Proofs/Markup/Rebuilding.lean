import SiteAudit.Proofs.Markup.Places
import SiteAudit.Proofs.Markup.Openings
import SiteAudit.Proofs.Markup.Spelling

/-!
# Building what tokens spell

Tokens that spell a forest build this forest, with the lines of the tokens.
While they are taken, what was there before stays as it is: the nodes of the
forest come behind those that stand in the innermost open element, and only void
elements are owed an end tag, so no end tag of another element is passed over.
-/

namespace SiteAudit
namespace Markup

def Forest.SameButLines (f g : Forest) : Prop :=
  f.mapLines (fun _ => none) = g.mapLines fun _ => none

namespace Forest

theorem SameButLines.element {children children' rest rest' : Forest}
    (name : String) (attributes : List Attribute)
    (line line' : Option WritableInt)
    (hchildren : children.SameButLines children')
    (hrest : rest.SameButLines rest') :
    (Forest.element name attributes line children rest).SameButLines
      (Forest.element name attributes line' children' rest') := by
  rw [SameButLines, mapLines, mapLines, hchildren, hrest, Option.bind_fun_none,
    Option.bind_fun_none]

theorem reverseOnto_reverseOnto (f g h : Forest) :
    (f.reverseOnto g).reverseOnto h = g.reverseOnto (f ++ h) := by
  induction f generalizing g with
  | nil => rfl
  | text content rest ih => exact ih (text content g)
  | characterData content rest ih => exact ih (characterData content g)
  | remark content rest ih => exact ih (remark content g)
  | element name attributes line children rest _ ih =>
      exact ih (element name attributes line children g)

theorem reverse_reverseOnto_nil (f : Forest) :
    (f.reverseOnto nil).reverse = f := by
  rw [reverse, reverseOnto_reverseOnto, append_nil]
  rfl

end Forest

namespace Builder

variable {b : Builder}

theorem flush_of_nil (h : b.pieces = []) : b.flush = b := by
  rw [flush, h]

theorem flush_of_ne_nil (h : b.pieces ≠ []) :
    b.flush = ⟨.text (String.ofList b.pieces.reverse.flatten) b.here,
      b.enclosing, [], b.owed⟩ := by
  unfold flush
  split
  · exact absurd ‹_› h
  · rfl

/-- Collected text goes to the nodes of the innermost open element; all else
stays. -/
theorem flush_eq (b : Builder) :
    b.flush = ⟨b.flush.here, b.enclosing, [], b.owed⟩ := by
  by_cases h : b.pieces = []
  · rw [flush_of_nil h, ← h]
  · rw [flush_of_ne_nil h]

theorem owed_flush (b : Builder) : b.flush.owed = b.owed := by
  rw [flush_eq]

section Tags

variable {name : String} {pairs : List (String × String)} {line : Nat}

theorem openElement_flush (b : Builder) (attributes : List Attribute)
    (l : Option WritableInt) :
    b.flush.openElement name attributes l =
      ⟨.nil, ⟨name, attributes, l, b.flush.here⟩ :: b.enclosing, [],
        b.owed⟩ := by
  rw [flush_eq]
  rfl

theorem close_innermost {here before : Forest} {attributes : List Attribute}
    {l : Option WritableInt} {enclosing : List OpenElement} {owed : List String}
    (h : b.flush =
      ⟨here, ⟨name, attributes, l, before⟩ :: enclosing, [], owed⟩) :
    b.close name = ⟨.element name attributes l here.reverse before, enclosing,
      [], owed⟩ := by
  have hopen : (b.flush.enclosing.any (·.name == name)) = true := by
    rw [h, List.any_cons, beq_self_eq_true]
    rfl
  have hthrough :
      closeThrough name here (⟨name, attributes, l, before⟩ :: enclosing) =
      (.element name attributes l here.reverse before, enclosing) := by
    rw [closeThrough, beq_self_eq_true]
    rfl
  simp only [close, hopen, if_true]
  rw [h]
  simp only [hthrough]

theorem add_startTag (hvoid : name ∉ voidElements) :
    b.add ⟨line, .startTag name pairs false⟩ =
      ⟨.nil, ⟨name, attributesOf pairs, some (.ofNat line), b.flush.here⟩ ::
        b.enclosing, [], b.owed⟩ := by
  have hcontains : voidElements.contains name = false :=
    Bool.eq_false_iff.2 (mt List.contains_iff_mem.1 hvoid)
  simp only [add, hcontains, Bool.false_eq_true, if_false]
  exact openElement_flush b _ _

theorem add_voidTag (hvoid : name ∈ voidElements) :
    b.add ⟨line, .startTag name pairs false⟩ =
      ⟨.element name (attributesOf pairs) (some (.ofNat line))
        .nil b.flush.here, b.enclosing, [], name :: b.owed⟩ := by
  have hcontains : voidElements.contains name = true :=
    List.contains_iff_mem.2 hvoid
  have hopened : (b.flush.openElement name (attributesOf pairs)
      (some (.ofNat line))).flush =
      ⟨.nil, ⟨name, attributesOf pairs, some (.ofNat line), b.flush.here⟩ ::
        b.enclosing, [], b.owed⟩ := by
    rw [openElement_flush]
    rfl
  have hclose : (b.flush.openElement name (attributesOf pairs)
      (some (.ofNat line))).close name =
      ⟨.element name (attributesOf pairs) (some (.ofNat line))
        .nil b.flush.here, b.enclosing, [], b.owed⟩ :=
    close_innermost hopened
  simp only [add, hcontains, Bool.false_eq_true, if_false, if_true, hclose]

theorem add_endTag (howed : name ∉ b.owed) :
    b.add ⟨line, .endTag name⟩ = b.close name := by
  have hcontains : b.owed.contains name = false :=
    Bool.eq_false_iff.2 (mt List.contains_iff_mem.1 howed)
  simp only [add, hcontains, Bool.false_eq_true, if_false]

end Tags

theorem foldl_add_texts {ts : List PlacedToken} {pieces : List (List Char)}
    (h : ts.map (·.token) = pieces.map .text) (b : Builder) :
    ts.foldl add b = { b with pieces := pieces.reverse ++ b.pieces } := by
  induction ts generalizing pieces b with
  | nil =>
      cases pieces with
      | nil => rfl
      | cons piece pieces => cases h
  | cons t ts ih =>
      cases pieces with
      | nil => cases h
      | cons piece pieces =>
          rw [List.map_cons, List.map_cons, List.cons.injEq] at h
          have hadd : b.add t = { b with pieces := piece :: b.pieces } := by
            rw [add, h.1]
          rw [List.foldl_cons, ih h.2, hadd, List.reverse_cons,
            List.append_assoc]
          rfl

theorem flush_texts {content : String} {pieces : List (List Char)}
    (hne : content ≠ "") (hpieces : pieces.flatten = content.toList)
    (hnone : b.pieces = []) :
    flush { b with pieces := pieces.reverse ++ b.pieces } =
      ⟨.text content b.here, b.enclosing, [], b.owed⟩ := by
  have hsome : pieces.reverse ++ b.pieces ≠ [] := by
    rintro hnil
    rw [hnone, List.append_nil, List.reverse_eq_nil_iff] at hnil
    rw [hnil, List.flatten_nil] at hpieces
    exact hne (String.toList_eq_nil_iff.1 hpieces.symm)
  have hcollected :
      String.ofList (pieces.reverse ++ b.pieces).reverse.flatten = content := by
    rw [hnone, List.append_nil, List.reverse_reverse, hpieces,
      String.ofList_toList]
  rw [flush_of_ne_nil hsome, hcollected]

theorem setAttribute_of_notMem {attributes : List Attribute}
    {name value : String} (h : name ∉ attributes.map (·.name)) :
    setAttribute attributes name value =
      attributes ++ [⟨name, .text value⟩] := by
  have hany : attributes.any (·.name == name) = false := by
    rw [List.any_eq_false]
    intro a ha hname
    exact h (List.mem_map.2 ⟨a, ha, beq_iff_eq.1 hname⟩)
  rw [setAttribute, hany]
  rfl

theorem foldl_setAttribute {attributes : List Attribute}
    (hwritable : ∀ a ∈ attributes, a.Writable) (before : List Attribute)
    (hdistinct : ((before ++ attributes).map (·.name)).Nodup) :
    (rowPairs attributes).foldl
      (fun attributes (name, value) =>
        setAttribute attributes name value) before = before ++ attributes := by
  induction attributes generalizing before with
  | nil => exact (List.append_nil before).symm
  | cons a attributes ih =>
      rcases List.forall_mem_cons.1 hwritable with ⟨ha, hothers⟩
      have hnew : a.name ∉ before.map (·.name) := by
        rw [List.map_append, List.map_cons, List.nodup_append] at hdistinct
        intro hmem
        exact hdistinct.2.2 _ hmem _ List.mem_cons_self rfl
      have hset : setAttribute before a.name a.writtenText = before ++ [a] := by
        rw [setAttribute_of_notMem hnew, ha.eq]
      have hsplit :
          before ++ a :: attributes = before ++ [a] ++ attributes := by simp
      have hpairs : rowPairs (a :: attributes) = (a.name,
          a.writtenText) :: rowPairs attributes := rfl
      rw [hsplit] at hdistinct ⊢
      simp only [hpairs, List.foldl_cons, hset]
      exact ih hothers (before ++ [a]) hdistinct

theorem attributesOf_written {name : String} {attributes : List Attribute}
    (h : Sayable name attributes) :
    attributesOf (rowPairs attributes) = attributes :=
  foldl_setAttribute h.writable [] h.distinct

/-!
## Spelled forests
-/

/-- An element is put behind the nodes that are there once its children are
built and its end tag has come. -/
theorem foldl_add_element {name : String} {attributes : List Attribute}
    {children : Forest} {owed : List String}
    {line : Nat} {inner : List PlacedToken} (hsayable : Sayable name attributes)
    (hvoid : name ∉ voidElements)
    (howed : name ∉ owed)
    (hinner : (inner.foldl add ⟨.nil, ⟨name, attributes, some (.ofNat line),
      b.flush.here⟩ :: b.enclosing, [], b.owed⟩).flush =
      ⟨children.reverseOnto .nil, ⟨name, attributes, some (.ofNat line),
        b.flush.here⟩ :: b.enclosing, [], owed⟩)
    (line' : Nat) (others : List PlacedToken) :
    (⟨line, .startTag name (rowPairs attributes) false⟩ ::
      (inner ++ ⟨line', .endTag name⟩ :: others)).foldl add b =
      others.foldl add ⟨.element name attributes (some (.ofNat line))
        children b.flush.here, b.enclosing, [], owed⟩ := by
  have hclose := close_innermost hinner
  rw [Forest.reverse_reverseOnto_nil] at hclose
  rw [List.foldl_cons, add_startTag hvoid, attributesOf_written hsayable,
    List.foldl_append, List.foldl_cons, add_endTag, hclose]
  rw [← owed_flush, hinner]
  exact howed

/-- The tokens that spell a forest put it behind the nodes that are there, and
leave all else. -/
theorem flush_foldl_add {f : Forest} {tokens : List Token} (h : Spells f tokens)
    (hwritable : f.Writable) {ts : List PlacedToken}
    (hts : ts.map (·.token) = tokens) (b : Builder)
    (hpieces : f.startsWithText = true → b.pieces = [])
    (howed : ∀ name ∈ b.owed, name ∈ voidElements) :
    ∃ (g : Forest) (owed : List String), g.SameButLines f ∧
      (∀ name ∈ owed, name ∈ voidElements) ∧
      (ts.foldl add b).flush =
        ⟨g.reverseOnto b.flush.here, b.enclosing, [], owed⟩ := by
  induction h generalizing ts b with
  | nil =>
      cases List.map_eq_nil_iff.1 hts
      exact ⟨.nil, b.owed, rfl, howed, flush_eq b⟩
  | @text content rest pieces tokens hcontent hrest ih =>
      cases hwritable with
      | text hne hsingle hothers =>
          rcases List.map_eq_append_iff.1 hts with
            ⟨texts, others, rfl, htexts, hmore⟩
          have hnotext :
              rest.startsWithText = true → pieces.reverse ++ b.pieces = [] := by
            intro hstarts
            rw [hsingle] at hstarts
            cases hstarts
          rcases ih hothers hmore { b with pieces := pieces.reverse ++
                                    b.pieces } hnotext howed with
            ⟨g, owed, hsame, hvoid, hflush⟩
          refine ⟨.text content g, owed, congrArg (Forest.text content) hsame,
            hvoid, ?_⟩
          rw [List.foldl_append, foldl_add_texts htexts, hflush,
            flush_texts hne hcontent (hpieces rfl), flush_of_nil (hpieces rfl)]
          rfl
  | @void name attributes line rest tokens hvoid hrest ih =>
      cases hwritable with
      | element hsayable _ _ hothers =>
          rcases List.map_eq_cons_iff.1 hts with
            ⟨⟨line', token⟩, others, rfl, rfl, hmore⟩
          rcases ih hothers hmore
            ⟨.element name attributes (some (.ofNat line')) .nil b.flush.here,
              b.enclosing, [], name :: b.owed⟩
            (fun _ => rfl) (List.forall_mem_cons.2 ⟨hvoid, howed⟩) with
              ⟨g, owed, hsame, howed', hflush⟩
          refine ⟨.element name attributes (some (.ofNat line')) .nil g, owed,
            .element _ _ _ _ rfl hsame, howed', ?_⟩
          rw [List.foldl_cons, add_voidTag hvoid, attributesOf_written hsayable,
            hflush]
          rfl
  | @element name attributes line children rest tokens tokens' hvoid hchildren
      hrest ihchildren ihrest =>
      cases hwritable with
      | element hsayable _ hinner hothers =>
          rcases List.map_eq_cons_iff.1 hts with
            ⟨⟨line', token⟩, others, rfl, rfl, hmore⟩
          rcases List.map_eq_append_iff.1 hmore with
            ⟨inner, others, rfl, hts', hmore'⟩
          rcases List.map_eq_cons_iff.1 hmore' with
            ⟨⟨line'', token⟩, others, rfl, rfl, hmore''⟩
          rcases ihchildren hinner hts'
            ⟨.nil, ⟨name, attributes, some (.ofNat line'), b.flush.here⟩ ::
              b.enclosing, [], b.owed⟩ (fun _ => rfl) howed with
            ⟨c, owed, hsame, howed', hflush⟩
          rcases ihrest hothers hmore''
            ⟨.element name attributes (some (.ofNat line')) c b.flush.here,
              b.enclosing, [], owed⟩ (fun _ => rfl) howed' with
            ⟨g, owed', hsame', howed'', hflush'⟩
          have hadd := foldl_add_element hsayable hvoid (mt (howed' name) hvoid)
            hflush line'' others
          refine ⟨.element name attributes (some (.ofNat line')) c g, owed',
            .element _ _ _ _ hsame hsame', howed'', ?_⟩
          rw [hadd, hflush']
          rfl

end Builder

/-- Tokens that spell a forest build it. -/
theorem sameButLines_ofTokens {f : Forest} (h : f.Writable)
    {ts : List PlacedToken} (hspells : Spells f (ts.map (·.token))) :
    (Forest.ofTokens ts).SameButLines f := by
  have hnone : ∀ name ∈ Builder.empty.owed, name ∈ voidElements :=
    fun _ hname => nomatch hname
  rcases Builder.flush_foldl_add hspells h rfl Builder.empty (fun _ =>
    rfl) hnone with ⟨g, owed, hsame, -, hflush⟩
  have hfinish : Forest.ofTokens ts = g := by
    rw [Forest.ofTokens, Builder.finish, hflush]
    exact Forest.reverse_reverseOnto_nil g
  rw [hfinish]
  exact hsame

/-- What is written is read, and the same nodes come out. -/
theorem exists_read_of_writable {f : Forest} (h : f.Writable) :
    ∃ d, Document.read f.markup = .ok d ∧ d.nodes.SameButLines f := by
  rcases exists_tokens_of_writable h with ⟨ts, htokens, hspells⟩
  refine ⟨⟨Forest.ofTokens ts⟩, ?_, sameButLines_ofTokens h hspells⟩
  rw [Document.read, Forest.read, htokens]
  rfl

end Markup
end SiteAudit
