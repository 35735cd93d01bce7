import SiteAudit.Markup.Document
import SiteAudit.Proofs.Text.Words

/-!
# The text that a reader sees

The visible text of an element is made of the words of the pieces of text below
it.  A piece of text is known by the subtrees around it, and the nearest
container among them is the one that it belongs to.  An element that is no
container shows what belongs to none, and a container shows what belongs to a
container of its name.  No word goes over the border of two pieces, so the words
of an element are those of its children, one child after the other.
-/

namespace SiteAudit
namespace Markup

def Subtree.IsContainer (s : Subtree) : Prop :=
  s.name ∈ containers

instance : DecidablePred Subtree.IsContainer :=
  fun s => inferInstanceAs (Decidable (s.name ∈ containers))

def Element.IsOutside (e : Element) : Prop :=
  ∀ s ∈ e.enclosing, ¬ s.IsContainer

def Forest.NoCharacterData : Forest → Prop
  | nil => True
  | text _ rest => rest.NoCharacterData
  | characterData _ _ => False
  | remark _ rest => rest.NoCharacterData
  | element _ _ _ children rest =>
      children.NoCharacterData ∧ rest.NoCharacterData

/-- A piece of text, and the subtrees that enclose it, the nearest first. -/
structure TextNode where
  content : String
  enclosing : List Subtree

def TextNode.container? (n : TextNode) : Option Subtree :=
  n.enclosing.find? fun s => s.IsContainer

/-- The text stands inside the element, with no container in between. -/
def TextNode.IsOpenTo (n : TextNode) (e : Element) : Prop :=
  ∃ between, n.enclosing = between ++ e.subtree :: e.enclosing ∧
    ∀ s ∈ between, ¬ s.IsContainer

def Forest.textNodes (enclosing : List Subtree) (next : Nat) :
    Forest → List TextNode
  | nil => []
  | text content rest => ⟨content, enclosing⟩ :: rest.textNodes enclosing next
  | characterData _ rest => rest.textNodes enclosing next
  | remark _ rest => rest.textNodes enclosing next
  | element name attributes line children rest =>
      let s : Subtree := ⟨next, name, attributes, line, children⟩
      children.textNodes (s :: enclosing) (next + 1) ++
        rest.textNodes enclosing (next + 1 + children.size)

inductive ChildNode
  | text (content : String)
  | characterData (content : String)
  | remark (content : String)
  | element (e : Element)

/-- The words that a child adds to the text of the element around it, when no
container is in sight. -/
def ChildNode.words : ChildNode → List String
  | text content => Text.wordsOf content
  | characterData content => Text.wordsOf content
  | remark _ => []
  | element e => if e.subtree.IsContainer then [] else Text.wordsOf e.text

def Forest.childNodes (enclosing : List Subtree) (next : Nat) :
    Forest → List ChildNode
  | nil => []
  | text content rest => .text content :: rest.childNodes enclosing next
  | characterData content rest =>
      .characterData content :: rest.childNodes enclosing next
  | remark content rest => .remark content :: rest.childNodes enclosing next
  | element name attributes line children rest =>
      .element ⟨⟨next, name, attributes, line, children⟩, enclosing⟩ ::
        rest.childNodes enclosing (next + 1 + children.size)

namespace Element

def textNodes (e : Element) : List TextNode :=
  e.subtree.children.textNodes (e.subtree :: e.enclosing)
    (e.subtree.position + 1)

def childNodes (e : Element) : List ChildNode :=
  e.subtree.children.childNodes (e.subtree :: e.enclosing)
    (e.subtree.position + 1)

end Element

/-- How the text that a reader sees is put together. -/
structure TextComposed (e : Element) : Prop where
  /-- The pieces of text are put in a row, which is cut into words and put
  together again. -/
  normalized : e.text = Text.joinWords (Text.wordsOf (Text.joinWords e.strings))
  spaced : Text.IsSpaced e.text.toList
  children : ¬ e.subtree.IsContainer → e.IsOutside →
    Text.wordsOf e.text = e.childNodes.flatMap ChildNode.words
  /-- Every piece of text that belongs to no container is seen once, at its
  place. -/
  nodes : ¬ e.subtree.IsContainer → e.IsOutside →
    Text.wordsOf e.text =
      (e.textNodes.filter fun n => n.container? = none).flatMap fun n =>
      Text.wordsOf n.content
  hidden : ¬ e.subtree.IsContainer → ¬ e.IsOutside → e.text = ""
  /-- A container shows what belongs to it and to the containers of its name
  inside it. -/
  kept : e.subtree.IsContainer → Text.wordsOf e.text =
    (e.textNodes.filter fun n =>
      n.container?.map (·.name) = some e.subtree.name).flatMap
      fun n => Text.wordsOf n.content
  visible : ¬ e.subtree.IsContainer → e.IsOutside →
    (e.text ≠ "" ↔ ∃ n ∈ e.textNodes, n.IsOpenTo e ∧ ∃ c ∈ n.content.toList,
      Text.isBlank c = false)

/-!
## Containers
-/

theorem containerIn_of_isContainer {s : Subtree} (h : s.IsContainer)
    (around : Option String) :
    containerIn around s.name = some s.name := by
  rw [containerIn, if_pos (List.contains_iff_mem.2 h)]

theorem containerIn_of_not_isContainer {s : Subtree} (h : ¬ s.IsContainer)
    (around : Option String) :
    containerIn around s.name = around := by
  rw [containerIn, if_neg fun hmem => h (List.contains_iff_mem.1 hmem)]

theorem containerOf_eq (enclosing : List Subtree) :
    Element.containerOf enclosing =
      (enclosing.find? fun s => s.IsContainer).map (·.name) := by
  induction enclosing with
  | nil => rfl
  | cons s enclosing ih =>
      rw [Element.containerOf, List.find?_cons]
      by_cases h : s.IsContainer
      · rw [containerIn_of_isContainer h, decide_eq_true h]
        rfl
      · rw [containerIn_of_not_isContainer h, ih, decide_eq_false h]

theorem containerOf_eq_none_iff {enclosing : List Subtree} :
    Element.containerOf enclosing = none ↔
      ∀ s ∈ enclosing, ¬ s.IsContainer := by
  rw [containerOf_eq, Option.map_eq_none_iff, List.find?_eq_none]
  simp only [decide_eq_true_eq]

theorem TextNode.container?_eq_none_iff {n : TextNode} :
    n.container? = none ↔ ∀ s ∈ n.enclosing, ¬ s.IsContainer := by
  rw [← containerOf_eq_none_iff, containerOf_eq, Option.map_eq_none_iff,
    TextNode.container?]

/-!
## Pieces of text
-/

theorem suffix_enclosing_textNodes {f : Forest} {enclosing : List Subtree}
    {next : Nat} {n : TextNode} (h : n ∈ f.textNodes enclosing next) :
    enclosing <:+ n.enclosing := by
  induction f generalizing enclosing next with
  | nil => cases h
  | text content rest ih =>
      rcases List.mem_cons.1 h with rfl | hrest
      · exact List.suffix_refl enclosing
      · exact ih hrest
  | characterData content rest ih => exact ih h
  | remark content rest ih => exact ih h
  | element name attributes line children rest ihchildren ihrest =>
      rcases List.mem_append.1 h with hchildren | hrest
      · exact (List.suffix_cons _ enclosing).trans (ihchildren hchildren)
      · exact ihrest hrest

/-- A reader sees the pieces of text that belong to the container it asks
for. -/
theorem strings_eq {f : Forest} (hf : f.NoCharacterData)
    (reader : Option String) (enclosing : List Subtree) (next : Nat) :
    f.strings reader (Element.containerOf enclosing) =
      ((f.textNodes enclosing next).filter fun n =>
        n.container?.map (·.name) = reader).map (·.content) := by
  induction f generalizing enclosing next with
  | nil => rfl
  | text content rest ih =>
      have hcontainer :
          (TextNode.mk content enclosing).container?.map (·.name) =
            Element.containerOf enclosing :=
        (containerOf_eq enclosing).symm
      rw [Forest.strings, Forest.textNodes, List.filter_cons, hcontainer,
        ih hf enclosing next]
      by_cases h : Element.containerOf enclosing = reader
      · rw [if_pos h, if_pos (decide_eq_true h), List.map_cons]
      · rw [if_neg h, if_neg]
        rw [decide_eq_true_eq]
        exact h
  | characterData content rest ih => exact hf.elim
  | remark content rest ih => exact ih hf enclosing next
  | element name attributes line children rest ihchildren ihrest =>
      -- The children belong to the nearest container around them, of which the
      -- element may be one.
      rw [Forest.textNodes, List.filter_append, List.map_append,
        ← ihchildren hf.1, ← ihrest hf.2]
      rfl

theorem strings_none_of_container {f : Forest} (hf : f.NoCharacterData)
    {enclosing : List Subtree} {s : Subtree} (hs : s ∈ enclosing)
    (hcontainer : s.IsContainer) :
    f.strings none (Element.containerOf enclosing) = [] := by
  rw [strings_eq hf none enclosing 0, List.map_eq_nil_iff,
    List.filter_eq_nil_iff]
  intro n hn hnone
  rw [decide_eq_true_eq, Option.map_eq_none_iff,
    TextNode.container?_eq_none_iff] at hnone
  exact hnone s ((suffix_enclosing_textNodes hn).subset hs) hcontainer

theorem noCharacterData_of_mem_elements {f : Forest} (hf : f.NoCharacterData)
    {enclosing : List Subtree} {next : Nat} {e : Element}
    (he : e ∈ f.elements enclosing next) :
    e.subtree.children.NoCharacterData := by
  induction f generalizing enclosing next with
  | nil => cases he
  | text content rest ih => exact ih hf he
  | characterData content rest ih => exact hf.elim
  | remark content rest ih => exact ih hf he
  | element name attributes line children rest ihchildren ihrest =>
      rw [Forest.elements, List.mem_cons, List.mem_append] at he
      rcases he with rfl | hchildren | hrest
      · exact hf.1
      · exact ihchildren hf.1 hchildren
      · exact ihrest hf.2 hrest

/-!
## The words of an element
-/

namespace Element

variable {e : Element}

theorem isWord_of_mem_words {w : String} (h : w ∈ e.words) : Text.IsWord w := by
  rcases List.mem_flatMap.1 h with ⟨s, _, hw⟩
  exact Text.isWord_of_mem_wordsOf hw

theorem wordsOf_text (e : Element) : Text.wordsOf e.text = e.words := by
  rw [text, Text.wordsOf_joinWords,
    Text.flatMap_wordsOf_of_isWord fun _ => isWord_of_mem_words]

theorem text_eq_empty_iff : e.text = "" ↔ e.words = [] :=
  Text.joinWords_eq_empty_iff fun _ hw => (isWord_of_mem_words hw).1

theorem words_eq (he : e.subtree.children.NoCharacterData) :
    e.words = (e.textNodes.filter fun n =>
      n.container?.map (·.name) = containerIn none e.subtree.name).flatMap
      fun n => Text.wordsOf n.content := by
  rw [words, strings, strings_eq he, List.flatMap_map]
  rfl

theorem words_of_not_isContainer (he : e.subtree.children.NoCharacterData)
    (h : ¬ e.subtree.IsContainer) :
    e.words = (e.textNodes.filter fun n => n.container? = none).flatMap fun n =>
      Text.wordsOf n.content := by
  rw [words_eq he, containerIn_of_not_isContainer h]
  simp only [Option.map_eq_none_iff]

theorem words_of_not_isOutside (he : e.subtree.children.NoCharacterData)
    (h : ¬ e.subtree.IsContainer) (hinside : ¬ e.IsOutside) : e.words = [] := by
  simp only [IsOutside, not_forall, not_not] at hinside
  rcases hinside with ⟨s, hs, hcontainer⟩
  rw [words, strings, containerIn_of_not_isContainer h,
    strings_none_of_container he (List.mem_cons_of_mem _ hs) hcontainer,
    List.flatMap_nil]

end Element

/-- The words that are seen from outside all containers come child by child. -/
theorem flatMap_childNodes {f : Forest} (hf : f.NoCharacterData)
    {enclosing : List Subtree} (houtside : Element.containerOf enclosing = none)
    (next : Nat) :
    (f.strings none none).flatMap Text.wordsOf =
      (f.childNodes enclosing next).flatMap ChildNode.words := by
  induction f generalizing next with
  | nil => rfl
  | text content rest ih =>
      rw [Forest.strings, if_pos rfl, Forest.childNodes, List.flatMap_cons,
        List.flatMap_cons, ih hf]
      rfl
  | characterData content rest ih => exact hf.elim
  | remark content rest ih => exact ih hf next
  | element name attributes line children rest _ ihrest =>
      rw [Forest.strings, Forest.childNodes, List.flatMap_append,
        List.flatMap_cons, ihrest hf.2]
      congr 1
      generalize hs : (⟨next, name, attributes, line, children⟩ : Subtree) = s
      have hname : name = s.name := by rw [← hs]
      have hchildren : children = s.children := by rw [← hs]
      have hbelow :
          containerIn none s.name = Element.containerOf (s :: enclosing) := by
        rw [Element.containerOf, houtside]
      rw [ChildNode.words, hname]
      by_cases hcontainer : s.IsContainer
      · rw [if_pos hcontainer, hbelow,
          strings_none_of_container hf.1 List.mem_cons_self hcontainer,
          List.flatMap_nil]
      · rw [if_neg hcontainer, Element.wordsOf_text, Element.words,
          Element.strings, ← hbelow, containerIn_of_not_isContainer hcontainer,
          hchildren]

theorem TextNode.isOpenTo_iff {n : TextNode} {e : Element}
    (hn : n ∈ e.textNodes) (h : ¬ e.subtree.IsContainer)
    (houtside : e.IsOutside) : n.IsOpenTo e ↔ n.container? = none := by
  rw [TextNode.container?_eq_none_iff]
  constructor
  · intro hopen
    rcases hopen with ⟨between, henclosing, hbetween⟩
    rw [henclosing, List.forall_mem_append, List.forall_mem_cons]
    exact ⟨hbetween, h, houtside⟩
  · intro hall
    rcases suffix_enclosing_textNodes hn with ⟨between, hsplit⟩
    refine ⟨between, hsplit.symm, ?_⟩
    intro s hs
    apply hall
    rw [← hsplit]
    exact List.mem_append_left _ hs

theorem text_ne_empty_iff {e : Element}
    (he : e.subtree.children.NoCharacterData) (h : ¬ e.subtree.IsContainer)
    (houtside : e.IsOutside) :
    e.text ≠ "" ↔ ∃ n ∈ e.textNodes, n.IsOpenTo e ∧ ∃ c ∈ n.content.toList,
      Text.isBlank c = false := by
  rw [ne_eq, Element.text_eq_empty_iff, Element.words_of_not_isContainer he h,
    List.flatMap_eq_nil_iff]
  simp only [Text.wordsOf_eq_nil_iff, List.mem_filter, decide_eq_true_eq,
    not_forall, exists_prop]
  constructor
  · intro hgiven
    rcases hgiven with ⟨n, ⟨hn, hnone⟩, c, hc, hink⟩
    exact ⟨n, hn, (TextNode.isOpenTo_iff hn h houtside).2 hnone, c, hc,
      Bool.eq_false_iff.2 hink⟩
  · intro hgiven
    rcases hgiven with ⟨n, hn, hopen, c, hc, hink⟩
    exact ⟨n, ⟨hn, (TextNode.isOpenTo_iff hn h houtside).1 hopen⟩, c, hc,
      Bool.eq_false_iff.1 hink⟩

/-- Every element of a document without character data shows what is in it for
the reader. -/
theorem text_composed {d : Document} (hd : d.nodes.NoCharacterData)
    {e : Element} (he : e ∈ d.elements) :
    TextComposed e := by
  have hchildren : e.subtree.children.NoCharacterData :=
    noCharacterData_of_mem_elements hd he
  exact {
    normalized := by
      rw [Text.wordsOf_joinWords]
      rfl
    spaced := Text.isSpaced_joinWords fun _ => Element.isWord_of_mem_words
    children := by
      intro h houtside
      have hnone : Element.containerOf (e.subtree :: e.enclosing) = none :=
        containerOf_eq_none_iff.2 (List.forall_mem_cons.2 ⟨h, houtside⟩)
      rw [Element.wordsOf_text, Element.words, Element.strings,
        containerIn_of_not_isContainer h, hnone]
      exact flatMap_childNodes hchildren hnone _
    nodes := by
      intro h _
      rw [Element.wordsOf_text, Element.words_of_not_isContainer hchildren h]
    hidden := by
      intro h hinside
      rw [Element.text_eq_empty_iff,
        Element.words_of_not_isOutside hchildren h hinside]
    kept := by
      intro h
      rw [Element.wordsOf_text, Element.words_eq hchildren,
        containerIn_of_isContainer h]
    visible := text_ne_empty_iff hchildren }

def nestedTemplates : Forest :=
  .text " b" (.element "style" [] none (.text "c" .nil)
    (.element "template" [] none (.text "d " .nil) .nil))

theorem text_composed_template :
    Forest.NoCharacterData (.element "template" [] none nestedTemplates .nil) ∧
      (⟨⟨0, "template", [], none, nestedTemplates⟩, []⟩ : Element) ∈
        Document.elements ⟨.element "template" [] none nestedTemplates .nil⟩ ∧
      TextComposed ⟨⟨0, "template", [], none, nestedTemplates⟩, []⟩ := by
  have hd : Forest.NoCharacterData (.element "template"
      [] none nestedTemplates .nil) :=
    ⟨⟨trivial, trivial, trivial⟩, trivial⟩
  have he : (⟨⟨0, "template", [], none, nestedTemplates⟩, []⟩ : Element) ∈
      Document.elements ⟨.element "template" [] none nestedTemplates .nil⟩ :=
        List.mem_cons_self
  exact ⟨hd, he, text_composed hd he⟩

end Markup
end SiteAudit
