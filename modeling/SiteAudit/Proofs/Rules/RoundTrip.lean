import SiteAudit.Proofs.Markup.Rebuilding
import SiteAudit.Proofs.Rules.Places

/-!
# Written and read again

A forest that is written as markup and read again has the same elements, and so
the same is found on it.  Only the lines differ: a forest that was built by hand
has what lines it was given, and the forest that is read has those of its
markup.
-/

namespace SiteAudit
namespace Markup

def Element.lineless (e : Element) : Element :=
  e.move 0 fun _ => none

/-- The elements agree in all that can be asked of them, but for lines. -/
structure Element.Alike (e e' : Element) : Prop where
  position : e.position = e'.position
  tag : e.tag = e'.tag
  attributes : e.subtree.attributes = e'.subtree.attributes
  has : ∀ name, e.has name = e'.has name
  get : ∀ name, e.get name = e'.get name
  classes : e.classes = e'.classes
  text : e.text = e'.text
  ancestors : e.ancestors.map lineless = e'.ancestors.map lineless
  descendants : e.descendants.map lineless = e'.descendants.map lineless

theorem Element.alike_of_lineless {e e' : Element}
    (h : e.lineless = e'.lineless) : e.Alike e' where
  position := by
    simpa only [lineless, position_move, Nat.add_zero] using congrArg position h
  tag := by simpa only [lineless, tag_move] using congrArg tag h
  attributes := show e.lineless.subtree.attributes =
    e'.lineless.subtree.attributes by rw [h]
  has :=
    fun name => by simpa only [lineless, has_move] using congrArg (has · name) h
  get :=
    fun name => by simpa only [lineless, get_move] using congrArg (get · name) h
  classes := by simpa only [lineless, classes_move] using congrArg classes h
  text := by simpa only [lineless, text_move] using congrArg text h
  ancestors := by
    have hancestors := congrArg ancestors h
    rwa [lineless, lineless, ancestors_move, ancestors_move] at hancestors
  descendants := by
    have hdescendants := congrArg descendants h
    rwa [lineless, lineless, descendants_move, descendants_move] at hdescendants

theorem map_lineless_elements {f g : Forest} (h : f.SameButLines g) :
    (Document.elements ⟨f⟩).map Element.lineless =
      (Document.elements ⟨g⟩).map Element.lineless := by
  have helements := congrArg (fun f => Document.elements ⟨f⟩) h
  simp only [Document.elements_mapLines] at helements
  exact helements

end Markup

namespace Rules

open Markup

/-- Markup of a forest is read as a document with the same elements, on which
the same is found. -/
theorem check_read_markup {f : Forest} (h : f.Writable) :
    ∃ d, Document.read f.markup = .ok d ∧
      List.Forall₂ Element.Alike d.elements (Document.elements ⟨f⟩) ∧
      ∀ file, (check d file).map (mapLine fun _ => none) =
        (check ⟨f⟩ file).map (mapLine fun _ => none) := by
  rcases exists_read_of_writable h with ⟨d, hread, hsame⟩
  refine ⟨d, hread, ?_, ?_⟩
  · have helements := map_lineless_elements hsame
    rw [← List.forall₂_eq_eq_eq, List.forall₂_map_left_iff,
      List.forall₂_map_right_iff] at helements
    exact helements.imp fun _ _ => Element.alike_of_lineless
  · intro file
    rw [← check_mapLines, ← check_mapLines, hsame]

def noticeForest : Forest :=
  .element "section" [⟨"id", .text "q&a"⟩,
    ⟨"data-note", .text "say \"&lt;\""⟩] none
    (.element "h2" [] none (.text "1 < 2 & \"x\"" .nil)
      (.element "br" [⟨"class", .text " wide\nlow"⟩] none .nil
        (.text " &amp; "
          (.element "ul" [] none (.element "li" [] none .nil .nil) .nil)))) .nil

theorem writable_noticeForest : noticeForest.Writable := by
  have hsection : Sayable "section" [⟨"id", .text "q&a"⟩,
      ⟨"data-note", .text "say \"&lt;\""⟩] :=
    ⟨by decide, by decide, List.forall_mem_cons.2 ⟨⟨by decide, _, rfl⟩,
      List.forall_mem_singleton.2 ⟨by decide, _, rfl⟩⟩, by decide⟩
  have hbreak : Sayable "br" [⟨"class", .text " wide\nlow"⟩] :=
    ⟨by decide, by decide,
      List.forall_mem_singleton.2 ⟨by decide, _, rfl⟩, by decide⟩
  have hplain : ∀ name ∈ ["h2", "ul", "li"], Sayable name [] := by
    intro name hname
    refine ⟨?_, ?_, List.forall_mem_nil _, List.nodup_nil⟩
    · revert name
      decide
    · revert name
      decide
  have hlist : Forest.Writable (.element "ul" [] none
      (.element "li" [] none .nil .nil) .nil) :=
    .element (hplain "ul" (by decide)) (by decide)
      (.element (hplain "li" (by decide)) (fun _ => rfl) .nil .nil) .nil
  exact .element hsection (by decide)
    (.element (hplain "h2" (by decide)) (by decide) (.text (by decide) rfl .nil)
      (.element hbreak (fun _ => rfl) .nil (.text (by decide) rfl hlist))) .nil

theorem check_read_noticeForest :
    noticeForest.Writable ∧
      ∃ d, Document.read noticeForest.markup = .ok d ∧
        List.Forall₂ Element.Alike d.elements
          (Document.elements ⟨noticeForest⟩) ∧
        ∀ file, (check d file).map (mapLine fun _ => none) =
          (check ⟨noticeForest⟩ file).map (mapLine fun _ => none) :=
  ⟨writable_noticeForest, check_read_markup writable_noticeForest⟩

end Rules
end SiteAudit
