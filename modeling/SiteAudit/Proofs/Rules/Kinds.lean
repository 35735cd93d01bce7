import Mathlib.Data.List.Forall2
import SiteAudit.Proofs.Markup.Order
import SiteAudit.Rules.Check

/-!
# Kinds of criteria

Some criteria object at most once and have nothing more to say.  Others name
what they miss of a fixed list.  The rest look at the elements of some kind one
by one: they object to some of these elements, in their order, and each
violation has the line of its element and values of fixed names.
-/

namespace SiteAudit
namespace Rules

open Markup

def Criterion.ObjectsOnce (c : Criterion) : Prop :=
  ∀ d, c d = [] ∨ ∃ line, c d = [{ line := line }]

def Criterion.MissesSome {α : Type} (c : Criterion) (items : List α)
    (name : String) (text : α → String) : Prop :=
  ∀ d, ∃ missing : List α, missing.Sublist items ∧
    c d = missing.map fun item => { values := [(name, .text (text item))] }

def Criterion.LooksAt (c : Criterion) (q : Query) (names : List String) :
    Prop :=
  ∀ d, ∃ es : List Element, es.Sublist (d.select q) ∧
    List.Forall₂ (fun v e => v.line = e.line ∧ v.values.map (·.1) = names)
      (c d) es

/-- The violations that a criterion sees come with values of these names. -/
def Criterion.Supplies (c : Criterion) (names : List String) : Prop :=
  ∀ d, ∀ v ∈ c d, v.values.map (·.1) = names

namespace Criterion

variable {c : Criterion}

theorem ObjectsOnce.length_le (h : c.ObjectsOnce) (d : Document) :
    (c d).length ≤ 1 := by
  cases h d with
  | inl hnone =>
      rw [hnone]
      exact Nat.zero_le 1
  | inr hone =>
      cases hone with
      | intro line hone =>
          rw [hone]
          exact Nat.le_refl 1

theorem ObjectsOnce.supplies (h : c.ObjectsOnce) : c.Supplies [] := by
  intro d v hv
  cases h d with
  | inl hnone =>
      rw [hnone] at hv
      cases hv
  | inr hone =>
      cases hone with
      | intro line hone =>
          rw [hone, List.mem_singleton] at hv
          rw [hv]
          rfl

section Missing

variable {α : Type} {items : List α} {name : String} {text : α → String}

theorem MissesSome.supplies (h : c.MissesSome items name text) :
    c.Supplies [name] := by
  intro d v hv
  rcases h d with ⟨missing, _, hmissing⟩
  rw [hmissing] at hv
  rcases List.mem_map.1 hv with ⟨item, _, hitem⟩
  subst hitem
  rfl

theorem MissesSome.line_eq_none (h : c.MissesSome items name text)
    (d : Document) :
    ∀ v ∈ c d, v.line = none := by
  intro v hv
  rcases h d with ⟨missing, _, hmissing⟩
  rw [hmissing] at hv
  rcases List.mem_map.1 hv with ⟨item, _, hitem⟩
  subst hitem
  rfl

end Missing

theorem LooksAt.supplies {q : Query} {names : List String}
    (h : c.LooksAt q names) : c.Supplies names := by
  intro d v hv
  rcases h d with ⟨es, -, hfollow⟩
  generalize c d = vs at hv hfollow
  induction hfollow with
  | nil => cases hv
  | cons hhead _ ih =>
      cases hv with
      | head => exact hhead.2
      | tail _ hrest => exact ih hrest

end Criterion

/-!
## Criteria that object at most once
-/

theorem objectsOnce_unlessHolds (condition : Document → Bool) :
    Criterion.ObjectsOnce fun d => unlessHolds (condition d) := by
  intro d
  show unlessHolds (condition d) = [] ∨
    ∃ line, unlessHolds (condition d) = [{ line := line }]
  cases condition d with
  | false => exact .inr ⟨none, rfl⟩
  | true => exact .inl rfl

theorem objectsOnce_language : language.ObjectsOnce := by
  intro d
  unfold language
  cases d.root? with
  | none => exact .inr ⟨none, rfl⟩
  | some root =>
      cases hlang : Query.nonblank "lang" root with
      | false => exact .inr ⟨root.line, by simp only [hlang]; rfl⟩
      | true => exact .inl (by simp only [hlang]; rfl)

theorem objectsOnce_singleMainHeading : singleMainHeading.ObjectsOnce := by
  intro d
  unfold singleMainHeading
  split
  · rename_i second _ _
    exact .inr ⟨second.line, rfl⟩
  · exact .inl rfl

theorem objectsOnce_focusOutline : focusOutline.ObjectsOnce := by
  intro d
  simp only [focusOutline]
  split
  · exact .inl rfl
  · rename_i offender _ _
    split
    · exact .inl rfl
    · exact .inr ⟨offender.1.line, rfl⟩

theorem objectsOnce_contrast : contrast.ObjectsOnce := by
  intro d
  exact .inl rfl

/-!
## Criteria that name what is missing
-/

theorem missesSome_landmarks :
    landmarks.MissesSome Catalog.landmarks "landmark" (·.name) := by
  intro d
  exact ⟨_, List.filter_sublist, rfl⟩

theorem missesSome_footerLinks :
    footerLinks.MissesSome Catalog.footerLinks "link" id := by
  intro d
  exact ⟨_, List.filter_sublist, rfl⟩

/-!
## Criteria that look at elements
-/

theorem looksAt_filter (q : Query) (p : Document → Element → Bool)
    (values : Element → List (String × Template.Value)) (names : List String)
    (hnames : ∀ e, (values e).map (·.1) = names) :
    Criterion.LooksAt (fun d => ((d.select q).filter (p d)).map fun e =>
      .of e (values e)) q names := by
  intro d
  refine ⟨(d.select q).filter (p d), List.filter_sublist, ?_⟩
  rw [List.forall₂_map_left_iff, List.forall₂_same]
  intro e _
  exact ⟨rfl, hnames e⟩

theorem looksAt_select (q : Query)
    (values : Element → List (String × Template.Value)) (names : List String)
    (hnames : ∀ e, (values e).map (·.1) = names) :
    Criterion.LooksAt (fun d => (d.select q).map fun e =>
      .of e (values e)) q names := by
  intro d
  refine ⟨_, List.Sublist.refl _, ?_⟩
  rw [List.forall₂_map_left_iff, List.forall₂_same]
  intro e _
  exact ⟨rfl, hnames e⟩

/-- A row of elements is worked through from its start.  What came before
decides whether an element is objected to, but the violation is always its
own. -/
theorem exists_objects {σ : Type} (step : σ → List Element → List Violation)
    (next : σ → Element → σ)
    {names : List String} (hnil : ∀ s, step s [] = [])
    (hcons : ∀ s e es, step s (e :: es) = step (next s e) es ∨
      ∃ v : Violation, step s (e :: es) = v :: step (next s e) es ∧
        v.line = e.line ∧ v.values.map (·.1) = names)
    (s : σ) (es : List Element) :
    ∃ es' : List Element, es'.Sublist es ∧
      List.Forall₂ (fun v e => v.line = e.line ∧ v.values.map (·.1) = names)
        (step s es) es' := by
  induction es generalizing s with
  | nil =>
      rw [hnil]
      exact ⟨[], List.Sublist.refl [], .nil⟩
  | cons e es ih =>
      rcases ih (next s e) with ⟨es', hsub, hfollow⟩
      cases hcons s e es with
      | inl hpass =>
          rw [hpass]
          exact ⟨es', hsub.cons e, hfollow⟩
      | inr hobject =>
          rcases hobject with ⟨v, hstep, hv⟩
          rw [hstep]
          exact ⟨e :: es', hsub.cons_cons e, .cons hv hfollow⟩

theorem looksAt_headingOrder :
    headingOrder.LooksAt (.tag headingTags) ["from", "to"] := by
  intro d
  apply exists_objects skippedLevels (fun _ e => headingLevel e) (fun _ => rfl)
  intro last e es
  rw [skippedLevels]
  split
  · exact .inr ⟨_, rfl, rfl, rfl⟩
  · exact .inl rfl

theorem looksAt_uniqueIds : uniqueIds.LooksAt (.hasAttribute "id") ["id"] := by
  intro d
  apply exists_objects repeatedIds (fun seen e =>
    e.getText "id" :: seen) (fun _ => rfl)
  intro seen e es
  rw [repeatedIds]
  split
  · exact .inr ⟨_, rfl, rfl, rfl⟩
  · exact .inl rfl

theorem looksAt_linkNames : linkNames.LooksAt (.tag ["a"]) [] :=
  looksAt_filter _ _ _ _ fun _ => rfl

theorem looksAt_imageTexts : imageTexts.LooksAt (.tag ["img"]) [] :=
  looksAt_filter _ _ _ _ fun _ => rfl

theorem looksAt_tableHeaders : tableHeaders.LooksAt (.tag ["table"]) [] :=
  looksAt_filter _ _ _ _ fun _ => rfl

theorem looksAt_mediaTexts : mediaTexts.LooksAt (.tag ["audio", "video"]) [] :=
  looksAt_filter _ _ _ _ fun _ => rfl

theorem looksAt_formLabels :
    formLabels.LooksAt (.tag ["input", "select", "textarea"]) [] :=
  looksAt_filter _ (fun d e => !(needsNoLabel e ||
    isTarget (labelTargets d) e || isLabelled e)) _ _ fun _ => rfl

theorem looksAt_buttonNames : buttonNames.LooksAt isButton [] :=
  looksAt_filter _ _ _ _ fun _ => rfl

theorem looksAt_clickableContainers :
    clickableContainers.LooksAt
      (.all [.tag containerTags, .hasAttribute "onclick"]) [] :=
  looksAt_select _ _ _ fun _ => rfl

theorem looksAt_nestedInteractive :
    nestedInteractive.LooksAt isInteractive [] :=
  looksAt_filter _ _ _ _ fun _ => rfl

theorem looksAt_knownRoles :
    knownRoles.LooksAt (.hasAttribute "role") ["attr"] :=
  looksAt_filter _ _ _ _ fun _ => rfl

theorem looksAt_expandedControls :
    expandedControls.LooksAt (.hasAttribute "aria-expanded") ["attr"] :=
  looksAt_filter _ _ _ _ fun _ => rfl

end Rules
end SiteAudit
