import SiteAudit.Proofs.Rules.Composition

/-!
# The outline of a page

A heading is reported when it is more than one level deeper than the heading
just before it.  Where none is reported, the levels go down one at a time,
however often they go up again in between.  So between a heading and a later,
deeper one all the levels between theirs are passed, and under a single main
heading no level is left out.
-/

namespace SiteAudit
namespace Rules

open Markup

def IsHeading (e : Element) (level : Nat) : Prop :=
  (e.tag, level) ∈
    [("h1", 1), ("h2", 2), ("h3", 3), ("h4", 4), ("h5", 5), ("h6", 6)]

def consecutive (es : List Element) : List (Element × Element) :=
  es.zip es.tail

/-- What the findings on headings say of the outline of a page. -/
structure Outlined (d : Document) (file : String) : Prop where
  levels : InOrder (headings d) ∧
    ∀ e level, (e ∈ headings d ∧ headingLevel e = level) ↔
      (e ∈ d.elements ∧ IsHeading e level)
  /-- There is one finding for each pair of consecutive headings that leaves out
  a level. -/
  skips : findingsOf "E011" d file =
    ((consecutive (headings d)).filter fun pair =>
      headingLevel pair.1 + 1 < headingLevel pair.2).map
      fun pair => skippedLevel file pair.1 pair.2
  /-- Under the main heading no level is left out on the way to a heading. -/
  descent : findingsOf "E009" d file = [] → findingsOf "E010" d file = [] →
    findingsOf "E011" d file = [] →
    ∃ main ∈ d.elements, main.tag = "h1" ∧
      (∀ e ∈ d.elements, e.tag = "h1" → e = main) ∧
      ∀ e ∈ d.elements, ∀ level, IsHeading e level →
        main.position < e.position →
        ∀ between, 1 < between → between < level →
          ∃ i ∈ d.elements, IsHeading i between ∧ main.position < i.position ∧
            i.position < e.position
  /-- All levels from that of the first heading down to that of a later one
  occur before the later one. -/
  gapless : findingsOf "E011" d file = [] →
    ∀ first ∈ (headings d).head?, ∀ e ∈ headings d, ∀ level,
      headingLevel first ≤ level → level < headingLevel e →
        ∃ i ∈ headings d, headingLevel i = level ∧ i.position < e.position

/-!
## Headings and their levels
-/

theorem isHeading_iff {e : Element} {level : Nat} :
    IsHeading e level ↔ e.tag ∈ headingTags ∧ headingLevel e = level := by
  have hlevels : ∀ tag ∈ headingTags,
      (tag, headingTags.idxOf tag + 1) ∈
        [("h1", 1), ("h2", 2), ("h3", 3), ("h4", 4), ("h5", 5), ("h6", 6)] := by
    decide
  have htags : ∀ entry ∈ [("h1", 1), ("h2", 2), ("h3", 3), ("h4", 4), ("h5", 5),
      ("h6", 6)],
      entry.1 ∈ headingTags ∧ headingTags.idxOf entry.1 + 1 = entry.2 := by
    decide
  constructor
  · intro h
    exact htags _ h
  · intro hgiven
    rcases hgiven with ⟨htag, rfl⟩
    exact hlevels _ htag

theorem mem_headings_iff {d : Document} {e : Element} :
    e ∈ headings d ↔ e ∈ d.elements ∧ e.tag ∈ headingTags := by
  rw [headings, Document.select, List.mem_filter, Query.tag_iff (by decide)]

theorem inOrder_headings (d : Document) : InOrder (headings d) :=
  inOrder_select d _

/-!
## Skipped levels
-/

theorem skippedLevels_eq (last : Element) (es : List Element) :
    skippedLevels (headingLevel last) es =
      ((consecutive (last :: es)).filter fun pair =>
        headingLevel pair.1 + 1 < headingLevel pair.2).map
        fun pair => .of pair.2
          [("from", .number (.ofNat (headingLevel pair.1))),
            ("to", .number (.ofNat (headingLevel pair.2)))] := by
  induction es generalizing last with
  | nil => rfl
  | cons e es ih =>
      have hpositive : 0 < headingLevel last := Nat.succ_pos _
      have hpairs :
          consecutive (last :: e :: es) = (last, e) :: consecutive (e :: es) :=
            rfl
      rw [skippedLevels, ih, hpairs, List.filter_cons]
      by_cases hskip : headingLevel last + 1 < headingLevel e
      · simp [hskip, hpositive]
      · simp [hskip]

theorem headingOrder_eq (d : Document) :
    headingOrder d =
      ((consecutive (headings d)).filter fun pair =>
        headingLevel pair.1 + 1 < headingLevel pair.2).map
        fun pair => .of pair.2
          [("from", .number (.ofNat (headingLevel pair.1))),
            ("to", .number (.ofNat (headingLevel pair.2)))] := by
  rw [headingOrder]
  cases headings d with
  | nil => rfl
  | cons first rest =>
      -- no heading comes before the first one, which is never reported
      have hfirst : skippedLevels 0 (first :: rest) =
          skippedLevels (headingLevel first) rest := rfl
      rw [hfirst, skippedLevels_eq]

/-!
## Levels that are passed
-/

/-- A level cannot be jumped over by steps that go down one level at most. -/
theorem exists_level_between {first last : Element}
    {between after : List Element}
    (h : (first :: (between ++ last :: after)).IsChain fun e e' =>
      headingLevel e' ≤ headingLevel e + 1)
    {level : Nat} (hfirst : headingLevel first ≤ level)
    (hlast : level < headingLevel last) :
    ∃ e ∈ first :: between, headingLevel e = level := by
  induction between generalizing first with
  | nil =>
      have hstep : headingLevel last ≤ headingLevel first + 1 :=
        (List.isChain_cons_cons.1 h).1
      refine ⟨first, List.mem_cons_self, ?_⟩
      omega
  | cons next between ih =>
      rcases List.isChain_cons_cons.1 h with ⟨hstep, hrest⟩
      rcases Nat.eq_or_lt_of_le hfirst with heq | hlt
      · exact ⟨first, List.mem_cons_self, heq⟩
      · have hnext : headingLevel next ≤ level := by omega
        rcases ih hrest hnext with ⟨e, he, hlevel⟩
        exact ⟨e, List.mem_cons_of_mem _ he, hlevel⟩

theorem exists_heading_between {d : Document} (ordered : HasHeadingOrder d)
    {e e' : Element} (he : e ∈ headings d) (he' : e' ∈ headings d)
    (hlt : e.position < e'.position) {level : Nat}
    (hfrom : headingLevel e ≤ level) (hto : level < headingLevel e') :
    ∃ i ∈ headings d, headingLevel i = level ∧
      (i = e ∨ e.position < i.position) ∧ i.position < e'.position := by
  have horder := inOrder_headings d
  rcases horder.exists_between he he' hlt with ⟨before, between, after, hsplit⟩
  rw [HasHeadingOrder, hsplit] at ordered
  rcases exists_level_between ordered.right_of_append hfrom hto with
    ⟨i, hi, hlevel⟩
  have hmem : i ∈ headings d := by
    rw [hsplit]
    rcases List.mem_cons.1 hi with rfl | hi
    · exact List.mem_append_right _ List.mem_cons_self
    · exact List.mem_append_right _
        (List.mem_cons_of_mem _ (List.mem_append_left _ hi))
  rw [hsplit] at horder
  rcases List.mem_cons.1 hi with rfl | hi
  · exact ⟨i, hmem, hlevel, .inl rfl, hlt⟩
  · rcases horder.position_between hi with ⟨hafter, hbefore⟩
    exact ⟨i, hmem, hlevel, .inr hafter, hbefore⟩

/-!
## The main statement
-/

theorem hasHeadingOrder_of_findingsOf {d : Document} {file : String}
    (h : findingsOf "E011" d file = []) :
    HasHeadingOrder d :=
  headingOrder_eq_nil_iff.1 ((findingsOf_eq_nil_iff (by decide)).1 h)

theorem hasOneMainHeading_of_findingsOf {d : Document} {file : String}
    (hsingle : findingsOf "E009" d file = [])
    (hmain : findingsOf "E010" d file = []) : HasOneMainHeading d :=
  mainHeading_eq_nil_iff.1
    ⟨(findingsOf_eq_nil_iff (by decide)).1 hsingle,
      (findingsOf_eq_nil_iff (by decide)).1 hmain⟩

theorem headings_outlined (d : Document) (file : String) : Outlined d file where
  levels := by
    refine ⟨inOrder_headings d, ?_⟩
    intro e level
    rw [mem_headings_iff, isHeading_iff, and_assoc]
  skips := by
    rcases exists_rule (by decide : "E011" ∈ Catalog.rules.map (·.code)) with
      ⟨r, hr, hcode, hfindings⟩
    have hcriterion : criterionOf "E011" = headingOrder := rfl
    rw [hfindings, hcriterion, headingOrder_eq, List.map_map]
    apply List.map_congr_left
    intro pair _
    exact finding_skippedLevel hr hcode file pair.1 pair.2
  descent := by
    intro hsingle hmain hskips
    have ordered := hasHeadingOrder_of_findingsOf hskips
    rcases hasOneMainHeading_of_findingsOf hsingle hmain with
      ⟨main, ⟨hmem, htag⟩, hunique⟩
    have hheading : IsHeading main 1 := by
      rw [IsHeading, htag]
      exact List.mem_cons_self
    rcases isHeading_iff.1 hheading with ⟨hmainTag, hmainLevel⟩
    refine ⟨main, hmem, htag, fun e he hh1 => hunique e ⟨he, hh1⟩, ?_⟩
    intro e he level hlevel hlt between hone hbetween
    rcases isHeading_iff.1 hlevel with ⟨heTag, rfl⟩
    rcases exists_heading_between ordered (mem_headings_iff.2 ⟨hmem, hmainTag⟩)
      (mem_headings_iff.2 ⟨he, heTag⟩) hlt
      (by omega) hbetween with ⟨i, hi, hiLevel, hside, hbefore⟩
    rcases mem_headings_iff.1 hi with ⟨hiMem, hiTag⟩
    refine ⟨i, hiMem, isHeading_iff.2 ⟨hiTag, hiLevel⟩, ?_, hbefore⟩
    rcases hside with rfl | hafter
    · omega
    · exact hafter
  gapless := by
    intro hskips first hfirst e he level hfrom hto
    have ordered := hasHeadingOrder_of_findingsOf hskips
    have horder := inOrder_headings d
    have hfirstMem : first ∈ headings d := List.mem_of_mem_head? hfirst
    have hlt : first.position < e.position := by
      rcases List.head?_eq_some_iff.1 hfirst with ⟨rest, hsplit⟩
      rw [hsplit] at he horder
      rcases List.mem_cons.1 he with rfl | he
      · omega
      · exact (List.pairwise_cons.1 horder).1 e he
    rcases exists_heading_between ordered hfirstMem he hlt hfrom hto with
      ⟨i, hi, hiLevel, -, hbefore⟩
    exact ⟨i, hi, hiLevel, hbefore⟩

end Rules
end SiteAudit
