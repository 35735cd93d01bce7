import Mathlib.Data.List.TakeWhile
import SiteAudit.Config.Basic
import SiteAudit.Discovery.Basic
import SiteAudit.Proofs.FileTree
import SiteAudit.Proofs.Glob
import SiteAudit.Proofs.Results

/-!
# What a pattern selects

A page is selected by the components of a pattern one after another, and each of
them adds parts that can be read back: a part of the pattern itself, or names of
entries.  The usual pattern selects files with its ending at any depth below the
root.

A search that comes to its end has come to the end of each of its steps, and
what it selects is what they select one after another.
-/

namespace SiteAudit
namespace Discovery

/-!
## Searches behind searches
-/

namespace Search

variable {s others : Search} {next : List String → Search}

theorem obstacle_followedBy_eq_none_iff :
    (s.followedBy others).obstacle = none ↔
      s.obstacle = none ∧ others.obstacle = none := by
  unfold followedBy
  cases h : s.obstacle with
  | none => simp
  | some o => simp [h]

theorem rows_followedBy (h : s.obstacle = none) :
    (s.followedBy others).rows = s.rows ++ others.rows := by
  rw [followedBy, h]

theorem rows_followedBy_subset :
    (s.followedBy others).rows ⊆ s.rows ++ others.rows := by
  unfold followedBy
  cases s.obstacle with
  | none => exact List.Subset.refl _
  | some o => exact List.subset_append_left _ _

theorem exists_of_obstacle_followedBy {o : Obstacle}
    (h : (s.followedBy others).obstacle = some o) :
    s.obstacle = some o ∨ others.obstacle = some o := by
  unfold followedBy at h
  cases hs : s.obstacle with
  | none =>
      rw [hs] at h
      exact .inr h
  | some first =>
      simp only [hs] at h
      exact .inl h

theorem obstacle_behind_eq_none_iff :
    (s.behind next).obstacle = none ↔
      s.obstacle = none ∧ ∀ row ∈ s.rows, (next row).obstacle = none := by
  cases s with
  | mk rows obstacle =>
      induction rows with
      | nil => simp [behind]
      | cons row rows ih =>
          have hstep : Search.behind ⟨row :: rows, obstacle⟩ next =
              (next row).followedBy (Search.behind ⟨rows, obstacle⟩ next) := rfl
          rw [hstep, obstacle_followedBy_eq_none_iff, ih, List.forall_mem_cons]
          exact and_left_comm

theorem rows_behind (h : (s.behind next).obstacle = none) :
    (s.behind next).rows = s.rows.flatMap fun row => (next row).rows := by
  cases s with
  | mk rows obstacle =>
      induction rows with
      | nil => rfl
      | cons row rows ih =>
          have hboth := obstacle_followedBy_eq_none_iff.1 h
          rw [List.flatMap_cons, ← ih hboth.2]
          exact rows_followedBy hboth.1

theorem exists_of_mem_behind {row : List String}
    (h : row ∈ (s.behind next).rows) :
    ∃ middle ∈ s.rows, row ∈ (next middle).rows := by
  cases s with
  | mk rows obstacle =>
      induction rows with
      | nil => cases h
      | cons first rows ih =>
          rcases List.mem_append.1 (rows_followedBy_subset h) with
            hfirst | hrest
          · exact ⟨first, List.mem_cons_self, hfirst⟩
          · obtain ⟨middle, hmiddle, hrow⟩ := ih hrest
            exact ⟨middle, List.mem_cons_of_mem _ hmiddle, hrow⟩

theorem exists_of_obstacle_behind {o : Obstacle}
    (h : (s.behind next).obstacle = some o) :
    s.obstacle = some o ∨ ∃ row ∈ s.rows, (next row).obstacle = some o := by
  cases s with
  | mk rows obstacle =>
      induction rows with
      | nil => exact .inl h
      | cons first rows ih =>
          rcases exists_of_obstacle_followedBy h with hfirst | hrest
          · exact .inr ⟨first, List.mem_cons_self, hfirst⟩
          · rcases ih hrest with hobstacle | ⟨row, hrow, hbroken⟩
            · exact .inl hobstacle
            · exact .inr ⟨row, List.mem_cons_of_mem _ hrow, hbroken⟩

theorem behind_stop (s : Search) : (s.behind fun row => ⟨[row], none⟩) = s := by
  cases s with
  | mk rows obstacle =>
      induction rows with
      | nil => rfl
      | cons row rows ih =>
          have hstep :
              (Search.behind ⟨row :: rows, obstacle⟩ fun row => ⟨[row], none⟩) =
              Search.followedBy ⟨[row], none⟩ ⟨rows, obstacle⟩ :=
            congrArg (Search.followedBy ⟨[row], none⟩) ih
          rw [hstep]
          rfl

end Search

/-!
## The parts of a pattern
-/

section Selection

variable {t : FileTree} {root : Path}

theorem selectPart_everywhere {inside : Bool} {names : List String}
    {d : Directory}
    (h : t.entry? (below root names) = .ok (some (.directory d))) :
    selectPart t root inside names .everywhere =
      selectEverywhere t.reach names d := by
  simp only [selectPart, h]

theorem selectPart_entries {inside : Bool} {names : List String} {g : Glob}
    {d : Directory}
    (h : t.entry? (below root names) = .ok (some (.directory d))) :
    selectPart t root inside names (.entries g) =
      ⟨(d.entries.filter fun entry =>
          (!inside || entry.2.isDirectory) && g.accepts entry.1).map
        fun entry => names ++ [entry.1], none⟩ := by
  simp only [selectPart, lookAt, h]

theorem selectBehind_singleton (directoriesOnly : Bool) (c : Component)
    (names : List String) :
    selectBehind t root directoriesOnly [c] names =
      selectPart t root directoriesOnly names c := by
  rw [selectBehind, List.isEmpty_nil, Bool.not_true, Bool.or_false]
  exact Search.behind_stop _

theorem mem_selectEverywhere {reach : Nat} {names : List String} {d : Directory}
    {row : List String} (h : row ∈ (selectEverywhere reach names d).rows) :
    ∃ inner ∈ [] :: d.folders, row = names ++ inner := by
  rcases List.mem_cons.1 h with rfl | h
  · exact ⟨[], List.mem_cons_self, (List.append_nil _).symm⟩
  · obtain ⟨inner, hinner, rfl⟩ := List.mem_map.1 h
    exact ⟨inner, List.mem_cons_of_mem _ (List.takeWhile_subset _ hinner), rfl⟩

theorem selectEverywhere_of_shallow {reach : Nat} {names : List String}
    {d : Directory} (shallow : ∀ inner ∈ d.folders, inner.length ≤ reach) :
    selectEverywhere reach names d =
      ⟨names :: d.folders.map (names ++ ·), none⟩ := by
  have hall : d.folders.all (·.length ≤ reach) = true := by simpa using shallow
  have hwhole : d.folders.takeWhile (·.length ≤ reach) = d.folders := by
    rw [List.takeWhile_eq_self_iff]
    simpa using shallow
  rw [selectEverywhere, if_pos hall, hwhole]

theorem obstacle_selectEverywhere {reach : Nat} {names : List String}
    {d : Directory} {o : Obstacle}
    (h : (selectEverywhere reach names d).obstacle = some o) :
    o = .tooDeep ∧ ∃ inner ∈ d.folders, reach < inner.length := by
  unfold selectEverywhere at h
  dsimp only at h
  split at h
  · cases h
  · rename_i hdeep
    cases h
    simpa using hdeep

theorem mem_selectPart_everywhere (named : t.root.IsNamed) {inside : Bool}
    {names row : List String}
    (hrow : row ∈ (selectPart t root inside names .everywhere).rows) :
    ∃ inner, (∀ name ∈ inner, Path.IsName name) ∧ row = names ++ inner := by
  cases hfound : t.entry? (below root names) with
  | error f =>
      simp only [selectPart, hfound] at hrow
      cases hrow
  | ok found =>
      rcases found with _ | ⟨bytes⟩ | ⟨d⟩
      · simp only [selectPart, hfound] at hrow
        cases hrow
      · simp only [selectPart, hfound] at hrow
        cases hrow
      · rw [selectPart_everywhere hfound] at hrow
        obtain ⟨inner, hinner, rfl⟩ := mem_selectEverywhere hrow
        have hd : d.IsNamed := FileTree.isNamed_of_entry named hfound
        obtain ⟨e, hleads⟩ := Directory.mem_cons_folders_iff.1 hinner
        exact ⟨inner, Entry.isName_of_leads hleads hd, rfl⟩

theorem mem_selectPart_entries (named : t.root.IsNamed) {inside : Bool}
    {names row : List String} {g : Glob}
    (hrow : row ∈ (selectPart t root inside names (.entries g)).rows) :
    ∃ name, Path.IsName name ∧ g.accepts name = true ∧
      row = names ++ [name] := by
  cases hfound : t.entry? (below root names) with
  | error f =>
      simp only [selectPart, lookAt, hfound] at hrow
      cases hrow
  | ok found =>
      rcases found with _ | ⟨bytes⟩ | ⟨d⟩
      · simp only [selectPart, lookAt, hfound] at hrow
        cases hrow
      · simp only [selectPart, lookAt, hfound] at hrow
        cases hrow
      · rw [selectPart_entries hfound] at hrow
        obtain ⟨entry, hentry, rfl⟩ := List.mem_map.1 hrow
        obtain ⟨hmem, haccepts⟩ := List.mem_filter.1 hentry
        have hd : d.IsNamed := FileTree.isNamed_of_entry named hfound
        exact ⟨entry.1, (Directory.mem_entries_of_isNamed hd hmem).1,
          (Bool.and_eq_true_iff.1 haccepts).2, rfl⟩

theorem mem_selectPart_name {inside : Bool} {names row : List String}
    {s : String}
    (hrow : row ∈ (selectPart t root inside names (.name s)).rows) :
    row = names ++ [s] := by
  cases hfound : t.entry? (below root (names ++ [s])) with
  | error f =>
      simp only [selectPart, lookAt, hfound] at hrow
      cases hrow
  | ok found =>
      simp only [selectPart, lookAt, hfound] at hrow
      cases found with
      | none => cases hrow
      | some e =>
          dsimp only at hrow
          split at hrow
          · cases hrow
          · exact List.mem_singleton.1 hrow

theorem isRead_append {names inner : List String}
    (hnames : (Path.mk .relative names).IsRead)
    (hinner : (Path.mk .relative inner).IsRead) :
    (Path.mk .relative (names ++ inner)).IsRead := by
  intro part hpart
  rcases List.mem_append.1 hpart with hpart | hpart
  · exact hnames part hpart
  · exact hinner part hpart

theorem isRead_of_mem_selectPart (named : t.root.IsNamed) {inside : Bool}
    {names row : List String} {c : Component}
    (hc : ∀ s, c = .name s → Path.isPart s = true ∧ '/' ∉ s.toList)
    (hnames : (Path.mk .relative names).IsRead)
    (hrow : row ∈ (selectPart t root inside names c).rows) :
    (Path.mk .relative row).IsRead := by
  cases c with
  | name s =>
      rw [mem_selectPart_name hrow]
      refine isRead_append hnames fun part hpart => ?_
      rcases List.mem_singleton.1 hpart with rfl
      exact hc part rfl
  | entries g =>
      obtain ⟨name, hname, -, rfl⟩ := mem_selectPart_entries named hrow
      refine isRead_append hnames fun part hpart => ?_
      rcases List.mem_singleton.1 hpart with rfl
      exact ⟨hname.isPart, hname.noSeparator⟩
  | everywhere =>
      obtain ⟨inner, hinner, rfl⟩ := mem_selectPart_everywhere named hrow
      exact isRead_append hnames fun part hpart =>
        ⟨(hinner part hpart).isPart, (hinner part hpart).noSeparator⟩

theorem isRead_of_mem_selectBehind (named : t.root.IsNamed)
    {directoriesOnly : Bool} {components : List Component}
    (hcomponents :
      ∀ s, .name s ∈ components → Path.isPart s = true ∧ '/' ∉ s.toList)
    {names row : List String} (hnames : (Path.mk .relative names).IsRead)
    (hrow : row ∈ (selectBehind t root directoriesOnly components names).rows) :
    (Path.mk .relative row).IsRead := by
  induction components generalizing names with
  | nil =>
      rcases List.mem_singleton.1 hrow with rfl
      exact hnames
  | cons c components ih =>
      obtain ⟨middle, hmiddle, hrow⟩ := Search.exists_of_mem_behind hrow
      have hc : ∀ s, c = .name s → Path.isPart s = true ∧ '/' ∉ s.toList := by
        intro s hs
        rcases hs with rfl
        exact hcomponents s List.mem_cons_self
      have hread := isRead_of_mem_selectPart named hc hnames hmiddle
      exact ih (fun s hs =>
        hcomponents s (List.mem_cons_of_mem _ hs)) hread hrow

theorem isPart_of_ofString {pattern : String} {selector : Pattern}
    (h : Pattern.ofString pattern = .ok selector) (s : String)
    (hs : .name s ∈ selector.components) :
    Path.isPart s = true ∧ '/' ∉ s.toList := by
  unfold Pattern.ofString at h
  dsimp only at h
  repeat' split at h
  · cases h
  · cases h
  · cases h
  · cases h
  · cases hmapM : (Path.ofString pattern).parts.mapM Component.ofString with
    | error e =>
        rw [hmapM] at h
        cases h
    | ok components =>
        rw [hmapM] at h
        cases h
        rcases (mem_mapM_iff hmapM).1 hs with ⟨part, hpart, hname⟩
        unfold Component.ofString at hname
        repeat' split at hname
        all_goals cases hname
        exact Path.isPart_of_mem_partsOf hpart

theorem exists_of_pagesOf {selector : Pattern} {exclude : List Exclusion}
    {rows : List (List String)}
    (h : pagesOf t root selector exclude = .ok rows) :
    (selector.select t root).obstacle = none ∧
      (selector.select t root).rows.filterM (isPage t root exclude) =
        .ok rows := by
  obtain ⟨kept, hkept, h⟩ := exists_of_bind_eq_ok h
  cases hobstacle : (selector.select t root).obstacle with
  | none =>
      rw [hobstacle] at h
      cases h
      exact ⟨rfl, hkept⟩
  | some o =>
      rw [hobstacle] at h
      cases h

theorem exists_of_mem_pages {pattern : String} {exclude : List Exclusion}
    {paths : List Path} (h : pages t root pattern exclude = .ok paths)
    {p : Path} (hp : p ∈ paths) :
    root.isUsable = true ∧ ∃ selector names,
      Pattern.ofString pattern = .ok selector ∧
      names ∈ (selector.select t root).rows ∧
      isPage t root exclude names = .ok true ∧ p = below root names := by
  unfold pages at h
  repeat' split at h
  all_goals cases h
  rename_i hroot _ selector hselector _ found hne hfound
  obtain ⟨names, hnames, rfl⟩ := List.mem_map.1 hp
  have hmem : names ∈ found := List.mem_mergeSort.1 hnames
  obtain ⟨-, hkept⟩ := exists_of_pagesOf hfound
  rw [mem_filterM_iff hkept] at hmem
  exact ⟨FileTree.isUsable_of_lookup (FileTree.lookup_of_entry hroot), selector,
    names, hselector, hmem.1, hmem.2, rfl⟩

theorem mem_select_iff {selector : Pattern} {row : List String} :
    row ∈ (selector.select t root).rows ↔
      row ∈ (selectBehind t root selector.directoriesOnly selector.components
        []).rows :=
  List.mem_eraseDups

theorem isPlain_html : ∀ c ∈ ".html".toList, Glob.IsPlain c := by
  simp [Glob.IsPlain]

theorem accepts_ending_iff {name : String} :
    (Glob.ofString "*.html").accepts name = true ↔
      ∃ stem, name = stem ++ ".html" := by
  have hstar := Glob.accepts_star isPlain_html name
  constructor
  · intro h
    rcases hstar.1 h with ⟨stem, hstem⟩
    refine ⟨String.ofList stem, ?_⟩
    rw [← String.toList_inj, String.toList_append, String.toList_ofList]
    exact hstem.symm
  · intro h
    rcases h with ⟨stem, rfl⟩
    exact hstar.2 ⟨stem.toList, String.toList_append.symm⟩

theorem ofString_defaultPattern :
    Pattern.ofString Config.defaultPattern =
      .ok ⟨[.everywhere, .entries (.ofString "*.html")], false⟩ :=
  rfl

theorem exists_of_mem_pages_default (named : t.root.IsNamed)
    {exclude : List Exclusion} {paths : List Path}
    (h : pages t root Config.defaultPattern exclude = .ok paths) {p : Path}
    (hp : p ∈ paths) :
    ∃ folder stem, (∀ name ∈ folder ++ [stem ++ ".html"], Path.IsName name) ∧
      p = below root (folder ++ [stem ++ ".html"]) := by
  obtain ⟨-, selector, names, hselector, hnames, -, rfl⟩ :=
    exists_of_mem_pages h hp
  rw [ofString_defaultPattern] at hselector
  cases hselector
  rw [mem_select_iff] at hnames
  obtain ⟨folder, hfolder, hnames⟩ := Search.exists_of_mem_behind hnames
  obtain ⟨inner, hinner, hsame⟩ := mem_selectPart_everywhere named hfolder
  rw [List.nil_append] at hsame
  subst hsame
  rw [selectBehind_singleton] at hnames
  obtain ⟨name, hname, haccepts, rfl⟩ := mem_selectPart_entries named hnames
  obtain ⟨stem, rfl⟩ := accepts_ending_iff.1 haccepts
  refine ⟨folder, stem, ?_, rfl⟩
  intro other hother
  rcases List.mem_append.1 hother with hother | hother
  · exact hinner other hother
  · rcases List.mem_singleton.1 hother with rfl
    exact hname

end Selection

end Discovery
end SiteAudit
