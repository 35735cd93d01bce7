import SiteAudit.Proofs.Discovery.Exclusions

/-!
# Finding the pages

With the usual pattern the pages are the files with the usual ending, at any
depth, whatever the directories on the way are called.  Discovery finds them all
and nothing else, as long as the search gets to every directory and the file
system lets it look at every directory and at every entry with the ending.  A
path with too many bytes is refused, and then the site cannot be read; of a site
with directories too deep inside each other nothing is found either.
-/

namespace SiteAudit
namespace Discovery

def usualPattern : Pattern :=
  ⟨[.everywhere, .entries (.ofString "*.html")], false⟩

def HasEnding (names : List String) : Prop :=
  ∃ stem, names.getLast? = some (stem ++ ".html")

structure IsPageOf (d : Directory) (names : List String) : Prop where
  file : ∃ bytes, Entry.Leads (.directory d) names (.file bytes)
  ending : HasEnding names

/-- The names on the way to what discovery has to look at: every directory and
every entry with the ending. -/
inductive IsMet (d : Directory) (names : List String) : Prop
  | directory {inner : Directory} (leads : Entry.Leads (.directory d) names
      (.directory inner)) : IsMet d names
  | entry {e : Entry} (leads : Entry.Leads (.directory d) names e)
      (ending : HasEnding names) : IsMet d names

def IsTooLong (root : Path) (names : List String) : Prop :=
  FileTree.maxPathBytes < (below root names).text.utf8ByteSize

def IsTooDeep (reach : Nat) (d : Directory) : Prop :=
  ∃ names inner, reach < names.length ∧
    Entry.Leads (.directory d) names (.directory inner)

/-- The right answers for a root that names a directory. -/
inductive Discovered (reach : Nat) (root : Path) (d : Directory)
    (exclude : List String) : Except Failure (List Path) → Prop
  | unfollowed (deep : IsTooDeep reach d) :
      Discovered reach root d exclude (.error .tooDeep)
  | unreadable {names : List String} (met : IsMet d names)
      (tooLong : IsTooLong root names) :
      Discovered reach root d exclude
        (.error
          (.noSite (.unreadableRoot root ⟨.nameTooLong, below root names⟩)))
  | noPages (shallow : ¬ IsTooDeep reach d)
      (short : ∀ names, IsMet d names → ¬ IsTooLong root names)
      (excluded : ∀ names, IsPageOf d names → IsExcluded exclude names) :
      Discovered reach root d exclude
        (.error (.noSite (.noPages root Config.defaultPattern)))
  | pages {paths : List Path} (shallow : ¬ IsTooDeep reach d)
      (short : ∀ names, IsMet d names → ¬ IsTooLong root names)
      (nonempty : paths ≠ [])
      (ascending : paths.Pairwise fun p q => p.parts < q.parts)
      (members : ∀ p, p ∈ paths ↔
        ∃ names, p = below root names ∧ IsPageOf d names ∧
          ¬ IsExcluded exclude names) :
      Discovered reach root d exclude (.ok paths)

section Pages

variable {t : FileTree} {root : Path} {d : Directory}

theorem hasEnding_concat_iff {names : List String} {name : String} :
    HasEnding (names ++ [name]) ↔ ∃ stem, name = stem ++ ".html" := by
  rw [HasEnding, List.getLast?_concat]
  simp only [Option.some.injEq]

/-!
## Paths below the root
-/

theorem isUsable_below (tree : t.root.IsTree)
    (hroot : t.entry? root = .ok (some (.directory d))) {names : List String}
    {e : Entry} (h : Entry.Leads (.directory d) names e) :
    (below root names).isUsable = true := by
  have hd : d.IsNamed :=
    Directory.isNamed_of_isTree (FileTree.isTree_of_entry tree hroot)
  have hbelow : Path.LiesBelow root names (below root names) := ⟨rfl, rfl⟩
  exact Path.isUsable_of_liesBelow hbelow
    (FileTree.isUsable_of_lookup (FileTree.lookup_of_entry hroot))
    (Entry.isName_of_leads h hd)

theorem lookup_below (tree : t.root.IsTree)
    (hroot : t.entry? root = .ok (some (.directory d))) {names : List String}
    {e : Entry} (h : Entry.Leads (.directory d) names e)
    (short : ¬ IsTooLong root names) :
    t.entry? (below root names) = .ok (some e) := by
  have hd : d.IsTree := FileTree.isTree_of_entry tree hroot
  have hfrom : t.fromRoot (below root names) = t.fromRoot root ++ names := by
    have habsolute : (below root names).isAbsolute = root.isAbsolute := rfl
    rw [FileTree.fromRoot, FileTree.fromRoot, habsolute]
    cases root.isAbsolute with
    | true => rfl
    | false => exact (List.append_assoc t.cwd root.parts names).symm
  rcases FileTree.follow_append (FileTree.follow_of_lookup
    (FileTree.lookup_of_entry hroot)) with ⟨outer, houter⟩
  have hfollow : t.lookup (below root names) = .ok e := by
    rw [FileTree.lookup_eq_follow (isUsable_below tree hroot h)
      (Nat.not_lt.1 short),
      hfrom, houter, FileTree.follow_of_leads h hd]
  rw [FileTree.entry?, hfollow]

theorem lookup_below_tooLong (tree : t.root.IsTree)
    (hroot : t.entry? root = .ok (some (.directory d))) {names : List String}
    {e : Entry} (h : Entry.Leads (.directory d) names e)
    (tooLong : IsTooLong root names) :
    t.entry? (below root names) = .error ⟨.nameTooLong, below root names⟩ := by
  have hlookup : t.lookup (below root names) = .error .nameTooLong := by
    rw [FileTree.lookup, isUsable_below tree hroot h, Bool.not_true,
      if_neg Bool.false_ne_true]
    exact if_pos tooLong
  rw [FileTree.entry?, hlookup]

theorem isPage_of_tooLong (tree : t.root.IsTree)
    (hroot : t.entry? root = .ok (some (.directory d))) {names : List String}
    {e : Entry} (h : Entry.Leads (.directory d) names e)
    (tooLong : IsTooLong root names) :
    isPage t root [] names =
      .error
        (.noSite (.unreadableRoot root ⟨.nameTooLong, below root names⟩)) := by
  rw [isPage, lookup_below_tooLong tree hroot h tooLong]

/-!
## What the usual pattern selects
-/

theorem selectPart_root (hroot : t.entry? root = .ok (some (.directory d)))
    {inside : Bool} :
    selectPart t root inside [] .everywhere =
      selectEverywhere t.reach [] d := by
  apply selectPart_everywhere
  rw [below_nil, hroot]

theorem isTooDeep_iff {reach : Nat} :
    IsTooDeep reach d ↔ ∃ names ∈ d.folders, reach < names.length := by
  constructor
  · rintro ⟨names, inner, hdeep, leads⟩
    rcases List.mem_cons.1
      (Directory.mem_cons_folders_iff.2 ⟨inner, leads⟩) with rfl | hmem
    · cases hdeep
    · exact ⟨names, hmem, hdeep⟩
  · rintro ⟨names, hmem, hdeep⟩
    obtain ⟨inner, leads⟩ :=
      Directory.mem_cons_folders_iff.1 (List.mem_cons_of_mem _ hmem)
    exact ⟨names, inner, hdeep, leads⟩

theorem shallow_of_selectEverywhere {reach : Nat} {names : List String}
    (h : (selectEverywhere reach names d).obstacle = none) :
    ¬ IsTooDeep reach d := by
  intro hdeep
  obtain ⟨inner, hinner, hlt⟩ := isTooDeep_iff.1 hdeep
  unfold selectEverywhere at h
  dsimp only at h
  split at h
  · rename_i hall
    have hle := of_decide_eq_true (List.all_eq_true.1 hall inner hinner)
    exact absurd hlt (Nat.not_lt.2 hle)
  · cases h

theorem rows_selectEverywhere_of_shallow {reach : Nat}
    (shallow : ¬ IsTooDeep reach d) :
    (selectEverywhere reach [] d).rows = [] :: d.folders := by
  rw [selectEverywhere_of_shallow]
  · simp
  · intro inner hinner
    by_contra hlt
    exact shallow (isTooDeep_iff.2 ⟨inner, hinner, Nat.not_le.1 hlt⟩)

theorem leads_of_mem_selectEverywhere {reach : Nat} {folder : List String}
    (h : folder ∈ (selectEverywhere reach [] d).rows) :
    ∃ inner, Entry.Leads (.directory d) folder (.directory inner) := by
  obtain ⟨names, hnames, rfl⟩ := mem_selectEverywhere h
  exact Directory.mem_cons_folders_iff.1 hnames

theorem selectPart_ending (tree : t.root.IsTree)
    (hroot : t.entry? root = .ok (some (.directory d)))
    {folder : List String} {inner : Directory}
    (h : Entry.Leads (.directory d) folder (.directory inner))
    (short : ¬ IsTooLong root folder) :
    (selectPart t root false folder (.entries (.ofString "*.html"))).obstacle =
      none ∧
      ∀ row, row ∈
        (selectPart t root false folder (.entries (.ofString "*.html"))).rows ↔
        ∃ name e, (name, e) ∈ inner.entries ∧ (∃ stem, name = stem ++ ".html") ∧
          row = folder ++ [name] := by
  rw [selectPart_entries (lookup_below tree hroot h short)]
  refine ⟨rfl, fun row => ?_⟩
  rw [List.mem_map]
  constructor
  · rintro ⟨entry, hentry, rfl⟩
    obtain ⟨hmem, haccepts⟩ := List.mem_filter.1 hentry
    exact ⟨entry.1, entry.2, hmem,
      accepts_ending_iff.1 (Bool.and_eq_true_iff.1 haccepts).2, rfl⟩
  · rintro ⟨name, e, hmem, hstem, rfl⟩
    refine ⟨(name, e), List.mem_filter.2 ⟨hmem, ?_⟩, rfl⟩
    rw [Bool.and_eq_true]
    exact ⟨rfl, accepts_ending_iff.2 hstem⟩

theorem selectPart_tooLong (tree : t.root.IsTree)
    (hroot : t.entry? root = .ok (some (.directory d)))
    {folder : List String} {inner : Directory}
    (h : Entry.Leads (.directory d) folder (.directory inner))
    (tooLong : IsTooLong root folder) {g : Glob} {inside : Bool} :
    selectPart t root inside folder (.entries g) =
      ⟨[], some (.refused ⟨.nameTooLong, below root folder⟩)⟩ := by
  simp only [selectPart, lookAt, lookup_below_tooLong tree hroot h tooLong]

theorem select_usual_eq (hroot : t.entry? root = .ok (some (.directory d))) :
    selectBehind t root false [.everywhere, .entries (.ofString "*.html")] [] =
      (selectEverywhere t.reach [] d).behind fun folder =>
        selectPart t root false folder (.entries (.ofString "*.html")) := by
  rw [selectBehind, selectPart_root hroot]
  congr 1
  funext folder
  exact selectBehind_singleton false _ folder

theorem obstacle_select_usual
    (hroot : t.entry? root = .ok (some (.directory d))) :
    (usualPattern.select t root).obstacle =
      ((selectEverywhere t.reach [] d).behind fun folder =>
        selectPart t root false folder
          (.entries (.ofString "*.html"))).obstacle := by
  rw [← select_usual_eq hroot]
  rfl

/-- Whatever breaks off the selection, what it has come upon is there. -/
theorem leads_of_mem_select_usual (tree : t.root.IsTree)
    (hroot : t.entry? root = .ok (some (.directory d))) {names : List String}
    (h : names ∈ (usualPattern.select t root).rows) :
    HasEnding names ∧ ∃ e, Entry.Leads (.directory d) names e := by
  have hmem := mem_select_iff.1 h
  rw [usualPattern, select_usual_eq hroot] at hmem
  obtain ⟨folder, hfolder, hrow⟩ := Search.exists_of_mem_behind hmem
  obtain ⟨inner, leads⟩ := leads_of_mem_selectEverywhere hfolder
  by_cases tooLong : IsTooLong root folder
  · rw [selectPart_tooLong tree hroot leads tooLong] at hrow
    cases hrow
  · obtain ⟨-, hrows⟩ := selectPart_ending tree hroot leads tooLong
    obtain ⟨name, e, hentry, hstem, rfl⟩ := (hrows names).1 hrow
    exact ⟨hasEnding_concat_iff.2 hstem, e,
      Entry.leads_concat_iff.2 ⟨inner, leads, hentry⟩⟩

section Complete

variable (tree : t.root.IsTree)
  (hroot : t.entry? root = .ok (some (.directory d)))
  (complete : (usualPattern.select t root).obstacle = none)

include hroot complete

theorem obstacle_steps_usual :
    (selectEverywhere t.reach [] d).obstacle = none ∧
      ∀ folder ∈ (selectEverywhere t.reach [] d).rows,
        (selectPart t root false folder
          (.entries (.ofString "*.html"))).obstacle = none := by
  rw [obstacle_select_usual hroot] at complete
  exact Search.obstacle_behind_eq_none_iff.1 complete

theorem shallow_of_select_usual : ¬ IsTooDeep t.reach d :=
  shallow_of_selectEverywhere (obstacle_steps_usual hroot complete).1

theorem mem_selectEverywhere_of_leads {folder : List String} {inner : Directory}
    (leads : Entry.Leads (.directory d) folder (.directory inner)) :
    folder ∈ (selectEverywhere t.reach [] d).rows := by
  rw [rows_selectEverywhere_of_shallow (shallow_of_select_usual hroot complete)]
  exact Directory.mem_cons_folders_iff.2 ⟨inner, leads⟩

include tree

theorem short_of_select_usual {folder : List String} {inner : Directory}
    (leads : Entry.Leads (.directory d) folder (.directory inner)) :
    ¬ IsTooLong root folder := by
  intro tooLong
  have hfolder := mem_selectEverywhere_of_leads hroot complete leads
  have hnone := (obstacle_steps_usual hroot complete).2 folder hfolder
  rw [selectPart_tooLong tree hroot leads tooLong] at hnone
  cases hnone

theorem mem_select_usual_iff {names : List String} :
    names ∈ (usualPattern.select t root).rows ↔
      HasEnding names ∧ ∃ e, Entry.Leads (.directory d) names e := by
  refine ⟨leads_of_mem_select_usual tree hroot, ?_⟩
  rintro ⟨hending, e, hleads⟩
  -- The last of the names is that of an entry, and those before it lead to the
  -- directory of the entry.
  rcases List.eq_nil_or_concat names with rfl | ⟨folder, name, rfl⟩
  · obtain ⟨stem, hstem⟩ := hending
    cases hstem
  · rw [List.concat_eq_append] at hending hleads ⊢
    obtain ⟨inner, hinner, hentry⟩ := Entry.leads_concat_iff.1 hleads
    have short := short_of_select_usual tree hroot complete hinner
    obtain ⟨-, hrows⟩ := selectPart_ending tree hroot hinner short
    have hall := complete
    rw [obstacle_select_usual hroot] at hall
    rw [mem_select_iff, usualPattern, select_usual_eq hroot,
      Search.rows_behind hall, List.mem_flatMap]
    refine ⟨folder, mem_selectEverywhere_of_leads hroot complete hinner, ?_⟩
    exact (hrows _).2 ⟨name, e, hentry, hasEnding_concat_iff.1 hending, rfl⟩

end Complete

/-!
## What breaks a search off
-/

inductive IsObstacle (reach : Nat) (root : Path) (d : Directory) :
    Obstacle → Prop
  | tooDeep (deep : IsTooDeep reach d) : IsObstacle reach root d .tooDeep
  | tooLong {names : List String} (met : IsMet d names)
      (tooLong : IsTooLong root names) :
      IsObstacle reach root d (.refused ⟨.nameTooLong, below root names⟩)

theorem isObstacle_of_select_usual (tree : t.root.IsTree)
    (hroot : t.entry? root = .ok (some (.directory d))) {o : Obstacle}
    (h : (usualPattern.select t root).obstacle = some o) :
    IsObstacle t.reach root d o := by
  rw [obstacle_select_usual hroot] at h
  rcases Search.exists_of_obstacle_behind h with
    hdeep | ⟨folder, hfolder, hbroken⟩
  · obtain ⟨rfl, names, hnames, hlt⟩ := obstacle_selectEverywhere hdeep
    exact .tooDeep (isTooDeep_iff.2 ⟨names, hnames, hlt⟩)
  · obtain ⟨inner, leads⟩ := leads_of_mem_selectEverywhere hfolder
    by_cases tooLong : IsTooLong root folder
    · rw [selectPart_tooLong tree hroot leads tooLong] at hbroken
      cases hbroken
      exact .tooLong (.directory leads) tooLong
    · rw [(selectPart_ending tree hroot leads tooLong).1] at hbroken
      cases hbroken

/-- The file system refuses nothing but paths that are too long. -/
theorem isObstacle_of_meets (tree : t.root.IsTree)
    (hroot : t.entry? root = .ok (some (.directory d))) {o : Obstacle}
    (h : Meets t root usualPattern o) : IsObstacle t.reach root d o := by
  cases h with
  | selecting h => exact isObstacle_of_select_usual tree hroot h
  | @looking f names member refused =>
      obtain ⟨ending, e, leads⟩ := leads_of_mem_select_usual tree hroot member
      by_cases tooLong : IsTooLong root names
      · rw [lookup_below_tooLong tree hroot leads tooLong] at refused
        cases refused
        exact .tooLong (.entry leads ending) tooLong
      · rw [lookup_below tree hroot leads tooLong] at refused
        cases refused

theorem IsObstacle.discovered {o : Obstacle} {reach : Nat}
    (h : IsObstacle reach root d o) (exclude : List String) :
    Discovered reach root d exclude (.error (o.failure root)) := by
  cases h with
  | tooDeep deep => exact .unfollowed deep
  | tooLong met tooLong => exact .unreadable met tooLong

/-!
## What is found
-/

theorem short_of_pagesOf_usual (tree : t.root.IsTree)
    (hroot : t.entry? root = .ok (some (.directory d)))
    {rows : List (List String)} (h : pagesOf t root usualPattern [] = .ok rows)
    {names : List String} (met : IsMet d names) : ¬ IsTooLong root names := by
  obtain ⟨complete, hkept⟩ := exists_of_pagesOf h
  cases met with
  | directory leads => exact short_of_select_usual tree hroot complete leads
  | entry leads ending =>
      intro tooLong
      have hfails := isPage_of_tooLong tree hroot leads tooLong
      have hmem :=
        (mem_select_usual_iff tree hroot complete).2 ⟨ending, _, leads⟩
      rcases filterM_cases (isPage t root [])
        (usualPattern.select t root).rows with
        ⟨other, -, f, -, hf⟩ | ⟨hok, -⟩
      · rw [hf] at hkept
        cases hkept
      · obtain ⟨b, hb⟩ := hok names hmem
        rw [hfails] at hb
        cases hb

theorem mem_pagesOf_usual_iff (tree : t.root.IsTree)
    (hroot : t.entry? root = .ok (some (.directory d)))
    {rows : List (List String)} (h : pagesOf t root usualPattern [] = .ok rows)
    {names : List String} :
    names ∈ rows ↔ IsPageOf d names := by
  obtain ⟨complete, hkept⟩ := exists_of_pagesOf h
  rw [mem_filterM_iff hkept, mem_select_usual_iff tree hroot complete,
    isPage_nil_iff]
  constructor
  · rintro ⟨⟨ending, e, leads⟩, bytes, hfile⟩
    have short := short_of_pagesOf_usual tree hroot h (.entry leads ending)
    rw [lookup_below tree hroot leads short] at hfile
    cases hfile
    exact ⟨⟨bytes, leads⟩, ending⟩
  · rintro ⟨⟨bytes, leads⟩, ending⟩
    have short := short_of_pagesOf_usual tree hroot h (.entry leads ending)
    exact ⟨⟨ending, _, leads⟩, bytes, lookup_below tree hroot leads short⟩

theorem discovered (tree : t.root.IsTree)
    (hroot : t.entry? root = .ok (some (.directory d)))
    (exclude : List String) :
    Discovered t.reach root d exclude
      (pages t root Config.defaultPattern (exclude.map .glob)) := by
  cases hrows : pagesOf t root usualPattern [] with
  | error failure =>
      obtain ⟨o, meets, rfl⟩ := meets_of_pagesOf hrows
      rw [pages_of_error hroot ofString_defaultPattern hrows]
      exact (isObstacle_of_meets tree hroot meets).discovered exclude
  | ok rows =>
      have shallow := shallow_of_select_usual hroot (exists_of_pagesOf hrows).1
      have short : ∀ names, IsMet d names → ¬ IsTooLong root names :=
        fun names met => short_of_pagesOf_usual tree hroot hrows met
      rw [pages_of_rows hroot ofString_defaultPattern hrows]
      have members (p : Path) : p ∈ pagesLeft root rows exclude ↔
          ∃ names, p = below root names ∧ IsPageOf d names ∧
            ¬ IsExcluded exclude names := by
        rw [mem_pagesLeft_iff]
        constructor
        · intro h
          rcases h with ⟨names, hnames, hleft, rfl⟩
          rw [← Bool.not_eq_true, excludes_iff] at hleft
          exact ⟨names, rfl,
            (mem_pagesOf_usual_iff tree hroot hrows).1 hnames, hleft⟩
        · intro h
          rcases h with ⟨names, rfl, page, hleft⟩
          rw [← excludes_iff, Bool.not_eq_true] at hleft
          exact ⟨names, (mem_pagesOf_usual_iff tree hroot hrows).2 page, hleft,
            rfl⟩
      by_cases hnil : pagesLeft root rows exclude = []
      · rw [if_pos hnil]
        refine .noPages shallow short fun names page => ?_
        by_contra hleft
        have hp := (members (below root names)).2 ⟨names, rfl, page, hleft⟩
        rw [hnil] at hp
        cases hp
      · rw [if_neg hnil]
        exact .pages shallow short hnil
          (ascending_pagesLeft (nodup_pagesOf hrows) exclude) members

theorem Discovered.isNoSite_iff {reach : Nat} {exclude : List String}
    {answer : Except Failure (List Path)} (shallow : ¬ IsTooDeep reach d)
    (h : Discovered reach root d exclude answer) :
    (∃ e, answer = .error (.noSite e)) ↔
      (∃ names, IsMet d names ∧ IsTooLong root names) ∨
        ∀ names, IsPageOf d names → IsExcluded exclude names := by
  cases h with
  | unfollowed deep => exact absurd deep shallow
  | unreadable met tooLong =>
      exact ⟨fun _ => .inl ⟨_, met, tooLong⟩, fun _ => ⟨_, rfl⟩⟩
  | noPages _ short excluded =>
      exact ⟨fun _ => .inr excluded, fun _ => ⟨_, rfl⟩⟩
  | pages _ short nonempty ascending members =>
      constructor
      · rintro ⟨e, h⟩
        cases h
      · rintro (⟨names, met, tooLong⟩ | excluded)
        · exact absurd tooLong (short names met)
        · obtain ⟨p, hp⟩ := List.exists_mem_of_ne_nil _ nonempty
          obtain ⟨names, -, page, hleft⟩ := (members p).1 hp
          exact absurd (excluded names page) hleft

/-- A right answer is a failure where the search cannot be finished, or no page
is left. -/
theorem Discovered.isError_iff {reach : Nat} {exclude : List String}
    {answer : Except Failure (List Path)}
    (h : Discovered reach root d exclude answer) :
    (∃ failure, answer = .error failure) ↔
      IsTooDeep reach d ∨ (∃ names, IsMet d names ∧ IsTooLong root names) ∨
        ∀ names, IsPageOf d names → IsExcluded exclude names := by
  by_cases deep : IsTooDeep reach d
  · refine ⟨fun _ => .inl deep, fun _ => ?_⟩
    cases h with
    | unfollowed _ => exact ⟨_, rfl⟩
    | unreadable _ _ => exact ⟨_, rfl⟩
    | noPages shallow _ _ => exact absurd deep shallow
    | pages shallow _ _ _ _ => exact absurd deep shallow
  · rw [or_iff_right deep, ← h.isNoSite_iff deep]
    constructor
    · rintro ⟨failure, rfl⟩
      cases h with
      | unfollowed deep' => exact absurd deep' deep
      | unreadable _ _ => exact ⟨_, rfl⟩
      | noPages _ _ _ => exact ⟨_, rfl⟩
    · rintro ⟨e, he⟩
      exact ⟨_, he⟩

/-- Discovery finds exactly the pages that no exclusion matches, or fails where
there are none, the file system refuses to look at something, or something lies
too deep.  Under every pattern, exclusions thin out what is found without
them. -/
theorem pages_discovered (tree : t.root.IsTree)
    (hroot : t.entry? root = .ok (some (.directory d))) :
    (∀ exclude : List String,
      Discovered t.reach root d exclude
          (pages t root "**/*.html" (exclude.map .glob)) ∧
        ((∃ failure, pages t root "**/*.html" (exclude.map .glob) =
          .error failure) ↔
          IsTooDeep t.reach d ∨
            (∃ names, IsMet d names ∧ IsTooLong root names) ∨
            ∀ names, IsPageOf d names → IsExcluded exclude names) ∧
        (¬ IsTooDeep t.reach d →
          ((∃ e, pages t root "**/*.html" (exclude.map .glob) =
            .error (.noSite e)) ↔
            (∃ names, IsMet d names ∧ IsTooLong root names) ∨
              ∀ names, IsPageOf d names → IsExcluded exclude names))) ∧
      ∀ pattern selector, Pattern.ofString pattern = .ok selector →
        ∃ kept, Thinned t root pattern selector kept := by
  constructor
  · intro exclude
    have h := discovered tree hroot exclude
    exact ⟨h, h.isError_iff, fun shallow => h.isNoSite_iff shallow⟩
  · intro pattern selector hselector
    exact exists_thinned (Directory.isNamed_of_isTree tree) hroot hselector

end Pages

def draftPages : Directory :=
  .folder ".git" (.file "a.html" [] .empty)
    (.folder "b.html" (.file ".html" [] .empty)
      (.folder "drafts" (.folder "old" (.file "c.html" [] .empty) .empty)
        .empty))

def draftSite : FileTree where
  root := .folder "site" draftPages .empty
  cwd := []

theorem discovered_draftSite :
    draftSite.root.IsTree ∧
      draftSite.entry? (Path.ofString "site") =
        .ok (some (.directory draftPages)) ∧
      Discovered draftSite.reach (Path.ofString "site") draftPages ["drafts/*"]
        (pages draftSite (Path.ofString "site") "**/*.html"
          [.glob "drafts/*"]) ∧
      Pattern.ofString "drafts/*.html" =
        .ok ⟨[.name "drafts", .entries (.ofString "*.html")], false⟩ ∧
      ∃ kept, Thinned draftSite (Path.ofString "site") "drafts/*.html"
        ⟨[.name "drafts", .entries (.ofString "*.html")], false⟩ kept := by
  have tree : draftSite.root.IsTree := by decide
  have hroot : draftSite.entry? (Path.ofString "site") =
      .ok (some (.directory draftPages)) := rfl
  have hselector : Pattern.ofString "drafts/*.html" =
      .ok ⟨[.name "drafts", .entries (.ofString "*.html")], false⟩ := rfl
  rcases pages_discovered tree hroot with ⟨hfound, hthinned⟩
  exact ⟨tree, hroot, (hfound ["drafts/*"]).1, hselector,
    hthinned _ _ hselector⟩

/-!
## A long way to a page
-/

/-- The names on a way that leads into the directory `s` and out again a number
of times before it stays there. -/
def detour : Nat → List String
  | 0 => ["s"]
  | turns + 1 => "s" :: ".." :: detour turns

def lonePage : Directory :=
  .file "page.html" [] .empty

def detouredSite : FileTree where
  root := .folder "s" lonePage .empty
  cwd := []

theorem follow_detour (turns : Nat) :
    FileTree.follow [] (.directory detouredSite.root) (detour turns) =
      .ok (.directory lonePage) := by
  induction turns with
  | zero => rfl
  | succ turns ih => exact ih

theorem detour_ne_nil (turns : Nat) : detour turns ≠ [] := by
  cases turns with
  | zero => exact List.cons_ne_nil _ _
  | succ turns => exact List.cons_ne_nil _ _

theorem isUsable_detour (turns : Nat) :
    (Path.mk .relative (detour turns)).isUsable = true := by
  induction turns with
  | zero => rfl
  | succ turns ih => exact ih

theorem size_detour (turns : Nat) :
    ("/".intercalate (detour turns)).utf8ByteSize = 5 * turns + 1 := by
  induction turns with
  | zero => rfl
  | succ turns ih =>
      have hsplit : detour (turns + 1) = ["s", ".."] ++ detour turns := rfl
      have hturn : ("/".intercalate ["s", ".."]).utf8ByteSize = 4 := rfl
      have hslash : "/".utf8ByteSize = 1 := rfl
      rw [hsplit,
        String.intercalate_append_of_ne_nil (List.cons_ne_nil _ _)
          (detour_ne_nil turns),
        String.utf8ByteSize_append, String.utf8ByteSize_append, ih, hturn,
        hslash]
      omega

theorem lookup_detour {turns : Nat}
    (short : 5 * turns + 1 ≤ FileTree.maxPathBytes) :
    detouredSite.entry? ⟨.relative, detour turns⟩ =
      .ok (some (.directory lonePage)) := by
  have hsize :
      (Path.mk .relative (detour turns)).text.utf8ByteSize = 5 * turns + 1 := by
    have htext : (Path.mk .relative (detour turns)).text =
        "/".intercalate (detour turns) :=
      relativeText_of_ne_nil (detour_ne_nil turns)
    rw [htext, size_detour]
  have hlookup : detouredSite.lookup ⟨.relative, detour turns⟩ =
      .ok (.directory lonePage) := by
    rw [FileTree.lookup_eq_follow (isUsable_detour turns)
      (by rw [hsize]; exact short)]
    exact follow_detour turns
  rw [FileTree.entry?, hlookup]

theorem isTooLong_detour {turns : Nat}
    (long : FileTree.maxPathBytes < 5 * turns + 11) :
    IsTooLong ⟨.relative, detour turns⟩ ["page.html"] := by
  have htext : (below ⟨.relative, detour turns⟩ ["page.html"]).text =
      "/".intercalate (detour turns ++ ["page.html"]) :=
    relativeText_of_ne_nil
      (List.append_ne_nil_of_right_ne_nil _ (List.cons_ne_nil _ _))
  have hname : ("/".intercalate ["page.html"]).utf8ByteSize = 9 := rfl
  have hslash : "/".utf8ByteSize = 1 := rfl
  rw [IsTooLong, htext,
    String.intercalate_append_of_ne_nil (detour_ne_nil turns)
      (List.cons_ne_nil _ _),
    String.utf8ByteSize_append, String.utf8ByteSize_append, size_detour, hname,
    hslash]
  omega

/-- The root can be named in so many bytes that none are left for the page in
it. -/
theorem page_behind_detour :
    detouredSite.root.IsTree ∧
      detouredSite.entry? ⟨.relative, detour 818⟩ =
        .ok (some (.directory lonePage)) ∧
      IsPageOf lonePage ["page.html"] ∧ ¬ IsExcluded [] ["page.html"] ∧
      ∃ e, pages detouredSite ⟨.relative, detour 818⟩ "**/*.html" [] =
        .error (.noSite e) := by
  have tree : detouredSite.root.IsTree := by decide
  have hroot : detouredSite.entry? ⟨.relative, detour 818⟩ =
      .ok (some (.directory lonePage)) :=
    lookup_detour (by decide)
  have leads : Entry.Leads (.directory lonePage) ["page.html"] (.file []) :=
    .inside List.mem_cons_self (.here _)
  have ending : HasEnding ["page.html"] := ⟨"page", rfl⟩
  have tooLong : IsTooLong ⟨.relative, detour 818⟩ ["page.html"] :=
    isTooLong_detour (by decide)
  have hleft : ¬ IsExcluded [] ["page.html"] := by
    intro h
    rcases h with ⟨glob, hglob, -⟩
    cases hglob
  have shallow : ¬ IsTooDeep detouredSite.reach lonePage := by
    rw [isTooDeep_iff]
    rintro ⟨names, hnames, -⟩
    cases hnames
  exact ⟨tree, hroot, ⟨⟨[], leads⟩, ending⟩, hleft,
    ((discovered tree hroot []).isNoSite_iff shallow).2
      (.inl ⟨_, .entry leads ending, tooLong⟩)⟩

end Discovery
end SiteAudit
