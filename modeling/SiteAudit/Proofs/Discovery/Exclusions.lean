import SiteAudit.Proofs.Discovery.Selection

/-!
# What exclusions leave

Exclusions are tried on the pages that a pattern selects, and take some of them
away; they change neither what is selected nor the order of what is left.  So
two lists of exclusions in a row leave what each of them leaves, and a glob for
everything in a directory takes away the pages whose names go on from those of
the directory.
-/

namespace SiteAudit
namespace Discovery

def excludes (exclude names : List String) : Bool :=
  exclude.any fun glob => (Glob.ofString glob).accepts (relativeText names)

/-- The pages that exclusions leave of some rows of names. -/
def pagesLeft (root : Path) (rows : List (List String))
    (exclude : List String) : List Path :=
  ((rows.filter fun names => !excludes exclude names).mergeSort comesBefore).map
    (below root)

def IsExcluded (exclude names : List String) : Prop :=
  ∃ glob ∈ exclude, (Glob.ofString glob).accepts (relativeText names) = true

/-- What breaks off a discovery: the search for what a pattern selects gets no
further, or the file system refuses one of the paths. -/
inductive Meets (t : FileTree) (root : Path) (selector : Pattern) :
    Obstacle → Prop
  | selecting {o : Obstacle} (h : (selector.select t root).obstacle = some o) :
      Meets t root selector o
  | looking {f : AccessFailure} {names : List String}
      (member : names ∈ (selector.select t root).rows)
      (refused : t.entry? (below root names) = .error f) :
      Meets t root selector (.refused f)

/-- The pages that discovery leaves under some exclusions; none where it fails
because the site is none or is too deep. -/
inductive Keeps (t : FileTree) (root : Path) (pattern : String)
    (exclude : List String) : List Path → Prop
  | found {paths : List Path}
      (h : pages t root pattern (exclude.map .glob) = .ok paths) :
      Keeps t root pattern exclude paths
  | failed {e : Error}
      (h : pages t root pattern (exclude.map .glob) = .error (.noSite e)) :
      Keeps t root pattern exclude []
  | unfollowed
      (h : pages t root pattern (exclude.map .glob) = .error .tooDeep) :
      Keeps t root pattern exclude []

structure Thinned (t : FileTree) (root : Path) (pattern : String)
    (selector : Pattern) (kept : List String → List Path) : Prop where
  keeps : ∀ exclude, Keeps t root pattern exclude (kept exclude)
  ascending : ∀ exclude, (kept exclude).Pairwise fun p q => p.parts < q.parts
  /-- What is left are the selected files that no exclusion matches, or the site
  cannot be searched at all. -/
  files :
    (∃ o, Meets t root selector o ∧
      ∀ exclude : List String,
        pages t root pattern (exclude.map .glob) = .error (o.failure root)) ∨
    (selector.select t root).obstacle = none ∧
      ∀ exclude p, p ∈ kept exclude ↔
        ∃ names ∈ (selector.select t root).rows, p = below root names ∧
          (∃ bytes, t.entry? p = .ok (some (.file bytes))) ∧
          ¬ IsExcluded exclude names
  both : ∀ exclude others p, p ∈ kept (exclude ++ others) ↔
    p ∈ kept exclude ∧ p ∈ kept others
  inside :
    ∀ folder : List String, folder ≠ [] → (Path.mk .relative folder).IsRead →
    (∀ c ∈ ("/".intercalate folder).toList, Glob.IsPlain c) → ∀ exclude p,
      p ∈ kept (exclude ++ ["/".intercalate folder ++ "/*"]) ↔
        p ∈ kept exclude ∧ ¬ ∃ more, more ≠ [] ∧ p = below root (folder ++ more)

section Exclusions

variable {t : FileTree} {root : Path} {d : Directory} {selector : Pattern}
    {rows : List (List String)}

/-!
## Exclusions and selection
-/

theorem isExcluded?_globs (path : String) (exclude : List String) :
    isExcluded? path (exclude.map .glob) =
      some (exclude.any fun glob => (Glob.ofString glob).accepts path) := by
  induction exclude with
  | nil => rfl
  | cons glob exclude ih =>
      rw [List.map_cons, isExcluded?, Exclusion.accepts?, List.any_cons, ih]
      cases (Glob.ofString glob).accepts path with
      | false => rfl
      | true => rfl

theorem isPage_globs (exclude names : List String) :
    isPage t root (exclude.map .glob) names =
      (isPage t root [] names).map (· && !excludes exclude names) := by
  rw [isPage, isPage]
  cases t.entry? (below root names) with
  | error f => rfl
  | ok found =>
      cases found with
      | none => rfl
      | some e =>
          cases e with
          | directory d => rfl
          | file bytes =>
              dsimp only
              rw [isExcluded?_globs]
              rfl

theorem pagesOf_globs (exclude : List String) :
    pagesOf t root selector (exclude.map .glob) =
      (pagesOf t root selector []).map
        (List.filter fun names => !excludes exclude names) := by
  have htest : isPage t root (exclude.map .glob) =
      fun names =>
        (isPage t root [] names).map (· && !excludes exclude names) :=
    funext fun names => isPage_globs exclude names
  rw [pagesOf, pagesOf, htest, filterM_and]
  cases (selector.select t root).rows.filterM (isPage t root []) with
  | error f => rfl
  | ok kept =>
      cases (selector.select t root).obstacle with
      | none => rfl
      | some o => rfl

theorem pages_of_rows {pattern : String}
    (hroot : t.entry? root = .ok (some (.directory d)))
    (hselector : Pattern.ofString pattern = .ok selector)
    (hrows : pagesOf t root selector [] = .ok rows) (exclude : List String) :
    pages t root pattern (exclude.map .glob) =
      if pagesLeft root rows exclude = [] then
        .error (.noSite (.noPages root pattern))
      else .ok (pagesLeft root rows exclude) := by
  unfold pages
  rw [hroot, hselector]
  dsimp only
  rw [pagesOf_globs, hrows]
  cases hleft : rows.filter fun names => !excludes exclude names with
  | nil =>
      have hnil : pagesLeft root rows exclude = [] := by
        rw [pagesLeft, hleft, List.mergeSort_nil, List.map_nil]
      rw [Except.map, hleft, if_pos hnil]
  | cons first others =>
      have hne : pagesLeft root rows exclude ≠ [] := by
        intro hnil
        have hlength := congrArg List.length hnil
        rw [pagesLeft, List.length_map, List.length_mergeSort, hleft] at hlength
        cases hlength
      rw [Except.map, hleft, if_neg hne, pagesLeft, hleft]

theorem pages_of_error {pattern : String} {failure : Failure}
    (hroot : t.entry? root = .ok (some (.directory d)))
    (hselector : Pattern.ofString pattern = .ok selector)
    (hrows : pagesOf t root selector [] = .error failure)
    (exclude : List String) :
    pages t root pattern (exclude.map .glob) = .error failure := by
  unfold pages
  rw [hroot, hselector]
  dsimp only
  rw [pagesOf_globs, hrows]
  rfl

/-!
## The rows of a pattern
-/

theorem nodup_pagesOf (hrows : pagesOf t root selector [] = .ok rows) :
    rows.Nodup := by
  obtain ⟨-, hkept⟩ := exists_of_pagesOf hrows
  have hselected : (selector.select t root).rows.Nodup := nodup_eraseDups _
  rcases filterM_cases (isPage t root []) (selector.select t root).rows with
    ⟨names, -, f, -, hfails⟩ | ⟨-, hall⟩
  · rw [hfails] at hkept
    cases hkept
  · rw [hall] at hkept
    cases hkept
    exact hselected.filter _

theorem below_nil (root : Path) : below root [] = root := by
  rw [below, List.append_nil]

theorem ne_nil_of_mem_pagesOf
    (hroot : t.entry? root = .ok (some (.directory d)))
    (hrows : pagesOf t root selector [] = .ok rows) {names : List String}
    (h : names ∈ rows) : names ≠ [] := by
  obtain ⟨-, hkept⟩ := exists_of_pagesOf hrows
  intro hnil
  have hpage := ((mem_filterM_iff hkept).1 h).2
  rw [hnil, isPage, below_nil, hroot] at hpage
  cases hpage

theorem isRead_of_mem_pagesOf (named : t.root.IsNamed) {pattern : String}
    (hselector : Pattern.ofString pattern = .ok selector)
    (hrows : pagesOf t root selector [] = .ok rows) {names : List String}
    (h : names ∈ rows) : (Path.mk .relative names).IsRead := by
  obtain ⟨-, hkept⟩ := exists_of_pagesOf hrows
  have hmem := mem_select_iff.1 ((mem_filterM_iff hkept).1 h).1
  exact isRead_of_mem_selectBehind named (isPart_of_ofString hselector)
    (List.forall_mem_nil _) hmem

/-- Asking for pages without exclusions fails where it meets an obstacle, and
nowhere else. -/
theorem meets_of_pagesOf {failure : Failure}
    (hrows : pagesOf t root selector [] = .error failure) :
    ∃ o, Meets t root selector o ∧ failure = o.failure root := by
  rcases exists_of_bind_eq_error hrows with hlooking | ⟨kept, -, hselecting⟩
  · rcases filterM_cases (isPage t root []) (selector.select t root).rows with
      ⟨names, hnames, other, hfails, h⟩ | ⟨-, h⟩
    · rw [hlooking] at h
      cases h
      unfold isPage at hfails
      split at hfails
      · rename_i f hf
        cases hfails
        exact ⟨.refused f, .looking hnames hf, rfl⟩
      · cases hfails
      · cases hfails
    · rw [hlooking] at h
      cases h
  · cases hobstacle : (selector.select t root).obstacle with
    | none =>
        rw [hobstacle] at hselecting
        cases hselecting
    | some o =>
        rw [hobstacle] at hselecting
        cases hselecting
        exact ⟨o, .selecting hobstacle, rfl⟩

theorem isPage_nil_iff {names : List String} :
    isPage t root [] names = .ok true ↔
      ∃ bytes, t.entry? (below root names) = .ok (some (.file bytes)) := by
  constructor
  · intro h
    unfold isPage at h
    split at h
    · cases h
    · rename_i bytes hfile
      exact ⟨bytes, hfile⟩
    · cases h
  · intro h
    rcases h with ⟨bytes, hfile⟩
    rw [isPage, hfile]
    rfl

theorem excludes_iff {exclude names : List String} :
    excludes exclude names = true ↔ IsExcluded exclude names :=
  List.any_eq_true

/-!
## The pages that are left
-/

theorem mem_pagesLeft_iff {exclude : List String} {p : Path} :
    p ∈ pagesLeft root rows exclude ↔ ∃ names ∈ rows,
      excludes exclude names = false ∧ p = below root names := by
  rw [pagesLeft, List.mem_map]
  constructor
  · intro h
    rcases h with ⟨names, hnames, rfl⟩
    rcases List.mem_filter.1 (List.mem_mergeSort.1 hnames) with ⟨hmem, hleft⟩
    exact ⟨names, hmem, by simpa using hleft, rfl⟩
  · intro h
    rcases h with ⟨names, hmem, hleft, rfl⟩
    exact ⟨names,
      List.mem_mergeSort.2 (List.mem_filter.2 ⟨hmem, by simpa using hleft⟩),
      rfl⟩

theorem below_injective {names others : List String}
    (h : below root names = below root others) :
    names = others := by
  have hparts := congrArg Path.parts h
  exact List.append_cancel_left hparts

theorem pairwise_mergeSort_comesBefore (nodup : rows.Nodup) :
    (rows.mergeSort comesBefore).Pairwise fun names others =>
      names < others := by
  have htrans (a b c : List String) (hab : comesBefore a b = true)
      (hbc : comesBefore b c = true) : comesBefore a c = true := by
    simp only [comesBefore, Bool.not_eq_true', decide_eq_false_iff_not,
      List.not_lt] at hab hbc ⊢
    exact List.le_trans hab hbc
  have htotal (a b : List String) :
      (comesBefore a b || comesBefore b a) = true := by
    simp only [comesBefore, Bool.or_eq_true, Bool.not_eq_true',
      decide_eq_false_iff_not, List.not_lt]
    exact List.le_total a b
  have hsorted := List.pairwise_mergeSort htrans htotal rows
  have hnodup : (rows.mergeSort comesBefore).Nodup :=
    (List.mergeSort_perm rows comesBefore).nodup_iff.2 nodup
  refine (hsorted.and hnodup).imp ?_
  intro names others h
  rcases h with ⟨hbefore, hne⟩
  simp only [comesBefore, Bool.not_eq_true', decide_eq_false_iff_not] at hbefore
  by_contra hlt
  exact hne (List.le_antisymm (List.not_lt.1 hbefore) (List.not_lt.1 hlt))

theorem ascending_pagesLeft (nodup : rows.Nodup) (exclude : List String) :
    (pagesLeft root rows exclude).Pairwise fun p q => p.parts < q.parts := by
  rw [pagesLeft, List.pairwise_map]
  refine (pairwise_mergeSort_comesBefore (nodup.filter _)).imp ?_
  intro names others h
  exact List.append_left_lt h

theorem excludes_append (exclude others names : List String) :
    excludes (exclude ++ others) names =
      (excludes exclude names || excludes others names) :=
  List.any_append

theorem mem_pagesLeft_append {exclude others : List String} {p : Path} :
    p ∈ pagesLeft root rows (exclude ++ others) ↔
      p ∈ pagesLeft root rows exclude ∧ p ∈ pagesLeft root rows others := by
  rw [mem_pagesLeft_iff, mem_pagesLeft_iff, mem_pagesLeft_iff]
  constructor
  · intro h
    rcases h with ⟨names, hmem, hleft, rfl⟩
    rw [excludes_append, Bool.or_eq_false_iff] at hleft
    exact ⟨⟨names, hmem, hleft.1, rfl⟩, ⟨names, hmem, hleft.2, rfl⟩⟩
  · intro h
    rcases h with ⟨⟨names, hmem, hleft, rfl⟩, ⟨same, -, hother, hsame⟩⟩
    rcases below_injective hsame with rfl
    refine ⟨names, hmem, ?_, rfl⟩
    rw [excludes_append, hleft, hother]
    rfl

/-!
## Leaving out a directory
-/

theorem relativeText_of_ne_nil {names : List String} (h : names ≠ []) :
    relativeText names = "/".intercalate names := by
  cases names with
  | nil => exact absurd rfl h
  | cons name names => exact String.empty_append

/-- What goes on behind the names of a directory and a separator has more names
than the directory. -/
theorem exists_of_intercalate {folder names : List String}
    (hfolder : (Path.mk .relative folder).IsRead)
    (hnames : (Path.mk .relative names).IsRead) {rest : List Char}
    (h : ("/".intercalate names).toList =
      ("/".intercalate folder).toList ++ '/' :: rest) :
    ∃ more, more ≠ [] ∧ names = folder ++ more := by
  have hparts := Path.partsOf_intercalate hnames
  rw [h, Path.partsOf_append, Path.partsOf_intercalate hfolder] at hparts
  refine ⟨Path.partsOf rest, ?_, hparts.symm⟩
  intro hnil
  rw [hnil, List.append_nil] at hparts
  have hsame : folder = names := hparts
  rw [hsame] at h
  have hlength := congrArg List.length h
  rw [List.length_append, List.length_cons] at hlength
  omega

/-- A glob for everything in a directory matches the pages whose names go on
from those of the directory. -/
theorem excludes_inside_iff {folder names : List String}
    (hfolder : (Path.mk .relative folder).IsRead)
    (plain : ∀ c ∈ ("/".intercalate folder).toList, Glob.IsPlain c)
    (hnames : (Path.mk .relative names).IsRead) (hne : names ≠ [])
    (nonempty : folder ≠ []) :
    excludes ["/".intercalate folder ++ "/*"] names = true ↔
      ∃ more, more ≠ [] ∧ names = folder ++ more := by
  have hglob : Glob.ofString ("/".intercalate folder ++ "/*") =
      Glob.ofChars (("/".intercalate folder).toList ++ ['/'] ++ ['*']) := by
    rw [Glob.ofString, String.toList_append, List.append_assoc]
    rfl
  have hplain :
      ∀ c ∈ ("/".intercalate folder).toList ++ ['/'], Glob.IsPlain c := by
    intro c hc
    rcases List.mem_append.1 hc with hc | hc
    · exact plain c hc
    · rcases List.mem_singleton.1 hc with rfl
      simp [Glob.IsPlain]
  rw [excludes, List.any_cons, List.any_nil, Bool.or_false, hglob,
    Glob.accepts_star_behind hplain, relativeText_of_ne_nil hne]
  constructor
  · intro h
    rcases h with ⟨rest, hrest⟩
    rw [List.append_assoc] at hrest
    exact exists_of_intercalate hfolder hnames hrest.symm
  · intro h
    rcases h with ⟨more, hmore, rfl⟩
    refine ⟨("/".intercalate more).toList, ?_⟩
    rw [String.intercalate_append_of_ne_nil nonempty hmore,
      String.toList_append, String.toList_append]
    rfl

theorem mem_pagesLeft_inside {folder : List String}
    (hfolder : (Path.mk .relative folder).IsRead)
    (plain : ∀ c ∈ ("/".intercalate folder).toList, Glob.IsPlain c)
    (nonempty : folder ≠ [])
    (hread : ∀ names ∈ rows, (Path.mk .relative names).IsRead)
    (hne : ∀ names ∈ rows, names ≠ []) {exclude : List String} {p : Path} :
    p ∈ pagesLeft root rows (exclude ++ ["/".intercalate folder ++ "/*"]) ↔
      p ∈ pagesLeft root rows exclude ∧ ¬ ∃ more, more ≠ [] ∧
        p = below root (folder ++ more) := by
  rw [mem_pagesLeft_append]
  refine and_congr_right fun hp => ?_
  rcases mem_pagesLeft_iff.1 hp with ⟨names, hmem, -, rfl⟩
  have hinside := excludes_inside_iff hfolder plain (hread names hmem)
    (hne names hmem) nonempty
  rw [mem_pagesLeft_iff]
  constructor
  · intro h hmore
    rcases h with ⟨same, -, hleft, hsame⟩
    rcases below_injective hsame with rfl
    rcases hmore with ⟨more, hmore, hbelow⟩
    rw [hinside.2 ⟨more, hmore, below_injective hbelow⟩] at hleft
    cases hleft
  · intro h
    refine ⟨names, hmem, ?_, rfl⟩
    rw [← Bool.not_eq_true, hinside]
    intro hmore
    rcases hmore with ⟨more, hmore, rfl⟩
    exact h ⟨more, hmore, rfl⟩

theorem keeps_nil_of_error {pattern : String} {exclude : List String}
    {o : Obstacle}
    (h : pages t root pattern (exclude.map .glob) = .error (o.failure root)) :
    Keeps t root pattern exclude [] := by
  cases o with
  | refused f => exact .failed h
  | tooDeep => exact .unfollowed h

theorem thinned_of_error {pattern : String} {o : Obstacle}
    (hroot : t.entry? root = .ok (some (.directory d)))
    (hselector : Pattern.ofString pattern = .ok selector)
    (meets : Meets t root selector o)
    (hrows : pagesOf t root selector [] = .error (o.failure root)) :
    Thinned t root pattern selector fun _ => [] where
  keeps := fun exclude =>
    keeps_nil_of_error (pages_of_error hroot hselector hrows exclude)
  ascending := fun _ => List.Pairwise.nil
  files := .inl ⟨o, meets, pages_of_error hroot hselector hrows⟩
  both := by simp
  inside := by simp

theorem thinned_of_rows (named : t.root.IsNamed) {pattern : String}
    (hroot : t.entry? root = .ok (some (.directory d)))
    (hselector : Pattern.ofString pattern = .ok selector)
    (hrows : pagesOf t root selector [] = .ok rows) :
    Thinned t root pattern selector (pagesLeft root rows) where
  keeps := by
    intro exclude
    have hpages := pages_of_rows hroot hselector hrows exclude
    by_cases hnil : pagesLeft root rows exclude = []
    · rw [if_pos hnil] at hpages
      rw [hnil]
      exact .failed hpages
    · rw [if_neg hnil] at hpages
      exact .found hpages
  ascending := ascending_pagesLeft (nodup_pagesOf hrows)
  files := by
    obtain ⟨hcomplete, hfilter⟩ := exists_of_pagesOf hrows
    refine .inr ⟨hcomplete, fun exclude p => ?_⟩
    rw [mem_pagesLeft_iff]
    constructor
    · intro h
      rcases h with ⟨names, hnames, hleft, rfl⟩
      rcases (mem_filterM_iff hfilter).1 hnames with ⟨hmem, hpage⟩
      rw [← Bool.not_eq_true, excludes_iff] at hleft
      exact ⟨names, hmem, rfl, isPage_nil_iff.1 hpage, hleft⟩
    · intro h
      rcases h with ⟨names, hmem, rfl, hfile, hleft⟩
      rw [← excludes_iff, Bool.not_eq_true] at hleft
      exact ⟨names, (mem_filterM_iff hfilter).2 ⟨hmem, isPage_nil_iff.2 hfile⟩,
        hleft, rfl⟩
  both := by
    intro exclude others p
    exact mem_pagesLeft_append
  inside := by
    intro folder nonempty read plain exclude p
    exact mem_pagesLeft_inside read plain nonempty (fun names =>
      isRead_of_mem_pagesOf named hselector hrows)
      (fun names => ne_nil_of_mem_pagesOf hroot hrows)

/-- Whatever the pattern is, exclusions do nothing but thin out its pages. -/
theorem exists_thinned (named : t.root.IsNamed)
    (hroot : t.entry? root = .ok (some (.directory d))) {pattern : String}
    (hselector : Pattern.ofString pattern = .ok selector) :
    ∃ kept, Thinned t root pattern selector kept := by
  cases hrows : pagesOf t root selector [] with
  | error failure =>
      obtain ⟨o, meets, rfl⟩ := meets_of_pagesOf hrows
      exact ⟨_, thinned_of_error hroot hselector meets hrows⟩
  | ok rows => exact ⟨_, thinned_of_rows named hroot hselector hrows⟩

end Exclusions

end Discovery
end SiteAudit
