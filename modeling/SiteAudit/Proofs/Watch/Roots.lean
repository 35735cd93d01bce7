import SiteAudit.Proofs.Discovery.Selection
import SiteAudit.Proofs.Watch.Debounce

/-!
# Watching does not depend on where the site lies

Whether an event concerns the handler of a root is decided by the names below
the root alone.  So a site may be moved to another root, even into a hidden
directory, and the same events make the same runs.  In particular the handler
takes for a page what discovery takes for one, hidden files apart.
-/

namespace SiteAudit
namespace Watch

open SiteAudit.Path (IsName Spells LiesBelow)

/-- A text for the root of a site: an absolute path, whose own names may well
start with a dot. -/
structure IsRoot (root : String) : Prop where
  absolute : ∃ rest, root.toList = '/' :: rest
  noNull : Char.ofNat 0 ∉ root.toList

structure IsVisiblePage (names : List String) : Prop where
  visible : ∀ name ∈ names, name.toList.head? ≠ some '.'
  page : ∃ stem, names.getLast? = some (stem ++ ".html") ∨
    names.getLast? = some (stem ++ ".htm")

def textBelow (root : String) (s : List Char) : String :=
  root ++ "/" ++ String.ofList s

/-- Two places with the same names below two roots. -/
inductive SamePlace (root root' : String) : Place → Place → Prop
  | below {names : List String} {s s' : List Char} (here : Spells names s)
      (there : Spells names s') :
      SamePlace root root' (.text (textBelow root s))
        (.text (textBelow root' s'))

structure SameChange (root root' : String) (a b : Arrival) : Prop where
  kind : b.event.kind = a.event.kind
  isDirectory : b.event.isDirectory = a.event.isDirectory
  source : SamePlace root root' a.event.source b.event.source
  destination :
    a.event.destination = .text "" ∧ b.event.destination = .text "" ∨
      SamePlace root root' a.event.destination b.event.destination
  time : b.time = a.time
  duration : b.duration = a.duration

/-!
## Pages below a root
-/

theorem isPageName_iff {name : String} :
    isPageName name = true ↔
      ∃ stem, name = stem ++ ".html" ∨ name = stem ++ ".htm" := by
  have hsuffix :
      ∀ ending : String, ending.toList.isSuffixOf name.toList = true ↔
        ∃ stem, name = stem ++ ending := by
    intro ending
    rw [List.isSuffixOf_iff_suffix]
    constructor
    · intro h
      rcases h with ⟨stem, hstem⟩
      exact ⟨String.ofList stem,
        by rw [← String.toList_inj, String.toList_append,
          String.toList_ofList, hstem]⟩
    · intro h
      rcases h with ⟨stem, rfl⟩
      exact ⟨stem.toList, String.toList_append.symm⟩
  rw [isPageName, pageEndings, List.any_cons, List.any_cons, List.any_nil,
    Bool.or_false, Bool.or_eq_true, hsuffix, hsuffix, exists_or]

theorem any_isHidden_iff {names : List String} :
    names.any isHidden = false ↔
      ∀ name ∈ names, name.toList.head? ≠ some '.' := by
  simp [isHidden]

section Below

variable {h : Handler} {root : Path} {names : List String}

theorem visibleNames_of_liesBelow (hroot : h.root = some (root.resolve h.cwd))
    (usable : root.isUsable = true) {p : Path} (below : LiesBelow root names p)
    (named : ∀ name ∈ names, IsName name) :
    h.visibleNames p = names := by
  have hp : p.isUsable = true := Path.isUsable_of_liesBelow below usable named
  simp only [Handler.visibleNames, hroot, hp, if_true,
    Path.resolve_of_liesBelow below named, Path.below?_append, Option.getD_some]

/-- What is below the root is a page or not by its names below the root. -/
theorem isPage_of_liesBelow (hroot : h.root = some (root.resolve h.cwd))
    (usable : root.isUsable = true) {s : String}
    (below : LiesBelow root names (Path.ofString s))
    (named : ∀ name ∈ names, IsName name) (nonempty : names ≠ []) :
    h.isPage (.text s) = true ↔ IsVisiblePage names := by
  have hs : (s != "") = true := by
    rw [bne_iff_ne]
    rintro rfl
    have hparts : root.parts ++ names = [] := below.parts.symm
    exact nonempty (List.append_eq_nil_iff.1 hparts).2
  rw [Handler.isPage, hs, Bool.true_and,
    visibleNames_of_liesBelow hroot usable below named,
    Path.name_of_liesBelow below nonempty, Bool.and_eq_true, Bool.not_eq_true',
    any_isHidden_iff, isPageName_iff]
  have hlast : names.getLast? = some (names.getLast nonempty) :=
    List.getLast?_eq_some_getLast nonempty
  constructor
  · intro hpage
    refine ⟨hpage.1, ?_⟩
    simpa only [hlast, Option.some.injEq] using hpage.2
  · intro hpage
    refine ⟨hpage.visible, ?_⟩
    simpa only [hlast, Option.some.injEq] using hpage.page

theorem liesBelow_textBelow {root : String} (hroot : IsRoot root)
    {s : List Char} (spelled : Spells names s) :
    LiesBelow (Path.ofString root) names
      (Path.ofString (textBelow root s)) := by
  have htext : (textBelow root s).toList = root.toList ++ '/' :: s := by
    simp [textBelow]
  rcases hroot.absolute with ⟨rest, hrest⟩
  constructor
  · have habsolute : (textBelow root s).toList = '/' :: (rest ++ '/' :: s) := by
      rw [htext, hrest]
      rfl
    rw [Path.isAbsolute_ofString habsolute, Path.isAbsolute_ofString hrest]
  · show Path.partsOf (textBelow root s).toList = _
    rw [htext, Path.partsOf_append, Path.partsOf_spelled spelled]
    rfl

theorem isPage_textBelow {root : String} (hroot : IsRoot root) {s : List Char}
    (spelled : Spells names s) (cwd : List String) (delay : Rat) :
    (handlerFor cwd (Path.ofString root) delay).isPage
      (.text (textBelow root s)) = true ↔ IsVisiblePage names :=
  isPage_of_liesBelow rfl (Path.isUsable_ofString hroot.noNull)
    (liesBelow_textBelow hroot spelled)
    (Path.isName_of_spelled spelled) (Path.ne_nil_of_spelled spelled)

end Below

/-!
## The same change below two roots
-/

section Same

variable {root root' : String} (hroot : IsRoot root) (hroot' : IsRoot root')
    (cwd cwd' : List String) (delay : Rat)

include hroot hroot'

theorem isPage_samePlace {p q : Place} (hpq : SamePlace root root' p q) :
    (handlerFor cwd' (Path.ofString root') delay).isPage q =
      (handlerFor cwd (Path.ofString root) delay).isPage p := by
  cases hpq with
  | below here there =>
      rw [Bool.eq_iff_iff, isPage_textBelow hroot' there,
        isPage_textBelow hroot here]

theorem concerns_sameChange {a b : Arrival} (hab : SameChange root root' a b) :
    (handlerFor cwd' (Path.ofString root') delay).Concerns b.event ↔
      (handlerFor cwd (Path.ofString root) delay).Concerns a.event := by
  have hsource := isPage_samePlace hroot hroot' cwd cwd' delay hab.source
  have hdestination :
      (handlerFor cwd' (Path.ofString root') delay).isPage b.event.destination =
      (handlerFor cwd (Path.ofString root) delay).isPage
        a.event.destination := by
    rcases hab.destination with ⟨ha, hb⟩ | hsame
    · rw [ha, hb]
      rfl
    · exact isPage_samePlace hroot hroot' cwd cwd' delay hsame
  rw [← Handler.isRelevant_iff, ← Handler.isRelevant_iff, Handler.isRelevant,
    Handler.isRelevant, hab.kind, hab.isDirectory, hsource, hdestination]

theorem treatedAlike_sameChange {a b : Arrival}
    (hab : SameChange root root' a b) :
    TreatedAlike (handlerFor cwd (Path.ofString root) delay)
      (handlerFor cwd' (Path.ofString root') delay) a b where
  concerns := concerns_sameChange hroot hroot' cwd cwd' delay hab
  time := hab.time
  duration := hab.duration

end Same

/-!
## Discovered files
-/

theorem concerns_of_page {h : Handler} {e : Event} {s : String}
    (page : h.isPage (.text s) = true) (file : e.isDirectory = false)
    (kind : e.kind ≠ .other)
    (place : e.source = .text s ∨ e.kind = .moved ∧ e.destination = .text s) :
    h.Concerns e := by
  rw [← Handler.isRelevant_iff]
  rcases place with hsource | ⟨hmoved, hdestination⟩
  · simp [Handler.isRelevant, file, kind, hsource, page]
  · simp [Handler.isRelevant, file, hmoved, hdestination, page]

/-- What discovery finds is a page to the handler, unless it is hidden. -/
theorem isPage_of_mem_pages {t : FileTree} (named : t.root.IsNamed)
    {root : String} (delay : Rat) {exclude : List Exclusion} {paths : List Path}
    (found :
      Discovery.pages t (Path.ofString root) Config.defaultPattern exclude =
        .ok paths)
    {p : Path} (hp : p ∈ paths) :
    ∃ names, p = Discovery.below (Path.ofString root) names ∧
      ((∀ name ∈ names, name.toList.head? ≠ some '.') →
        (handlerFor t.cwd (Path.ofString root) delay).isPage (.text p.text) =
          true) := by
  rcases Discovery.exists_of_mem_pages_default named found hp with
    ⟨folder, stem, hnames, rfl⟩
  refine ⟨folder ++ [stem ++ ".html"], rfl, ?_⟩
  intro visible
  have below : LiesBelow (Path.ofString root) (folder ++ [stem ++ ".html"])
      (Discovery.below (Path.ofString root) (folder ++ [stem ++ ".html"])) :=
      ⟨rfl, rfl⟩
  have hread := Path.ofString_text
    (Path.isRead_of_liesBelow below (Path.isRead_ofString root) hnames)
  have usable := (Discovery.exists_of_mem_pages found hp).1
  rw [← hread] at below
  rw [isPage_of_liesBelow rfl usable below hnames (by simp)]
  exact ⟨visible, stem, .inl (by simp)⟩

/-!
## The main statement

Handlers of two roots make the same runs on the same changes, one event after
another; what is a page to a handler is said by the names below its root; and so
each file that discovery finds is watched, unless it is hidden below the root.
-/

theorem watching_independent_of_root {root root' : String} (hroot : IsRoot root)
    (hroot' : IsRoot root') (cwd cwd' : List String) (delay : Rat) :
    let h := handlerFor cwd (Path.ofString root) delay
    let h' := handlerFor cwd' (Path.ofString root') delay
    (∀ arrivals arrivals',
      List.Forall₂ (SameChange root root') arrivals arrivals' →
      ∀ count,
        (Session.receiveAll h' {} (arrivals'.take count)).runs =
          (Session.receiveAll h {} (arrivals.take count)).runs ∧
        (Session.receiveAll h' {} (arrivals'.take count)).lastRun =
          (Session.receiveAll h {} (arrivals.take count)).lastRun) ∧
    (∀ names s, Spells names s →
      (h.isPage (.text (textBelow root s)) = true ↔ IsVisiblePage names)) ∧
    ∀ (t : FileTree) (site : String) (exclude : List Exclusion)
      (paths : List Path), t.root.IsNamed →
      Discovery.pages t (Path.ofString site) Config.defaultPattern exclude =
        .ok paths →
      ∀ p ∈ paths, ∃ names, p = Discovery.below (Path.ofString site) names ∧
        ((∀ name ∈ names, name.toList.head? ≠ some '.') →
          ∀ e : Event, e.isDirectory = false → e.kind ≠ .other →
            (e.source = .text p.text ∨
              e.kind = .moved ∧ e.destination = .text p.text) →
            (handlerFor t.cwd (Path.ofString site) delay).Concerns e) := by
  intro h h'
  refine ⟨?_, ?_, ?_⟩
  · intro arrivals arrivals' hsame count
    have halike := hsame.imp fun _ _ hab =>
      treatedAlike_sameChange hroot hroot' cwd cwd' delay hab
    have hdelay : h'.delay = h.delay := rfl
    exact receiveAll_alike hdelay rfl rfl (List.forall₂_take count halike)
  · intro names s spelled
    exact isPage_textBelow hroot spelled cwd delay
  · intro t site exclude paths named found p hp
    rcases isPage_of_mem_pages named delay found hp with ⟨names, hbelow, hpage⟩
    refine ⟨names, hbelow, ?_⟩
    intro visible e file kind place
    exact concerns_of_page (hpage visible) file kind place

def siteChanges (root : String) : List Arrival :=
  [⟨⟨.modified, false, .text (textBelow root "a.html".toList), .text ""⟩,
     0, 0, {}⟩,
   ⟨⟨.moved, false, .text (textBelow root "a.tmp".toList),
     .text (textBelow root ".cache/a.html".toList)⟩, 1, 0, {}⟩,
   ⟨⟨.created, false, .text (textBelow root "docs//b.htm/".toList), .text ""⟩,
     2, 0, {}⟩]

theorem sameChange_siteChanges (root root' : String) :
    List.Forall₂ (SameChange root root') (siteChanges root)
      (siteChanges root') := by
  have page : Spells ["a.html"] "a.html".toList :=
    .last (by decide) 0
  have other : Spells ["a.tmp"] "a.tmp".toList :=
    .last (by decide) 0
  have hidden : Spells [".cache", "a.html"] ".cache/a.html".toList :=
    .cons (by decide) 0 page
  have made : Spells ["docs", "b.htm"] "docs//b.htm/".toList :=
    .cons (by decide) 1
      (.last (by decide) 1)
  refine .cons ?_ (.cons ?_ (.cons ?_ .nil))
  · exact ⟨rfl, rfl, .below page page, .inl ⟨rfl, rfl⟩, rfl, rfl⟩
  · exact ⟨rfl, rfl, .below other other, .inr (.below hidden hidden), rfl, rfl⟩
  · exact ⟨rfl, rfl, .below made made, .inl ⟨rfl, rfl⟩, rfl, rfl⟩

def hiddenSite : FileTree where
  root := .folder ".work" (.file "a.html" [] .empty) .empty
  cwd := []

theorem select_hiddenSite :
    Discovery.selectBehind hiddenSite (Path.ofString "/.work") false
      [.everywhere, .entries (.ofString "*.html")] [] =
        ⟨[["a.html"]], none⟩ := by
  have haccepts : (Glob.ofString "*.html").accepts "a.html" = true :=
    (Glob.accepts_star Discovery.isPlain_html "a.html").2 ⟨['a'], rfl⟩
  have hbelow :
      hiddenSite.entry? (Discovery.below (Path.ofString "/.work") []) =
      .ok (some (.directory (.file "a.html" [] .empty))) := rfl
  have hentries :
      Discovery.selectPart hiddenSite (Path.ofString "/.work") false []
      (.entries (.ofString "*.html")) = ⟨[["a.html"]], none⟩ := by
    rw [Discovery.selectPart_entries hbelow]
    simp [Directory.entries, haccepts]
  rw [Discovery.selectBehind, Discovery.selectPart_everywhere hbelow]
  show Discovery.Search.followedBy
    (Discovery.selectBehind hiddenSite (Path.ofString "/.work") false
      [.entries (.ofString "*.html")] []) ⟨[], none⟩ = _
  rw [Discovery.selectBehind_singleton, hentries]
  rfl

theorem pages_hiddenSite :
    Discovery.pages hiddenSite (Path.ofString "/.work")
      Config.defaultPattern [] =
      .ok [⟨.slash, [".work", "a.html"]⟩] := by
  have hroot : hiddenSite.entry? (Path.ofString "/.work") =
      .ok (some (.directory (.file "a.html" [] .empty))) := rfl
  have honce :
      ([["a.html"]] : List (List String)).eraseDups = [["a.html"]] := by
    simp [List.eraseDups_cons]
  have hpage :
      Discovery.isPage hiddenSite (Path.ofString "/.work") [] ["a.html"] =
      .ok true := rfl
  have hkept : [["a.html"]].filterM
      (Discovery.isPage hiddenSite (Path.ofString "/.work") []) =
        .ok [["a.html"]] := by
    simp only [List.filterM, List.filterAuxM, hpage]
    rfl
  have hpages : Discovery.pagesOf hiddenSite (Path.ofString "/.work")
      ⟨[.everywhere, .entries (.ofString "*.html")], false⟩ [] =
        .ok [["a.html"]] := by
    simp only [Discovery.pagesOf, Discovery.Pattern.select, select_hiddenSite,
      honce, hkept]
    rfl
  simp only [Discovery.pages, hroot, Discovery.ofString_defaultPattern, hpages,
    List.mergeSort_singleton]
  rfl

theorem watching_hidden_root :
    IsRoot "/.work" ∧ IsRoot "//srv/site/" ∧
    (Session.receiveAll (handlerFor [] (Path.ofString "/.work") (1 / 2)) {}
      (siteChanges "/.work")).runs = 2 ∧
    (Session.receiveAll
      (handlerFor ["w"] (Path.ofString "//srv/site/") (1 / 2)) {}
      (siteChanges "//srv/site/")).runs = 2 ∧
    (handlerFor [] (Path.ofString "/.work") (1 / 2)).isPage
      (.text (textBelow "/.work" ".cache/a.html".toList)) =
      false ∧
    (handlerFor [] (Path.ofString "/.work") (1 / 2)).Concerns
      { kind := .deleted, source := .text "/.work/a.html" } := by
  have hroot : IsRoot "/.work" := ⟨⟨_, rfl⟩, by decide⟩
  have hroot' : IsRoot "//srv/site/" := ⟨⟨_, rfl⟩, by decide⟩
  rcases watching_independent_of_root hroot hroot' [] ["w"] (1 / 2) with
    ⟨hruns, hpage, hfound⟩
  have htwo :
      (Session.receiveAll (handlerFor [] (Path.ofString "/.work") (1 / 2)) {}
      (siteChanges "/.work")).runs = 2 := by
    decide +kernel
  refine ⟨hroot, hroot', htwo, ?_, ?_, ?_⟩
  · exact (hruns _ _ (sameChange_siteChanges "/.work" "//srv/site/") 3).1.trans
      htwo
  · have hidden : Spells [".cache", "a.html"] ".cache/a.html".toList :=
      .cons (by decide) 0
        (.last (by decide) 0)
    rw [Bool.eq_false_iff, Ne, hpage _ _ hidden]
    intro visible
    exact visible.visible ".cache" (by decide) rfl
  · have named : hiddenSite.root.IsNamed := by
      refine ⟨?_, ⟨?_, trivial⟩, trivial⟩
      · decide
      · decide
    rcases hfound hiddenSite "/.work" [] _ named pages_hiddenSite _
      List.mem_cons_self with ⟨names, hbelow, hconcerns⟩
    have hnames : names = ["a.html"] :=
      (List.cons.inj (Path.mk.inj hbelow).2).2.symm
    subst hnames
    exact hconcerns (by decide) _ rfl (by decide) (.inl rfl)

end Watch
end SiteAudit
