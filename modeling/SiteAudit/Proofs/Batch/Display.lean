import SiteAudit.Proofs.Path
import SiteAudit.Proofs.Report.Order

/-!
# A display path identifies its page

The name under which the findings on a page are told is itself a path, and from
the working directory it leads to where the path of the page leads.  So two
pages with one name are one page.  Below the working directory this is because
the name has no double dots in it, and elsewhere because the name is the path as
it was given.
-/

namespace SiteAudit

namespace Path

/-!
## Where a path leads
-/

/-- Following parts from a row of names, the nearest first, drops some of the
names and puts parts on top of the others. -/
theorem exists_foldl_step (parts start : List String) :
    ∃ above count, parts.foldl step start = above ++ start.drop count ∧
      ∀ name ∈ above, name ∈ parts ∧ name ≠ ".." := by
  induction parts generalizing start with
  | nil => exact ⟨[], 0, rfl, nofun⟩
  | cons part parts ih =>
      rcases ih (step start part) with ⟨above, count, hfold, habove⟩
      have hmore : ∀ name ∈ above, name ∈ part :: parts ∧ name ≠ ".." :=
        fun name hname =>
          ⟨List.mem_cons_of_mem _ (habove name hname).1, (habove name hname).2⟩
      rw [List.foldl_cons, hfold]
      by_cases hup : part = ".."
      · refine ⟨above, count + 1, ?_, hmore⟩
        rw [step, if_pos (beq_iff_eq.2 hup), List.drop_tail]
      · have hstep : step start part = part :: start :=
          if_neg (by simpa using hup)
        rw [hstep]
        cases count with
        | zero =>
            refine ⟨above ++ [part], 0,
              (List.append_assoc above [part] start).symm, ?_⟩
            intro name hname
            rcases List.mem_append.1 hname with hname | hname
            · exact hmore name hname
            · rw [List.mem_singleton.1 hname]
              exact ⟨List.mem_cons_self, hup⟩
        | succ count => exact ⟨above, count, by rw [List.drop_succ_cons], hmore⟩

theorem exists_resolve (cwd : List String) (p : Path) :
    ∃ count down, p.resolve cwd = cwd.take count ++ down ∧
      ∀ name ∈ down, name ∈ p.parts ∧ name ≠ ".." := by
  cases habsolute : p.isAbsolute with
  | true =>
      rcases exists_foldl_step p.parts [] with ⟨above, count, hfold, habove⟩
      refine ⟨0, above.reverse, ?_,
        fun name hname => habove name (List.mem_reverse.1 hname)⟩
      simp [resolve, habsolute, hfold]
  | false =>
      rcases exists_foldl_step p.parts cwd.reverse with
        ⟨above, count, hfold, habove⟩
      refine ⟨cwd.length - count, above.reverse, ?_,
        fun name hname => habove name (List.mem_reverse.1 hname)⟩
      simp [resolve, habsolute, hfold, List.drop_reverse]

/-- What a path leads to below the working directory, it leads to by names of
its own. -/
theorem mem_parts_of_resolve {cwd names : List String} {p : Path}
    (h : p.resolve cwd = cwd ++ names) :
    ∀ name ∈ names, name ∈ p.parts ∧ name ≠ ".." := by
  rcases exists_resolve cwd p with ⟨count, down, hresolve, hdown⟩
  have hnames : names = down.drop (cwd.length - (cwd.take count).length) := by
    have hdrop := congrArg (List.drop cwd.length) (h.symm.trans hresolve)
    rw [List.drop_left, List.drop_append,
      List.drop_eq_nil_of_le (List.length_take_le' count cwd),
      List.nil_append] at hdrop
    exact hdrop
  intro name hname
  rw [hnames] at hname
  exact hdown name (List.mem_of_mem_drop hname)

theorem resolve_names {names : List String} (h : ∀ name ∈ names, name ≠ "..")
    (cwd : List String) :
    (Path.mk .relative names).resolve cwd = cwd ++ names := by
  simp [resolve, isAbsolute, foldl_step h]

end Path

namespace Batch

variable {t : FileTree} {p : Path}

/-- The display path of a page leads to the page. -/
theorem resolve_displayPath (read : p.IsRead) :
    (Path.ofString (displayPath t p)).resolve t.cwd = p.resolve t.cwd := by
  unfold displayPath
  split
  · split
    · rename_i names hbelow
      rw [Path.below?_eq_some_iff] at hbelow
      have hown := Path.mem_parts_of_resolve hbelow
      have hread : (Path.mk .relative names).IsRead := fun name hname =>
        read name (hown name hname).1
      rw [Path.ofString_text hread,
        Path.resolve_names fun name hname => (hown name hname).2, hbelow]
    · rw [Path.ofString_text read]
  · rw [Path.ofString_text read]

theorem resolve_eq_of_displayPath_eq {q : Path} (hp : p.IsRead) (hq : q.IsRead)
    (h : displayPath t p = displayPath t q) :
    p.resolve t.cwd = q.resolve t.cwd := by
  rw [← resolve_displayPath hp, h, resolve_displayPath hq]

/-!
## Headings of a report
-/

/-- The results for these texts are on the pages that they stand for, and no
heading of their report stands for two pages. -/
structure TellsApart (t : FileTree) (texts : List String)
    (results : List PageResult) : Prop where
  length : results.length = texts.length
  shown : ∀ (i : Nat) s, texts[i]? = some s → ∃ findings,
    results[i]? = some (displayPath t (.ofString s), findings)
  named : ∀ entry ∈ results, ∀ f ∈ entry.2, f.file = entry.1
  headed : ∀ f ∈ Report.ordered (Tally.ofFiles results), ∃ names,
    (∃ entry ∈ results, entry.1 = f.file ∧ f ∈ entry.2) ∧
    ∀ (i : Nat) s entry, texts[i]? = some s → results[i]? = some entry →
      entry.1 = f.file →
      (Path.ofString s).resolve t.cwd = names

theorem exists_mem_of_mem_ordered {files : List PageResult} {f : Finding}
    (h : f ∈ Report.ordered (Tally.ofFiles files)) :
    ∃ entry ∈ files, f ∈ entry.2 := by
  rw [(Report.ordered_perm _).mem_iff, Tally.ofFiles_eq, List.mem_append] at h
  cases h with
  | inl herror => exact List.mem_flatMap.1 (List.mem_filter.1 herror).1
  | inr hother => exact List.mem_flatMap.1 (List.mem_filter.1 hother).1

theorem tellsApart_inSequence (t : FileTree) (listener : Option Listener)
    (elapsed : String) (texts : List String) :
    TellsApart t texts
      (inSequence ((pageWorker t).telling listener elapsed)
        (jobsOf t (texts.map Path.ofString))) := by
  have hentry : ∀ i s, texts[i]? = some s →
      (inSequence ((pageWorker t).telling listener elapsed)
        (jobsOf t (texts.map Path.ofString)))[i]? =
        some (displayPath t (.ofString s),
          outcome ((pageWorker t).telling listener elapsed) i ⟨.ofString s,
            displayPath t (.ofString s)⟩) := by
    intro i s hs
    rw [getElem?_inSequence, getElem?_jobsOf, List.getElem?_map, hs]
    rfl
  have hnamed : ∀ entry ∈ inSequence ((pageWorker t).telling listener elapsed)
      (jobsOf t (texts.map Path.ofString)),
      AreOn entry.1 entry.2 := by
    intro entry hmem
    rcases mem_inSequence_jobsOf.1 hmem with ⟨i, path, _, rfl⟩
    exact areOn_outcome t listener elapsed i path
  refine
    { length := by simp
      shown := fun i s hs => ⟨_, hentry i s hs⟩
      named := hnamed
      headed := ?_ }
  intro f hf
  rcases exists_mem_of_mem_ordered hf with ⟨entry, hmem, hin⟩
  have hfile : f.file = entry.1 := hnamed entry hmem f hin
  rcases mem_inSequence_jobsOf.1 hmem with ⟨i, path, hpath, rfl⟩
  rw [List.getElem?_map, Option.map_eq_some_iff] at hpath
  rcases hpath with ⟨s, _, rfl⟩
  refine ⟨(Path.ofString s).resolve t.cwd, ⟨_, hmem, hfile.symm, hin⟩, ?_⟩
  intro j s' other hs' hother hheading
  -- the other entry has the same heading, so its page has the same display path
  have hshown : other.1 = displayPath t (.ofString s') := by
    rw [hentry j s' hs'] at hother
    cases hother
    rfl
  exact resolve_eq_of_displayPath_eq (Path.isRead_ofString s')
    (Path.isRead_ofString s)
    (hshown.symm.trans (hheading.trans hfile))

/-!
## The main statement

Two texts that are displayed alike lead to one file, whatever they are.  So when
pages are checked, with any number of workers and in whatever order they finish,
the findings under one heading of the report are on one file.
-/

theorem display_identifies_page :
    (∀ (t : FileTree) (s s' : String),
      displayPath t (.ofString s) = displayPath t (.ofString s') →
      (Path.ofString s).resolve t.cwd = (Path.ofString s').resolve t.cwd) ∧
    ∀ (t : FileTree) (listener : Option Listener) (elapsed : String)
      (workers : Int) (order : List Nat)
      (texts : List String), order.Perm (List.range texts.length) →
      ∃ results,
        processPages t (pageWorker t) listener elapsed workers order
          (texts.map Path.ofString) = .ok results ∧
        TellsApart t texts results := by
  constructor
  · intro t s s' h
    exact resolve_eq_of_displayPath_eq (Path.isRead_ofString s)
      (Path.isRead_ofString s') h
  · intro t listener elapsed workers order texts complete
    rw [← List.length_map Path.ofString] at complete
    exact ⟨_, processPages_eq t _ listener elapsed workers complete,
      tellsApart_inSequence t listener elapsed texts⟩

/-- Two texts for one page that is not there, and one for another: two workers
give the page one name. -/
theorem display_of_two_texts :
    let t : FileTree := { root := .empty, cwd := ["site"] }
    let texts := ["docs/../b.html", "/site//b.html", "../b.html"]
    (displayPath t (.ofString "docs/../b.html") =
      displayPath t (.ofString "/site//b.html") ∧
      (Path.ofString "docs/../b.html").resolve t.cwd =
        (Path.ofString "/site//b.html").resolve t.cwd) ∧
    [2, 1, 0].Perm (List.range texts.length) ∧
    ∃ results,
      processPages t (pageWorker t) none "" 2 [2, 1,
        0] (texts.map Path.ofString) = .ok results ∧
      TellsApart t texts results := by
  intro t texts
  have alike : displayPath t (.ofString "docs/../b.html") =
      displayPath t (.ofString "/site//b.html") := by decide
  have complete : [2, 1, 0].Perm (List.range texts.length) := by decide
  exact ⟨⟨alike, display_identifies_page.1 t _ _ alike⟩, complete,
    display_identifies_page.2 t none "" 2 [2, 1, 0] texts complete⟩

end Batch
end SiteAudit
