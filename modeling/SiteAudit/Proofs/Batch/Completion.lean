import SiteAudit.Batch.Basic

/-!
# The order of completion does not matter

A pool of workers gives the results of one worker who does page after page, in
whatever order its pages are finished.  The entry of a page depends on nothing
but the page and what is done with it: so a batch may be cut in two, and a page
that fares differently changes its own entry alone.

Each call of a worker or a listener may go its own way.  The number of the page
tells the calls apart, so that a page that stands in a batch twice may be
checked in one place and fail in the other.
-/

namespace SiteAudit
namespace Batch

def Worker.behind (work : Worker) (count : Nat) : Worker :=
  fun i => work (count + i)

def Listener.behind (tell : Listener) (count : Nat) : Listener :=
  fun i => tell (count + i)

/-- The findings that a batch has for a page: those of its worker if nothing
failed, and else the one finding that names the failure, be it the worker's or
the listener's. -/
inductive Processed (work : Worker) (listener : Option Listener)
    (elapsed : String) (i : Nat) (path : Path) (shown : String) :
    List Finding → Prop
  | returned {findings : List Finding}
      (checked : work i path shown = .ok findings)
      (told : ∀ tell ∈ listener, tell i (progressLine elapsed shown findings) =
        .ok ()) :
      Processed work listener elapsed i path shown findings
  | workerFailed {fault : Fault}
      (failed : work i path shown = .error fault) :
      Processed work listener elapsed i path shown
        [.ruleFailure shown "*" fault.describe]
  | listenerFailed {findings : List Finding} {tell : Listener} {fault : Fault}
      (checked : work i path shown = .ok findings)
      (listening : tell ∈ listener)
      (failed : tell i (progressLine elapsed shown findings) = .error fault) :
      Processed work listener elapsed i path shown
        [.ruleFailure shown "*" fault.describe]

theorem processed_outcome (work : Worker) (listener : Option Listener)
    (elapsed : String) (i : Nat) (path : Path) (shown : String) :
    Processed work listener elapsed i path shown
      (outcome (work.telling listener elapsed) i ⟨path, shown⟩) := by
  unfold outcome Worker.telling
  cases hwork : work i path shown with
  | error fault => exact .workerFailed hwork
  | ok findings =>
      cases listener with
      | none =>
          apply Processed.returned hwork
          intro tell htell
          cases htell
      | some tell =>
          cases htell : tell i (progressLine elapsed shown findings) with
          | error fault =>
              simp only [htell]
              exact .listenerFailed hwork rfl htell
          | ok told =>
              simp only [htell]
              apply Processed.returned hwork
              intro other hother
              cases hother
              exact htell

theorem outcome_of_processed {work : Worker} {listener : Option Listener}
    {elapsed : String} {i : Nat} {path : Path} {shown : String}
    {findings : List Finding}
    (h : Processed work listener elapsed i path shown findings) :
    outcome (work.telling listener elapsed) i ⟨path, shown⟩ = findings := by
  unfold outcome Worker.telling
  cases h with
  | returned checked told =>
      cases listener with
      | none => simp [checked]
      | some tell => simp [checked, told tell rfl]
  | workerFailed failed => simp [failed, crashed]
  | listenerFailed checked listening failed =>
      cases listening
      simp [checked, failed, crashed]

theorem telling_behind (work : Worker) (listener : Option Listener)
    (elapsed : String) (count : Nat) :
    (work.behind count).telling (listener.map (·.behind count)) elapsed =
      (work.telling listener elapsed).behind count := by
  cases listener with
  | none => rfl
  | some tell => rfl

/-!
## Entries of a sequential batch
-/

@[simp] theorem length_inSequence (work : Worker) (jobs : List Job) :
    (inSequence work jobs).length = jobs.length :=
  List.length_mapIdx

theorem getElem?_inSequence (work : Worker) (jobs : List Job) (i : Nat) :
    (inSequence work jobs)[i]? = jobs[i]?.map fun job =>
      (job.shown, outcome work i job) :=
  List.getElem?_mapIdx

theorem mem_inSequence_jobsOf {t : FileTree} {work : Worker} {paths : List Path}
    {entry : PageResult} :
    entry ∈ inSequence work (jobsOf t paths) ↔
      ∃ i path, paths[i]? = some path ∧
        entry =
          (displayPath t path, outcome work i ⟨path, displayPath t path⟩) := by
  rw [List.mem_iff_getElem?]
  apply exists_congr
  intro i
  rw [getElem?_inSequence, jobsOf, List.getElem?_map]
  cases paths[i]? with
  | none => simp
  | some path => simp [eq_comm]

theorem inSequence_append (work : Worker) (xs ys : List Job) :
    inSequence work (xs ++ ys) =
      inSequence work xs ++ inSequence (work.behind xs.length) ys := by
  unfold inSequence
  rw [List.mapIdx_append]
  congr 1
  apply List.mapIdx_eq_mapIdx_iff.2
  intro i hi
  simp [outcome, Worker.behind, Nat.add_comm]

theorem outcome_congr {work work' : Worker} {i : Nat} (h : work' i = work i)
    (job : Job) :
    outcome work' i job = outcome work i job := by
  unfold outcome
  rw [h]

theorem getElem?_jobsOf (t : FileTree) (paths : List Path) (i : Nat) :
    (jobsOf t paths)[i]? = paths[i]?.map fun p => ⟨p, displayPath t p⟩ :=
  List.getElem?_map

theorem jobsOf_append (t : FileTree) (paths more : List Path) :
    jobsOf t (paths ++ more) = jobsOf t paths ++ jobsOf t more :=
  List.map_append

theorem processPages_append (t : FileTree) (work : Worker)
    (listener : Option Listener) (elapsed : String) (workers : Int)
    {order : List Nat} (paths more : List Path)
    (h : order.Perm (List.range (paths ++ more).length)) :
    processPages t work listener elapsed workers order (paths ++ more) =
      .ok (inSequence (work.telling listener elapsed) (jobsOf t paths) ++
        inSequence ((work.behind paths.length).telling
          (listener.map (·.behind paths.length)) elapsed)
          (jobsOf t more)) := by
  rw [processPages_eq t work listener elapsed workers h, jobsOf_append,
    inSequence_append, length_jobsOf, telling_behind]

theorem getElem?_results_congr (t : FileTree) {work work' : Worker}
    {paths paths' : List Path} {i : Nat} (hpath : paths'[i]? = paths[i]?)
    (hwork : work' i = work i) :
    (inSequence work' (jobsOf t paths'))[i]? =
      (inSequence work (jobsOf t paths))[i]? := by
  rw [getElem?_inSequence, getElem?_inSequence, getElem?_jobsOf,
    getElem?_jobsOf, hpath]
  cases paths[i]? with
  | none => rfl
  | some path => simp [outcome_congr hwork]

/-!
## The main statement

A batch has results, one for each page and in the order of the pages.  They are
those of a single worker, whatever the number of workers and the order in which
they finish.  The results of two batches, one behind the other, are those of the
two together, and two batches that do the same with a page in the same place
have the same entry there.
-/

theorem processPages_refines_sequence (t : FileTree) (work : Worker)
    (listener : Option Listener) (elapsed : String) (workers : Int)
    (order : List Nat) (paths : List Path)
    (complete : order.Perm (List.range paths.length)) :
    ∃ results,
      processPages t work listener elapsed workers order paths = .ok results ∧
      (∀ few ≤ (1 : Int), ∀ any,
        processPages t work listener elapsed few any paths = .ok results) ∧
      results.length = paths.length ∧
      (∀ i path, paths[i]? = some path →
        ∃ findings, results[i]? = some (displayPath t path, findings) ∧
          ∀ fs, Processed work listener elapsed i path (displayPath t path) fs ↔
            fs = findings) ∧
      (∀ more workers₁ workers₂ order₁ order₂,
        order₁.Perm (List.range (paths ++ more).length) →
          order₂.Perm (List.range more.length) →
        ∃ rest,
          processPages t (work.behind paths.length)
            (listener.map (·.behind paths.length)) elapsed
            workers₂ order₂ more = .ok rest ∧
          processPages t work listener elapsed workers₁ order₁ (paths ++ more) =
            .ok (results ++ rest)) ∧
      (∀ work' listener' elapsed' workers' order' paths',
        order'.Perm (List.range paths'.length) →
        ∃ results',
          processPages t work' listener' elapsed' workers' order' paths' =
            .ok results' ∧
          ∀ i, paths'[i]? = paths[i]? →
            work'.telling listener' elapsed' i =
              work.telling listener elapsed i →
            results'[i]? = results[i]?) := by
  refine ⟨_, processPages_eq t work listener elapsed workers complete, ?_, ?_,
    ?_, ?_, ?_⟩
  · intro few hfew any
    have hone : isSequential few (jobsOf t paths).length = true := by
      simp [isSequential, hfew]
    rw [processPages, run, if_pos hone]
  · simp
  · intro i path hpath
    refine ⟨outcome (work.telling listener elapsed) i ⟨path,
      displayPath t path⟩, ?_, ?_⟩
    · rw [getElem?_inSequence, getElem?_jobsOf, hpath]
      rfl
    · intro fs
      constructor
      · intro h
        exact (outcome_of_processed h).symm
      · intro h
        rw [h]
        exact processed_outcome work listener elapsed i path
          (displayPath t path)
  · intro more workers₁ workers₂ order₁ order₂ h₁ h₂
    exact ⟨_, processPages_eq t _ _ elapsed workers₂ h₂,
      processPages_append t work listener elapsed workers₁ paths more h₁⟩
  · intro work' listener' elapsed' workers' order' paths' h'
    refine ⟨_, processPages_eq t work' listener' elapsed' workers' h', ?_⟩
    intro i hpath hwork
    exact getElem?_results_congr t hpath hwork

/-- Three workers finish a batch from its end.  The page that stands in it twice
is checked once, and the second time its listener fails. -/
theorem processPages_of_repeated_page :
    [2, 0, 1].Perm (List.range 3) ∧
    processPages { root := .empty, cwd := [] }
        (fun i _ _ => if i = 1 then .error ⟨"ValueError", "no page"⟩
          else .ok [])
        (some fun i _ => if i = 2 then .error ⟨"OSError", "no space"⟩
          else .ok ())
        "1.2" 3 [2, 0, 1] [⟨.relative, ["a"]⟩, ⟨.relative, ["b"]⟩,
          ⟨.relative, ["a"]⟩] =
      .ok [("a", []), ("b", [.ruleFailure "b" "*" "ValueError: no page"]),
        ("a", [.ruleFailure "a" "*" "OSError: no space"])] := by
  have complete : [2, 0, 1].Perm (List.range 3) := by decide
  refine ⟨complete, ?_⟩
  rcases processPages_refines_sequence { root := .empty, cwd := [] }
      (fun i _ _ => if i = 1 then .error ⟨"ValueError", "no page"⟩ else .ok [])
      (some fun i _ => if i = 2 then .error ⟨"OSError", "no space"⟩ else .ok ())
      "1.2" 3 [2, 0, 1] [⟨.relative, ["a"]⟩, ⟨.relative, ["b"]⟩,
        ⟨.relative, ["a"]⟩] complete with
    ⟨results, hresults, hsequence, -⟩
  rw [hresults, ← hsequence 1 (by decide) []]
  rfl

end Batch
end SiteAudit
