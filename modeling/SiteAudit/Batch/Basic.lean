import SiteAudit.Batch.Page
import SiteAudit.Discovery.Basic
import SiteAudit.Tally

/-!
# Batches

A batch checks pages one after another or with several workers.  Workers finish
in any order; each result is kept under the number of its page, and the results
are put in the order of the pages at the end.  A worker that fails takes nothing
else along: its page gets one finding.  Someone may be told of each page that
has been checked, and that may fail as well, at the cost of the same page.
-/

namespace SiteAudit
namespace Batch

/-- A page of a batch: where it is, and how findings name it. -/
structure Job where
  path : Path
  shown : String
  deriving DecidableEq, Repr

/-- What is done with a page, which is given by its number in the batch, its
path and its display path. -/
abbrev Worker :=
  Nat → Path → String → Except Fault (List Finding)

abbrev Listener :=
  Nat → String → Except Fault Unit

/-- The entry of a page in the results: its display path and its findings. -/
abbrev PageResult :=
  String × List Finding

def jobsOf (t : FileTree) (paths : List Path) : List Job :=
  paths.map fun p => ⟨p, displayPath t p⟩

/-- The line that tells of a checked page.  `elapsed` is the text of the
milliseconds that the check took. -/
def progressLine (elapsed shown : String) (findings : List Finding) : String :=
  shown ++ ": " ++ Text.natural findings.length ++ " finding(s) in " ++
    elapsed ++ " ms"

def Worker.telling (work : Worker) (listener : Option Listener)
    (elapsed : String) : Worker :=
  fun i path shown =>
    match work i path shown with
    | .error fault => .error fault
    | .ok findings =>
        match listener with
        | none => .ok findings
        | some tell =>
            match tell i (progressLine elapsed shown findings) with
            | .error fault => .error fault
            | .ok () => .ok findings

@[simp] theorem telling_none (work : Worker) (elapsed : String) :
    work.telling none elapsed = work := by
  funext i path shown
  unfold Worker.telling
  cases work i path shown <;> rfl

def crashed (shown : String) (fault : Fault) : List Finding :=
  [.ruleFailure shown "*" fault.describe]

/-- The findings on a page, whether its worker returned or failed. -/
def outcome (work : Worker) (i : Nat) (job : Job) : List Finding :=
  match work i job.path job.shown with
  | .ok findings => findings
  | .error fault => crashed job.shown fault

def inSequence (work : Worker) (jobs : List Job) : List PageResult :=
  jobs.mapIdx fun i job => (job.shown, outcome work i job)

def finish (work : Worker) (jobs : List Job) (table : List (Nat × List Finding))
    (i : Nat) :
    List (Nat × List Finding) :=
  match jobs[i]? with
  | some job => (i, outcome work i job) :: table.filter (·.1 != i)
  | none => table

/-- What is known when workers have finished the jobs with the given numbers, in
this order. -/
def finished (work : Worker) (jobs : List Job) (order : List Nat) :
    List (Nat × List Finding) :=
  order.foldl (finish work jobs) []

def unfinished (i : Nat) : Fault :=
  ⟨"KeyError", Text.natural i⟩

/-- The entry of a job by its number, once workers have finished. -/
def collect (table : List (Nat × List Finding)) (numbered : Job × Nat) :
    Except Fault PageResult :=
  match table.lookup numbered.2 with
  | some findings => .ok (numbered.1.shown, findings)
  | none => .error (unfinished numbered.2)

def inPool (work : Worker) (jobs : List Job) (order : List Nat) :
    Except Fault (List PageResult) :=
  jobs.zipIdx.mapM (collect (finished work jobs order))

def isSequential (workers : Int) (count : Nat) : Bool :=
  workers ≤ 1 || count ≤ 1

/-- The results of a batch with a number of workers.  `order` is the order in
which a pool finishes. -/
def run (work : Worker) (workers : Int) (order : List Nat) (jobs : List Job) :
    Except Fault (List PageResult) :=
  if isSequential workers jobs.length then .ok (inSequence work jobs)
    else inPool work jobs order

def processPages (t : FileTree) (work : Worker) (listener : Option Listener)
    (elapsed : String) (workers : Int) (order : List Nat) (paths : List Path) :
    Except Fault (List PageResult) :=
  run (work.telling listener elapsed) workers order (jobsOf t paths)

/-- The order in which the workers of a pool finish, for each number of jobs.
Every job is finished once. -/
structure Schedule where
  order : Nat → List Nat
  order_perm : ∀ count, (order count).Perm (List.range count)

def Schedule.inTurn : Schedule :=
  ⟨List.range, fun _ => .refl _⟩

def turns (workers : Int) (schedule : Schedule) (count : Nat) : List Nat :=
  if isSequential workers count then List.range count else schedule.order count

theorem turns_perm (workers : Int) (schedule : Schedule) (count : Nat) :
    (turns workers schedule count).Perm (List.range count) := by
  unfold turns
  split
  · exact .refl _
  · exact schedule.order_perm count

/-- The lines that tell of pages in the given order; a page whose worker failed
has none. -/
def toldLines (work : Worker) (elapsed : String) (jobs : List Job)
    (order : List Nat) : List String :=
  order.filterMap fun i =>
    jobs[i]?.bind fun job =>
      match work i job.path job.shown with
      | .ok findings => some (progressLine elapsed job.shown findings)
      | .error _ => none

def pageWorker (t : FileTree) : Worker :=
  fun _ path shown => checkPage t path (some shown)

def progressLines (t : FileTree) (elapsed : String) (paths : List Path) :
    List String :=
  toldLines (pageWorker t) elapsed (jobsOf t paths) (List.range paths.length)

/-!
## The pool knows every page

Whatever the order, the table of a pool holds the outcome of each job that has
been finished, under the number of the job.  Once every job has been finished,
no look-up fails, and the entries are those of doing one job after another.
-/

theorem lookup_filter_ne {α : Type} (table : List (Nat × α)) {i j : Nat}
    (h : j ≠ i) :
    (table.filter (·.1 != i)).lookup j = table.lookup j := by
  induction table with
  | nil => rfl
  | cons entry table ih =>
      obtain ⟨k, a⟩ := entry
      by_cases hk : k = i
      · subst hk
        have hb : (j == k) = false := by simpa using h
        simpa [List.lookup_cons, hb] using ih
      · by_cases hj : j = k
        · subst hj
          simp [hk]
        · have hb : (j == k) = false := by simpa using hj
          simpa [hk, List.lookup_cons, hb] using ih

theorem lookup_finish (work : Worker) (jobs : List Job)
    (table : List (Nat × List Finding)) (i j : Nat) :
    (finish work jobs table i).lookup j =
      if j = i then (jobs[i]?.map (outcome work i)).or (table.lookup j)
        else table.lookup j := by
  unfold finish
  cases hjob : jobs[i]? with
  | none => simp
  | some job =>
      by_cases h : j = i
      · subst h
        simp
      · have hb : (j == i) = false := by simpa using h
        simp [h, List.lookup_cons, hb, lookup_filter_ne]

theorem lookup_foldl_finish (work : Worker) (jobs : List Job) (order : List Nat)
    (table : List (Nat × List Finding)) (j : Nat) :
    (order.foldl (finish work jobs) table).lookup j =
      if j ∈ order then (jobs[j]?.map (outcome work j)).or (table.lookup j)
        else table.lookup j := by
  induction order generalizing table with
  | nil => simp
  | cons i order ih =>
      rw [List.foldl_cons, ih, lookup_finish]
      by_cases h : j = i
      · subst h
        cases jobs[j]? <;> simp
      · simp [h]

theorem lookup_finished (work : Worker) (jobs : List Job) (order : List Nat)
    (j : Nat) :
    (finished work jobs order).lookup j = if j ∈ order then
      jobs[j]?.map (outcome work j) else none := by
  simpa [finished] using lookup_foldl_finish work jobs order [] j

theorem collect_finished {work : Worker} {jobs : List Job} {order : List Nat}
    {numbered : Job × Nat} (hmem : numbered ∈ jobs.zipIdx)
    (hdone : numbered.2 ∈ order) :
    collect (finished work jobs order) numbered =
      .ok (numbered.1.shown, outcome work numbered.2 numbered.1) := by
  have hjob : jobs[numbered.2]? = some numbered.1 :=
    List.mem_zipIdx_iff_getElem?.1 hmem
  simp [collect, lookup_finished, hdone, hjob]

theorem inPool_eq_inSequence {work : Worker} {jobs : List Job}
    {order : List Nat} (h : ∀ i < jobs.length, i ∈ order) :
    inPool work jobs order = .ok (inSequence work jobs) := by
  have hcollect :
      ∀ numbered ∈ jobs.zipIdx, collect (finished work jobs order) numbered =
      .ok (numbered.1.shown, outcome work numbered.2 numbered.1) := by
    intro numbered hmem
    have hlt : numbered.2 < jobs.length := by
      simpa using (List.mem_zipIdx hmem).2.1
    exact collect_finished hmem (h numbered.2 hlt)
  rw [inPool, mapM_eq_ok hcollect, inSequence, List.mapIdx_eq_zipIdx_map]

theorem run_eq_inSequence (work : Worker) (workers : Int) {jobs : List Job}
    {order : List Nat} (h : order.Perm (List.range jobs.length)) :
    run work workers order jobs = .ok (inSequence work jobs) := by
  unfold run
  split
  · rfl
  · exact inPool_eq_inSequence fun i hi => h.mem_iff.2 (List.mem_range.2 hi)

@[simp] theorem length_jobsOf (t : FileTree) (paths : List Path) :
    (jobsOf t paths).length = paths.length :=
  List.length_map _

theorem processPages_eq (t : FileTree) (work : Worker)
    (listener : Option Listener) (elapsed : String) (workers : Int)
    {order : List Nat} {paths : List Path}
    (h : order.Perm (List.range paths.length)) :
    processPages t work listener elapsed workers order paths =
      .ok (inSequence (work.telling listener elapsed) (jobsOf t paths)) :=
  run_eq_inSequence _ _ (by simpa using h)

/-- The results of checking pages with a number of workers, which finish in
turn.  There always are some. -/
def checkPages (t : FileTree) (paths : List Path) (workers : Int) :
    List PageResult :=
  match h : processPages t (pageWorker t) none "" workers
    (List.range paths.length) paths with
  | .ok results => results
  | .error _ =>
      absurd h (by simp [processPages_eq t _ _ _ _ (List.Perm.refl _)])

def auditSite (t : FileTree) (root : Path) (pattern : String)
    (exclude : List Exclusion) (workers : Int) :
    Except Discovery.Failure Tally :=
  (Discovery.pages t root pattern exclude).map fun paths =>
    Tally.ofFiles (checkPages t paths workers)

end Batch
end SiteAudit
