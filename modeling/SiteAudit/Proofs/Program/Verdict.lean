import SiteAudit.Program.Run
import SiteAudit.Proofs.Batch.Completion
import SiteAudit.Proofs.Tally

/-!
# The verdict of a check

The exit code of a check says what became of the site: it is zero if pages were
found and none of them has an error, one if some page has an error, two if there
are no pages to check, and three if the check could not be made.  A page that
cannot be read, a rule that fails and a worker that fails are errors.  Warnings
have no say, and neither has anything about the way in which the pages are
worked through.
-/

namespace SiteAudit
namespace Program

open CommandLine

def findingsOn (crew : Workforce) (t : FileTree) (i : Nat) (path : Path) :
    List Finding :=
  Batch.outcome (crew.worker t) i ⟨path, Batch.displayPath t path⟩

def IsFaulty (crew : Workforce) (t : FileTree) (i : Nat) (path : Path) : Prop :=
  ∃ f ∈ findingsOn crew t i path, f.isError = true

def HasFaultyPage (crew : Workforce) (t : FileTree) (paths : List Path) :
    Prop :=
  ∃ i path, paths[i]? = some path ∧ IsFaulty crew t i path

def Discovers (t : FileTree) (i : Invocation) (flags : Flags)
    (paths : List Path) : Prop :=
  ∃ s, Settings.resolve t (effectiveFlags i flags) = .ok s ∧
    Discovery.pages t s.root s.pattern s.exclude = .ok paths

def FindsNoSite (t : FileTree) (i : Invocation) (flags : Flags) : Prop :=
  ∃ s e, Settings.resolve t (effectiveFlags i flags) = .ok s ∧
    Discovery.pages t s.root s.pattern s.exclude = .error (.noSite e)

/-- A page that cannot be read, or decoded, or parsed. -/
inductive Unreadable (t : FileTree) (path : Path) : Prop
  | access {e : AccessError} (failed : t.readBytes path = .error e)
      (usable : e ≠ .nullCharacter)
  | encoding {bytes : List UInt8} {m : Text.Utf8.Malformed}
      (read : t.readBytes path = .ok bytes)
      (failed : Text.Utf8.decode bytes = .error m)
  | markup {bytes : List UInt8} {s : List Char} {r : Markup.Rejection}
      (read : t.readBytes path = .ok bytes)
      (decoded : Text.Utf8.decode bytes = .ok s)
      (failed : Markup.Document.read (Text.unifyLineBreaks s) = .error r)

/-- Whatever the configuration says, the flags lead to some number of
workers. -/
def AsksForWorkers (t : FileTree) (flags : Flags) : Prop :=
  ∀ c, Config.load t ((Settings.given flags.config).map Path.ofString) = .ok c →
    ∃ n, 1 ≤ n ∧ Settings.jobsFor flags.jobs c = .ok n

/-!
## A pass
-/

/-- The results of the pages of a site.  They are those of a single worker. -/
def resultsOf (crew : Workforce) (t : FileTree) (paths : List Path) :
    List Batch.PageResult :=
  Batch.inSequence (crew.worker t) (Batch.jobsOf t paths)

theorem telling_logListener (work : Batch.Worker) (elapsed : String) :
    work.telling (some logListener) elapsed = work := by
  funext i path shown
  unfold Batch.Worker.telling logListener
  cases work i path shown with
  | error fault => rfl
  | ok findings => rfl

theorem processPages_logListener (crew : Workforce) (t : FileTree)
    (elapsed : String) (workers : Int) (paths : List Path) :
    Batch.processPages t (crew.worker t) (some logListener) elapsed workers
        (Batch.turns workers crew.schedule paths.length) paths =
      .ok (resultsOf crew t paths) := by
  rw [Batch.processPages_eq t _ _ elapsed workers
    (Batch.turns_perm workers crew.schedule paths.length),
    telling_logListener]
  rfl

theorem result_passOver (i : Invocation) (s : Settings) (t : FileTree)
    (elapsed : String) (paths : List Path) (crew : Workforce) :
    (passOver i s t elapsed paths crew).result =
      .ok (exitCode (Tally.ofFiles (resultsOf crew t paths))) := by
  unfold passOver
  simp only [processPages_logListener]

theorem output_foldl_logLine (i : Invocation) (lines : List String)
    (w : Writing) :
    (lines.foldl (fun w line => w ++ logLine i .debug line) w).output =
      w.output := by
  induction lines generalizing w with
  | nil => rfl
  | cons line lines ih => simp [ih]

@[simp] theorem output_progressLog (i : Invocation) (lines : List String) :
    (progressLog i lines).output = "" :=
  output_foldl_logLine i lines {}

theorem output_passOver (i : Invocation) (s : Settings) (t : FileTree)
    (elapsed : String) (paths : List Path) (crew : Workforce) :
    (passOver i s t elapsed paths crew).writing.output =
      Report.render (Tally.ofFiles (resultsOf crew t paths)) s.format := by
  unfold passOver
  simp only [processPages_logListener]
  simp

theorem hasErrors_resultsOf_iff (crew : Workforce) (t : FileTree)
    (paths : List Path) :
    (Tally.ofFiles (resultsOf crew t paths)).hasErrors = true ↔
      HasFaultyPage crew t paths := by
  rw [Tally.hasErrors_ofFiles_iff]
  constructor
  · intro h
    rcases h with ⟨entry, hentry, f, hf, herror⟩
    rcases Batch.mem_inSequence_jobsOf.1 hentry with ⟨i, path, hpath, rfl⟩
    exact ⟨i, path, hpath, f, hf, herror⟩
  · intro h
    rcases h with ⟨i, path, hpath, f, hf, herror⟩
    exact
      ⟨_, Batch.mem_inSequence_jobsOf.2 ⟨i, path, hpath, rfl⟩, f, hf, herror⟩

theorem exitCode_ofFiles_of_faulty {crew : Workforce} {t : FileTree}
    {paths : List Path} (h : HasFaultyPage crew t paths) :
    exitCode (Tally.ofFiles (resultsOf crew t paths)) = exitErrors := by
  rw [exitCode, if_pos ((hasErrors_resultsOf_iff crew t paths).2 h)]

theorem exitCode_ofFiles_of_clean {crew : Workforce} {t : FileTree}
    {paths : List Path} (h : ¬HasFaultyPage crew t paths) :
    exitCode (Tally.ofFiles (resultsOf crew t paths)) = exitClean := by
  rw [exitCode,
    if_neg fun herrors => h ((hasErrors_resultsOf_iff crew t paths).1 herrors)]

/-!
## The endings of a check

A check ends in one of four ways: its site is clean, it is faulty, there is
none, or the check could not be made.  Each has an exit code of its own, so the
exit code tells them apart.
-/

inductive Ending
  | clean
  | faulty
  | noSite
  | failed
  deriving DecidableEq, Repr

namespace Ending

def exitCode : Ending → Nat
  | clean => exitClean
  | faulty => exitErrors
  | noSite => exitNoSite
  | failed => exitFailure

def Meets (t : FileTree) (i : Invocation) (flags : Flags) (crew : Workforce) :
    Ending → Prop
  | clean => ∃ paths, Discovers t i flags paths ∧ ¬HasFaultyPage crew t paths
  | faulty => ∃ paths, Discovers t i flags paths ∧ HasFaultyPage crew t paths
  | noSite => FindsNoSite t i flags
  | failed => (¬∃ paths, Discovers t i flags paths) ∧ ¬FindsNoSite t i flags

theorem exitCode_injective {a b : Ending} (h : a.exitCode = b.exitCode) :
    a = b := by
  revert h
  cases a <;> cases b <;> decide

end Ending

section Endings

variable {t : FileTree} {elapsed : String} {i : Invocation} {flags : Flags}
    {crew : Workforce}

theorem ne_nil_of_discovers {paths : List Path}
    (h : Discovers t i flags paths) : paths ≠ [] := by
  rcases h with ⟨s, -, hpages⟩
  exact Discovery.ne_nil_of_pages hpages

theorem result_pass_of_pages {s : Settings} {paths : List Path}
    (h : Discovery.pages t s.root s.pattern s.exclude = .ok paths) :
    (pass i s t elapsed crew).result =
      .ok (exitCode (Tally.ofFiles (resultsOf crew t paths))) := by
  unfold pass
  simp only [h]
  exact result_passOver i s t elapsed paths crew

theorem output_pass_of_pages {s : Settings} {paths : List Path}
    (h : Discovery.pages t s.root s.pattern s.exclude = .ok paths) :
    (pass i s t elapsed crew).writing.output =
      Report.render (Tally.ofFiles (resultsOf crew t paths)) s.format := by
  unfold pass
  simp only [h]
  simp [output_passOver]

theorem exitCode_of_discovers {paths : List Path}
    (h : Discovers t i flags paths) :
    (runCheck i t elapsed flags crew).exitCode =
      exitCode (Tally.ofFiles (resultsOf crew t paths)) := by
  rcases h with ⟨s, hs, hpages⟩
  unfold runCheck
  simp only [hs, ofPass, result_pass_of_pages hpages]

theorem exitCode_of_findsNoSite (h : FindsNoSite t i flags) :
    (runCheck i t elapsed flags crew).exitCode = exitNoSite := by
  rcases h with ⟨s, e, hs, hpages⟩
  unfold runCheck pass
  simp only [hs, ofPass, hpages]

theorem exitCode_of_neither (hpages : ¬∃ paths, Discovers t i flags paths)
    (hsite : ¬FindsNoSite t i flags) :
    (runCheck i t elapsed flags crew).exitCode = exitFailure := by
  unfold runCheck pass
  cases hs : Settings.resolve t (effectiveFlags i flags) with
  | error e => rfl
  | ok s =>
      cases hp : Discovery.pages t s.root s.pattern s.exclude with
      | ok paths => exact absurd ⟨paths, s, hs, hp⟩ hpages
      | error e =>
          cases e with
          | noSite e => exact absurd ⟨s, e, hs, hp⟩ hsite
          | access f => simp only [ofPass, hp]
          | pattern e => simp only [ofPass, hp]
          | voidExclusion => simp only [ofPass, hp]
          | tooDeep => simp only [ofPass, hp]

theorem exitCode_of_meets {ending : Ending} (h : ending.Meets t i flags crew) :
    (runCheck i t elapsed flags crew).exitCode = ending.exitCode := by
  cases ending with
  | clean =>
      rcases h with ⟨paths, hfound, hclean⟩
      rw [exitCode_of_discovers hfound, exitCode_ofFiles_of_clean hclean]
      rfl
  | faulty =>
      rcases h with ⟨paths, hfound, hfaulty⟩
      rw [exitCode_of_discovers hfound, exitCode_ofFiles_of_faulty hfaulty]
      rfl
  | noSite => exact exitCode_of_findsNoSite h
  | failed => exact exitCode_of_neither h.1 h.2

variable (t i flags crew) in
theorem exists_meets : ∃ ending : Ending, ending.Meets t i flags crew := by
  by_cases hpages : ∃ paths, Discovers t i flags paths
  · cases hpages with
    | intro paths hfound =>
        by_cases hfaulty : HasFaultyPage crew t paths
        · exact ⟨.faulty, paths, hfound, hfaulty⟩
        · exact ⟨.clean, paths, hfound, hfaulty⟩
  · by_cases hsite : FindsNoSite t i flags
    · exact ⟨.noSite, hsite⟩
    · exact ⟨.failed, hpages, hsite⟩

theorem exitCode_eq_iff (ending : Ending) :
    (runCheck i t elapsed flags crew).exitCode = ending.exitCode ↔
      ending.Meets t i flags crew := by
  constructor
  · intro h
    cases exists_meets t i flags crew with
    | intro actual hactual =>
        have hcode : actual.exitCode = ending.exitCode :=
          (exitCode_of_meets hactual).symm.trans h
        exact Ending.exitCode_injective hcode ▸ hactual
  · exact exitCode_of_meets

variable (elapsed i crew) in
/-- Where no page is found, none is checked, and nobody is asked what checking
one would do. -/
theorem pass_of_failure {s : Settings} {e : Discovery.Failure}
    (h : Discovery.pages t s.root s.pattern s.exclude = .error e) :
    (pass i s t elapsed crew).checked = [] ∧
      ∀ worker, pass i s t elapsed { crew with worker } =
        pass i s t elapsed crew := by
  unfold pass
  simp only [h]
  cases e with
  | noSite e => exact ⟨rfl, fun _ => rfl⟩
  | access f => exact ⟨rfl, fun _ => rfl⟩
  | pattern e => exact ⟨rfl, fun _ => rfl⟩
  | voidExclusion => exact ⟨rfl, fun _ => rfl⟩
  | tooDeep => exact ⟨rfl, fun _ => rfl⟩

theorem checks_nothing_of_not_discovers
    (h : ¬∃ paths, Discovers t i flags paths) :
    (∀ s, Settings.resolve t (effectiveFlags i flags) = .ok s →
      (pass i s t elapsed crew).checked = []) ∧
      ∀ worker, runCheck i t elapsed flags { crew with worker } =
        runCheck i t elapsed flags crew := by
  unfold runCheck
  cases hs : Settings.resolve t (effectiveFlags i flags) with
  | error e => exact ⟨fun s hs => (nomatch hs), fun _ => rfl⟩
  | ok s =>
      cases hp : Discovery.pages t s.root s.pattern s.exclude with
      | ok paths => exact absurd ⟨paths, s, hs, hp⟩ h
      | error e =>
          cases pass_of_failure elapsed i crew hp with
          | intro hchecked hworker =>
              constructor
              · intro s' hs'
                cases hs'
                exact hchecked
              · intro worker
                simp only [hworker worker]

end Endings

/-!
## What counts as an error
-/

section Faults

variable {crew : Workforce} {t : FileTree} {i : Nat} {path : Path}

theorem findingsOn_of_ok {findings : List Finding}
    (h : crew.worker t i path (Batch.displayPath t path) = .ok findings) :
    findingsOn crew t i path = findings := by
  simp only [findingsOn, Batch.outcome, h]

theorem findingsOn_of_error {fault : Fault}
    (h : crew.worker t i path (Batch.displayPath t path) = .error fault) :
    findingsOn crew t i path =
      [.ruleFailure (Batch.displayPath t path) "*" fault.describe] := by
  simp only [findingsOn, Batch.outcome, h, Batch.crashed]

@[simp] theorem isError_ruleFailure (file rule reason : String) :
    (Finding.ruleFailure file rule reason).isError = true := by
  simp [Finding.isError, Finding.ruleFailure]

@[simp] theorem isError_unreadable (file reason : String) :
    (Finding.unreadable file reason).isError = true := by
  simp [Finding.isError, Finding.unreadable]

theorem ruleFailure_mem_checkWith {table : Rules.Table} {d : Markup.Document}
    {file : String} {rule : Rule} {check : Rules.Check} {fault : Fault}
    (hrule : rule ∈ Catalog.rules)
    (hcheck : table.lookup rule.code = some check)
    (hfault : check d file = .error fault) :
    Finding.ruleFailure file rule.code fault.describe ∈
      Rules.checkWith table d file := by
  apply List.mem_flatMap.2
  refine ⟨rule, hrule, ?_⟩
  simp [hcheck, Rules.runCheck, hfault]

/-- A page without text that can be read has one finding, which is an error. -/
theorem checkPage_of_unreadable (h : Unreadable t path) :
    ∃ reason, Batch.checkPage t path (some (Batch.displayPath t path)) =
      .ok [.unreadable (Batch.displayPath t path) reason] := by
  have hname : (if Batch.displayPath t path == "" then Batch.displayPath t path
      else Batch.displayPath t path) = Batch.displayPath t path := ite_self _
  cases h with
  | access failed usable =>
      rename_i e
      simp only [Batch.checkPage, failed, hname]
      cases e with
      | nullCharacter => exact absurd rfl usable
      | missing => exact ⟨_, rfl⟩
      | notDirectory => exact ⟨_, rfl⟩
      | isDirectory => exact ⟨_, rfl⟩
      | nameTooLong => exact ⟨_, rfl⟩
  | encoding read failed =>
      simp only [Batch.checkPage, read, hname, Batch.checkBytes, failed]
      exact ⟨_, rfl⟩
  | markup read decoded failed =>
      simp only [Batch.checkPage, read, hname, Batch.checkBytes, decoded,
        Batch.checkText, failed]
      exact ⟨_, rfl⟩

end Faults

/-!
## What has no say

Warnings do not count, and neither do the level of the log, the number of
workers, and the order in which they finish.
-/

section Independence

variable {t : FileTree}

theorem hasFaultyPage_congr {crew crew' : Workforce}
    (h : ∀ i path, (findingsOn crew' t i path).filter (·.isError) =
      (findingsOn crew t i path).filter (·.isError)) (paths : List Path) :
    HasFaultyPage crew' t paths ↔ HasFaultyPage crew t paths := by
  have hpage : ∀ i path, IsFaulty crew' t i path ↔ IsFaulty crew t i path := by
    intro i path
    have hmem : ∀ f, f ∈ (findingsOn crew' t i path).filter (·.isError) ↔
        f ∈ (findingsOn crew t i path).filter (·.isError) := by
      intro f
      rw [h i path]
    simpa only [List.mem_filter, IsFaulty] using exists_congr hmem
  simp only [HasFaultyPage, hpage]

theorem exitCode_runCheck_congr {crew crew' : Workforce} {i : Invocation}
    {flags : Flags} {elapsed : String}
    (h : ∀ paths, HasFaultyPage crew' t paths ↔ HasFaultyPage crew t paths) :
    (runCheck i t elapsed flags crew').exitCode =
      (runCheck i t elapsed flags crew).exitCode := by
  cases exists_meets t i flags crew with
  | intro ending hending =>
      have hending' : ending.Meets t i flags crew' := by
        cases ending with
        | clean => simpa only [Ending.Meets, h] using hending
        | faulty => simpa only [Ending.Meets, h] using hending
        | noSite => exact hending
        | failed => exact hending
      rw [exitCode_of_meets hending, exitCode_of_meets hending']

/-- Flags that differ in the number of workers alone fail alike, or lead to
settings that differ in it alone. -/
theorem resolve_of_workers {flags : Flags} (workers : Workers)
    (h : AsksForWorkers t flags)
    (h' : AsksForWorkers t { flags with jobs := workers }) :
    (∃ e, Settings.resolve t flags = .error e ∧
        Settings.resolve t { flags with jobs := workers } = .error e) ∨
      ∃ s n, Settings.resolve t flags = .ok s ∧
        Settings.resolve t { flags with jobs := workers } =
          .ok { s with jobs := n } := by
  unfold Settings.resolve
  cases hload :
    Config.load t ((Settings.given flags.config).map Path.ofString) with
  | error e => exact .inl ⟨_, rfl, rfl⟩
  | ok c =>
      rcases h c hload with ⟨n, -, hn⟩
      rcases h' c hload with ⟨m, -, hm⟩
      simp only [Settings.merge, hn, hm]
      cases Settings.formatFor flags.format c with
      | error e => exact .inl ⟨e, rfl, rfl⟩
      | ok format =>
          cases Settings.flagOr ((Settings.given flags.root).map Path.ofString)
            c.root with
          | error e => exact .inl ⟨e, rfl, rfl⟩
          | ok root =>
              cases Settings.flagOr (Settings.given flags.pattern)
                c.pattern with
              | error e => exact .inl ⟨e, rfl, rfl⟩
              | ok pattern => exact .inr ⟨_, m, rfl, rfl⟩

theorem errorReport_congr {i i' : Invocation} (h : i'.json = i.json)
    (code message : String) :
    errorReport i' code message = errorReport i code message := by
  unfold errorReport
  rw [h]

theorem effectiveFlags_congr {i i' : Invocation} (h : i'.json = i.json)
    (flags : Flags) :
    effectiveFlags i' flags = effectiveFlags i flags := by
  unfold effectiveFlags
  rw [h]

theorem resultsOf_congr {crew crew' : Workforce}
    (h : crew'.worker = crew.worker) (paths : List Path) :
    resultsOf crew' t paths = resultsOf crew t paths := by
  unfold resultsOf
  rw [h]

/-- A pass fares alike at any level of the log and with any number of
workers. -/
theorem pass_congr {crew crew' : Workforce} {i i' : Invocation}
    (hjson : i'.json = i.json) (hcrew : crew'.worker = crew.worker)
    (s : Settings) (n : Int) (elapsed elapsed' : String) :
    (pass i' { s with jobs := n } t elapsed' crew').result =
      (pass i s t elapsed crew).result ∧
      (pass i' { s with jobs := n } t elapsed' crew').writing.output =
        (pass i s t elapsed crew).writing.output := by
  cases hp : Discovery.pages t s.root s.pattern s.exclude with
  | ok paths =>
      rw [result_pass_of_pages (s := s) hp, output_pass_of_pages (s := s) hp,
        result_pass_of_pages (s := { s with jobs := n }) hp,
        output_pass_of_pages (s := { s with jobs := n }) hp,
        resultsOf_congr hcrew]
      exact ⟨rfl, rfl⟩
  | error e =>
      cases e with
      | noSite e => simp [pass, hp, errorReport_congr hjson]
      | access f => simp [pass, hp]
      | pattern e => simp [pass, hp]
      | voidExclusion => simp [pass, hp]
      | tooDeep => simp [pass, hp]

theorem ofPass_congr {i i' : Invocation} (hjson : i'.json = i.json)
    {p p' : Pass} (hresult : p'.result = p.result)
    (houtput : p'.writing.output = p.writing.output) :
    (ofPass i' p').exitCode = (ofPass i p).exitCode ∧
      (ofPass i' p').writing.output = (ofPass i p).writing.output := by
  unfold ofPass
  rw [hresult]
  cases p.result with
  | ok code => exact ⟨rfl, houtput⟩
  | error message => simp [houtput, errorReport_congr hjson]

theorem runCheck_congr {crew crew' : Workforce} {i i' : Invocation}
    {flags : Flags} {workers : Workers} (hjson : i'.json = i.json)
    (hcrew : crew'.worker = crew.worker) (elapsed elapsed' : String)
    (h : AsksForWorkers t flags)
    (h' : AsksForWorkers t { flags with jobs := workers }) :
    (runCheck i' t elapsed' { flags with jobs := workers } crew').exitCode =
        (runCheck i t elapsed flags crew).exitCode ∧
      (runCheck i' t elapsed'
        { flags with jobs := workers } crew').writing.output =
        (runCheck i t elapsed flags crew).writing.output := by
  have hflags : effectiveFlags i' { flags with jobs := workers } =
      { effectiveFlags i flags with jobs := workers } := by
    rw [effectiveFlags_congr hjson]
    unfold effectiveFlags
    split <;> rfl
  have hasks : AsksForWorkers t (effectiveFlags i flags) := by
    unfold effectiveFlags
    split <;> exact h
  have hasks' :
      AsksForWorkers t { effectiveFlags i flags with jobs := workers } := by
    unfold effectiveFlags
    split <;> exact h'
  unfold runCheck
  rw [hflags]
  rcases resolve_of_workers workers hasks hasks' with
    ⟨e, he, he'⟩ | ⟨s, n, hs, hs'⟩
  · rw [he, he']
    simp [withoutSettings, failed, errorReport_congr hjson]
  · rw [hs, hs']
    cases pass_congr hjson hcrew s n elapsed elapsed' with
    | intro hresult houtput =>
        exact ofPass_congr hjson hresult houtput

end Independence

/-!
## The main statement
-/

theorem run_of_check {t : FileTree} {elapsed : String} {args : List String}
    {changes : List Change} {crew : Workforce} {i : Invocation} {flags : Flags}
    (hargs : parse args = .ok i) (hcheck : i.command = .check flags) :
    run t elapsed args changes crew = runCheck i t elapsed flags crew := by
  simp only [run, hargs, hcheck]

/-- What the exit code of a check says of the site, and what it depends on. -/
structure Verdict (t : FileTree) (elapsed : String) (args : List String)
    (changes : List Change) (crew : Workforce) (i : Invocation)
    (flags : Flags) :
    Prop where
  clean : (run t elapsed args changes crew).exitCode = 0 ↔
    ∃ paths, Discovers t i flags paths ∧ paths ≠ [] ∧
      ¬HasFaultyPage crew t paths
  faulty : (run t elapsed args changes crew).exitCode = 1 ↔
    ∃ paths, Discovers t i flags paths ∧ HasFaultyPage crew t paths
  noSite :
    (run t elapsed args changes crew).exitCode = 2 ↔ FindsNoSite t i flags
  failed : (run t elapsed args changes crew).exitCode = 3 ↔
    (¬∃ paths, Discovers t i flags paths) ∧ ¬FindsNoSite t i flags
  /-- Without pages none is checked, and it does not matter what checking one
  would do. -/
  nothingChecked :
    (run t elapsed args changes crew).exitCode = 2 ∨
        (run t elapsed args changes crew).exitCode = 3 →
      (∀ s, Settings.resolve t (effectiveFlags i flags) = .ok s →
        (pass i s t elapsed crew).checked = []) ∧
      ∀ worker, run t elapsed args changes { crew with worker } =
        run t elapsed args changes crew
  failingWorker : ∀ n path fault,
    crew.worker t n path (Batch.displayPath t path) = .error fault →
      ∃ f ∈ findingsOn crew t n path, f.code = "F002" ∧ f.isError = true
  failingRule : ∀ n path table d rule check fault,
    crew.worker t n path (Batch.displayPath t path) =
        .ok (Rules.checkWith table d (Batch.displayPath t path)) →
      rule ∈ Catalog.rules → table.lookup rule.code = some check →
      check d (Batch.displayPath t path) = .error fault →
      ∃ f ∈ findingsOn crew t n path, f.code = "F002" ∧ f.isError = true
  unreadablePage :
    crew.worker t = Batch.pageWorker t → ∀ n path, Unreadable t path →
    ∃ f ∈ findingsOn crew t n path, f.code = "F001" ∧ f.isError = true
  warningsAside : ∀ crew' : Workforce,
    (∀ n path, (findingsOn crew' t n path).filter (·.isError) =
      (findingsOn crew t n path).filter (·.isError)) →
    (run t elapsed args changes crew').exitCode =
      (run t elapsed args changes crew).exitCode
  /-- The level of the log, the number of workers and the order in which they
  finish have no say. -/
  workAside : ∀ args' i' workers (crew' : Workforce), parse args' = .ok i' →
    i'.command = .check { flags with jobs := workers } → i'.json = i.json →
    crew'.worker = crew.worker →
    AsksForWorkers t flags → AsksForWorkers t { flags with jobs := workers } →
    (run t elapsed args' changes crew').exitCode =
        (run t elapsed args changes crew).exitCode ∧
      (run t elapsed args' changes crew').writing.output =
        (run t elapsed args changes crew).writing.output

theorem verdict_of_check (t : FileTree) (elapsed : String) (args : List String)
    (changes : List Change) (crew : Workforce) (i : Invocation) (flags : Flags)
    (accepted : parse args = .ok i) (asked : i.command = .check flags) :
    Verdict t elapsed args changes crew i flags := by
  have hrun : ∀ crew',
      run t elapsed args changes crew' = runCheck i t elapsed flags crew' :=
    fun _ => run_of_check accepted asked
  constructor
  case clean =>
    rw [hrun]
    refine (exitCode_eq_iff .clean).trans (exists_congr fun paths => ?_)
    constructor
    · rintro ⟨hfound, hclean⟩
      exact ⟨hfound, ne_nil_of_discovers hfound, hclean⟩
    · rintro ⟨hfound, -, hclean⟩
      exact ⟨hfound, hclean⟩
  case faulty =>
    rw [hrun]
    exact exitCode_eq_iff .faulty
  case noSite =>
    rw [hrun]
    exact exitCode_eq_iff .noSite
  case failed =>
    rw [hrun]
    exact exitCode_eq_iff .failed
  case nothingChecked =>
    intro hcode
    simp only [hrun] at hcode ⊢
    apply checks_nothing_of_not_discovers
    rintro ⟨paths, hfound⟩
    rw [exitCode_of_discovers hfound, exitCode] at hcode
    split at hcode
    · exact absurd hcode (by decide)
    · exact absurd hcode (by decide)
  case failingWorker =>
    intro n path fault hfault
    rw [findingsOn_of_error hfault]
    exact ⟨_, List.mem_singleton.2 rfl, rfl, isError_ruleFailure _ _ _⟩
  case failingRule =>
    intro n path table d rule check fault hwork hrule hcheck hfault
    rw [findingsOn_of_ok hwork]
    exact ⟨_, ruleFailure_mem_checkWith hrule hcheck hfault, rfl,
      isError_ruleFailure _ _ _⟩
  case unreadablePage =>
    intro hworker n path hunreadable
    obtain ⟨reason, hpage⟩ := checkPage_of_unreadable hunreadable
    have hwork : crew.worker t n path (Batch.displayPath t path) =
        .ok [.unreadable (Batch.displayPath t path) reason] := by
      rw [hworker]
      exact hpage
    rw [findingsOn_of_ok hwork]
    exact ⟨_, List.mem_singleton.2 rfl, rfl, isError_unreadable _ _⟩
  case warningsAside =>
    intro crew' hcrew'
    rw [hrun, hrun]
    exact exitCode_runCheck_congr (hasFaultyPage_congr hcrew')
  case workAside =>
    intro args' i' workers crew' haccepted hasked hjson hcrew' h h'
    rw [run_of_check haccepted hasked, hrun]
    exact runCheck_congr hjson hcrew' elapsed elapsed h h'

def brokenSite : FileTree where
  root := .folder "site" (.file "a.html" [0xFF] .empty) .empty
  cwd := []

theorem resolve_brokenSite :
    Settings.resolve brokenSite { root := some "site",
                                  pattern := some "a.html" } =
      .ok ⟨⟨.relative, ["site"]⟩, "a.html", [], 1, .text⟩ := by
  have hload : Config.load brokenSite none = Config.defaults brokenSite := rfl
  have hnone : (Settings.given none).map Path.ofString = none := rfl
  simp only [Settings.resolve, hnone, hload, Config.defaults_eq]
  rfl

theorem pages_brokenSite :
    Discovery.pages brokenSite ⟨.relative, ["site"]⟩ "a.html" [] =
      .ok [⟨.relative, ["site", "a.html"]⟩] := by
  have hroot : brokenSite.entry? ⟨.relative, ["site"]⟩ =
      .ok (some (.directory (.file "a.html" [0xFF] .empty))) := rfl
  have hpattern :
      Discovery.Pattern.ofString "a.html" = .ok ⟨[.name "a.html"], false⟩ := rfl
  have hselect : Discovery.selectBehind brokenSite ⟨.relative, ["site"]⟩ false
      [.name "a.html"] [] = ⟨[["a.html"]], none⟩ := rfl
  have honce :
      ([["a.html"]] : List (List String)).eraseDups = [["a.html"]] := by
    simp [List.eraseDups_cons]
  have hpage : Discovery.isPage brokenSite ⟨.relative, ["site"]⟩ [] ["a.html"] =
      .ok true := rfl
  have hkept : [["a.html"]].filterM
      (Discovery.isPage brokenSite ⟨.relative, ["site"]⟩ []) =
        .ok [["a.html"]] := by
    simp only [List.filterM, List.filterAuxM, hpage]
    rfl
  have hpages : Discovery.pagesOf brokenSite ⟨.relative, ["site"]⟩
      ⟨[.name "a.html"], false⟩ [] = .ok [["a.html"]] := by
    simp only [Discovery.pagesOf, Discovery.Pattern.select, hselect, honce,
      hkept]
    rfl
  simp only [Discovery.pages, hroot, hpattern, hpages, List.mergeSort_singleton]
  rfl

theorem verdict_of_undecodable_page :
    parse ["check", "--root", "site", "--pattern", "a.html"] =
      .ok ⟨.info, false,
        .check { root := some "site", pattern := some "a.html" }⟩ ∧
    (run brokenSite "0.0" ["check", "--root", "site", "--pattern",
      "a.html"] []).exitCode = 1 := by
  have accepted : parse ["check", "--root", "site", "--pattern", "a.html"] =
      .ok ⟨.info, false,
        .check { root := some "site", pattern := some "a.html" }⟩ := rfl
  refine ⟨accepted, ?_⟩
  have verdict := verdict_of_check brokenSite "0.0"
    ["check", "--root", "site", "--pattern", "a.html"] [] {} _ _ accepted rfl
  have hpage : Unreadable brokenSite ⟨.relative, ["site", "a.html"]⟩ := by
    have hread :
        brokenSite.readBytes ⟨.relative, ["site", "a.html"]⟩ = .ok [0xFF] := rfl
    have hdecode : Text.Utf8.decode [0xFF] = .error ⟨0xFF, 0, 1, .start⟩ := rfl
    exact .encoding hread hdecode
  obtain ⟨f, hf, -, herror⟩ := verdict.unreadablePage rfl 0 _ hpage
  apply verdict.faulty.2
  exact ⟨_, ⟨_, resolve_brokenSite, pages_brokenSite⟩, 0, _, rfl, f, hf, herror⟩

end Program
end SiteAudit
