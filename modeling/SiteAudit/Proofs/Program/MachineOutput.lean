import SiteAudit.Proofs.Program.Verdict
import SiteAudit.Proofs.Report.Lossless
import SiteAudit.Proofs.Results

/-!
# Machine-readable output

A check that is asked for machine-readable output writes one object to the
output and nothing else, however it ends.  The object is the report if pages
were checked, and tells of the error if none were.  Whether all is well is said
in the object as it is by the exit code.
-/

namespace SiteAudit
namespace Program

open CommandLine

inductive Answers : Nat → Json → Prop
  | report (t : Tally) : Answers (exitCode t) (Report.payload t)
  | noSite (code message : String) : Answers exitNoSite (errorJson code message)
  | failure (code message : String) :
      Answers exitFailure (errorJson code message)

/-- The output of a run is the line, or the lines, of one object that goes with
its exit code. -/
def IsAnswered (o : Outcome) : Prop :=
  ∃ v l, o.writing.output = v.render l ++ "\n" ∧ Answers o.exitCode v

/-!
## What an object says
-/

theorem exitCode_eq_zero_iff (t : Tally) :
    exitCode t = 0 ↔ t.hasErrors = false := by
  unfold exitCode
  cases t.hasErrors <;> decide

theorem exitCode_le_one (t : Tally) : exitCode t ≤ 1 := by
  unfold exitCode
  cases t.hasErrors <;> decide

theorem member?_schema_payload (t : Tally) :
    (Report.payload t).member? "schema" = some (.text Report.schema) :=
  rfl

theorem member?_ok_payload (t : Tally) :
    (Report.payload t).member? "ok" = some (.flag !t.hasErrors) :=
  rfl

theorem member?_schema_errorJson (code message : String) :
    (errorJson code message).member? "schema" = some (.text errorSchema) :=
  rfl

theorem member?_ok_errorJson (code message : String) :
    (errorJson code message).member? "ok" = some (.flag false) :=
  rfl

structure Tells (exitCode : Nat) (members : List (String × Json)) : Prop where
  unambiguous : (members.map (·.1)).Nodup
  ok : (Json.object members).member? "ok" = some (.flag (decide (exitCode = 0)))
  schema :
    (exitCode = 0 ∨ exitCode = 1) ∧ (Json.object members).member? "schema" =
      some (.text Report.schema) ∨
      (exitCode = 2 ∨ exitCode = 3) ∧
        (Json.object members).member? "schema" = some (.text errorSchema)

theorem tells_report (t : Tally) :
    Tells (exitCode t) (("schema", .text Report.schema) :: t.members) := by
  have hcode : exitCode t = 0 ∨ exitCode t = 1 :=
    Nat.le_one_iff_eq_zero_or_eq_one.1 (exitCode_le_one t)
  refine ⟨?_, ?_, .inl ⟨hcode, member?_schema_payload t⟩⟩
  · simp [Tally.members]
  · refine (member?_ok_payload t).trans ?_
    cases herrors : t.hasErrors with
    | false => simp [(exitCode_eq_zero_iff t).2 herrors]
    | true => simp [exitCode_eq_zero_iff, herrors]

theorem tells_error {exitCode : Nat} (h : exitCode = 2 ∨ exitCode = 3)
    (code message : String) :
    Tells exitCode
      [("schema", .text errorSchema), ("ok", .flag false), ("code", .text code),
        ("message", .text message)] := by
  refine ⟨?_, ?_, .inr ⟨h, member?_schema_errorJson code message⟩⟩
  · simp
  · refine (member?_ok_errorJson code message).trans ?_
    rcases h with rfl | rfl <;> rfl

theorem Answers.exists_tells {code : Nat} {v : Json} (h : Answers code v) :
    ∃ members, v = .object members ∧ Tells code members := by
  cases h with
  | report t => exact ⟨_, rfl, tells_report t⟩
  | noSite code message => exact ⟨_, rfl, tells_error (.inl rfl) code message⟩
  | failure code message => exact ⟨_, rfl, tells_error (.inr rfl) code message⟩

theorem Tells.ok_iff {exitCode : Nat} {members : List (String × Json)}
    (h : Tells exitCode members) :
    (Json.object members).member? "ok" = some (.flag true) ↔ exitCode = 0 := by
  simp [h.ok]

theorem Tells.schema_report_iff {exitCode : Nat}
    {members : List (String × Json)} (h : Tells exitCode members) :
    (Json.object members).member? "schema" = some (.text Report.schema) ↔
      exitCode = 0 ∨ exitCode = 1 := by
  cases h.schema with
  | inl hreport => simp [hreport]
  | inr herror =>
      have hother : errorSchema ≠ Report.schema := by decide
      simp only [herror.2, Option.some.injEq, Json.text.injEq, hother,
        false_iff]
      omega

theorem Tells.schema_error_iff {exitCode : Nat} {members : List (String × Json)}
    (h : Tells exitCode members) :
    (Json.object members).member? "schema" = some (.text errorSchema) ↔
      exitCode = 2 ∨ exitCode = 3 := by
  cases h.schema with
  | inl hreport =>
      have hother : Report.schema ≠ errorSchema := by decide
      simp only [hreport.2, Option.some.injEq, Json.text.injEq, hother,
        false_iff]
      omega
  | inr herror => simp [herror]

/-!
## The format of the report

The switch overrides the format that the flags or the configuration ask for.
-/

section Json

variable {t : FileTree} {elapsed : String} {i : Invocation} {flags : Flags}
    {crew : Workforce}

theorem formatFor_of_merge {c : Config} {s : Settings}
    (h : Settings.merge flags c = .ok s) :
    Settings.formatFor flags.format c = .ok s.format := by
  rcases exists_of_bind_eq_ok h with ⟨format, hformat, h⟩
  rcases exists_of_bind_eq_ok h with ⟨jobs, -, h⟩
  rcases exists_of_bind_eq_ok h with ⟨root, -, h⟩
  rcases exists_of_bind_eq_ok h with ⟨pattern, -, h⟩
  cases h
  exact hformat

theorem formatFor_json (c : Config) :
    Settings.formatFor (some Report.Format.json.name) c = .ok .json :=
  rfl

theorem format_effectiveFlags (hjson : i.json = true) :
    (effectiveFlags i flags).format = some Report.Format.json.name := by
  unfold effectiveFlags
  rw [if_pos hjson]

theorem format_of_resolve {s : Settings} (hjson : i.json = true)
    (h : Settings.resolve t (effectiveFlags i flags) = .ok s) :
    s.format = .json := by
  unfold Settings.resolve at h
  cases hload : Config.load t
    ((Settings.given (effectiveFlags i flags).config).map Path.ofString) with
  | error e =>
      rw [hload] at h
      cases h
  | ok c =>
      rw [hload] at h
      have hformat := formatFor_of_merge h
      rw [format_effectiveFlags hjson, formatFor_json] at hformat
      exact (Except.ok.inj hformat).symm

/-!
## Every ending is answered
-/

theorem isAnswered_of_pages {s : Settings} {paths : List Path}
    (hformat : s.format = .json)
    (h : Discovery.pages t s.root s.pattern s.exclude = .ok paths) :
    IsAnswered (ofPass i (pass i s t elapsed crew)) := by
  refine
    ⟨Report.payload (Tally.ofFiles (resultsOf crew t paths)), .indented 2,
      ?_, ?_⟩
  · rw [ofPass, result_pass_of_pages h]
    change (pass i s t elapsed crew).writing.output = _
    rw [output_pass_of_pages h, hformat, Report.render, Report.json_eq]
  · rw [ofPass, result_pass_of_pages h]
    exact .report _

variable (hjson : i.json = true)

include hjson

theorem output_errorReport (code message : String) :
    (errorReport i code message).output =
      (errorJson code message).render .oneLine ++ "\n" := by
  unfold errorReport
  rw [if_pos hjson]

theorem isAnswered_failed (code message : String) :
    IsAnswered (failed i code message) :=
  ⟨_, _, output_errorReport hjson code message, .failure code message⟩

theorem isAnswered_of_noSite {s : Settings} {e : Discovery.Error}
    (h : Discovery.pages t s.root s.pattern s.exclude = .error (.noSite e)) :
    IsAnswered (ofPass i (pass i s t elapsed crew)) := by
  refine ⟨errorJson "DISCOVERY_FAILED" e.message, .oneLine, ?_, ?_⟩
  · simp [ofPass, pass, h, output_errorReport hjson]
  · simp only [ofPass, pass, h]
    exact .noSite _ _

theorem isAnswered_of_error {s : Settings} {e : Discovery.Failure}
    (h : Discovery.pages t s.root s.pattern s.exclude = .error e)
    (other : ∀ e', e ≠ .noSite e') :
    IsAnswered (ofPass i (pass i s t elapsed crew)) := by
  have hpass : pass i s t elapsed crew =
      { writing := logLine i .info "Running site lint rules...",
        result := .error e.message } := by
    cases e with
    | noSite e => exact absurd rfl (other e)
    | _ => simp only [pass, h]
  refine ⟨errorJson "CLI_ERROR" e.message, .oneLine, ?_, ?_⟩
  · simp [hpass, ofPass, output_errorReport hjson]
  · rw [hpass]
    exact .failure _ _

theorem isAnswered_runCheck (t : FileTree) (elapsed : String) (flags : Flags)
    (crew : Workforce) :
    IsAnswered (runCheck i t elapsed flags crew) := by
  unfold runCheck
  cases hs : Settings.resolve t (effectiveFlags i flags) with
  | error e => exact isAnswered_failed hjson _ _
  | ok s =>
      cases hp : Discovery.pages t s.root s.pattern s.exclude with
      | ok paths => exact isAnswered_of_pages (format_of_resolve hjson hs) hp
      | error e =>
          cases e with
          | noSite e => exact isAnswered_of_noSite hjson hp
          -- no other failure has an exit code of its own
          | _ => exact isAnswered_of_error hjson hp nofun

end Json

/-!
## The main statement
-/

theorem parse_of_switched {args : List String} {i : Invocation}
    (switched : jsonSwitch ∈ args)
    (accepted : parseWords (args.filter (· != jsonSwitch)) = .ok i) :
    parse args = .ok { i with json := true } := by
  have hcontains : args.contains jsonSwitch = true :=
    List.contains_iff_mem.2 switched
  simp only [parse, accepted, hcontains, Bool.or_true]

structure IsAnswer (o : Outcome) (text : String)
    (members : List (String × Json)) :
    Prop where
  output : o.writing.output = text ++ "\n"
  denoted : ∀ v, Json.Denotes v text.toList ↔ v = .object members
  unambiguous : (members.map (·.1)).Nodup
  verdict : ∃ b, (Json.object members).member? "ok" = some (.flag b)
  ok_iff :
    (Json.object members).member? "ok" = some (.flag true) ↔ o.exitCode = 0
  report_iff :
    (Json.object members).member? "schema" = some (.text Report.schema) ↔
      o.exitCode = 0 ∨ o.exitCode = 1
  error_iff :
    (Json.object members).member? "schema" = some (.text errorSchema) ↔
      o.exitCode = 2 ∨ o.exitCode = 3

structure AnswersInJson (t : FileTree) (elapsed : String) (args : List String)
    (changes : List Change) (crew : Workforce) (flags : Flags) : Prop where
  answer :
    ∃ text members, IsAnswer (run t elapsed args changes crew) text members
  exitCode : (run t elapsed args changes crew).exitCode ≤ 3
  /-- The output is the same at any level of the log, for any number of workers
  and in any order of their finishing. -/
  workAside : ∀ args' i' workers (crew' : Workforce), jsonSwitch ∈ args' →
    parseWords (args'.filter (· != jsonSwitch)) = .ok i' →
    i'.command = .check { flags with jobs := workers } →
      crew'.worker = crew.worker →
    AsksForWorkers t flags → AsksForWorkers t { flags with jobs := workers } →
    (run t elapsed args' changes crew').writing.output =
      (run t elapsed args changes crew).writing.output

theorem IsAnswered.isAnswer {o : Outcome} (h : IsAnswered o) :
    o.exitCode ≤ 3 ∧ ∃ text members, IsAnswer o text members := by
  obtain ⟨v, l, houtput, hanswer⟩ := h
  obtain ⟨members, rfl, htells⟩ := hanswer.exists_tells
  constructor
  · cases htells.schema with
    | inl hreport => omega
    | inr herror => omega
  · exact ⟨(Json.object members).render l, members,
      { output := houtput
        denoted := Json.denotes_render_iff l _
        unambiguous := htells.unambiguous
        verdict := ⟨_, htells.ok⟩
        ok_iff := htells.ok_iff
        report_iff := htells.schema_report_iff
        error_iff := htells.schema_error_iff }⟩

theorem check_answers_in_json (t : FileTree) (elapsed : String)
    (args : List String) (changes : List Change) (crew : Workforce)
    (i : Invocation) (flags : Flags) (switched : jsonSwitch ∈ args)
    (accepted : parseWords (args.filter (· != jsonSwitch)) = .ok i)
    (asked : i.command = .check flags) :
    AnswersInJson t elapsed args changes crew flags := by
  have hrun : run t elapsed args changes crew =
      runCheck { i with json := true } t elapsed flags crew :=
    run_of_check (parse_of_switched switched accepted) asked
  have hanswered :=
    isAnswered_runCheck (i := { i with json := true }) rfl t elapsed flags crew
  rw [← hrun] at hanswered
  refine ⟨hanswered.isAnswer.2, hanswered.isAnswer.1, ?_⟩
  intro args' i' workers crew' switched' accepted' asked' hcrew h h'
  rw [hrun, run_of_check (parse_of_switched switched' accepted') asked']
  have hjson : ({ i' with json := true } : Invocation).json =
      ({ i with json := true } : Invocation).json := rfl
  exact (runCheck_congr hjson hcrew elapsed elapsed h h').2

theorem resolve_brokenSite_json :
    Settings.resolve brokenSite { root := some "site", pattern := some "a.html",
                                  format := some "json" } =
      .ok ⟨⟨.relative, ["site"]⟩, "a.html", [], 1, .json⟩ := by
  have hload : Config.load brokenSite none = Config.defaults brokenSite := rfl
  have hnone : (Settings.given none).map Path.ofString = none := rfl
  simp only [Settings.resolve, hnone, hload, Config.defaults_eq]
  rfl

theorem asksForWorkers_brokenSite (flags : Flags)
    (hconfig : flags.config = none) (hjobs : flags.jobs = .usual) :
    AsksForWorkers brokenSite flags := by
  intro c hc
  have hload :
      Config.load brokenSite ((Settings.given flags.config).map Path.ofString) =
      Config.defaults brokenSite := by
    rw [hconfig]
    rfl
  rw [hload, Config.defaults_eq] at hc
  cases hc
  rw [hjobs]
  exact ⟨1, Int.le_refl 1, rfl⟩

/-- The switch may even stand between another switch and its value, which asks
for a report for readers. -/
theorem answer_on_undecodable_page :
    ∃ text members,
      (run brokenSite "0.0" ["check", "--root", "site", "--pattern", "a.html",
        "--format", "--json", "text"]
        []).writing.output = text ++ "\n" ∧
      (∀ v, Json.Denotes v text.toList ↔ v = .object members) ∧
      (Json.object members).member? "schema" = some (.text Report.schema) ∧
      (run brokenSite "0.0" ["--log-level", "debug", "check", "--root", "site",
        "--pattern", "a.html", "--jobs", "8",
        "--format", "text", "--json"] []).writing.output = text ++ "\n" := by
  have hwords :
      ["check", "--root", "site", "--pattern", "a.html", "--format", "--json",
        "text"].filter (· != jsonSwitch) =
        ["check", "--root", "site", "--pattern", "a.html", "--format",
          "text"] := by
    decide
  have accepted : parseWords (["check", "--root", "site", "--pattern", "a.html",
      "--format", "--json", "text"].filter (· != jsonSwitch)) =
      .ok ⟨.info, false, .check { root := some "site", pattern := some "a.html",
                                  format := some "text" }⟩ := by
    rw [hwords]
    rfl
  have switched : jsonSwitch ∈
      ["check", "--root", "site", "--pattern", "a.html", "--format", "--json",
        "text"] := by decide
  have hcode : (run brokenSite "0.0" ["check", "--root", "site", "--pattern",
      "a.html", "--format", "--json", "text"]
      []).exitCode ≤ 1 := by
    rw [run_of_check (parse_of_switched switched accepted) rfl,
      exitCode_of_discovers ⟨_, resolve_brokenSite_json, pages_brokenSite⟩]
    exact exitCode_le_one _
  have hwords' : ["--log-level", "debug", "check", "--root", "site",
      "--pattern", "a.html", "--jobs", "8",
      "--format", "text", "--json"].filter
    (· != jsonSwitch) = ["--log-level", "debug", "check", "--root", "site",
      "--pattern", "a.html", "--jobs", "8", "--format", "text"] := by decide
  have accepted' : parseWords (["--log-level", "debug", "check", "--root",
      "site", "--pattern", "a.html", "--jobs",
      "8", "--format", "text", "--json"].filter (· != jsonSwitch)) =
      .ok ⟨.debug, false, .check
        { root := some "site", pattern := some "a.html", jobs := .count 8,
          format := some "text" }⟩ := by
    rw [hwords']
    rfl
  have answers :=
    check_answers_in_json brokenSite "0.0" _ [] {} _ _ switched accepted rfl
  obtain ⟨text, members, answer⟩ := answers.answer
  refine ⟨text, members, answer.output, answer.denoted,
    answer.report_iff.2 (Nat.le_one_iff_eq_zero_or_eq_one.1 hcode), ?_⟩
  rw [← answer.output]
  refine answers.workAside _ _ (.count 8) {} (by decide) accepted' rfl rfl ?_ ?_
  · exact asksForWorkers_brokenSite _ rfl rfl
  · intro c hc
    exact ⟨8, by decide, rfl⟩

end Program
end SiteAudit
