import SiteAudit.Proofs.Config.Accepted
import SiteAudit.Proofs.Discovery.Selection
import SiteAudit.Proofs.Program.MachineOutput

/-!
# Settings that hold

Once there are settings, nothing in them can make a check fail behind discovery.
There is at least one worker, the format exists, and the exclusions are those of
the configuration and then those of the flags.  A flag that is given leaves the
configuration no say in its setting.  An exclusion that was asked for without a
glob gets into the settings all the same; it makes discovery fail, so what comes
after discovery never sees it.
-/

namespace SiteAudit
namespace Program

open CommandLine

/-- A setting is what a flag means, or else what the configuration gives. -/
inductive Chosen {α β : Type} (flag : Option α) (meaning : α → β → Prop)
    (configured : β → Prop) : β → Prop
  | flag {a : α} {b : β} (hflag : flag = some a) (hmeaning : meaning a b) :
      Chosen flag meaning configured b
  | configured {b : β} (hflag : flag = none) (hconfigured : configured b) :
      Chosen flag meaning configured b

def workersGiven : Workers → Option Int
  | .count n => some n
  | _ => none

def Decides (flags : Flags) (name : String) : Prop :=
  (name = "root" ∧ Settings.given flags.root ≠ none) ∨
    (name = "pattern" ∧ Settings.given flags.pattern ≠ none) ∨
    (name = "format" ∧ Settings.given flags.format ≠ none) ∨
      (name = "jobs" ∧ workersGiven flags.jobs ≠ none)

/-- The directory that the root is seen from, and the table of settings that the
flags lead to. -/
inductive Configured (t : FileTree) (flags : Flags) : Path → Config.Table → Prop
  /-- No file is asked for, and there is none at the usual place. -/
  | usual (hflag : Settings.given flags.config = none)
      (habsent : t.entry? ((Config.workingDirectory t).child Config.fileName) =
        .ok none) :
      Configured t flags (Config.workingDirectory t) []
  | file {file : Path} {entry : Entry} {bytes : List UInt8} {s : List Char}
      {data settings : Config.Table}
      (hfile : file = ((Settings.given flags.config).map Path.ofString).getD
        ((Config.workingDirectory t).child Config.fileName))
      (hpresent : t.entry? file = .ok (some entry))
      (hread : t.readBytes file = .ok bytes)
      (hdecoded : Text.Utf8.decode bytes = .ok s)
      (hparsed : Toml.decode s = .ok data)
      (htable : Config.settingsOf data = .ok settings) :
      Configured t flags file.parent settings

/-- What is certain of settings. -/
structure Resolved (flags : Flags) (base : Path) (table : Config.Table)
    (s : Settings) : Prop where
  root :
    Chosen ((Settings.given flags.root).map Path.ofString) (fun flag root =>
      root = flag)
    (fun root => ∃ text,
      Config.textOr Config.defaultRoot (table.get? "root") = .ok text ∧
      root = base.join (.ofString text)) s.root
  pattern :
    Chosen (Settings.given flags.pattern) (fun flag pattern => pattern = flag)
    (fun pattern =>
      Config.textOr Config.defaultPattern (table.get? "pattern") = .ok pattern)
    s.pattern
  format : Chosen (Settings.given flags.format) (fun name format =>
    Report.Format.ofName? name = some format)
    (Config.Names (table.get? "format")) s.format
  known : s.format.name ∈ Report.Format.all.map Report.Format.name
  jobs : Chosen (workersGiven flags.jobs) (fun n jobs =>
    jobs = n) (Config.Employs (table.get? "jobs")) s.jobs
  positive : 1 ≤ s.jobs
  exclude : ∃ globs, Config.Excludes (table.get? "exclude") globs ∧
    s.exclude = globs.map .glob ++ flags.exclude
  /-- The exclusions are globs if those of the flags are, and only then. -/
  globs : (∀ e ∈ s.exclude, e ≠ .void) ↔ ∀ e ∈ flags.exclude, e ≠ .void
  /-- Another valid configuration, which differs in what the flags decide, leads
  to the same settings. -/
  independent : ∀ t' table' c, Configured t' flags base table' →
    Config.ofSettings base table' = .ok c →
    (∀ name, ¬ Decides flags name → table'.get? name = table.get? name) →
    Settings.resolve t' flags = .ok s
  /-- Behind discovery one report is written, and nothing fails, whatever the
  site looks like by then. -/
  completion :
    ∀ t' paths, Discovery.pages t' s.root s.pattern s.exclude = .ok paths →
    (∀ e ∈ s.exclude, e ≠ .void) ∧ ∀ i elapsed crew,
      ((pass i s t' elapsed crew).result = .ok 0 ∨
        (pass i s t' elapsed crew).result = .ok 1) ∧
      Report.renderNamed (Tally.ofFiles (resultsOf crew t' paths))
        s.format.name =
        .ok (pass i s t' elapsed crew).writing.output

/-!
## The configuration
-/

section Configuration

variable {t : FileTree} {flags : Flags}

theorem exists_configured {c : Config}
    (h : Config.load t ((Settings.given flags.config).map Path.ofString) =
      .ok c) :
    ∃ base table, Configured t flags base table ∧
      Config.ofSettings base table = .ok c := by
  unfold Config.load at h
  dsimp only at h
  cases hentry :
    t.entry? (((Settings.given flags.config).map Path.ofString).getD
      ((Config.workingDirectory t).child Config.fileName)) with
  | error f =>
      rw [hentry] at h
      cases h
  | ok found =>
      rw [hentry] at h
      cases found with
      | some entry =>
          dsimp only [Config.ofFile] at h
          split at h
          · rename_i bytes hread
            rcases Config.exists_of_ofBytes h with
              ⟨s, data, hdecoded, hparsed, hc⟩
            rcases Config.exists_of_ofTable hc with ⟨settings, htable, hc⟩
            exact
              ⟨_, settings, .file rfl hentry hread hdecoded hparsed htable, hc⟩
          · cases h
      | none =>
          cases hflag : Settings.given flags.config with
          | some text =>
              rw [hflag] at h
              cases h
          | none =>
              rw [hflag] at h hentry
              rcases Config.exists_of_ofTable h with ⟨settings, htable, hc⟩
              cases htable
              exact ⟨_, [], .usual hflag hentry, hc⟩

theorem load_of_configured {base : Path} {table : Config.Table} {c : Config}
    (h : Configured t flags base table)
    (hc : Config.ofSettings base table = .ok c) :
    Config.load t ((Settings.given flags.config).map Path.ofString) =
      .ok c := by
  cases h with
  | usual hflag habsent =>
      rw [hflag, Option.map_none, Config.load, Option.getD_none]
      simp only [habsent]
      exact hc
  | file hfile hpresent hread hdecoded hparsed htable =>
      rw [hfile] at hpresent hread hc
      simp only [Config.load, hpresent, Config.ofFile, hread, Config.ofBytes,
        hdecoded, hparsed, Config.ofTable, htable]
      exact hc

theorem resolve_eq_ok_iff {s : Settings} :
    Settings.resolve t flags = .ok s ↔
      ∃ c, Config.load t ((Settings.given flags.config).map Path.ofString) =
        .ok c ∧
        Settings.merge flags c = .ok s := by
  unfold Settings.resolve
  cases Config.load t ((Settings.given flags.config).map Path.ofString) with
  | error e =>
      constructor
      · intro h
        cases h
      · intro h
        rcases h with ⟨c, hc, -⟩
        cases hc
  | ok c =>
      constructor
      · intro h
        exact ⟨c, rfl, h⟩
      · intro h
        rcases h with ⟨c', hc', h⟩
        cases hc'
        exact h

end Configuration

/-!
## Flags and configuration
-/

section Merging

variable {flags : Flags} {c c' : Config} {s : Settings}

structure Merges (flags : Flags) (c : Config) (s : Settings) : Prop where
  format : Settings.formatFor flags.format c = .ok s.format
  jobs : Settings.jobsFor flags.jobs c = .ok s.jobs
  root :
    Settings.flagOr ((Settings.given flags.root).map Path.ofString) c.root =
      .ok s.root
  pattern :
    Settings.flagOr (Settings.given flags.pattern) c.pattern = .ok s.pattern
  exclude : s.exclude = c.exclude.map .glob ++ flags.exclude

theorem merges_of_merge (h : Settings.merge flags c = .ok s) :
    Merges flags c s := by
  unfold Settings.merge at h
  rcases exists_of_bind_eq_ok h with ⟨format, hformat, h⟩
  rcases exists_of_bind_eq_ok h with ⟨jobs, hjobs, h⟩
  rcases exists_of_bind_eq_ok h with ⟨root, hroot, h⟩
  rcases exists_of_bind_eq_ok h with ⟨pattern, hpattern, h⟩
  cases h
  exact ⟨hformat, hjobs, hroot, hpattern, rfl⟩

theorem chosen_flagOr {α : Type} {flag : Option α}
    {other : Except Config.Limit α} {a : α} {configured : α → Prop}
    (h : Settings.flagOr flag other = .ok a)
    (hconfigured : other = .ok a → configured a) :
    Chosen flag (fun b a => a = b) configured a := by
  cases flag with
  | some b =>
      cases h
      exact .flag rfl rfl
  | none =>
      cases other with
      | error l => cases h
      | ok b =>
          cases h
          exact .configured rfl (hconfigured rfl)

theorem chosen_format {flag : Option String} {format : Report.Format}
    {configured : Report.Format → Prop}
    (h : Settings.formatFor flag c = .ok format)
    (hconfigured : configured c.format) :
    Chosen (Settings.given flag) (fun name format =>
      Report.Format.ofName? name = some format) configured format := by
  unfold Settings.formatFor at h
  split at h
  · rename_i hflag
    cases h
    exact .configured hflag hconfigured
  · rename_i name hflag
    split at h
    · rename_i hname
      cases h
      exact .flag hflag hname
    · cases h

theorem chosen_jobs {flag : Workers} {jobs : Int} {configured : Int → Prop}
    (h : Settings.jobsFor flag c = .ok jobs) (hconfigured : configured c.jobs) :
    Chosen (workersGiven flag) (fun n jobs => jobs = n) configured jobs ∧
      1 ≤ jobs := by
  cases flag with
  | unnamed => cases h
  | usual =>
      unfold Settings.jobsFor at h
      dsimp only at h
      split at h
      · cases h
      · rename_i hjobs
        cases h
        exact ⟨.configured rfl hconfigured, Int.not_lt.1 hjobs⟩
  | count n =>
      unfold Settings.jobsFor at h
      dsimp only at h
      split at h
      · cases h
      · rename_i hjobs
        cases h
        exact ⟨.flag rfl rfl, Int.not_lt.1 hjobs⟩

/-- What the flags decide is not looked up in the configuration. -/
theorem merge_congr (hbase : c'.base = c.base)
    (hexclude : c'.exclude = c.exclude)
    (hroot : Settings.given flags.root = none → c'.rootText = c.rootText)
    (hpattern : Settings.given flags.pattern = none → c'.pattern = c.pattern)
    (hformat : Settings.given flags.format = none → c'.format = c.format)
    (hjobs : workersGiven flags.jobs = none → c'.jobs = c.jobs) :
    Settings.merge flags c' = Settings.merge flags c := by
  have hsameFormat : Settings.formatFor flags.format c' =
      Settings.formatFor flags.format c := by
    unfold Settings.formatFor
    cases hflag : Settings.given flags.format with
    | some name => rfl
    | none => rw [hformat hflag]
  have hsameJobs :
      Settings.jobsFor flags.jobs c' = Settings.jobsFor flags.jobs c := by
    unfold Settings.jobsFor
    cases hflag : flags.jobs with
    | usual =>
        rw [hflag] at hjobs
        rw [hjobs rfl]
    | unnamed => rfl
    | count n => rfl
  have hsameRoot :
      Settings.flagOr ((Settings.given flags.root).map Path.ofString) c'.root =
      Settings.flagOr ((Settings.given flags.root).map Path.ofString)
        c.root := by
    cases hflag : Settings.given flags.root with
    | some text => rfl
    | none => rw [Config.root, Config.root, hroot hflag, hbase]
  have hsamePattern :
      Settings.flagOr (Settings.given flags.pattern) c'.pattern =
      Settings.flagOr (Settings.given flags.pattern) c.pattern := by
    cases hflag : Settings.given flags.pattern with
    | some text => rfl
    | none => rw [hpattern hflag]
  unfold Settings.merge
  rw [hsameFormat, hsameJobs, hsameRoot, hsamePattern, hexclude]

theorem merge_of_agreement {base : Path} {table table' : Config.Table}
    (hc : Config.Records base table c) (hc' : Config.Records base table' c')
    (hagree :
      ∀ name, ¬ Decides flags name → table'.get? name = table.get? name) :
    Settings.merge flags c' = Settings.merge flags c := by
  apply merge_congr
  · rw [hc.base, hc'.base]
  · have hsame : table'.get? "exclude" = table.get? "exclude" :=
      hagree _ (by simp [Decides])
    have hexclude := hc'.exclude
    rw [hsame, hc.exclude] at hexclude
    exact (Option.some.inj hexclude).symm
  · intro hflag
    rw [hc.rootText, hc'.rootText, hagree "root" (by simp [Decides, hflag])]
  · intro hflag
    rw [hc.pattern, hc'.pattern, hagree "pattern" (by simp [Decides, hflag])]
  · intro hflag
    have hformat := hc'.format
    rw [hagree "format" (by simp [Decides, hflag]), hc.format] at hformat
    exact (Except.ok.inj hformat).symm
  · intro hflag
    have hjobs := hc'.jobs
    rw [hagree "jobs" (by simp [Decides, hflag]), hc.jobs] at hjobs
    exact (Option.some.inj hjobs).symm

end Merging

/-!
## Exclusions
-/

/-- A page that no exclusion matches was tried against all of them. -/
theorem ne_void_of_isExcluded {path : String} {exclude : List Exclusion}
    (h : isExcluded? path exclude = some false) :
    ∀ e ∈ exclude, e ≠ .void := by
  induction exclude with
  | nil =>
      intro e he
      cases he
  | cons e rest ih =>
      cases e with
      | void => cases h
      | glob s =>
          rw [isExcluded?] at h
          split at h
          · cases h
          · cases h
          · rw [List.forall_mem_cons]
            refine ⟨?_, ih h⟩
            intro hvoid
            cases hvoid

theorem ne_void_of_pages {t : FileTree} {root : Path} {pattern : String}
    {exclude : List Exclusion} {paths : List Path}
    (h : Discovery.pages t root pattern exclude = .ok paths) :
    ∀ e ∈ exclude, e ≠ .void := by
  -- Discovery returns some page, and no exclusion matches that one.
  rcases List.exists_mem_of_ne_nil paths (Discovery.ne_nil_of_pages h) with
    ⟨p, hp⟩
  rcases Discovery.exists_of_mem_pages h hp with
    ⟨-, selector, names, -, -, hpage, -⟩
  unfold Discovery.isPage at hpage
  split at hpage
  · cases hpage
  · split at hpage
    · cases hpage
    · rename_i excluded hexcluded
      rw [Except.ok.injEq, Bool.not_eq_true'] at hpage
      rw [hpage] at hexcluded
      exact ne_void_of_isExcluded hexcluded
  · cases hpage

theorem ne_void_append_iff {globs : List String} {exclude : List Exclusion} :
    (∀ e ∈ globs.map .glob ++ exclude, e ≠ .void) ↔
      ∀ e ∈ exclude, e ≠ Exclusion.void := by
  rw [List.forall_mem_append]
  constructor
  · intro h
    exact h.2
  · intro h
    refine ⟨?_, h⟩
    intro e he hvoid
    rcases List.mem_map.1 he with ⟨s, -, hs⟩
    rw [hvoid] at hs
    cases hs

/-!
## The main statement
-/

theorem renderNamed_name (tally : Tally) (format : Report.Format) :
    Report.renderNamed tally format.name =
      .ok (Report.render tally format) := by
  cases format with
  | text => rfl
  | json => rfl

/-- Settings that were found hold what they should, and no check fails behind
discovery. -/
theorem settings_resolved {t : FileTree} {flags : Flags} {s : Settings}
    (h : Settings.resolve t flags = .ok s) :
    ∃ base table, Configured t flags base table ∧
      Resolved flags base table s := by
  rcases resolve_eq_ok_iff.1 h with ⟨c, hload, hmerge⟩
  rcases exists_configured hload with ⟨base, table, hconfigured, hc⟩
  have hrecords : Config.Records base table c := Config.records_of_ofSettings hc
  have hmerges : Merges flags c s := merges_of_merge hmerge
  have hjobs :=
    chosen_jobs hmerges.jobs (Config.employs_of_jobsOf hrecords.jobs)
  refine ⟨base, table, hconfigured, ?_⟩
  exact {
    root := by
      apply chosen_flagOr hmerges.root
      intro hroot
      rw [Config.root, hrecords.rootText, hrecords.base] at hroot
      cases htext : Config.textOr Config.defaultRoot (table.get? "root") with
      | error l =>
          rw [htext] at hroot
          cases hroot
      | ok text =>
          rw [htext] at hroot
          exact ⟨text, rfl, (Except.ok.inj hroot).symm⟩
    pattern := by
      apply chosen_flagOr hmerges.pattern
      intro hpattern
      rw [← hpattern, hrecords.pattern]
    format :=
      chosen_format hmerges.format (Config.names_of_formatOf hrecords.format)
    known := by
      cases s.format with
      | text => exact List.mem_cons_self
      | json => exact List.mem_cons_of_mem _ List.mem_cons_self
    jobs := hjobs.1
    positive := hjobs.2
    exclude := ⟨c.exclude, Config.excludes_of_excludeOf hrecords.exclude,
      hmerges.exclude⟩
    globs := by
      rw [hmerges.exclude]
      exact ne_void_append_iff
    independent := by
      intro t' table' c' hconfigured' hc' hagree
      rw [resolve_eq_ok_iff]
      refine ⟨c', load_of_configured hconfigured' hc', ?_⟩
      rw [merge_of_agreement hrecords (Config.records_of_ofSettings hc') hagree]
      exact hmerge
    completion := by
      intro t' paths hpages
      refine ⟨ne_void_of_pages hpages, ?_⟩
      intro i elapsed crew
      rw [result_pass_of_pages hpages, output_pass_of_pages hpages,
        renderNamed_name, Except.ok.injEq, Except.ok.injEq]
      exact ⟨Nat.le_one_iff_eq_zero_or_eq_one.1 (exitCode_le_one _), rfl⟩ }

theorem settings_resolved_brokenSite :
    Settings.resolve brokenSite { root := some "site",
                                  pattern := some "a.html" } =
        .ok ⟨⟨.relative, ["site"]⟩, "a.html", [], 1, .text⟩ ∧
      ∃ base table, Configured brokenSite
        { root := some "site", pattern := some "a.html" } base table ∧
        Resolved { root := some "site", pattern := some "a.html" } base table
          ⟨⟨.relative, ["site"]⟩, "a.html", [], 1, .text⟩ :=
  ⟨resolve_brokenSite, settings_resolved resolve_brokenSite⟩

def onePage : FileTree where
  root := .folder "_site" (.file "a.html" [] .empty) .empty
  cwd := []

/-- Two hyphens as an exclusion are no glob.  They get into the settings, and
then discovery stumbles over them. -/
theorem void_exclusion_resolved :
    (parse ["check", "--exclude=--"]).toOption = some ⟨.info, false,
      .check { exclude := [.void] }⟩ ∧
      (∃ s, Settings.resolve onePage { exclude := [.void] } = .ok s ∧
        ¬ ∀ e ∈ s.exclude, ∃ g, e = .glob g) ∧
      (run onePage "0.0" ["check", "--exclude=--"] []).exitCode = 3 := by
  have hload : Config.load onePage none = Config.defaults onePage := rfl
  have hnone : (Settings.given none).map Path.ofString = none := rfl
  have hsettings : Settings.resolve onePage { exclude := [.void] } =
      .ok ⟨(Config.workingDirectory onePage).join
        (.ofString Config.defaultRoot), Config.defaultPattern, [.void], 1,
        .text⟩ := by
    simp only [Settings.resolve, hnone, hload, Config.defaults_eq]
    rfl
  refine ⟨by decide +kernel, ⟨_, hsettings, ?_⟩, by decide +kernel⟩
  intro hglobs
  rcases hglobs _ (List.mem_singleton.2 rfl) with ⟨g, hg⟩
  cases hg

end Program
end SiteAudit
