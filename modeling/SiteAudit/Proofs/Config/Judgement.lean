import SiteAudit.Proofs.Config.Accepted
import SiteAudit.Proofs.Sorting

/-!
# Judged tables of settings

A table is accepted exactly when all of its settings are what they should be,
and otherwise it is refused for the first check that fails: the names of the
settings are checked before the workers, these before the format, and the globs
come last.  Every reason but one names a wrong setting.  The exception is a
format that is made of other values: it cannot be compared with names, and what
fails then is the comparison.
-/

namespace SiteAudit
namespace Config

/-- The settings in a table: none, or those that stand in it under the one name
that it is looked up by. -/
inductive Sets (data : Table) : Table → Prop
  | nothing (absent : data.get? "lint" = none) : Sets data []
  | settings {settings : Table}
      (present : data.get? "lint" = some (.table settings)) : Sets data settings

def Known (settings : Table) : Prop :=
  ∀ name ∈ settings.map (·.1),
    name ∈ ["root", "pattern", "exclude", "jobs", "format"]

/-- A setting that is made of other values, and what such values are called. -/
inductive HasParts : Option Value → String → Prop
  | list (items : List Value) : HasParts (some (.list items)) "list"
  | table (entries : Table) : HasParts (some (.table entries)) "dict"

structure Accepts (base : Path) (settings : Table) (c : Config) : Prop where
  known : Known settings
  base : c.base = base
  rootText : c.rootText = textOr defaultRoot (settings.get? "root")
  pattern : c.pattern = textOr defaultPattern (settings.get? "pattern")
  jobs : Employs (settings.get? "jobs") c.jobs
  format : Names (settings.get? "format") c.format
  exclude : Excludes (settings.get? "exclude") c.exclude

/-- The settings are wrong, and this is what is said about them. -/
inductive Refuses (settings : Table) : Failure → Prop
  | unknownNames {names : List String} (unknown : names ≠ [])
      (sorted : names.Pairwise (· ≤ ·))
      (complete :
        names.Perm ((settings.map (·.1)).filter (!settingNames.contains ·))) :
      Refuses settings (.invalid (.unknownNames names))
  | badJobs (known : Known settings)
      (jobs : ∀ n, ¬ Employs (settings.get? "jobs") n) :
      Refuses settings (.invalid .badJobs)
  | noFormatName {n : Int} {kind : String} (known : Known settings)
      (jobs : Employs (settings.get? "jobs") n)
      (parts : HasParts (settings.get? "format") kind) :
      Refuses settings (.noFormatName kind)
  | badFormat {n : Int} (known : Known settings)
      (jobs : Employs (settings.get? "jobs") n)
      (whole : ∀ kind, ¬ HasParts (settings.get? "format") kind)
      (format : ∀ format, ¬ Names (settings.get? "format") format) :
      Refuses settings (.invalid .badFormat)
  | badExclude {n : Int} {format : Report.Format} (known : Known settings)
      (jobs : Employs (settings.get? "jobs") n)
      (format : Names (settings.get? "format") format)
      (exclude : ∀ globs, ¬ Excludes (settings.get? "exclude") globs) :
      Refuses settings (.invalid .badExclude)

structure Judged (base : Path) (data : Table)
    (outcome : Except Failure Config) : Prop where
  accepted : ∀ c, outcome = .ok c ↔ ∃ settings,
    Sets data settings ∧ Accepts base settings c
  refused : ∀ failure, outcome = .error failure ↔
    (¬ (∃ settings, Sets data settings) ∧ failure = .invalid .noTable) ∨
      ∃ settings, Sets data settings ∧ Refuses settings failure
  sound : ∀ c, outcome = .ok c →
    1 ≤ c.jobs ∧ c.format ∈ Report.Format.all ∧ ∀ settings, Sets data settings →
      Known settings
  /-- There is a configuration, or a wrong setting is named, or the format is
  made of other values. -/
  decided : (∃ c, outcome = .ok c) ∨ (∃ e, outcome = .error (.invalid e)) ∨
    ∃ settings kind, Sets data settings ∧
      HasParts (settings.get? "format") kind ∧
      outcome = .error (.noFormatName kind)

/-!
## One check at a time
-/

theorem unknownNames_eq_nil_iff {settings : Table} :
    unknownNames settings = [] ↔ Known settings := by
  rw [unknownNames, ← List.length_eq_zero_iff, List.length_mergeSort,
    List.length_eq_zero_iff, List.filter_eq_nil_iff]
  apply forall₂_congr
  intro name _
  rw [Bool.not_eq_true', Bool.not_eq_false, List.contains_iff_mem]
  rfl

theorem unknownNames_eq_iff {settings : Table} {names : List String} :
    unknownNames settings = names ↔
      names.Pairwise (· ≤ ·) ∧
        names.Perm ((settings.map (·.1)).filter (!settingNames.contains ·)) :=
  mergeSort_eq_iff

section Settings

variable {setting : Option Value}

theorem jobsOf?_eq_some_iff {n : Int} :
    jobsOf? setting = some n ↔ Employs setting n := by
  constructor
  · exact employs_of_jobsOf
  · intro h
    cases h with
    | nothing => rfl
    | number hn => exact if_pos hn
    | yes => rfl

theorem formatOf_eq_ok_iff {format : Report.Format} :
    formatOf setting = .ok format ↔ Names setting format := by
  constructor
  · exact names_of_formatOf
  · intro h
    cases h with
    | nothing => rfl
    | name hname => simp [formatOf, hname]

theorem excludeOf?_eq_some_iff {globs : List String} :
    excludeOf? setting = some globs ↔ Excludes setting globs := by
  constructor
  · exact excludes_of_excludeOf
  · intro h
    cases h with
    | nothing => rfl
    | one s => rfl
    | many globs =>
        rw [excludeOf?, List.mapM_map]
        exact (List.mapM_pure (f := id)).trans (by simp)

theorem jobsOf?_eq_none_iff :
    jobsOf? setting = none ↔ ∀ n, ¬ Employs setting n := by
  rw [Option.eq_none_iff_forall_ne_some]
  exact forall_congr' fun n => not_congr jobsOf?_eq_some_iff

theorem excludeOf?_eq_none_iff :
    excludeOf? setting = none ↔ ∀ globs, ¬ Excludes setting globs := by
  rw [Option.eq_none_iff_forall_ne_some]
  exact forall_congr' fun globs => not_congr excludeOf?_eq_some_iff

theorem formatOf_of_hasParts {kind : String} (h : HasParts setting kind) :
    formatOf setting = .error (.noFormatName kind) := by
  cases h with
  | list items => rfl
  | table entries => rfl

theorem formatOf_of_whole (whole : ∀ kind, ¬ HasParts setting kind)
    (format : ∀ format, ¬ Names setting format) :
    formatOf setting = .error (.invalid .badFormat) := by
  unfold formatOf
  split
  · exact absurd .nothing (format .text)
  · split
    · rename_i named hname
      exact absurd (.name hname) (format named)
    · rfl
  · exact absurd (.list _) (whole "list")
  · exact absurd (.table _) (whole "dict")
  · rfl

theorem formatOf_eq_error_iff {failure : Failure} :
    formatOf setting = .error failure ↔
      (∃ kind, HasParts setting kind ∧ failure = .noFormatName kind) ∨
        (∀ kind, ¬ HasParts setting kind) ∧ (∀ format, ¬ Names setting format) ∧
          failure = .invalid .badFormat := by
  constructor
  · intro h
    by_cases hparts : ∃ kind, HasParts setting kind
    · rcases hparts with ⟨kind, hkind⟩
      rw [formatOf_of_hasParts hkind] at h
      cases h
      exact .inl ⟨kind, hkind, rfl⟩
    · have whole := not_exists.1 hparts
      have format : ∀ format, ¬ Names setting format := by
        intro format hformat
        rw [formatOf_eq_ok_iff.2 hformat] at h
        cases h
      rw [formatOf_of_whole whole format] at h
      cases h
      exact .inr ⟨whole, format, rfl⟩
  · intro h
    rcases h with ⟨kind, hkind, rfl⟩ | ⟨whole, format, rfl⟩
    · exact formatOf_of_hasParts hkind
    · exact formatOf_of_whole whole format

end Settings

/-!
## All checks of the settings
-/

section Checks

variable {base : Path} {settings : Table}

theorem known_of_ofSettings {c : Config}
    (h : ofSettings base settings = .ok c) : Known settings := by
  unfold ofSettings at h
  split at h
  · cases h
  · rename_i hnames
    exact unknownNames_eq_nil_iff.1 hnames

theorem ofSettings_eq_ok_iff {c : Config} :
    ofSettings base settings = .ok c ↔ Accepts base settings c := by
  constructor
  · intro h
    have hrecords := records_of_ofSettings h
    exact
      { known := known_of_ofSettings h
        base := hrecords.base
        rootText := hrecords.rootText
        pattern := hrecords.pattern
        jobs := employs_of_jobsOf hrecords.jobs
        format := names_of_formatOf hrecords.format
        exclude := excludes_of_excludeOf hrecords.exclude }
  · intro h
    simp only [ofSettings, unknownNames_eq_nil_iff.2 h.known,
      jobsOf?_eq_some_iff.2 h.jobs, formatOf_eq_ok_iff.2 h.format,
      excludeOf?_eq_some_iff.2 h.exclude]
    rw [← h.base, ← h.rootText, ← h.pattern]

theorem refuses_of_ofSettings {failure : Failure}
    (h : ofSettings base settings = .error failure) :
    Refuses settings failure := by
  unfold ofSettings at h
  split at h
  · rename_i name names hnames
    cases h
    rcases unknownNames_eq_iff.1 hnames with ⟨sorted, complete⟩
    exact .unknownNames (List.cons_ne_nil name names) sorted complete
  · rename_i hnames
    have known := unknownNames_eq_nil_iff.1 hnames
    split at h
    · rename_i hjobs
      cases h
      exact .badJobs known (jobsOf?_eq_none_iff.1 hjobs)
    · rename_i n hjobs
      have jobs := employs_of_jobsOf hjobs
      split at h
      · rename_i e hformat
        cases h
        rcases formatOf_eq_error_iff.1 hformat with
          ⟨kind, parts, rfl⟩ | ⟨whole, format, rfl⟩
        · exact .noFormatName known jobs parts
        · exact .badFormat known jobs whole format
      · rename_i format hformat
        split at h
        · rename_i hexclude
          cases h
          exact .badExclude known jobs (names_of_formatOf hformat)
            (excludeOf?_eq_none_iff.1 hexclude)
        · cases h

theorem ofSettings_of_refuses {failure : Failure}
    (h : Refuses settings failure) :
    ofSettings base settings = .error failure := by
  cases h with
  | @unknownNames names unknown sorted complete =>
      have hnames := unknownNames_eq_iff.2 ⟨sorted, complete⟩
      cases names with
      | nil => exact absurd rfl unknown
      | cons name names => simp only [ofSettings, hnames]
  | badJobs known jobs =>
      simp only [ofSettings, unknownNames_eq_nil_iff.2 known,
        jobsOf?_eq_none_iff.2 jobs]
  | noFormatName known jobs parts =>
      simp only [ofSettings, unknownNames_eq_nil_iff.2 known,
        jobsOf?_eq_some_iff.2 jobs, formatOf_of_hasParts parts]
  | badFormat known jobs whole format =>
      simp only [ofSettings, unknownNames_eq_nil_iff.2 known,
        jobsOf?_eq_some_iff.2 jobs, formatOf_of_whole whole format]
  | badExclude known jobs format exclude =>
      simp only [ofSettings, unknownNames_eq_nil_iff.2 known,
        jobsOf?_eq_some_iff.2 jobs, formatOf_eq_ok_iff.2 format,
        excludeOf?_eq_none_iff.2 exclude]

end Checks

/-!
## Tables
-/

section Tables

variable {base : Path} {data : Table}

theorem settingsOf_eq_ok_iff {settings : Table} :
    settingsOf data = .ok settings ↔ Sets data settings := by
  constructor
  · intro h
    unfold settingsOf at h
    split at h
    · rename_i habsent
      cases h
      exact .nothing habsent
    · rename_i given hpresent
      cases h
      exact .settings hpresent
    · cases h
  · intro h
    cases h with
    | nothing absent => simp only [settingsOf, tableName, absent]
    | settings present => simp only [settingsOf, tableName, present]

theorem settingsOf_eq_error_iff {failure : Failure} :
    settingsOf data = .error failure ↔
      ¬ (∃ settings, Sets data settings) ∧ failure = .invalid .noTable := by
  cases hsettings : settingsOf data with
  | ok settings =>
      have hsets : ∃ settings, Sets data settings :=
        ⟨settings, settingsOf_eq_ok_iff.1 hsettings⟩
      simp [hsets]
  | error e =>
      have hsets : ¬ ∃ settings, Sets data settings := by
        intro h
        rcases h with ⟨settings, h⟩
        rw [settingsOf_eq_ok_iff.2 h] at hsettings
        cases hsettings
      have he : e = .invalid .noTable := by
        unfold settingsOf at hsettings
        split at hsettings
        · cases hsettings
        · cases hsettings
        · cases hsettings
          rfl
      simp [hsets, he, eq_comm]

theorem Sets.unique {settings settings' : Table} (h : Sets data settings)
    (h' : Sets data settings') :
    settings = settings' :=
  Except.ok.inj
    ((settingsOf_eq_ok_iff.2 h).symm.trans (settingsOf_eq_ok_iff.2 h'))

theorem ofTable_of_sets {settings : Table} (h : Sets data settings) :
    ofTable base data = ofSettings base settings := by
  rw [ofTable, settingsOf_eq_ok_iff.2 h]

theorem ofTable_eq_ok_iff {c : Config} :
    ofTable base data = .ok c ↔
      ∃ settings, Sets data settings ∧ Accepts base settings c := by
  constructor
  · intro h
    rcases exists_of_ofTable h with ⟨settings, hsettings, hc⟩
    exact ⟨settings, settingsOf_eq_ok_iff.1 hsettings,
      ofSettings_eq_ok_iff.1 hc⟩
  · intro h
    rcases h with ⟨settings, hsets, haccepts⟩
    rw [ofTable_of_sets hsets, ofSettings_eq_ok_iff]
    exact haccepts

theorem ofTable_eq_error_iff {failure : Failure} :
    ofTable base data = .error failure ↔
      (¬ (∃ settings, Sets data settings) ∧ failure = .invalid .noTable) ∨
        ∃ settings, Sets data settings ∧ Refuses settings failure := by
  by_cases hsets : ∃ settings, Sets data settings
  · rcases hsets with ⟨settings, hsets⟩
    rw [ofTable_of_sets hsets]
    constructor
    · intro h
      exact .inr ⟨settings, hsets, refuses_of_ofSettings h⟩
    · intro h
      rcases h with ⟨hnone, -⟩ | ⟨given, hgiven, hrefuses⟩
      · exact absurd ⟨settings, hsets⟩ hnone
      · rw [hsets.unique hgiven]
        exact ofSettings_of_refuses hrefuses
  · have htable : ofTable base data = .error (.invalid .noTable) := by
      rw [ofTable, settingsOf_eq_error_iff.2 ⟨hsets, rfl⟩]
    rw [htable, Except.error.injEq]
    constructor
    · intro h
      exact .inl ⟨hsets, h.symm⟩
    · intro h
      rcases h with ⟨-, hfailure⟩ | ⟨settings, hgiven, -⟩
      · exact hfailure.symm
      · exact absurd ⟨settings, hgiven⟩ hsets

end Tables

/-!
## The main statement
-/

theorem ofTable_judged (base : Path) (data : Table) :
    Judged base data (ofTable base data) where
  accepted _ := ofTable_eq_ok_iff
  refused _ := ofTable_eq_error_iff
  sound := by
    intro c h
    rcases ofTable_eq_ok_iff.1 h with ⟨settings, hsets, haccepts⟩
    refine ⟨haccepts.jobs.one_le, ?_, ?_⟩
    · cases c.format with
      | text => exact List.mem_cons_self
      | json => exact List.mem_cons_of_mem _ List.mem_cons_self
    · intro given hgiven
      rw [← hsets.unique hgiven]
      exact haccepts.known
  decided := by
    cases houtcome : ofTable base data with
    | ok c => exact .inl ⟨c, rfl⟩
    | error failure =>
        right
        rcases ofTable_eq_error_iff.1 houtcome with
          ⟨-, rfl⟩ | ⟨settings, hsets, hrefuses⟩
        · exact .inl ⟨.noTable, rfl⟩
        · cases hrefuses with
          | unknownNames unknown sorted complete => exact .inl ⟨_, rfl⟩
          | badJobs known jobs => exact .inl ⟨_, rfl⟩
          | noFormatName known jobs parts =>
              exact .inr ⟨settings, _, hsets, parts, rfl⟩
          | badFormat known jobs whole format => exact .inl ⟨_, rfl⟩
          | badExclude known jobs format exclude => exact .inl ⟨_, rfl⟩

/-- A list in the place of the format: there is no configuration, and no wrong
setting is named. -/
theorem list_for_format :
    let data : Table := [("lint", .table [("format", .list [])])]
    ofTable .here data = .error (.noFormatName "list") ∧
      (∀ c, ofTable .here data ≠ .ok c) ∧
      ∀ e, ofTable .here data ≠ .error (.invalid e) := by
  have houtcome : ofTable .here [("lint", .table [("format", .list [])])] =
      .error (.noFormatName "list") := by
    rw [ofTable_eq_error_iff]
    right
    refine ⟨[("format", .list [])], .settings rfl,
      .noFormatName ?_ .nothing (.list [])⟩
    intro name hname
    rw [List.mem_singleton.1 hname]
    simp
  intro data
  refine ⟨houtcome, ?_, ?_⟩
  · intro c hc
    cases houtcome.symm.trans hc
  · intro e he
    cases houtcome.symm.trans he

end Config
end SiteAudit
