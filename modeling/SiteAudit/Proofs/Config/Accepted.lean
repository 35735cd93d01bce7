import SiteAudit.Config.File

/-!
# Accepted tables of settings

A table of settings that is accepted has a place for every setting: the one that
it gives, or the usual one.  A single glob is a list of one, and yes is one
worker.  A setting that is not what it should be is accepted nowhere, so an
accepted configuration has at least one worker, a format that exists, and globs.
-/

namespace SiteAudit
namespace Config

inductive Excludes : Option Value → List String → Prop
  | nothing : Excludes none []
  | one (s : String) : Excludes (some (.text s)) [s]
  | many (globs : List String) : Excludes (some (.list (globs.map .text))) globs

inductive Employs : Option Value → Int → Prop
  | nothing : Employs none 1
  | number {n : Int} (hn : 1 ≤ n) : Employs (some (.integer n)) n
  | yes : Employs (some (.flag true)) 1

inductive Names : Option Value → Report.Format → Prop
  | nothing : Names none .text
  | name {s : String} {format : Report.Format}
      (hname : Report.Format.ofName? s = some format) :
      Names (some (.text s)) format

/-- The configuration holds what the table of its settings gives. -/
structure Records (base : Path) (table : Table) (c : Config) : Prop where
  base : c.base = base
  rootText : c.rootText = textOr defaultRoot (table.get? "root")
  pattern : c.pattern = textOr defaultPattern (table.get? "pattern")
  exclude : excludeOf? (table.get? "exclude") = some c.exclude
  jobs : jobsOf? (table.get? "jobs") = some c.jobs
  format : formatOf (table.get? "format") = .ok c.format

/-!
## From bytes to settings
-/

theorem exists_of_ofTable {base : Path} {data : Table} {c : Config}
    (h : ofTable base data = .ok c) :
    ∃ settings, settingsOf data = .ok settings ∧
      ofSettings base settings = .ok c := by
  unfold ofTable at h
  split at h
  · cases h
  · rename_i settings hsettings
    exact ⟨settings, hsettings, h⟩

theorem exists_of_ofBytes {path : Path} {bytes : List UInt8} {c : Config}
    (h : ofBytes path bytes = .ok c) :
    ∃ s data, Text.Utf8.decode bytes = .ok s ∧ Toml.decode s = .ok data ∧
      ofTable path.parent data = .ok c := by
  unfold ofBytes at h
  split at h
  · cases h
  · rename_i s hdecoded
    split at h
    · rename_i data hparsed
      exact ⟨s, data, hdecoded, hparsed, h⟩
    · split at h
      · cases h
      · cases h

theorem records_of_ofSettings {base : Path} {table : Table} {c : Config}
    (h : ofSettings base table = .ok c) :
    Records base table c := by
  unfold ofSettings at h
  split at h
  · cases h
  · split at h
    · cases h
    · rename_i jobs hjobs
      split at h
      · cases h
      · rename_i format hformat
        split at h
        · cases h
        · rename_i exclude hexclude
          cases h
          exact ⟨rfl, rfl, rfl, hexclude, hjobs, hformat⟩

/-!
## Single settings
-/

theorem eq_text_of_textOf {v : Value} {s : String} (h : textOf? v = some s) :
    v = .text s := by
  unfold textOf? at h
  split at h
  · cases h
    rfl
  · cases h

theorem eq_map_text_of_mapM {items : List Value} {globs : List String}
    (h : items.mapM textOf? = some globs) :
    items = globs.map .text := by
  induction items generalizing globs with
  | nil =>
      cases h
      rfl
  | cons v items ih =>
      rw [List.mapM_cons, Option.bind_eq_bind, Option.bind_eq_some_iff] at h
      rcases h with ⟨s, hs, h⟩
      rw [Option.bind_eq_bind, Option.bind_eq_some_iff] at h
      rcases h with ⟨rest, hrest, h⟩
      cases h
      rw [eq_text_of_textOf hs, ih hrest, List.map_cons]

theorem excludes_of_excludeOf {setting : Option Value} {globs : List String}
    (h : excludeOf? setting = some globs) :
    Excludes setting globs := by
  unfold excludeOf? at h
  split at h
  · cases h
    exact .nothing
  · cases h
    exact .one _
  · rw [eq_map_text_of_mapM h]
    exact .many globs
  · cases h

theorem employs_of_jobsOf {setting : Option Value} {n : Int}
    (h : jobsOf? setting = some n) : Employs setting n := by
  unfold jobsOf? at h
  split at h
  · cases h
    exact .nothing
  · split at h
    · rename_i hn
      cases h
      exact .number hn
    · cases h
  · rename_i b
    cases b with
    | true =>
        cases h
        exact .yes
    | false => cases h
  · cases h

theorem names_of_formatOf {setting : Option Value} {format : Report.Format}
    (h : formatOf setting = .ok format) :
    Names setting format := by
  unfold formatOf at h
  split at h
  · cases h
    exact .nothing
  · split at h
    · rename_i hname
      cases h
      exact .name hname
    · cases h
  · cases h
  · cases h
  · cases h

theorem Employs.one_le {setting : Option Value} {n : Int}
    (h : Employs setting n) : 1 ≤ n := by
  cases h with
  | nothing => exact Int.le_refl 1
  | number hn => exact hn
  | yes => exact Int.le_refl 1

end Config
end SiteAudit
