import SiteAudit.Proofs.Json.Writing
import SiteAudit.Report.Json

/-!
# The report for programs keeps everything

A program that reads the report gets back the whole tally: the counts, and every
field of every finding in the order of the tally.  So the reports of different
tallies differ.
-/

namespace SiteAudit

/-!
## A reader of reports
-/

namespace Json

def text? : Json → Option String
  | text s => some s
  | _ => none

def integer? : Json → Option WritableInt
  | integer n => some n
  | _ => none

def items? : Json → Option (List Json)
  | list vs => some vs
  | _ => none

def place? : Json → Option (Option WritableInt)
  | null => some none
  | integer n => some (some n)
  | _ => none

end Json

def Finding.ofJson? (v : Json) : Option Finding := do
  let file ← (v.member? "file").bind Json.text?
  let code ← (v.member? "code").bind Json.text?
  let message ← (v.member? "message").bind Json.text?
  let line ← (v.member? "line").bind Json.place?
  let severity ← (v.member? "severity").bind Json.text?
  return { file, code, message, line, severity }

def Tally.ofJson? (v : Json) : Option Tally := do
  let errors ← (v.member? "errors").bind Json.items?
  let warnings ← (v.member? "warnings").bind Json.items?
  let files ← (v.member? "file_count").bind Json.integer?
  return { errors := ← errors.mapM Finding.ofJson?,
           warnings := ← warnings.mapM Finding.ofJson?,
           fileCount := files.value.toNat }

theorem Finding.ofJson?_toJson (f : Finding) :
    Finding.ofJson? f.toJson = some f := by
  cases f with
  | mk file code message severity line =>
      cases line with
      | none => rfl
      | some n => rfl

theorem Finding.mapM_ofJson? (fs : List Finding) :
    (fs.map Finding.toJson).mapM Finding.ofJson? = some fs := by
  induction fs with
  | nil => rfl
  | cons f fs ih =>
      rw [List.map_cons, List.mapM_cons, Finding.ofJson?_toJson, ih]
      rfl

/-- The counts of a tally can be written. -/
structure Tally.IsCountable (t : Tally) : Prop where
  files : t.fileCount ≤ WritableInt.largest
  errors : t.errors.length ≤ WritableInt.largest
  warnings : t.warnings.length ≤ WritableInt.largest

namespace Report

def payload (t : Tally) : Json :=
  .object (("schema", .text schema) :: t.members)

/-- What the report of a tally holds, and what a reader of it finds. -/
structure Lossless (t : Tally) (text : String) (v : Json) : Prop where
  report : json t = text ++ "\n"
  ascii : Json.IsAscii (json t).toList
  denoted : ∀ w, Json.IsTextOf w text.toList ↔ w = v
  decoded : Json.decode (json t).toList = some v
  members : ∃ files errors warnings : WritableInt,
    files.value = t.fileCount ∧ errors.value = t.errors.length ∧
      warnings.value = t.warnings.length ∧
      v = .object
        [("schema", .text "sitelint.report.v1"),
         ("ok", .flag (t.errors.length == 0)),
         ("file_count", .integer files),
         ("error_count", .integer errors),
         ("warning_count", .integer warnings),
         ("errors", .list (t.errors.map Finding.toJson)),
         ("warnings", .list (t.warnings.map Finding.toJson))]
  readBack : Tally.ofJson? v = some t
  distinct : ∀ t' : Tally, t'.IsCountable → (json t' = json t ↔ t' = t)

theorem json_eq (t : Tally) :
    json t = (payload t).render (.indented 2) ++ "\n" :=
  rfl

theorem decode_json (t : Tally) :
    Json.decode (json t).toList = some (payload t) := by
  rw [json_eq]
  exact Json.decode_render_lineFeed _ _

section Countable

variable {t t' : Tally} (countable : t.IsCountable)

include countable

theorem ofJson?_payload : Tally.ofJson? (payload t) = some t := by
  have herrors : (payload t).member? "errors" =
      some (.list (t.errors.map Finding.toJson)) := rfl
  have hwarnings : (payload t).member? "warnings" =
      some (.list (t.warnings.map Finding.toJson)) := rfl
  have hfiles : (payload t).member? "file_count" =
      some (.integer (.ofNat t.fileCount)) := rfl
  simp only [Tally.ofJson?, herrors, hwarnings, hfiles, Option.bind_some,
    Option.bind_eq_bind, Json.items?, Json.integer?, Finding.mapM_ofJson?,
    WritableInt.value_ofNat countable.files, Int.toNat_natCast]
  rfl

theorem json_injective (countable' : t'.IsCountable) (h : json t' = json t) :
    t' = t := by
  have hpayload : some (payload t') = some (payload t) := by
    rw [← decode_json, h, decode_json]
  have hread : some t' = some t := by
    rw [← ofJson?_payload countable', Option.some.inj hpayload,
      ofJson?_payload countable]
  exact Option.some.inj hread

theorem members_payload : ∃ files errors warnings : WritableInt,
    files.value = t.fileCount ∧ errors.value = t.errors.length ∧
      warnings.value = t.warnings.length ∧
      payload t = .object
        [("schema", .text "sitelint.report.v1"),
         ("ok", .flag (t.errors.length == 0)),
         ("file_count", .integer files),
         ("error_count", .integer errors),
         ("warning_count", .integer warnings),
         ("errors", .list (t.errors.map Finding.toJson)),
         ("warnings", .list (t.warnings.map Finding.toJson))] := by
  have hok : (!t.hasErrors) = (t.errors.length == 0) := by
    cases herrors : t.errors <;> simp [Tally.hasErrors, herrors]
  refine ⟨.ofNat t.fileCount, .ofNat t.errors.length, .ofNat t.warnings.length,
    WritableInt.value_ofNat countable.files,
    WritableInt.value_ofNat countable.errors,
    WritableInt.value_ofNat countable.warnings, ?_⟩
  rw [← hok]
  rfl

end Countable

def escapedTally : Tally where
  errors :=
    [⟨"a\\b.html", "E012", "Duplicate ID: \"\u0000\u007f😀\n", "error", some 0⟩]
  warnings := [⟨"a\\b.html", "E012", "", "warning", WritableInt.ofInt? (-3)⟩]
  fileCount := 7

end Report
end SiteAudit
