import SiteAudit.Tally

/-!
# Tallies as a stable partition

A tally holds the errors among the submitted findings and the others apart, both
in the order of submission, and the number of files.  How the findings were
batched leaves no trace.
-/

namespace SiteAudit

/-- What is handed to a tally at once: a finding, some findings, or the findings
on one file. -/
inductive Submission
  | one (f : Finding)
  | batch (fs : List Finding)
  | file (fs : List Finding)
  deriving DecidableEq, Repr

namespace Submission

def findings : Submission → List Finding
  | one f => [f]
  | batch fs => fs
  | file fs => fs

def isFile : Submission → Bool
  | file _ => true
  | _ => false

end Submission

namespace Tally

def submit (t : Tally) : Submission → Tally
  | .one f => t.add f
  | .batch fs => t.extend fs
  | .file fs => t.addFile fs

def ofSubmissions (submissions : List Submission) : Tally :=
  submissions.foldl submit empty

/-- The tally is made of these findings and no others, and counts so many
files. -/
structure Partitions (t : Tally) (submitted : List Finding) (files : Nat) :
    Prop where
  errors : t.errors = submitted.filter (·.severity == "error")
  warnings : t.warnings = submitted.filter (·.severity != "error")
  /-- Each finding is there as often as it was submitted. -/
  complete : (t.errors ++ t.warnings).Perm submitted
  fileCount : t.fileCount = files
  verdict : t.hasErrors = true ↔ ∃ f ∈ submitted, f.severity = "error"

/-!
## One submission
-/

theorem add_eq (t : Tally) (f : Finding) :
    t.add f =
      { errors := t.errors ++ [f].filter (·.isError)
        warnings := t.warnings ++ [f].filter (!·.isError)
        fileCount := t.fileCount } := by
  unfold add
  cases h : f.isError with
  | true => simp [h]
  | false => simp [h]

theorem extend_eq (t : Tally) (fs : List Finding) :
    t.extend fs =
      { errors := t.errors ++ fs.filter (·.isError)
        warnings := t.warnings ++ fs.filter (!·.isError)
        fileCount := t.fileCount } := by
  induction fs generalizing t with
  | nil => simp [extend]
  | cons f fs ih =>
      have hstep : t.extend (f :: fs) = (t.add f).extend fs := rfl
      rw [hstep, ih, add_eq]
      simp only [List.append_assoc, ← List.filter_append, List.singleton_append]

theorem addFile_eq (t : Tally) (fs : List Finding) :
    t.addFile fs =
      { errors := t.errors ++ fs.filter (·.isError)
        warnings := t.warnings ++ fs.filter (!·.isError)
        fileCount := t.fileCount + 1 } :=
  extend_eq _ fs

theorem submit_eq (t : Tally) (submission : Submission) :
    t.submit submission =
      { errors := t.errors ++ submission.findings.filter (·.isError)
        warnings := t.warnings ++ submission.findings.filter (!·.isError)
        fileCount := t.fileCount + if submission.isFile then 1 else 0 } := by
  cases submission with
  | one f => exact add_eq t f
  | batch fs => exact extend_eq t fs
  | file fs => exact addFile_eq t fs

/-!
## Any number of submissions
-/

theorem foldl_submit_eq (t : Tally) (submissions : List Submission) :
    submissions.foldl submit t =
      { errors := t.errors ++
        (submissions.flatMap (·.findings)).filter (·.isError)
        warnings :=
          t.warnings ++ (submissions.flatMap (·.findings)).filter (!·.isError)
        fileCount := t.fileCount + submissions.countP (·.isFile) } := by
  induction submissions generalizing t with
  | nil => simp
  | cons submission submissions ih =>
      rw [List.foldl_cons, ih, submit_eq]
      simp only [List.flatMap_cons, List.filter_append, List.append_assoc,
        List.countP_cons, Nat.add_assoc]
      rw [Nat.add_comm (submissions.countP _)]

theorem ofSubmissions_eq (submissions : List Submission) :
    ofSubmissions submissions =
      { errors := (submissions.flatMap (·.findings)).filter (·.isError)
        warnings := (submissions.flatMap (·.findings)).filter (!·.isError)
        fileCount := submissions.countP (·.isFile) } := by
  rw [ofSubmissions, foldl_submit_eq]
  simp [empty]

theorem ofFiles_eq_ofSubmissions (files : List (String × List Finding)) :
    ofFiles files = ofSubmissions (files.map fun file => .file file.2) := by
  rw [ofSubmissions, List.foldl_map]
  rfl

theorem ofFiles_eq (files : List (String × List Finding)) :
    ofFiles files =
      { errors := (files.flatMap (·.2)).filter (·.isError)
        warnings := (files.flatMap (·.2)).filter (!·.isError)
        fileCount := files.length } := by
  have hcount :
      (files.map fun file => Submission.file file.2).countP (·.isFile) =
        files.length := by
    rw [List.countP_map]
    exact List.countP_eq_length.2 fun _ _ => rfl
  rw [ofFiles_eq_ofSubmissions, ofSubmissions_eq, List.flatMap_map, hcount]
  rfl

theorem partitions_filtered (submitted : List Finding) (files : Nat) :
    Partitions
      { errors := submitted.filter (·.isError),
        warnings := submitted.filter (!·.isError), fileCount := files }
      submitted files where
  errors := rfl
  warnings := rfl
  complete := List.filter_append_perm _ submitted
  fileCount := rfl
  verdict := by
    rw [hasErrors, Bool.not_eq_true', List.isEmpty_eq_false_iff_exists_mem]
    apply exists_congr
    intro f
    rw [List.mem_filter, Finding.isError, beq_iff_eq]
    rfl

theorem hasErrors_ofFiles_iff (files : List (String × List Finding)) :
    (ofFiles files).hasErrors = true ↔
      ∃ file ∈ files, ∃ f ∈ file.2, f.isError = true := by
  rw [ofFiles_eq, (partitions_filtered _ _).verdict]
  constructor
  · intro h
    rcases h with ⟨f, hf, herror⟩
    rcases List.mem_flatMap.1 hf with ⟨file, hfile, hin⟩
    exact ⟨file, hfile, f, hin, beq_iff_eq.2 herror⟩
  · intro h
    rcases h with ⟨file, hfile, f, hin, herror⟩
    exact ⟨f, List.mem_flatMap.2 ⟨file, hfile, hin⟩, beq_iff_eq.1 herror⟩

/-!
## The main statement

Findings may be handed in one by one, in batches and by files, in any turn, and
their severities may be any texts.
-/

theorem partitions_submitted :
    (∀ submissions : List Submission,
      Partitions (ofSubmissions submissions)
        (submissions.flatMap (·.findings))
        (submissions.countP (·.isFile))) ∧
    (∀ submissions others : List Submission,
      submissions.flatMap (·.findings) = others.flatMap (·.findings) →
      submissions.countP (·.isFile) = others.countP (·.isFile) →
      ofSubmissions submissions = ofSubmissions others) ∧
    (∀ files : List (String × List Finding),
      Partitions (ofFiles files) (files.flatMap (·.2)) files.length) ∧
    ∀ files more : List (String × List Finding),
      ofFiles (files ++ more) =
        { errors := (ofFiles files).errors ++ (ofFiles more).errors
          warnings := (ofFiles files).warnings ++ (ofFiles more).warnings
          fileCount :=
            (ofFiles files).fileCount + (ofFiles more).fileCount } := by
  refine ⟨?_, ?_, ?_, ?_⟩
  · intro submissions
    rw [ofSubmissions_eq]
    exact partitions_filtered _ _
  · intro submissions others hfindings hfiles
    rw [ofSubmissions_eq, ofSubmissions_eq, hfindings, hfiles]
  · intro files
    rw [ofFiles_eq]
    exact partitions_filtered _ _
  · intro files more
    simp only [ofFiles_eq, List.flatMap_append, List.filter_append,
      List.length_append]

/-- Findings on two files, of three severities: handed in by files, and in other
batches with the files announced empty. -/
theorem ofSubmissions_of_other_batches :
    let wrong : Finding :=
      ⟨"a.html", "E010", "Missing h1 element", "error", none⟩
    let odd : Finding := ⟨"a.html", "C004", "Missing", "Error", some 3⟩
    let poor : Finding := ⟨"b.html", "C004", "Missing", "warning", some 12⟩
    let byFile : List Submission := [.file [wrong, odd], .file [poor, wrong]]
    let otherwise : List Submission :=
      [.file [], .one wrong, .batch [odd, poor], .file [], .one wrong]
    byFile.flatMap (·.findings) = otherwise.flatMap (·.findings) ∧
      byFile.countP (·.isFile) = otherwise.countP (·.isFile) ∧
      ofSubmissions byFile = ofSubmissions otherwise := by
  intro wrong odd poor byFile otherwise
  have hfindings :
      byFile.flatMap (·.findings) = otherwise.flatMap (·.findings) := rfl
  have hfiles : byFile.countP (·.isFile) = otherwise.countP (·.isFile) := rfl
  exact ⟨hfindings, hfiles,
    partitions_submitted.2.1 byFile otherwise hfindings hfiles⟩

end Tally
end SiteAudit
