import Mathlib.Data.List.Dedup
import SiteAudit.Proofs.Report.Order

/-!
# The layout of the report for readers

The report goes through the files in the order of their names.  Each file that
something was found on has one block of lines, with the errors on it and then
the rest.  What the report makes by comparing each finding with the one before
it is the same as choosing the findings of each file, because the findings of a
file stand next to each other.
-/

namespace SiteAudit
namespace Report

inductive IsLabelOf : String → String → Prop
  | error : IsLabelOf "error" "[error]"
  | other {severity : String} (h : severity ≠ "error") :
      IsLabelOf severity "[warn]"

/-- How the line of a finding is shown; line zero is not. -/
inductive IsPlaceOf : Option WritableInt → String → Prop
  | none : IsPlaceOf none ""
  | zero {n : WritableInt} (h : n.value = 0) : IsPlaceOf (some n) ""
  | line {n : WritableInt} (h : n.value ≠ 0) :
      IsPlaceOf (some n) (":" ++ n.text)

def Shows (line : String) (f : Finding) : Prop :=
  ∃ label place, IsLabelOf f.severity label ∧ IsPlaceOf f.line place ∧
    line = "  " ++ label ++ " " ++ f.code ++ place ++ " " ++ f.message

/-- The block of a file: an empty line, its name, and one line for each error on
it and then for each other finding. -/
def IsBlockOf (t : Tally) (file : String) (block : List String) : Prop :=
  ∃ errors warnings, block = ["", file] ++ errors ++ warnings ∧
    List.Forall₂ Shows errors (onFile file t.errors) ∧
      List.Forall₂ Shows warnings (onFile file t.warnings)

/-- The report of a tally is made of the blocks of these files. -/
structure LaidOut (t : Tally) (files : List String)
    (blocks : List (List String)) : Prop where
  ascending : files.Pairwise (· < ·)
  members : ∀ file, file ∈ files ↔ ∃ f ∈ t.errors ++ t.warnings, f.file = file
  contents : List.Forall₂ (IsBlockOf t) files blocks
  report : text t = "\n".intercalate (blocks.flatten ++
    ["", Text.natural t.errors.length ++ " error(s), " ++
      Text.natural t.warnings.length ++ " warning(s)"]) ++ "\n"
  /-- The findings in the blocks are those of the tally, each as often as it is
  there. -/
  complete : (files.flatMap fun file => onFile file t.errors ++
    onFile file t.warnings).Perm (t.errors ++ t.warnings)

/-!
## Groups
-/

section Groups

variable {current : Option String} {file : String} {fs : List Finding}

theorem groupLines_append (on : AreOn file fs) (more : List Finding) :
    groupLines (some file) (fs ++ more) =
      fs.map findingLine ++ groupLines (some file) more := by
  induction fs with
  | nil => rfl
  | cons f fs ih =>
      have hf : f.file = file := on f List.mem_cons_self
      have hrest : AreOn file fs := fun g hg => on g (List.mem_cons_of_mem _ hg)
      rw [List.cons_append, groupLines, hf, if_pos rfl, ih hrest]
      rfl

theorem groupLines_opens (on : AreOn file fs) (nonempty : fs ≠ [])
    (new : current ≠ some file) (more : List Finding) :
    groupLines current (fs ++ more) =
      ["", file] ++ fs.map findingLine ++ groupLines (some file) more := by
  cases fs with
  | nil => exact absurd rfl nonempty
  | cons f fs =>
      have hf : f.file = file := on f List.mem_cons_self
      have hrest : AreOn file fs := fun g hg => on g (List.mem_cons_of_mem _ hg)
      rw [List.cons_append, groupLines, hf, if_neg new, groupLines_append hrest]
      rfl

theorem groupLines_flatMap {files : List String} (distinct : files.Nodup)
    {rows : String → List Finding} (on : ∀ file ∈ files, AreOn file (rows file))
    (nonempty : ∀ file ∈ files, rows file ≠ [])
    (new : ∀ file ∈ files, current ≠ some file) :
    groupLines current (files.flatMap rows) = files.flatMap fun file =>
      ["", file] ++ (rows file).map findingLine := by
  induction files generalizing current with
  | nil => rfl
  | cons file files ih =>
      rw [List.forall_mem_cons] at on nonempty new
      rw [List.nodup_cons] at distinct
      have hnext : ∀ other ∈ files, some file ≠ some other := by
        intro other hother heq
        cases heq
        exact distinct.1 hother
      rw [List.flatMap_cons, List.flatMap_cons,
        groupLines_opens on.1 nonempty.1 new.1,
        ih distinct.2 on.2 nonempty.2 hnext]

end Groups

/-!
## The files of a report
-/

section Files

variable (t : Tally)

def filesOf : List String :=
  ((ordered t).map (·.file)).dedup

def rowOf (file : String) : List Finding :=
  onFile file t.errors ++ onFile file t.warnings

theorem mem_filesOf {file : String} :
    file ∈ filesOf t ↔ ∃ f ∈ t.errors ++ t.warnings, f.file = file := by
  rw [filesOf, List.mem_dedup, List.mem_map]
  simp only [(ordered_perm t).mem_iff]

theorem ascending_filesOf : (filesOf t).Pairwise (· < ·) := by
  have hsorted : ((ordered t).map (·.file)).Pairwise (· ≤ ·) :=
    List.pairwise_map.2 (inFileOrder_ordered t)
  have hdistinct : (filesOf t).Nodup := List.nodup_dedup _
  apply ((hsorted.sublist (List.dedup_sublist _)).and hdistinct).imp
  intro file other hgiven
  rcases hgiven with ⟨hle, hne⟩
  rw [← String.not_le]
  intro hge
  exact hne (String.le_antisymm hle hge)

theorem areOn_rowOf (file : String) : AreOn file (rowOf t file) := by
  intro f hf
  rcases List.mem_append.1 hf with hf | hf
  · exact (mem_onFile.1 hf).2
  · exact (mem_onFile.1 hf).2

theorem rowOf_ne_nil {file : String} (h : file ∈ filesOf t) :
    rowOf t file ≠ [] := by
  rcases (mem_filesOf t).1 h with ⟨f, hf, hfile⟩
  have hmem : f ∈ rowOf t file := by
    rw [rowOf, ← onFile_append]
    exact mem_onFile.2 ⟨hf, hfile⟩
  exact List.ne_nil_of_mem hmem

/-- The sorted findings are those of each file, file by file. -/
theorem ordered_eq_flatMap : ordered t = (filesOf t).flatMap (rowOf t) := by
  have hordered : InFileOrder ((filesOf t).flatMap (rowOf t)) := by
    rw [InFileOrder, List.pairwise_flatMap]
    constructor
    · intro file _
      rw [rowOf, ← onFile_append]
      exact inFileOrder_onFile file _
    · apply (ascending_filesOf t).imp
      intro file other hlt f hf g hg
      rw [areOn_rowOf t file f hf, areOn_rowOf t other g hg]
      exact String.not_lt.1 fun hgt =>
        String.lt_irrefl file (String.lt_trans hlt hgt)
  apply eq_of_onFile_eq (inFileOrder_ordered t) hordered
  intro file
  rw [onFile_ordered]
  by_cases hfile : file ∈ filesOf t
  · have hkeys : ((filesOf t).map id).Nodup := by
      rw [List.map_id]
      exact List.nodup_dedup _
    exact (Rules.filter_flatMap_of_nodup (areOn_rowOf t) hkeys hfile).symm
  · have hrow : rowOf t file = [] := by
      rw [List.eq_nil_iff_forall_not_mem]
      intro f hf
      rw [rowOf, ← onFile_append] at hf
      exact hfile ((mem_filesOf t).2 ⟨f, mem_onFile.1 hf⟩)
    have hflat : onFile file ((filesOf t).flatMap (rowOf t)) = [] := by
      rw [List.eq_nil_iff_forall_not_mem]
      intro f hf
      rcases mem_onFile.1 hf with ⟨hmem, hfile'⟩
      rcases List.mem_flatMap.1 hmem with ⟨other, hother, hf⟩
      exact hfile (hfile' ▸ areOn_rowOf t other f hf ▸ hother)
    rw [hflat]
    exact hrow

theorem groupLines_ordered :
    groupLines none (ordered t) = (filesOf t).flatMap fun file =>
      ["", file] ++ (rowOf t file).map findingLine := by
  rw [ordered_eq_flatMap]
  apply groupLines_flatMap (List.nodup_dedup _)
  · intro file _
    exact areOn_rowOf t file
  · intro file hfile
    exact rowOf_ne_nil t hfile
  · intro file _ h
    cases h

end Files

/-!
## Lines
-/

theorem shows_findingLine (f : Finding) : Shows (findingLine f) f := by
  refine ⟨label f, place f, ?_, ?_, rfl⟩
  · unfold label
    split
    · rename_i herror
      have hseverity : f.severity = "error" := beq_iff_eq.1 herror
      rw [hseverity]
      exact .error
    · rename_i hother
      exact .other fun hseverity => hother (beq_iff_eq.2 hseverity)
  · unfold place
    split
    · rename_i hline
      rw [hline]
      exact .none
    · rename_i n hline
      rw [hline]
      split
      · rename_i hzero
        exact .zero hzero
      · rename_i hne
        exact .line hne

theorem forall₂_shows (fs : List Finding) :
    List.Forall₂ Shows (fs.map findingLine) fs := by
  rw [List.forall₂_map_left_iff, List.forall₂_same]
  intro f _
  exact shows_findingLine f

theorem isBlockOf_rowOf (t : Tally) (file : String) :
    IsBlockOf t file (["", file] ++ (rowOf t file).map findingLine) := by
  refine ⟨(onFile file t.errors).map findingLine,
    (onFile file t.warnings).map findingLine, ?_, forall₂_shows _,
    forall₂_shows _⟩
  rw [rowOf, List.map_append, List.append_assoc]

theorem join_ended {line : String} (lines : List String) :
    String.join ((line :: lines).map (· ++ "\n")) =
      "\n".intercalate (line :: lines) ++ "\n" := by
  induction lines generalizing line with
  | nil => rw [List.map_singleton, String.join_cons, String.join_nil,
      String.append_empty, String.intercalate_singleton]
  | cons next lines ih =>
      rw [List.map_cons, String.join_cons, ih, String.intercalate_cons_cons,
        String.append_assoc, String.append_assoc, String.append_assoc]

theorem isClean_iff {t : Tally} :
    t.isClean = true ↔ t.errors = [] ∧ t.warnings = [] := by
  rw [Tally.isClean, Bool.and_eq_true, List.isEmpty_iff, List.isEmpty_iff]

theorem laidOut {t : Tally} (found : t.isClean = false) :
    LaidOut t (filesOf t) ((filesOf t).map fun file =>
      ["", file] ++ (rowOf t file).map findingLine) where
  ascending := ascending_filesOf t
  members := fun _ => mem_filesOf t
  contents := by
    rw [List.forall₂_map_right_iff, List.forall₂_same]
    intro file _
    exact isBlockOf_rowOf t file
  report := by
    have hlines : lines t = groupLines none (ordered t) ++ ["", countLine t] :=
      if_neg (by simp [found])
    rw [text, hlines, groupLines_ordered, ← List.flatMap_def]
    cases hblocks : (filesOf t).flatMap fun file =>
      ["", file] ++ (rowOf t file).map findingLine with
    | nil => exact join_ended [countLine t]
    | cons line more => exact join_ended (more ++ ["", countLine t])
  complete := by
    have hrows : (filesOf t).flatMap (fun file =>
        onFile file t.errors ++ onFile file t.warnings) = ordered t :=
      (ordered_eq_flatMap t).symm
    rw [hrows]
    exact ordered_perm t

theorem head?_text {t : Tally} (found : t.isClean = false) :
    (text t).toList.head? = some '\n' := by
  have hlines : ∃ more, lines t = "" :: more := by
    rw [lines, if_neg (by simp [found])]
    cases ordered t with
    | nil => exact ⟨_, rfl⟩
    | cons f fs => exact ⟨_, rfl⟩
  rcases hlines with ⟨more, hlines⟩
  rw [text, hlines, List.map_cons, String.join_cons, String.toList_append]
  rfl

theorem text_laid_out (t : Tally) :
    (text t = "[ok] All lint checks passed\n" ↔
      t.errors = [] ∧ t.warnings = []) ∧
      (t.errors ≠ [] ∨ t.warnings ≠ [] →
        ∃ files blocks, LaidOut t files blocks) := by
  cases hclean : t.isClean with
  | true =>
      have hnone := isClean_iff.1 hclean
      constructor
      · refine ⟨fun _ => hnone, fun _ => ?_⟩
        rw [text, lines, if_pos hclean]
        rfl
      · intro hsome
        rcases hsome with herrors | hwarnings
        · exact absurd hnone.1 herrors
        · exact absurd hnone.2 hwarnings
  | false =>
      constructor
      · constructor
        · intro htext
          have hhead := head?_text hclean
          rw [htext] at hhead
          exact absurd hhead (by decide)
        · intro hnone
          rw [isClean_iff.2 hnone] at hclean
          cases hclean
      · intro _
        exact ⟨_, _, laidOut hclean⟩

/-- The report on two files with findings and one without: only the two have a
block. -/
theorem laid_out_mixedFiles :
    (Tally.ofFiles mixedFiles).errors ≠ [] ∧
      ∃ files blocks, LaidOut (Tally.ofFiles mixedFiles) files blocks ∧
        "site/a.html" ∈ files ∧
        "site/b.html" ∉ files := by
  have hsome : (Tally.ofFiles mixedFiles).errors ≠ [] := by decide
  rcases (text_laid_out (Tally.ofFiles mixedFiles)).2 (.inl hsome) with
    ⟨files, blocks, hlaid⟩
  refine ⟨hsome, files, blocks, hlaid, ?_, ?_⟩
  · rw [hlaid.members]
    decide
  · rw [hlaid.members]
    decide

end Report
end SiteAudit
