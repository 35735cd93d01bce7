import SiteAudit.Proofs.Batch.Names
import SiteAudit.Proofs.Lookup
import SiteAudit.Proofs.Sorting
import SiteAudit.Proofs.Tally
import SiteAudit.Report.Text

/-!
# The report for readers does not depend on the order of the files

A tally keeps findings in the order in which their files were submitted.  The
report puts them in the order of the names of the files, and within a file
leaves them as they are.  So a report is determined by what each file
contributes to it, and it is one and the same for all orders of the files.
-/

namespace SiteAudit
namespace Report

def onFile (file : String) (fs : List Finding) : List Finding :=
  fs.filter (·.file == file)

def InFileOrder (fs : List Finding) : Prop :=
  fs.Pairwise fun f g => f.file ≤ g.file

/-- Two tallies that make the same report for readers and tell the same counts
and the same verdict. -/
structure ReadsLike (t u : Tally) : Prop where
  text : text t = text u
  errorCount : t.errors.length = u.errors.length
  warningCount : t.warnings.length = u.warnings.length
  fileCount : t.fileCount = u.fileCount
  verdict : t.hasErrors = u.hasErrors

/-!
## Rows in the order of their files
-/

section Rows

theorem onFile_append (file : String) (fs gs : List Finding) :
    onFile file (fs ++ gs) = onFile file fs ++ onFile file gs :=
  List.filter_append _ _

theorem mem_onFile {file : String} {fs : List Finding} {f : Finding} :
    f ∈ onFile file fs ↔ f ∈ fs ∧ f.file = file := by
  simp [onFile]

theorem onFile_of_areOn {file : String} {fs : List Finding}
    (h : AreOn file fs) : onFile file fs = fs :=
  List.filter_eq_self.2 fun f hf => beq_iff_eq.2 (h f hf)

theorem onFile_of_ne {file other : String} {fs : List Finding}
    (h : AreOn other fs) (hne : other ≠ file) :
    onFile file fs = [] := by
  apply List.filter_eq_nil_iff.2
  intro f hf
  rw [h f hf, beq_iff_eq]
  exact hne

theorem inFileOrder_onFile (file : String) (fs : List Finding) :
    InFileOrder (onFile file fs) := by
  rw [InFileOrder, List.pairwise_iff_forall_sublist]
  intro f g hpair
  have hf : f ∈ onFile file fs := hpair.subset (by simp)
  have hg : g ∈ onFile file fs := hpair.subset (by simp)
  have hfile : f.file = g.file :=
    (mem_onFile.1 hf).2.trans (mem_onFile.1 hg).2.symm
  exact hfile ▸ String.le_refl f.file

theorem file_le_of_inFileOrder {f : Finding} {fs : List Finding}
    (h : InFileOrder (f :: fs)) :
    ∀ g ∈ f :: fs, f.file ≤ g.file := by
  intro g hg
  rcases List.mem_cons.1 hg with rfl | hg
  · exact String.le_refl _
  · exact (List.pairwise_cons.1 h).1 g hg

/-- The first files of two rows that hold the same findings on each file are the
same, or one row is empty. -/
theorem file_le_of_onFile_eq {f g : Finding} {fs gs : List Finding}
    (h : InFileOrder (f :: fs))
    (heq : ∀ file, onFile file (f :: fs) = onFile file (g :: gs)) :
    f.file ≤ g.file := by
  have hg : g ∈ onFile g.file (f :: fs) := by
    rw [heq]
    exact mem_onFile.2 ⟨List.mem_cons_self, rfl⟩
  exact file_le_of_inFileOrder h g (mem_onFile.1 hg).1

/-- A row in the order of its files is determined by the findings on each of
them. -/
theorem eq_of_onFile_eq {fs gs : List Finding} (hfs : InFileOrder fs)
    (hgs : InFileOrder gs) (heq : ∀ file, onFile file fs = onFile file gs) :
    fs = gs := by
  induction fs generalizing gs with
  | nil =>
      cases gs with
      | nil => rfl
      | cons g gs => simpa [onFile] using heq g.file
  | cons f fs ih =>
      cases gs with
      | nil => simpa [onFile] using heq f.file
      | cons g gs =>
          have hfile : f.file = g.file :=
            String.le_antisymm (file_le_of_onFile_eq hfs heq)
              (file_le_of_onFile_eq hgs fun file => (heq file).symm)
          have hhead : f :: onFile f.file fs = g :: onFile f.file gs := by
            simpa [onFile, hfile] using heq f.file
          have hfg : f = g := (List.cons.inj hhead).1
          subst hfg
          have hrest : ∀ file, onFile file fs = onFile file gs := by
            intro file
            by_cases hf : f.file = file
            · simpa [onFile, hf] using heq file
            · simpa [onFile, hf] using heq file
          rw [ih (List.pairwise_cons.1 hfs).2
            (List.pairwise_cons.1 hgs).2 hrest]

end Rows

/-!
## The order of a report
-/

section Ordered

variable (t : Tally)

theorem ordered_perm : (ordered t).Perm (t.errors ++ t.warnings) :=
  List.mergeSort_perm _ _

theorem inFileOrder_ordered : InFileOrder (ordered t) :=
  pairwise_mergeSort_key Finding.file _

/-- On each file, a report has the errors of the tally and then the rest, all in
their order. -/
theorem onFile_ordered (file : String) : onFile file (ordered t) =
    onFile file t.errors ++ onFile file t.warnings := by
  rw [← onFile_append]
  have hsub : (onFile file (t.errors ++ t.warnings)).Sublist (ordered t) :=
    List.sublist_mergeSort (isBefore_trans Finding.file)
      (isBefore_total Finding.file)
      ((inFileOrder_onFile file _).imp (isBefore_iff Finding.file).2)
        List.filter_sublist
  have hfiltered : (onFile file (t.errors ++
      t.warnings)).Sublist (onFile file (ordered t)) := by
    simpa [onFile] using hsub.filter (·.file == file)
  exact (hfiltered.eq_of_length ((ordered_perm t).filter _).length_eq.symm).symm

end Ordered

/-!
## Files in another order
-/

section Files

variable {files files' : List Batch.PageResult}

theorem onFile_flatMap (distinct : (files.map (·.1)).Nodup)
    (carried : ∀ file ∈ files, AreOn file.1 file.2) (name : String) :
    onFile name (files.flatMap (·.2)) = (files.lookup name).getD [] := by
  induction files with
  | nil => rfl
  | cons file files ih =>
      rw [List.map_cons, List.nodup_cons] at distinct
      have hrest := ih distinct.2 fun other hother =>
        carried other (List.mem_cons_of_mem _ hother)
      have hfile : AreOn file.1 file.2 := carried file List.mem_cons_self
      rw [List.flatMap_cons, onFile_append, hrest, List.lookup_cons]
      by_cases hname : name = file.1
      · have habsent : files.lookup name = none := by
          rw [List.lookup_eq_none_iff]
          intro other hother
          rw [hname, bne_iff_ne]
          exact fun heq => distinct.1 (heq ▸ List.mem_map_of_mem hother)
        rw [habsent, hname, onFile_of_areOn hfile]
        simp
      · have hkey : (name == file.1) = false := beq_eq_false_iff_ne.2 hname
        rw [hkey, onFile_of_ne hfile (Ne.symm hname), List.nil_append]

theorem onFile_flatMap_perm (h : files'.Perm files)
    (distinct : (files.map (·.1)).Nodup)
    (carried : ∀ file ∈ files, AreOn file.1 file.2) (name : String) :
    onFile name (files'.flatMap (·.2)) = onFile name (files.flatMap (·.2)) := by
  have distinct' : (files'.map (·.1)).Nodup :=
    (h.map (·.1)).nodup_iff.2 distinct
  have carried' : ∀ file ∈ files', AreOn file.1 file.2 := fun file hfile =>
    carried file (h.mem_iff.1 hfile)
  rw [onFile_flatMap distinct' carried', onFile_flatMap distinct carried,
    lookup_perm h distinct]

/-- A selection of the findings, such as the errors, is on each file what it was
in the other order. -/
theorem onFile_filter_perm (h : files'.Perm files)
    (distinct : (files.map (·.1)).Nodup)
    (carried : ∀ file ∈ files, AreOn file.1 file.2) (p : Finding → Bool)
    (name : String) :
    onFile name ((files'.flatMap (·.2)).filter p) =
      onFile name ((files.flatMap (·.2)).filter p) := by
  have hcomm : ∀ fs : List Finding,
      onFile name (fs.filter p) = (onFile name fs).filter p := by
    intro fs
    simp only [onFile, List.filter_filter, Bool.and_comm]
  rw [hcomm, hcomm, onFile_flatMap_perm h distinct carried]

theorem ordered_ofFiles_perm (h : files'.Perm files)
    (distinct : (files.map (·.1)).Nodup)
    (carried : ∀ file ∈ files, AreOn file.1 file.2) :
    ordered (Tally.ofFiles files') = ordered (Tally.ofFiles files) := by
  apply eq_of_onFile_eq (inFileOrder_ordered _) (inFileOrder_ordered _)
  intro name
  rw [onFile_ordered, onFile_ordered, Tally.ofFiles_eq, Tally.ofFiles_eq]
  simp only [onFile_filter_perm h distinct carried]

theorem errors_ofFiles_perm (h : files'.Perm files) :
    (Tally.ofFiles files').errors.Perm (Tally.ofFiles files).errors := by
  rw [Tally.ofFiles_eq, Tally.ofFiles_eq]
  exact (h.flatMap_right _).filter _

theorem warnings_ofFiles_perm (h : files'.Perm files) :
    (Tally.ofFiles files').warnings.Perm (Tally.ofFiles files).warnings := by
  rw [Tally.ofFiles_eq, Tally.ofFiles_eq]
  exact (h.flatMap_right _).filter _

theorem readsLike_ofFiles_perm (h : files'.Perm files)
    (distinct : (files.map (·.1)).Nodup)
    (carried : ∀ file ∈ files, AreOn file.1 file.2) :
    ReadsLike (Tally.ofFiles files') (Tally.ofFiles files) := by
  have herrors := errors_ofFiles_perm h
  have hwarnings := warnings_ofFiles_perm h
  refine
    { text := ?_
      errorCount := herrors.length_eq
      warningCount := hwarnings.length_eq
      fileCount := ?_
      verdict := ?_ }
  · have hclean :
        (Tally.ofFiles files').isClean = (Tally.ofFiles files).isClean := by
      rw [Tally.isClean, Tally.isClean, herrors.isEmpty_eq,
        hwarnings.isEmpty_eq]
    simp only [text, lines, hclean, ordered_ofFiles_perm h distinct carried,
      countLine, herrors.length_eq, hwarnings.length_eq]
  · rw [Tally.ofFiles_eq, Tally.ofFiles_eq]
    exact h.length_eq
  · rw [Tally.hasErrors, Tally.hasErrors, herrors.isEmpty_eq]

end Files

/-!
## Pages in another order
-/

section Pages

open Batch

variable (t : FileTree) (tell : Option (String → Except Fault Unit))
    (elapsed : String)

/-- The entry of a page, where a listener treats equal lines alike. -/
def entryOf (path : Path) : PageResult :=
  (displayPath t path,
    outcome ((pageWorker t).telling (tell.map fun tell _ => tell) elapsed) 0
      ⟨path, displayPath t path⟩)

theorem areOn_entryOf (path : Path) :
    AreOn (entryOf t tell elapsed path).1 (entryOf t tell elapsed path).2 :=
  areOn_outcome t _ elapsed 0 path

/-- The workers of a batch in which equal lines are treated alike do not count
the pages. -/
theorem processPages_eq_map (workers : Int) {order : List Nat}
    {paths : List Path} (complete : order.Perm (List.range paths.length)) :
    processPages t (pageWorker t) (tell.map fun tell _ =>
      tell) elapsed workers order paths =
      .ok (paths.map (entryOf t tell elapsed)) := by
  have hsame :
      ∀ i, (pageWorker t).telling (tell.map fun tell _ => tell) elapsed i =
      (pageWorker t).telling (tell.map fun tell _ => tell) elapsed 0 := by
    intro i
    cases tell with
    | none => rfl
    | some tell => rfl
  rw [processPages_eq t _ _ elapsed workers complete, inSequence_eq_map hsame,
    jobsOf, List.map_map]
  rfl

end Pages

/-!
## The main statement

The first part is about any results, whoever made them.  The second one is about
the results of checking pages, with any number of workers and in whatever order
they finish: where no two pages have one display path, the order in which the
pages are given does not matter.
-/

theorem readsLike_of_perm :
    (∀ files files' : List Batch.PageResult,
      files'.Perm files → (files.map (·.1)).Nodup →
      (∀ file ∈ files, ∀ f ∈ file.2, f.file = file.1) →
      ReadsLike (Tally.ofFiles files') (Tally.ofFiles files)) ∧
    ∀ (t : FileTree) (tell : Option (String → Except Fault Unit))
      (elapsed : String) (workers workers' : Int)
      (order order' : List Nat) (paths paths' : List Path),
      paths'.Perm paths → (paths.map (Batch.displayPath t)).Nodup →
      order.Perm (List.range paths.length) →
        order'.Perm (List.range paths'.length) →
      ∃ results results',
        Batch.processPages t (Batch.pageWorker t) (tell.map fun tell _ =>
          tell) elapsed workers order paths =
          .ok results ∧
        Batch.processPages t (Batch.pageWorker t) (tell.map fun tell _ =>
          tell) elapsed workers' order' paths' =
          .ok results' ∧
        ReadsLike (Tally.ofFiles results') (Tally.ofFiles results) := by
  constructor
  · intro files files' h distinct carried
    exact readsLike_ofFiles_perm h distinct carried
  · intro t tell elapsed workers workers' order order' paths paths' h distinct
      complete complete'
    refine ⟨_, _, processPages_eq_map t tell elapsed workers complete,
      processPages_eq_map t tell elapsed workers' complete', ?_⟩
    apply readsLike_ofFiles_perm (h.map _)
    · rw [List.map_map]
      exact distinct
    · intro file hfile
      rcases List.mem_map.1 hfile with ⟨path, _, rfl⟩
      exact areOn_entryOf t tell elapsed path

def mixedFiles : List Batch.PageResult :=
  [("site/z.html",
      [⟨"site/z.html", "C004", "Missing", "warning", some 12⟩,
       ⟨"site/z.html", "E012", "Duplicate ID: nav", "error", some 9⟩,
       ⟨"site/z.html", "E004", "Missing required landmark: main", "error",
         none⟩]),
   ("site/b.html", []),
   ("site/a.html",
      [⟨"site/a.html", "E010", "Missing h1 element", "error", none⟩,
       ⟨"site/a.html", "C004", "Missing", "warning", some 3⟩])]

/-- The tallies of these files in the two orders differ, and their reports do
not.  Two pages that are not there are given to one worker and, the other way
round, to two who finish from the end. -/
theorem readsLike_of_reverse :
    ((mixedFiles.map (·.1)).Nodup ∧
      (∀ file ∈ mixedFiles, ∀ f ∈ file.2, f.file = file.1) ∧
      (Tally.ofFiles mixedFiles.reverse).errors ≠
        (Tally.ofFiles mixedFiles).errors ∧
      ReadsLike (Tally.ofFiles mixedFiles.reverse) (Tally.ofFiles mixedFiles)) ∧
    (let t : FileTree := { root := .empty, cwd := ["site"] }
    let paths : List Path := [⟨.relative, ["b.html"]⟩, ⟨.slash, ["a.html"]⟩]
    (paths.map (Batch.displayPath t)).Nodup ∧
      ∃ results results',
        Batch.processPages t (Batch.pageWorker t) none "" 1 [0,
          1] paths = .ok results ∧
        Batch.processPages t (Batch.pageWorker t) none "" 2 [1,
          0] paths.reverse = .ok results' ∧
        ReadsLike (Tally.ofFiles results') (Tally.ofFiles results)) := by
  constructor
  · have distinct : (mixedFiles.map (·.1)).Nodup := by decide
    have carried : ∀ file ∈ mixedFiles, ∀ f ∈ file.2, f.file = file.1 := by
      decide
    refine ⟨distinct, carried, by decide, ?_⟩
    exact readsLike_of_perm.1 mixedFiles mixedFiles.reverse
      (List.reverse_perm _) distinct carried
  · intro t paths
    have distinct : (paths.map (Batch.displayPath t)).Nodup := by decide
    refine ⟨distinct, ?_⟩
    exact readsLike_of_perm.2 t none "" 1 2 [0, 1] [1, 0] paths paths.reverse
      (List.reverse_perm _) distinct (by decide) (by decide)

end Report
end SiteAudit
