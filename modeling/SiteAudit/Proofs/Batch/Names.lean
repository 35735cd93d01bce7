import SiteAudit.Proofs.Batch.Completion
import SiteAudit.Proofs.Rules.Shape

/-!
# Findings name their page

Whatever becomes of a page, whether it is checked, cannot be read, or its worker
fails, each of its findings is on the display path of the page.
-/

namespace SiteAudit

def AreOn (file : String) (fs : List Finding) : Prop :=
  ∀ f ∈ fs, f.file = file

theorem areOn_singleton {file : String} {f : Finding} :
    AreOn file [f] ↔ f.file = file := by
  simp [AreOn]

namespace Rules

theorem areOn_check (d : Markup.Document) (file : String) :
    AreOn file (check d file) := by
  intro f hf
  rcases mem_check.1 hf with ⟨r, _, v, _, rfl⟩
  rfl

end Rules

namespace Batch

theorem areOn_checkText (s : List Char) (shown : String) :
    AreOn shown (checkText s shown) := by
  unfold checkText
  split
  · exact areOn_singleton.2 rfl
  · exact Rules.areOn_check _ shown

theorem areOn_checkBytes (bytes : List UInt8) (shown : String) :
    AreOn shown (checkBytes bytes shown) := by
  unfold checkBytes
  split
  · exact areOn_singleton.2 rfl
  · exact areOn_checkText _ shown

theorem areOn_checkPage {t : FileTree} {path : Path} {findings : List Finding}
    (h : checkPage t path (some (displayPath t path)) = .ok findings) :
    AreOn (displayPath t path) findings := by
  -- an empty display would be replaced by the display path, which it is
  have hshown : (if displayPath t path == "" then displayPath t path
      else displayPath t path) =
      displayPath t path := ite_self _
  simp only [checkPage, hshown] at h
  cases hread : t.readBytes path with
  | ok bytes =>
      rw [hread] at h
      cases h
      exact areOn_checkBytes bytes _
  | error e =>
      rw [hread] at h
      cases e with
      | nullCharacter => cases h
      | missing => cases h; exact areOn_singleton.2 rfl
      | notDirectory => cases h; exact areOn_singleton.2 rfl
      | isDirectory => cases h; exact areOn_singleton.2 rfl
      | nameTooLong => cases h; exact areOn_singleton.2 rfl

theorem areOn_of_processed {t : FileTree} {listener : Option Listener}
    {elapsed : String} {i : Nat} {path : Path} {findings : List Finding}
    (h : Processed (pageWorker t) listener elapsed i path (displayPath t path)
      findings) :
    AreOn (displayPath t path) findings := by
  cases h with
  | returned checked told => exact areOn_checkPage checked
  | workerFailed failed => exact areOn_singleton.2 rfl
  | listenerFailed checked listening failed => exact areOn_singleton.2 rfl

theorem areOn_outcome (t : FileTree) (listener : Option Listener)
    (elapsed : String) (i : Nat) (path : Path) :
    AreOn (displayPath t path)
      (outcome ((pageWorker t).telling listener elapsed) i ⟨path,
        displayPath t path⟩) :=
  areOn_of_processed (processed_outcome (pageWorker t) listener elapsed i path
    (displayPath t path))

theorem inSequence_eq_map {work : Worker} (h : ∀ i, work i = work 0)
    (jobs : List Job) :
    inSequence work jobs = jobs.map fun job =>
      (job.shown, outcome work 0 job) := by
  apply List.ext_getElem?
  intro i
  rw [getElem?_inSequence, List.getElem?_map]
  cases jobs[i]? with
  | none => rfl
  | some job => simp only [Option.map_some, outcome, h i]

end Batch
end SiteAudit
