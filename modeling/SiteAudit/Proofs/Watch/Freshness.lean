import SiteAudit.Proofs.Watch.Debounce

/-!
# Changes that are left unchecked

A handler has no memory of the events that it drops.  So a change that comes
within the delay after a run, even one that was saved while the run was on, is
not checked until something else changes.  These are the only changes that are
left: behind every other change there starts a run.
-/

namespace SiteAudit
namespace Watch

namespace Handler

/-- Arrivals that come one after another: none before an earlier one, and none
while a run is on. -/
structure InTurn (h : Handler) (arrivals : List Arrival) : Prop where
  rising : arrivals.Pairwise fun a b => a.time ≤ b.time
  waiting : ∀ before a after, arrivals = before ++ a :: after →
    ∀ last ∈ (Session.receiveAll h {} before).lastRun, last ≤ a.time

end Handler

section InTurn

variable {h : Handler} {arrivals ran : List Arrival}

theorem inTurn_nil : h.InTurn [] where
  rising := .nil
  waiting := by
    intro before a after hsplit
    cases List.append_eq_nil_iff.1 hsplit.symm with
    | intro _ hcons => cases hcons

theorem Handler.InTurn.before {a : Arrival}
    (inTurn : h.InTurn (arrivals ++ [a])) : h.InTurn arrivals where
  rising := (List.pairwise_append.1 inTurn.rising).1
  waiting := by
    intro before b after hsplit
    apply inTurn.waiting before b (after ++ [a])
    rw [hsplit, List.append_assoc]
    rfl

theorem Handler.InTurn.append_singleton {a : Arrival}
    (inTurn : h.InTurn arrivals) (rising : ∀ b ∈ arrivals, b.time ≤ a.time)
    (waiting :
      ∀ last ∈ (Session.receiveAll h {} arrivals).lastRun, last ≤ a.time) :
    h.InTurn (arrivals ++ [a]) where
  rising := by
    rw [List.pairwise_append]
    refine ⟨inTurn.rising, List.pairwise_singleton _ _, ?_⟩
    intro b hb c hc
    rcases List.mem_singleton.1 hc with rfl
    exact rising b hb
  waiting := by
    intro before b after hsplit
    rcases List.eq_nil_or_concat after with rfl | ⟨after, c, rfl⟩
    · rcases List.append_inj' hsplit rfl with ⟨rfl, hb⟩
      cases hb
      exact waiting
    · have hsplit' : arrivals ++ [a] = (before ++ b :: after) ++ [c] := by
        rw [hsplit, List.append_assoc]
        simp
      exact inTurn.waiting before b after (List.append_inj' hsplit' rfl).1

theorem time_le_of_getLast (inTurn : h.InTurn arrivals)
    (hran : h.RunsOn arrivals ran) {run last : Arrival} (hrun : run ∈ ran)
    (hlast : last ∈ ran.getLast?) : run.time ≤ last.time := by
  have hrising := inTurn.rising.sublist (sublist_of_runsOn hran)
  rcases List.getLast?_eq_some_iff.1 hlast with ⟨earlier, rfl⟩
  rcases List.mem_append.1 hrun with hearlier | hsame
  · exact (List.pairwise_append.1 hrising).2.2 run hearlier last
      (List.mem_singleton_self last)
  · rcases List.mem_singleton.1 hsame with rfl
    exact Rat.le_refl

/-- A change that comes when it is not dropped starts a run; else it comes
within the delay after the last one. -/
theorem exists_run_or_resting (inTurn : h.InTurn arrivals)
    (hran : h.RunsOn arrivals ran) {a : Arrival} (ha : a ∈ arrivals)
    (concerns : h.Concerns a.event) :
    (∃ run ∈ ran, a.time ≤ run.time) ∨
      ∃ last ∈ ran.getLast?, last.finish ≤ a.time ∧
        a.time - last.finish < h.delay := by
  induction hran with
  | nil => cases ha
  | @run arrivals ran b before _ _ ih =>
      left
      refine ⟨b, by simp, ?_⟩
      rcases List.mem_append.1 ha with hearlier | hsame
      · exact (List.pairwise_append.1 inTurn.rising).2.2 a hearlier b
          (List.mem_singleton_self b)
      · rcases List.mem_singleton.1 hsame with rfl
        exact Rat.le_refl
  | @drop arrivals ran b before needless ih =>
      rcases List.mem_append.1 ha with hearlier | hsame
      · exact ih inTurn.before hearlier
      · rcases List.mem_singleton.1 hsame with rfl
        right
        have hresting : ¬h.Rested (lastFinish ran) a.time := fun hrested =>
          needless ⟨concerns, hrested⟩
        obtain ⟨last, hlast, hearly⟩ := exists_early_of_not_rested hresting
        have hwaiting := inTurn.waiting arrivals a [] rfl
        rw [receiveAll_of_runsOn rfl before] at hwaiting
        exact ⟨last, hlast,
          hwaiting last.finish (Option.mem_map_of_mem _ hlast), hearly⟩

end InTurn

/-!
## The main statement

There is no change without a run, and some run starts at a change or later
exactly if the last one does.  If it does not, the change has come after the end
of the last run and within the delay.
-/

theorem unchecked_only_within_delay (h : Handler) (arrivals : List Arrival)
    (inTurn : h.InTurn arrivals) :
    ∃ ran, h.RunsOn arrivals ran ∧
      Session.receiveAll h {} arrivals = Session.after {} ran ∧
      ∀ a ∈ arrivals, h.Concerns a.event →
        ∃ last ∈ ran.getLast?,
          ((∃ run ∈ ran, a.time ≤ run.time) ↔ a.time ≤ last.time) ∧
          (last.time < a.time →
            last.finish ≤ a.time ∧ a.time - last.finish < h.delay) := by
  have hran : h.RunsOn arrivals (h.ranOf arrivals) := runsOn_iff_eq.2 rfl
  refine ⟨h.ranOf arrivals, hran, receiveAll_of_runsOn rfl hran, ?_⟩
  intro a ha concerns
  rcases exists_run_or_resting inTurn hran ha concerns with
    ⟨run, hrun, hle⟩ | ⟨last, hlast, hover, hearly⟩
  · rcases Option.isSome_iff_exists.1
      (List.getLast?_isSome.2 (List.ne_nil_of_mem hrun)) with ⟨last, hlast⟩
    have hchecked : a.time ≤ last.time :=
      Rat.le_trans hle (time_le_of_getLast inTurn hran hrun hlast)
    refine ⟨last, hlast, ⟨fun _ => hchecked, fun _ => ⟨run, hrun, hle⟩⟩, ?_⟩
    intro hstarted
    exact absurd hchecked (Rat.not_le.2 hstarted)
  · refine ⟨last, hlast,
      ⟨?_, fun hle => ⟨last, List.mem_of_getLast? hlast, hle⟩⟩,
      fun _ => ⟨hover, hearly⟩⟩
    rintro ⟨run, hrun, hle⟩
    exact Rat.le_trans hle (time_le_of_getLast inTurn hran hrun hlast)

theorem inTurn_edited_edited : patient.InTurn [edited 0 2, edited 2 0] := by
  have first : patient.InTurn [edited 0 2] := by
    refine inTurn_nil.append_singleton ?_ ?_
    · decide +kernel
    · decide +kernel
  refine first.append_singleton ?_ ?_
  · decide +kernel
  · decide +kernel

/-- The second change was saved during the run on the first one and is told of
as soon as this run is over. -/
theorem change_left_unchecked :
    0 < patient.delay ∧ patient.InTurn [edited 0 2, edited 2 0] ∧
      patient.Concerns (edited 2 0).event ∧
      Session.receiveAll patient {} [edited 0 2, edited 2 0] =
        ⟨1, some 2, "", "[watch] Change detected in a.html...\n"⟩ ∧
      ∀ ran, patient.RunsOn [edited 0 2, edited 2 0] ran →
        ¬∃ run ∈ ran, (edited 2 0).time ≤ run.time := by
  have hrelevant : patient.isRelevant (edited 2 0).event = true := by
    decide +kernel
  refine ⟨by decide +kernel, inTurn_edited_edited,
    Handler.isRelevant_iff.1 hrelevant, by decide +kernel, ?_⟩
  intro ran hran
  have hranOf : patient.ranOf [edited 0 2, edited 2 0] = [edited 0 2] := by
    decide +kernel
  rw [runsOn_iff_eq.1 hran, hranOf]
  decide +kernel

def edits : List Arrival :=
  [edited 0 2, edited 2 0, edited 3 0, edited (13 / 4) 0]

theorem unchecked_edits :
    patient.InTurn edits ∧
      ∃ ran, patient.RunsOn edits ran ∧
        Session.receiveAll patient {} edits = Session.after {} ran ∧
        ∀ a ∈ edits, patient.Concerns a.event →
          ∃ last ∈ ran.getLast?,
            ((∃ run ∈ ran, a.time ≤ run.time) ↔ a.time ≤ last.time) ∧
            (last.time < a.time →
              last.finish ≤ a.time ∧ a.time - last.finish < patient.delay) := by
  have third : patient.InTurn [edited 0 2, edited 2 0, edited 3 0] := by
    refine inTurn_edited_edited.append_singleton ?_ ?_
    · decide +kernel
    · decide +kernel
  have inTurn : patient.InTurn edits := by
    refine third.append_singleton ?_ ?_
    · decide +kernel
    · decide +kernel
  exact ⟨inTurn, unchecked_only_within_delay patient edits inTurn⟩

end Watch
end SiteAudit
