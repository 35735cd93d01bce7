import Mathlib.Data.List.Chain
import Mathlib.Data.List.Induction
import SiteAudit.Proofs.Number.Rounding
import SiteAudit.Watch.Session

/-!
# The delay between runs

A handler runs the check on an event that concerns it, unless less than a delay
has passed since the end of the last run.  So which events of a row make a run
depends on nothing but the events themselves, the times at which they arrive,
and how long the runs take: neither what a run writes nor whether it fails has a
say.

How much time has passed is a difference of two readings of the clock, rounded
to the double format.  Rounding respects order, so an event that is dropped has
come within the delay by the exact difference too.  The other way round, a gap
just short of the delay can be rounded up to it.
-/

namespace SiteAudit
namespace Watch

def Arrival.finish (a : Arrival) : Rat :=
  a.time + a.duration

def lastFinish (ran : List Arrival) : Option Rat :=
  ran.getLast?.map Arrival.finish

namespace Handler

variable (h : Handler)

structure Concerns (e : Event) : Prop where
  kind :
    e.kind = .created ∨ e.kind = .modified ∨ e.kind = .moved ∨ e.kind = .deleted
  file : e.isDirectory = false
  page :
    h.isPage e.source = true ∨ e.kind = .moved ∧ h.isPage e.destination = true

/-- Whether the delay since the last run is over by the clock, if there was a
run. -/
def Rested (lastRun : Option Rat) (time : Rat) : Prop :=
  ∀ last ∈ lastRun,
    Binary64.rounded h.delay ≤ Binary64.rounded (time - last)

/-- Which arrivals of a row make a run, said from the last one. -/
inductive RunsOn : List Arrival → List Arrival → Prop
  | nil : RunsOn [] []
  | run {arrivals ran : List Arrival} {a : Arrival}
      (before : RunsOn arrivals ran) (concerns : h.Concerns a.event)
      (rested : h.Rested (lastFinish ran) a.time) :
      RunsOn (arrivals ++ [a]) (ran ++ [a])
  | drop {arrivals ran : List Arrival} {a : Arrival}
      (before : RunsOn arrivals ran)
      (needless : ¬(h.Concerns a.event ∧ h.Rested (lastFinish ran) a.time)) :
      RunsOn (arrivals ++ [a]) ran

variable {h}

theorem isRelevant_iff {e : Event} : h.isRelevant e = true ↔ h.Concerns e := by
  constructor
  · intro hrelevant
    simp only [isRelevant, Bool.and_eq_true, bne_iff_ne, Bool.not_eq_true',
      Bool.or_eq_true, beq_iff_eq]
      at hrelevant
    rcases hrelevant with ⟨⟨hkind, hfile⟩, hpage⟩
    refine ⟨?_, hfile, hpage⟩
    cases hcase : e.kind <;> simp_all
  · intro hconcerns
    have hkind : e.kind ≠ .other := by
      rcases hconcerns.kind with hkind | hkind | hkind | hkind <;> simp [hkind]
    simpa [isRelevant, hkind, hconcerns.file] using hconcerns.page

theorem isDue_iff {lastRun : Option Rat} {time : Rat} :
    h.isDue lastRun time = true ↔ h.Rested lastRun time := by
  cases lastRun with
  | none => simp [isDue, Rested]
  | some last =>
      simp only [isDue, Rested, Bool.not_eq_true', decide_eq_false_iff_not,
        Rat.not_lt, Option.mem_some_iff, forall_eq']

theorem rested_of_delay_le {lastRun : Option Rat} {time : Rat}
    (hover : ∀ last ∈ lastRun, h.delay ≤ time - last) : h.Rested lastRun time :=
  fun last hlast => Binary64.rounded_mono (hover last hlast)

theorem exists_lt_delay_of_not_rested {lastRun : Option Rat} {time : Rat}
    (resting : ¬h.Rested lastRun time) :
    ∃ last ∈ lastRun, time - last < h.delay := by
  by_contra hover
  apply resting
  apply rested_of_delay_le
  intro last hlast
  by_contra hearly
  exact hover ⟨last, hlast, Rat.not_le.1 hearly⟩

theorem runsOn_iff {lastRun : Option Rat} {a : Arrival} :
    h.runsOn lastRun a = true ↔
      h.Concerns a.event ∧ h.Rested lastRun a.time := by
  rw [runsOn, Bool.and_eq_true, isRelevant_iff, isDue_iff]

end Handler

/-!
## One arrival
-/

section Step

variable {h : Handler} {s : Session} {a : Arrival}

theorem receive_of_run (concerns : h.Concerns a.event)
    (rested : h.Rested s.lastRun a.time) :
    s.receive h a =
      { runs := s.runs + 1
        lastRun := some a.finish
        output := s.output ++ a.outcome.output
        log := s.log ++ runLog a } := by
  have hruns : h.runsOn s.lastRun a = true :=
    Handler.runsOn_iff.2 ⟨concerns, rested⟩
  simp only [Session.receive, Handler.next, hruns, if_true, Arrival.finish]

theorem receive_of_needless
    (needless : ¬(h.Concerns a.event ∧ h.Rested s.lastRun a.time)) :
    s.receive h a = s := by
  have hruns : ¬h.runsOn s.lastRun a = true :=
    fun hruns => needless (Handler.runsOn_iff.1 hruns)
  rw [Session.receive, if_neg hruns]

theorem runs_receive_iff :
    (s.receive h a).runs = s.runs + 1 ↔
      h.Concerns a.event ∧ h.Rested s.lastRun a.time := by
  constructor
  · intro hruns
    by_contra needless
    rw [receive_of_needless needless] at hruns
    exact absurd hruns (Nat.succ_ne_self _).symm
  · intro hrun
    rw [receive_of_run hrun.1 hrun.2]

end Step

/-!
## A row of arrivals
-/

theorem lastFinish_append_singleton (ran : List Arrival) (a : Arrival) :
    lastFinish (ran ++ [a]) = some a.finish := by
  simp [lastFinish]

theorem receiveAll_append_singleton (h : Handler) (s : Session)
    (arrivals : List Arrival) (a : Arrival) :
    s.receiveAll h (arrivals ++ [a]) =
      (s.receiveAll h arrivals).receive h a := by
  simp [Session.receiveAll]

def Session.after (s : Session) (ran : List Arrival) : Session where
  runs := s.runs + ran.length
  lastRun := lastFinish ran
  output := s.output ++ String.join (ran.map (·.outcome.output))
  log := s.log ++ String.join (ran.map runLog)

section Row

variable {h : Handler} {s : Session} {arrivals ran : List Arrival}

theorem receive_after_of_run {a : Arrival} (concerns : h.Concerns a.event)
    (rested : h.Rested (lastFinish ran) a.time) :
    (s.after ran).receive h a = s.after (ran ++ [a]) := by
  have hrested : h.Rested (s.after ran).lastRun a.time := rested
  rw [receive_of_run concerns hrested]
  simp [Session.after, lastFinish_append_singleton, String.join_append,
    String.append_assoc, Nat.add_assoc]

/-- A session is the one that the runs on its arrivals lead to. -/
theorem receiveAll_of_runsOn (fresh : s.lastRun = none)
    (hran : h.RunsOn arrivals ran) :
    s.receiveAll h arrivals = s.after ran := by
  induction hran with
  | nil => simp [Session.receiveAll, Session.after, lastFinish, ← fresh]
  | run before concerns rested ih =>
      rw [receiveAll_append_singleton, ih, receive_after_of_run concerns rested]
  | drop before needless ih =>
      rw [receiveAll_append_singleton, ih]
      exact receive_of_needless needless

def Handler.ranOf (h : Handler) (arrivals : List Arrival) : List Arrival :=
  arrivals.foldl
    (fun ran a => if h.runsOn (lastFinish ran) a then ran ++ [a] else ran) []

theorem ranOf_append_singleton_of_run {a : Arrival}
    (concerns : h.Concerns a.event)
    (rested : h.Rested (lastFinish (h.ranOf arrivals)) a.time) :
    h.ranOf (arrivals ++ [a]) = h.ranOf arrivals ++ [a] := by
  rw [Handler.ranOf, List.foldl_append]
  exact if_pos (Handler.runsOn_iff.2 ⟨concerns, rested⟩)

theorem ranOf_append_singleton_of_needless {a : Arrival}
    (needless :
      ¬(h.Concerns a.event ∧ h.Rested (lastFinish (h.ranOf arrivals)) a.time)) :
    h.ranOf (arrivals ++ [a]) = h.ranOf arrivals := by
  rw [Handler.ranOf, List.foldl_append]
  exact if_neg fun hruns => needless (Handler.runsOn_iff.1 hruns)

theorem runsOn_iff_eq : h.RunsOn arrivals ran ↔ ran = h.ranOf arrivals := by
  constructor
  · intro hran
    induction hran with
    | nil => rfl
    | run before concerns rested ih =>
        subst ih
        rw [ranOf_append_singleton_of_run concerns rested]
    | drop before needless ih =>
        subst ih
        rw [ranOf_append_singleton_of_needless needless]
  · intro hran
    subst hran
    induction arrivals using List.reverseRecOn with
    | nil => exact .nil
    | append_singleton arrivals a ih =>
        by_cases hrun : h.Concerns a.event ∧
          h.Rested (lastFinish (h.ranOf arrivals)) a.time
        · rw [ranOf_append_singleton_of_run hrun.1 hrun.2]
          exact .run ih hrun.1 hrun.2
        · rw [ranOf_append_singleton_of_needless hrun]
          exact .drop ih hrun

theorem sublist_of_runsOn (hran : h.RunsOn arrivals ran) :
    ran.Sublist arrivals := by
  induction hran with
  | nil => exact .slnil
  | run before concerns rested ih => exact ih.append (.refl _)
  | drop before needless ih => exact ih.trans (List.sublist_append_left _ _)

theorem isChain_of_runsOn (hran : h.RunsOn arrivals ran) :
    ran.IsChain fun a b =>
      Binary64.rounded h.delay ≤ Binary64.rounded (b.time - a.finish) := by
  induction hran with
  | nil => exact .nil
  | run before concerns rested ih =>
      -- what is left is the seam between the last run so far and the new one
      apply ih.append (.singleton _)
      intro last hlast b hb
      cases hb
      exact rested _ (Option.mem_map_of_mem _ hlast)
  | drop before needless ih => exact ih

/-- A gap that is shorter than the delay is one that is rounded to it. -/
theorem delay_le_or_rounded_eq {gap : Rat}
    (hgap : Binary64.rounded h.delay ≤ Binary64.rounded gap) :
    h.delay ≤ gap ∨ Binary64.rounded gap = Binary64.rounded h.delay := by
  rcases le_total h.delay gap with hle | hle
  · exact .inl hle
  · exact .inr (Rat.le_antisymm (Binary64.rounded_mono hle) hgap)

theorem runs_after_empty (ran : List Arrival) :
    (Session.after {} ran).runs = ran.length :=
  Nat.zero_add _

theorem rested_lastFinish_iff {time : Rat} :
    h.Rested (lastFinish ran) time ↔
      ∀ last ∈ ran.getLast?,
        Binary64.rounded h.delay ≤ Binary64.rounded (time - last.finish) := by
  simp [Handler.Rested, lastFinish]

/-- What is not run on although it is reason enough comes within the delay. -/
theorem exists_early_of_not_rested {time : Rat}
    (resting : ¬h.Rested (lastFinish ran) time) :
    ∃ last ∈ ran.getLast?, time - last.finish < h.delay := by
  obtain ⟨finish, hfinish, hearly⟩ :=
    Handler.exists_lt_delay_of_not_rested resting
  obtain ⟨last, hlast, rfl⟩ := Option.mem_map.1 hfinish
  exact ⟨last, hlast, hearly⟩

end Row

/-!
## What has no say
-/

structure SameTiming (a b : Arrival) : Prop where
  event : b.event = a.event
  time : b.time = a.time
  duration : b.duration = a.duration

/-- Two arrivals that two handlers cannot tell apart: both concern their handler
or neither does, and they come, and their runs end, at the same time. -/
structure TreatedAlike (h h' : Handler) (a b : Arrival) : Prop where
  concerns : h'.Concerns b.event ↔ h.Concerns a.event
  time : b.time = a.time
  duration : b.duration = a.duration

section Alike

variable {h h' : Handler} {s s' : Session}

theorem receive_alike (hdelay : h'.delay = h.delay) {a b : Arrival}
    (hruns : s'.runs = s.runs) (hlast : s'.lastRun = s.lastRun)
    (hab : TreatedAlike h h' a b) :
    (s'.receive h' b).runs = (s.receive h a).runs ∧
      (s'.receive h' b).lastRun = (s.receive h a).lastRun := by
  have hfinish : b.finish = a.finish := by
    rw [Arrival.finish, Arrival.finish, hab.time, hab.duration]
  have hrested : h'.Rested s'.lastRun b.time ↔ h.Rested s.lastRun a.time := by
    rw [Handler.Rested, Handler.Rested, hdelay, hlast, hab.time]
  by_cases hrun : h.Concerns a.event ∧ h.Rested s.lastRun a.time
  · have hrun' : h'.Concerns b.event ∧ h'.Rested s'.lastRun b.time := by
      rw [hab.concerns, hrested]
      exact hrun
    rw [receive_of_run hrun.1 hrun.2, receive_of_run hrun'.1 hrun'.2, hruns,
      hfinish]
    exact ⟨rfl, rfl⟩
  · have hrun' : ¬(h'.Concerns b.event ∧ h'.Rested s'.lastRun b.time) := by
      rw [hab.concerns, hrested]
      exact hrun
    rw [receive_of_needless hrun, receive_of_needless hrun']
    exact ⟨hruns, hlast⟩

theorem receiveAll_alike (hdelay : h'.delay = h.delay)
    {arrivals arrivals' : List Arrival} (hruns : s'.runs = s.runs)
    (hlast : s'.lastRun = s.lastRun)
    (halike : List.Forall₂ (TreatedAlike h h') arrivals arrivals') :
    (s'.receiveAll h' arrivals').runs = (s.receiveAll h arrivals).runs ∧
      (s'.receiveAll h' arrivals').lastRun =
        (s.receiveAll h arrivals).lastRun := by
  induction halike generalizing s s' with
  | nil => exact ⟨hruns, hlast⟩
  | cons hab _ ih =>
      cases receive_alike hdelay hruns hlast hab with
      | intro hruns' hlast' => exact ih hruns' hlast'

end Alike

theorem SameTiming.treatedAlike (h : Handler) {a b : Arrival}
    (hab : SameTiming a b) : TreatedAlike h h a b where
  concerns := by rw [hab.event]
  time := hab.time
  duration := hab.duration

theorem receiveAll_sameTiming {h : Handler} {s s' : Session}
    {arrivals arrivals' : List Arrival} (hruns : s'.runs = s.runs)
    (hlast : s'.lastRun = s.lastRun)
    (hsame : List.Forall₂ SameTiming arrivals arrivals') :
    (s'.receiveAll h arrivals').runs = (s.receiveAll h arrivals).runs ∧
      (s'.receiveAll h arrivals').lastRun = (s.receiveAll h arrivals).lastRun :=
  receiveAll_alike rfl hruns hlast (hsame.imp fun _ _ hab => hab.treatedAlike h)

/-!
## The main statement
-/

/-- What becomes of a row of arrivals: those that make a run, how the runs lie
in time, and what they leave behind. -/
structure Debounced (h : Handler) (arrivals ran : List Arrival) : Prop where
  determined : ∀ ran', h.RunsOn arrivals ran' ↔ ran' = ran
  sublist : ran.Sublist arrivals
  spaced : ran.IsChain fun a b =>
    Binary64.rounded h.delay ≤ Binary64.rounded (b.time - a.finish)
  apart : ran.IsChain fun a b =>
    h.delay ≤ b.time - a.finish ∨
      Binary64.rounded (b.time - a.finish) = Binary64.rounded h.delay
  /-- A delay of the double format is compared as it is. -/
  delay : Binary64.IsDouble h.delay → Binary64.rounded h.delay = h.delay
  session : Session.receiveAll h {} arrivals =
    { runs := ran.length
      lastRun := ran.getLast?.map Arrival.finish
      output := String.join (ran.map (·.outcome.output))
      log := String.join (ran.map runLog) }
  runsNext : ∀ a,
    (Session.receiveAll h {} (arrivals ++ [a])).runs = ran.length + 1 ↔
      h.Concerns a.event ∧
        ∀ last ∈ ran.getLast?,
          Binary64.rounded h.delay ≤ Binary64.rounded (a.time - last.finish)
  dropped : ∀ a,
    (Session.receiveAll h {} (arrivals ++ [a])).runs ≠ ran.length + 1 →
      Session.receiveAll h {} (arrivals ++ [a]) =
        Session.receiveAll h {} arrivals
  droppedEarly : ∀ a,
    (Session.receiveAll h {} (arrivals ++ [a])).runs ≠ ran.length + 1 →
      h.Concerns a.event → ∃ last ∈ ran, a.time - last.finish < h.delay
  outcomesAside : ∀ arrivals', List.Forall₂ SameTiming arrivals arrivals' →
    (Session.receiveAll h {} arrivals').runs = ran.length ∧
      (Session.receiveAll h {} arrivals').lastRun =
        ran.getLast?.map Arrival.finish

section Main

variable {h : Handler} {arrivals : List Arrival}

theorem receiveAll_eq_after_ranOf (h : Handler) (arrivals : List Arrival) :
    Session.receiveAll h {} arrivals = Session.after {} (h.ranOf arrivals) :=
  receiveAll_of_runsOn rfl (runsOn_iff_eq.2 rfl)

theorem runs_next_iff {a : Arrival} :
    (Session.receiveAll h {} (arrivals ++ [a])).runs =
        (h.ranOf arrivals).length + 1 ↔
      h.Concerns a.event ∧ h.Rested (lastFinish (h.ranOf arrivals)) a.time := by
  rw [receiveAll_append_singleton, receiveAll_eq_after_ranOf,
    ← runs_after_empty]
  exact runs_receive_iff

end Main

theorem runs_debounced (h : Handler) (arrivals : List Arrival) :
    ∃ ran, Debounced h arrivals ran := by
  have hran : h.RunsOn arrivals (h.ranOf arrivals) := runsOn_iff_eq.2 rfl
  have hspaced := isChain_of_runsOn hran
  have hsession := receiveAll_eq_after_ranOf h arrivals
  refine ⟨h.ranOf arrivals,
    { determined := fun _ => runsOn_iff_eq
      sublist := sublist_of_runsOn hran
      spaced := hspaced
      apart := hspaced.imp fun _ _ => delay_le_or_rounded_eq
      delay := Binary64.rounded_of_isDouble
      session := ?_
      runsNext := ?_
      dropped := ?_
      droppedEarly := ?_
      outcomesAside := ?_ }⟩
  · rw [hsession]
    simp [Session.after, lastFinish]
  · intro a
    rw [runs_next_iff, rested_lastFinish_iff]
  · intro a hdropped
    rw [Ne, runs_next_iff] at hdropped
    rw [receiveAll_append_singleton, hsession]
    exact receive_of_needless hdropped
  · intro a hdropped hconcerns
    rw [Ne, runs_next_iff] at hdropped
    have hresting : ¬h.Rested (lastFinish (h.ranOf arrivals)) a.time :=
      fun hrested => hdropped ⟨hconcerns, hrested⟩
    obtain ⟨last, hlast, hearly⟩ := exists_early_of_not_rested hresting
    exact ⟨last, List.mem_of_getLast? hlast, hearly⟩
  · intro arrivals' hsame
    have hsame' := receiveAll_sameTiming (h := h) (s := {}) rfl rfl hsame
    rw [hsession, runs_after_empty] at hsame'
    exact hsame'

/-- The second change comes too early after the run that fails, and the third
one just in time. -/
example :
    Session.receiveAll ⟨[], none, 1 / 2⟩ {}
      [⟨⟨.created, false, .text "a.html", .text ""⟩, 0, 1 / 4,
        ⟨"", "", some "bad"⟩⟩,
       ⟨⟨.modified, false, .text "a.html", .text ""⟩, 1 / 2, 0, {}⟩,
       ⟨⟨.moved, false, .text "b", .text "a.html"⟩, 3 / 4, 1, {}⟩] =
      { runs := 2
        lastRun := some (7 / 4)
        output := ""
        log :=
          "[watch] Change detected in a.html...\n[error] Lint failed: bad\n" ++
            "[watch] Change detected in a.html...\n" } := by
  decide +kernel

def edited (time duration : Rat) : Arrival :=
  ⟨⟨.modified, false, .text "a.html", .text ""⟩, time, duration, {}⟩

def patient : Handler :=
  ⟨[], none, usualDelay⟩

def hurriedEdits : List Arrival :=
  [edited (Binary64.rounded (1 / 10)) 0, edited (Binary64.rounded (3 / 5)) 0]

/-- Less than half a second lies between the two readings, and half a second is
what their difference is rounded to. -/
theorem run_within_delay :
    patient.delay = 1 / 2 ∧
      (∀ a ∈ hurriedEdits, Binary64.IsDouble a.time ∧
        patient.Concerns a.event) ∧
      patient.RunsOn hurriedEdits hurriedEdits ∧
      (Session.receiveAll patient {} hurriedEdits).runs = 2 ∧
      ¬hurriedEdits.IsChain fun a b => patient.delay ≤ b.time - a.finish := by
  have hrelevant : ∀ a ∈ hurriedEdits, patient.isRelevant a.event = true := by
    decide +kernel
  have hran : patient.ranOf hurriedEdits = hurriedEdits := by decide +kernel
  refine ⟨rfl, ?_, runsOn_iff_eq.2 hran.symm, by decide +kernel, ?_⟩
  · intro a ha
    refine ⟨?_, Handler.isRelevant_iff.1 (hrelevant a ha)⟩
    simp only [hurriedEdits, List.mem_cons, List.not_mem_nil, or_false] at ha
    rcases ha with rfl | rfl
    · exact Binary64.isDouble_rounded _
    · exact Binary64.isDouble_rounded _
  · decide +kernel

end Watch
end SiteAudit
