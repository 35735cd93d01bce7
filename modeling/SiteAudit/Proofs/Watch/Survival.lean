import SiteAudit.Proofs.Watch.Debounce

/-!
# Watching outlives failing runs

Without a delay, every event that concerns the handler makes a run, and a run
that fails is told of in one line and changes nothing else.  Whatever fails, the
observer is set on the root and started before the first event, and stopped and
joined after the last one.
-/

namespace SiteAudit
namespace Watch

namespace Handler

variable (h : Handler)

instance (e : Event) : Decidable (h.Concerns e) :=
  decidable_of_iff _ isRelevant_iff

def changes (arrivals : List Arrival) : List Arrival :=
  arrivals.filter fun a => h.Concerns a.event

/-- What the clock reads while a row arrives, if each arrival that concerns the
handler makes a run: it is read before the run and after it. -/
def readings (arrivals : List Arrival) : List Rat :=
  (h.changes arrivals).flatMap fun a => [a.time, a.finish]

variable {h}

theorem changes_append (before after : List Arrival) :
    h.changes (before ++ after) = h.changes before ++ h.changes after :=
  List.filter_append _ _

theorem changes_singleton_of_concerns {a : Arrival}
    (concerns : h.Concerns a.event) : h.changes [a] = [a] := by
  simp [changes, concerns]

theorem changes_singleton_of_not_concerns {a : Arrival}
    (foreign : ¬h.Concerns a.event) : h.changes [a] = [] := by
  simp [changes, foreign]

theorem readings_append (before after : List Arrival) :
    h.readings (before ++ after) = h.readings before ++ h.readings after := by
  rw [readings, changes_append, List.flatMap_append]
  rfl

theorem mem_readings_of_lastFinish {arrivals : List Arrival} {last : Rat}
    (hlast : last ∈ lastFinish (h.changes arrivals)) :
    last ∈ h.readings arrivals := by
  rcases Option.map_eq_some_iff.1 hlast with ⟨a, ha, rfl⟩
  exact List.mem_flatMap.2 ⟨a, List.mem_of_getLast? ha, by simp⟩

theorem rested_of_steady (impatient : h.delay = 0) {arrivals : List Arrival}
    {a : Arrival} (concerns : h.Concerns a.event)
    (steady : (h.readings (arrivals ++ [a])).Pairwise (· ≤ ·)) :
    h.Rested (lastFinish (h.changes arrivals)) a.time := by
  apply rested_of_delay_le
  intro last hlast
  rw [readings_append, List.pairwise_append] at steady
  have htime : a.time ∈ h.readings [a] := by
    simp [readings, changes_singleton_of_concerns concerns]
  have hle : last ≤ a.time :=
    steady.2.2 last (mem_readings_of_lastFinish hlast) a.time htime
  rw [impatient]
  exact (Rat.le_iff_sub_nonneg _ _).1 hle

/-- Where there is no delay, and the clock does not go back, everything that
concerns the handler makes a run. -/
theorem runsOn_changes (impatient : h.delay = 0) (arrivals : List Arrival)
    (steady : (h.readings arrivals).Pairwise (· ≤ ·)) :
    h.RunsOn arrivals (h.changes arrivals) := by
  induction arrivals using List.reverseRecOn with
  | nil => exact .nil
  | append_singleton arrivals a ih =>
      have hbefore : h.RunsOn arrivals (h.changes arrivals) := by
        apply ih
        rw [readings_append, List.pairwise_append] at steady
        exact steady.1
      rw [changes_append]
      by_cases concerns : h.Concerns a.event
      · rw [changes_singleton_of_concerns concerns]
        exact .run hbefore concerns (rested_of_steady impatient concerns steady)
      · rw [changes_singleton_of_not_concerns concerns, List.append_nil]
        exact .drop hbefore fun hrun => concerns hrun.1

end Handler

/-!
## Watching as a whole
-/

theorem foldl_receive (h : Handler) (w : Watching) (arrivals : List Arrival) :
    arrivals.foldl (Watching.receive h) w =
      { w with session := w.session.receiveAll h arrivals } := by
  induction arrivals generalizing w with
  | nil => rfl
  | cons a arrivals ih =>
      rw [List.foldl_cons, ih]
      rfl

/-- Nothing that arrives has a say in what is asked of the observer. -/
theorem watch_eq {cwd : List String} {root : Path}
    (usable : root.isUsable = true) (delay : Rat) (first : RunOutcome)
    (arrivals : List Arrival) :
    watch cwd root delay first arrivals =
      { session :=
          (Session.begin root first).receiveAll (handlerFor cwd root delay)
            arrivals
        observer := [.schedule root.text true, .start, .stop, .join] } := by
  simp only [watch, usable, if_true, foldl_receive]
  rfl

theorem log_begin (root : Path) (first : RunOutcome) :
    (Session.begin root first).log =
      "[watch] Watching " ++ root.text ++ " for changes...\n" ++ first.log ++
        first.failure.elim "" fun text =>
          "[error] Initial lint failed: " ++ text ++ "\n" := by
  unfold Session.begin failureLine
  cases first.failure with
  | none => rfl
  | some text => rfl

theorem runLog_eq (a : Arrival) :
    runLog a =
      "[watch] Change detected in " ++ a.event.shown ++ "...\n" ++
        a.outcome.log ++
        a.outcome.failure.elim "" fun text =>
          "[error] Lint failed: " ++ text ++ "\n" := by
  unfold runLog failureLine
  cases a.outcome.failure with
  | none => rfl
  | some text => rfl

theorem watch_outlives_failures (cwd : List String) (root : Path)
    (usable : root.isUsable = true) (first : RunOutcome)
    (arrivals : List Arrival)
    (steady :
      ((handlerFor cwd root 0).readings arrivals).Pairwise (· ≤ ·)) :
    let changes := (handlerFor cwd root 0).changes arrivals
    watch cwd root 0 first arrivals =
      { session :=
          { runs := 1 + changes.length
            lastRun := changes.getLast?.map Arrival.finish
            output :=
              first.output ++ String.join (changes.map (·.outcome.output))
            log :=
              "[watch] Watching " ++ root.text ++ " for changes...\n" ++
                first.log ++
                (first.failure.elim "" fun text =>
                  "[error] Initial lint failed: " ++ text ++ "\n") ++
                String.join (changes.map fun a =>
                  "[watch] Change detected in " ++ a.event.shown ++ "...\n" ++
                    a.outcome.log ++
                    a.outcome.failure.elim "" fun text =>
                      "[error] Lint failed: " ++ text ++ "\n") }
        observer := [.schedule root.text true, .start, .stop, .join]
        failure := none } := by
  intro changes
  have impatient : (handlerFor cwd root 0).delay = 0 := rfl
  have hran : (handlerFor cwd root 0).RunsOn arrivals changes :=
    Handler.runsOn_changes impatient arrivals steady
  have fresh : (Session.begin root first).lastRun = none := rfl
  have hsession :
      (Session.begin root first).receiveAll (handlerFor cwd root 0) arrivals =
        (Session.begin root first).after changes :=
    receiveAll_of_runsOn fresh hran
  rw [watch_eq usable, hsession]
  rw [Session.after, log_begin, funext runLog_eq]
  rfl

def busyArrivals : List Arrival :=
  [⟨⟨.modified, false, .text "site/style.css", .text ""⟩, 5, 0, {}⟩,
   ⟨⟨.modified, false, .text "site/a.html", .text ""⟩, 0, 1 / 4,
     ⟨"", "", some "disk gone"⟩⟩,
   ⟨⟨.modified, true, .text "site/a.html", .text ""⟩, 0, 0, {}⟩,
   ⟨⟨.moved, false, .text "site/a.tmp", .text "site/a.html"⟩, 1 / 4, 0,
     ⟨"report\n", "[info] Checking\n", none⟩⟩]

theorem watch_outlives_disk_failures :
    let root : Path := ⟨.relative, ["site"]⟩
    root.isUsable = true ∧
    ((handlerFor ["w"] root 0).readings busyArrivals).Pairwise (· ≤ ·) ∧
    watch ["w"] root 0 ⟨"", "", some "disk gone"⟩ busyArrivals =
      { session :=
          { runs := 3
            lastRun := some (1 / 4)
            output := "report\n"
            log :=
              "[watch] Watching site for changes...\n" ++
                "[error] Initial lint failed: disk gone\n" ++
                "[watch] Change detected in site/a.html...\n" ++
                "[error] Lint failed: disk gone\n" ++
                "[watch] Change detected in site/a.html...\n" ++
                "[info] Checking\n" }
        observer := [.schedule "site" true, .start, .stop, .join] } := by
  intro root
  have usable : root.isUsable = true := by decide
  have steady :
      ((handlerFor ["w"] root 0).readings busyArrivals).Pairwise (· ≤ ·) := by
    decide +kernel
  refine ⟨usable, steady, ?_⟩
  rw [watch_outlives_failures ["w"] root usable
    ⟨"", "", some "disk gone"⟩ busyArrivals steady]
  decide +kernel

end Watch
end SiteAudit
