import SiteAudit.FileTree
import SiteAudit.Watch.Handler

/-!
# Watching a site

A session runs the check once, and again on every arrival that makes a run.
Failing runs are told of and do not end it.  Changes come from an observer,
which is set on the root with all that is inside, started, and stopped and
joined at the end.
-/

namespace SiteAudit
namespace Watch

inductive ObserverCall
  | schedule (path : String) (recursive : Bool)
  | start
  | stop
  | join
  deriving DecidableEq, Repr

structure Session where
  runs : Nat := 0
  lastRun : Option Rat := none
  output : String := ""
  log : String := ""
  deriving DecidableEq, Repr

def Session.receive (h : Handler) (s : Session) (a : Arrival) : Session :=
  if h.runsOn s.lastRun a then
    { runs := s.runs + 1
      lastRun := h.next s.lastRun a
      output := s.output ++ a.outcome.output
      log := s.log ++ runLog a }
  else s

def Session.receiveAll (h : Handler) (s : Session) (arrivals : List Arrival) :
    Session :=
  arrivals.foldl (receive h) s

def watchLine (root : Path) : String :=
  "[watch] Watching " ++ root.text ++ " for changes...\n"

def Session.begin (root : Path) (first : RunOutcome) : Session :=
  { runs := 1
    output := first.output
    log :=
      watchLine root ++ first.log ++ failureLine "Initial lint failed" first }

def handlerFor (cwd : List String) (root : Path) (delay : Rat) : Handler :=
  ⟨cwd, some (root.resolve cwd), delay⟩

/-- What watching has come to: its session, what was asked of the observer, and
why it broke off if it did. -/
structure Watching where
  session : Session
  observer : List ObserverCall := []
  failure : Option AccessFailure := none
  deriving DecidableEq, Repr

namespace Watching

def ask (w : Watching) (call : ObserverCall) : Watching :=
  { w with observer := w.observer ++ [call] }

def observe (root : Path) (w : Watching) : Watching :=
  (w.ask (.schedule root.text true)).ask .start

def receive (h : Handler) (w : Watching) (a : Arrival) : Watching :=
  { w with session := w.session.receive h a }

/-- Someone interrupts the watching. -/
def interrupt (w : Watching) : Watching :=
  (w.ask .stop).ask .join

end Watching

/-- Watching a root from the first run to the interruption behind the last
arrival.  A root with the null character has no handler, so that nothing comes
after the first run. -/
def watch (cwd : List String) (root : Path) (delay : Rat) (first : RunOutcome)
    (arrivals : List Arrival) :
    Watching :=
  let begun : Watching := { session := .begin root first }
  if root.isUsable then
    (arrivals.foldl (Watching.receive (handlerFor cwd root delay))
      (begun.observe root)).interrupt
  else { begun with failure := some ⟨.nullCharacter, root⟩ }

def usualDelay : Rat :=
  1 / 2

end Watch
end SiteAudit
