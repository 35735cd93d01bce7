import SiteAudit.Number.Binary64
import SiteAudit.Watch.Event

/-!
# Reacting to events

A handler runs the check again when a page has changed, unless the last run
ended less than a delay ago.  A page is a file with a page's ending none of
whose names below the root starts with a dot; outside the root its own name
alone counts.

Readings of the clock and delays are numbers of seconds in the double format,
given by their exact values.  The difference of two readings is rounded to that
format.
-/

namespace SiteAudit
namespace Watch

/-- How a handler tells pages, and how long it waits.  The root is given by its
names, if there is one. -/
structure Handler where
  cwd : List String
  root : Option (List String)
  delay : Rat
  deriving DecidableEq, Repr

/-- What a run leaves behind: what it wrote to the two channels, and why it
failed if it did. -/
structure RunOutcome where
  output : String := ""
  log : String := ""
  failure : Option String := none
  deriving DecidableEq, Repr

/-- An event as it arrives: the reading of the clock, and what a run would do
and how long it would take. -/
structure Arrival where
  event : Event
  time : Rat
  duration : Rat := 0
  outcome : RunOutcome := {}
  deriving DecidableEq, Repr

def pageEndings : List String :=
  [".html", ".htm"]

def isPageName (name : String) : Bool :=
  pageEndings.any fun ending => ending.toList.isSuffixOf name.toList

def isHidden (name : String) : Bool :=
  name.toList.head? == some '.'

namespace Handler

def visibleNames (h : Handler) (p : Path) : List String :=
  let last := p.parts.getLast?.toList
  match h.root with
  | none => last
  | some root => if p.isUsable then
      (Path.below? root (p.resolve h.cwd)).getD last else last

def isPage (h : Handler) : Place → Bool
  | .raw _ => false
  | .text s =>
      let p := Path.ofString s
      s != "" && !(h.visibleNames p).any isHidden && isPageName p.name

def isRelevant (h : Handler) (e : Event) : Bool :=
  e.kind != .other && !e.isDirectory &&
    (h.isPage e.source || (e.kind == .moved && h.isPage e.destination))

def isDue (h : Handler) (lastRun : Option Rat) (time : Rat) : Bool :=
  match lastRun with
  | none => true
  | some last =>
      !decide (Binary64.rounded (time - last) < Binary64.rounded h.delay)

def runsOn (h : Handler) (lastRun : Option Rat) (a : Arrival) : Bool :=
  h.isRelevant a.event && h.isDue lastRun a.time

def next (h : Handler) (lastRun : Option Rat) (a : Arrival) : Option Rat :=
  if h.runsOn lastRun a then some (a.time + a.duration) else lastRun

end Handler

def changeLine (e : Event) : String :=
  "[watch] Change detected in " ++ e.shown ++ "...\n"

def failureLine (label : String) (o : RunOutcome) : String :=
  match o.failure with
  | none => ""
  | some text => "[error] " ++ label ++ ": " ++ text ++ "\n"

def runLog (a : Arrival) : String :=
  changeLine a.event ++ a.outcome.log ++ failureLine "Lint failed" a.outcome

end Watch
end SiteAudit
