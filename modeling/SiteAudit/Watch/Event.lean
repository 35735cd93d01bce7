import SiteAudit.Path
import SiteAudit.Text.Quoted

/-!
# Events

An event tells of a change to a file or a directory: what kind of change, where,
and for a move where to.  The place is usually a text; it may be a row of raw
bytes, which never names a page.
-/

namespace SiteAudit
namespace Watch

/-- What happened.  The kinds that change no page are one. -/
inductive EventKind
  | created
  | modified
  | moved
  | deleted
  | other
  deriving DecidableEq, Repr

/-- Where an event happened: a text, or raw bytes, which are given by the
characters with their values. -/
inductive Place
  | text (s : String)
  | raw (s : String)
  deriving DecidableEq, Repr

/-- A change to a file or a directory.  An event without destination has an
empty one. -/
structure Event where
  kind : EventKind
  isDirectory : Bool := false
  source : Place
  destination : Place := .text ""
  deriving DecidableEq, Repr

namespace Place

def isEmpty : Place → Bool
  | text s => s == ""
  | raw s => s == ""

def rawChar (mark c : Char) : List Char :=
  if c == '\\' || c == mark then ['\\', c]
  else if c == '\n' then ['\\', 'n']
  else if c == '\r' then ['\\', 'r']
  else if c == '\t' then ['\\', 't']
  else if c.toNat < 32 || 127 ≤ c.toNat then
    '\\' :: 'x' :: Text.hexPadded 2 c.toNat
  else [c]

def display : Place → String
  | text s => s
  | raw s =>
      let mark := Text.quoteMark s.toList
      String.ofList ('b' :: mark :: s.toList.flatMap (rawChar mark) ++ [mark])

end Place

/-- The place by which messages show an event: where a move leads to, or where
the event happened. -/
def Event.shown (e : Event) : String :=
  if e.destination.isEmpty then e.source.display else e.destination.display

end Watch
end SiteAudit
