import SiteAudit.Config.Value
import SiteAudit.Toml.Error

/-!
# Nested tables and what may still be added to them

A key leads through tables, which are made on the way if they are not there.
Where lists may be entered, a key leads to the last table of a list.

Two kinds of marks keep a file from opening a table twice.  A frozen name is one
that a value was given to as a whole, so that nothing below it may change.  A
declared name is a table with a header of its own or with dotted keys below it,
which must not get another header.
-/

namespace SiteAudit
namespace Toml

open Config

def put (name : String) (v : Value) (t : Table) : Table :=
  if t.any (·.1 == name) then t.map fun entry =>
    if entry.1 == name then (name, v) else entry
  else t ++ [(name, v)]

/-- The table that a value leads into, with the way to put it back: a table
itself or, if lists may be entered, the last table of a list. -/
def inner? (lists : Bool) : Value → Option (Table × (Table → Value))
  | .table t => some (t, .table)
  | .list items =>
      if lists then
        match items.getLast? with
        | some (.table t) =>
            some (t, fun t => .list (items.dropLast ++ [.table t]))
        | _ => none
      else none
  | _ => none

/-- Change the table that a key leads to.  There is no result if something else
is in the way. -/
def alter (lists : Bool) (change : Table → Option Table) :
    Key → Table → Option Table
  | [], t => change t
  | name :: key, t =>
      match t.get? name with
      | none =>
          (alter lists change key []).map fun made => put name (.table made) t
      | some v =>
          match inner? lists v with
          | none => none
          | some (found, back) =>
              (alter lists change key found).map fun changed =>
              put name (back changed) t

/-- The table that a key leads to; it is empty if there is nothing yet. -/
def reach (lists : Bool) : Key → Table → Option Table
  | [], t => some t
  | name :: key, t =>
      match t.get? name with
      | none => some []
      | some v =>
          match inner? lists v with
          | none => none
          | some (found, _) => reach lists key found

def appendTable (key : Key) (t : Table) : Option Table :=
  alter true
    (fun outer =>
      let name := key.getLastD ""
      match outer.get? name with
      | none => some (put name (.list [.table []]) outer)
      | some (.list items) =>
          some (put name (.list (items ++ [.table []])) outer)
      | some _ => none)
    key.dropLast t

structure Marks where
  frozen : List Key := []
  declared : List Key := []
  pending : List Key := []
  deriving DecidableEq, Repr

namespace Marks

def isFrozen (m : Marks) (key : Key) : Bool :=
  m.frozen.any (·.isPrefixOf key)

def isDeclared (m : Marks) (key : Key) : Bool :=
  m.declared.contains key

def freeze (m : Marks) (key : Key) : Marks :=
  { m with frozen := key :: m.frozen }

def declare (m : Marks) (key : Key) : Marks :=
  { m with declared := key :: m.declared }

def postpone (m : Marks) (key : Key) : Marks :=
  { m with pending := key :: m.pending }

def settle (m : Marks) : Marks :=
  { m with declared := m.pending ++ m.declared, pending := [] }

def clear (m : Marks) (key : Key) : Marks :=
  { m with
    frozen := m.frozen.filter (!key.isPrefixOf ·)
    declared := m.declared.filter (!key.isPrefixOf ·) }

end Marks

end Toml
end SiteAudit
