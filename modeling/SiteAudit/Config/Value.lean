import SiteAudit.Config.Limit
import SiteAudit.Config.Moment
import SiteAudit.Number.Shortest
import SiteAudit.Text.Quoted

/-!
# Values of settings

A configuration holds values of several kinds, nested to any depth.  A value
within the limits has a plain text; inside lists and tables texts are quoted and
moments show their parts.
-/

namespace SiteAudit
namespace Config

inductive Value
  | null
  | flag (b : Bool)
  | integer (n : Int)
  | real (x : Binary64)
  | text (s : String)
  | moment (m : Moment)
  | list (items : List Value)
  | table (entries : List (String × Value))
  deriving Inhabited, Repr

abbrev Table :=
  List (String × Value)

namespace Value

def integerText (n : Int) : Except Limit String :=
  if Text.maxDigits < (Text.digitsOf n.natAbs).length then .error .digitsWritten
    else .ok (Text.integer n)

mutual

/-- The text of a value inside others; `depth` is how deep it may be nested. -/
def quoted (depth : Nat) : Value → Except Limit String
  | null => .ok "None"
  | flag b => .ok (if b then "True" else "False")
  | integer n => integerText n
  | real x => .ok x.text
  | text s => .ok (Text.quoted s)
  | moment m => .ok m.details
  | list items =>
      if depth = 0 then .error .nestingWritten
      else do return "[" ++
        ", ".intercalate (← quotedItems (depth - 1) items) ++ "]"
  | table entries =>
      if depth = 0 then .error .nestingWritten
      else do return "\x7b" ++
        ", ".intercalate (← quotedEntries (depth - 1) entries) ++ "\x7d"

def quotedItems (depth : Nat) : List Value → Except Limit (List String)
  | [] => .ok []
  | v :: vs => do return (← v.quoted depth) :: (← quotedItems depth vs)

def quotedEntries (depth : Nat) :
    List (String × Value) → Except Limit (List String)
  | [] => .ok []
  | (name, v) :: entries => do
      return (Text.quoted name ++ ": " ++ (← v.quoted depth)) ::
        (← quotedEntries depth entries)

end

def display : Value → Except Limit String
  | text s => .ok s
  | moment m => .ok m.text
  | v => v.quoted maxDepth

end Value

def Table.get? (t : Table) (name : String) : Option Value :=
  t.lookup name

end Config
end SiteAudit
