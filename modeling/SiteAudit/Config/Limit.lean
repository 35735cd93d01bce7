import SiteAudit.Text.Decimal

/-!
# Limits on values

Values may not be arbitrarily large: numerals have a largest number of digits,
both when they are read and when they are written, and values may only be nested
so deep.
-/

namespace SiteAudit
namespace Config

/-- A limit that a value exceeds: the digits of a numeral that is read or
written, or the nesting of a value that is read or written. -/
inductive Limit
  | digitsRead (count : Nat)
  | digitsWritten
  | nestingRead
  | nestingWritten
  deriving DecidableEq, Repr

/-- How much nesting is read; a list takes two units of it, and a table inside a
line takes three. -/
def maxNesting : Nat :=
  988

def maxDepth : Nat :=
  991

def Limit.message : Limit → String
  | digitsRead count =>
      "Exceeds the limit (4300 digits) for integer string conversion: " ++
        "value has " ++ Text.natural count ++
        " digits; use sys.set_int_max_str_digits() to increase the limit"
  | digitsWritten =>
      "Exceeds the limit (4300 digits) for integer string conversion; " ++
        "use sys.set_int_max_str_digits() to increase the limit"
  | nestingRead => "maximum recursion depth exceeded"
  | nestingWritten =>
      "maximum recursion depth exceeded while getting the repr of an object"

end Config
end SiteAudit
