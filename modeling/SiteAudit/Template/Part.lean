import SiteAudit.Template.Error
import SiteAudit.Text.Digit
import SiteAudit.Text.Search

/-!
# Parts of values

Behind the name of a value a field may lead to a part of it: a point and the
name of the part, or an item in square brackets.  Texts have characters as
items, counted from zero.  Numbers have a real and an imaginary part, a
numerator and a denominator; a truth value counts as zero or one.  Every value
has its kind, and a kind has a name.
-/

namespace SiteAudit
namespace Template

def maxNumber : Nat :=
  9223372036854775807

/-- The number that a row of digits stands for, behind digits that stand for
`n`; none if another character comes before the number gets too large. -/
def countFrom (n : Nat) : List Char → Except Error (Option Nat)
  | [] => .ok (some n)
  | c :: s =>
      match Text.digitValue? c with
      | none => .ok none
      | some d => if maxNumber < 10 * n + d then .error .oversizedNumber
          else countFrom (10 * n + d) s

def readCount (s : List Char) : Except Error (Option Nat) :=
  if s.isEmpty then .ok none else countFrom 0 s

def Kind.description : Kind → Option String
  | text => some
      ("str(object='') -> str\nstr(bytes_or_buffer[, encoding[, errors]]) -> str\n\n" ++
       "Create a new string object from the given object. If encoding or\n" ++
       "errors is specified, then the object must expose a data buffer\n" ++
       "that will be decoded using the given encoding and error handler.\n" ++
       "Otherwise, returns the result of object.__str__() (if defined)\n" ++
       "or repr(object).\n" ++
       "encoding defaults to sys.getdefaultencoding().\n" ++
       "errors defaults to 'strict'.")
  | number => some
      ("int([x]) -> integer\nint(x, base=10) -> integer\n\n" ++
       "Convert a number or string to an integer, or return 0 if no arguments\n" ++
       "are given.  If x is a number, return x.__int__().  For floating point\n" ++
       "numbers, this truncates towards zero.\n\n" ++
       "If x is not a number or if base is given, then x must be a string,\n" ++
       "bytes, or bytearray instance representing an integer literal in the\n" ++
       "given base.  The literal can be preceded by '+' or '-' and be surrounded\n" ++
       "by whitespace.  The base defaults to 10.  Valid bases are 0 and 2-36.\n" ++
       "Base 0 means to interpret the base from the string as an integer literal.\n" ++
       ">>> int('0b100', base=0)\n4")
  | flag => some
      ("bool(x) -> bool\n\n" ++
       "Returns True when the argument x is true, False otherwise.\n" ++
       "The builtins True and False are the only two instances of the class bool.\n" ++
       "The class bool is a subclass of the class int, and cannot be subclassed.")
  | null => none
  | sort =>
      some ("type(object) -> the object's type\n" ++
        "type(name, bases, dict, **kwds) -> a new type")

namespace Value

def number? : Value → Option WritableInt
  | number n => some n
  | flag b => some (if b then 1 else 0)
  | _ => none

def numberPart? (n : WritableInt) (name : String) : Option Value :=
  if name == "real" || name == "numerator" then some (.number n)
  else if name == "imag" then some (.number 0)
  else if name == "denominator" then some (.number 1)
  else none

def kindPart? (k : Kind) (name : String) : Option Value :=
  if name == "__name__" || name == "__qualname__" then some (.text k.name)
  else if name == "__module__" then some (.text "builtins")
  else none

/-- What is said about a value: what is said about its kind, or about the kind
that it is. -/
def description : Value → Value
  | kind k => (k.description.map text).getD null
  | v => (v.kindOf.description.map text).getD null

def part? (v : Value) (name : String) : Option Value :=
  if name == "__class__" then some (.kind v.kindOf)
  else if name == "__doc__" then some v.description
  else
    match v with
    | kind k => kindPart? k name
    | v => v.number?.bind (numberPart? · name)

def part (v : Value) (name : String) : Except Error Value :=
  match v.part? name with
  | some w => .ok w
  | none => .error (.noPart v name)

/-- The item of a value at a place; without a place there is none. -/
def item (v : Value) (place : Option Nat) : Except Error Value :=
  match v with
  | text s =>
      match place with
      | none => .error .noNumber
      | some i =>
          match s.toList[i]? with
          | some c => .ok (.text c.toString)
          | none => .error .noSuchItem
  | v => .error (.noItems v)

end Value

def isPartName (c : Char) : Bool :=
  !(c == '.' || c == '[')

def follow (v : Value) (s : List Char) : Except Error Value :=
  match s with
  | [] => .ok v
  | c :: rest =>
      if c == '.' then
        let name := rest.takeWhile isPartName
        if name.isEmpty then .error .emptyPart
        else
          match v.part (String.ofList name) with
          | .error e => .error e
          | .ok w => follow w (rest.dropWhile isPartName)
      else if c == '[' then
        match _h : Text.cutAt? (· == ']') rest with
        | none => .error .unclosedBracket
        | some (key, _, behind) =>
            match readCount key with
            | .error e => .error e
            | .ok place =>
                if key.isEmpty then .error .emptyPart
                else
                  match v.item place with
                  | .error e => .error e
                  | .ok w => follow w behind
      else .error .textAfterBracket
termination_by s.length
decreasing_by
  · have := (List.dropWhile_suffix isPartName (l := rest)).length_le
    simp only [List.length_cons]
    omega
  · have := congrArg List.length (Text.append_of_cutAt? _h)
    simp only [List.length_append, List.length_cons] at this ⊢
    omega

end Template
end SiteAudit
