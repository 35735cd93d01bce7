import SiteAudit.Config.Limit
import SiteAudit.Text.Quoted

/-!
# Errors in configuration files

An error has a cause and a place.  The place is kept as the length of the text
that remains, and turned into a line and a column when the error is shown.  A
value that exceeds a limit is refused as a value, not as a piece of the file,
and has no place.
-/

namespace SiteAudit
namespace Toml

abbrev Key :=
  List String

inductive Cause
  | statement
  | textAfterStatement
  | missingEquals
  | keyStart
  | missingTableEnd
  | missingArrayEnd
  | declaredTwice (key : Key)
  | overwritten
  | immutable (key : Key)
  | redefined (key : Key)
  | duplicate (name : String)
  | unclosedTable
  | unclosedArray
  | unterminated
  | missingDelimiter (delimiter : String)
  | illegalInString (c : Char)
  | illegalInText (c : Char)
  | escape
  | hexDigits
  | surrogate
  | moment
  | value
  | exceeded (l : Config.Limit)
  deriving DecidableEq, Repr

/-- An error: its cause, and how much text remains from its place on. -/
structure Error where
  cause : Cause
  remaining : Nat
  deriving DecidableEq, Repr

def Cause.at_ {α : Type} (cause : Cause) (s : List Char) : Except Error α :=
  .error ⟨cause, s.length⟩

def keyText (key : Key) : String :=
  match key with
  | [name] => "(" ++ Text.quoted name ++ ",)"
  | names => "(" ++ ", ".intercalate (names.map Text.quoted) ++ ")"

def Cause.message : Cause → String
  | statement => "Invalid statement"
  | textAfterStatement =>
      "Expected newline or end of document after a statement"
  | missingEquals => "Expected '=' after a key in a key/value pair"
  | keyStart => "Invalid initial character for a key part"
  | missingTableEnd => "Expected ']' at the end of a table declaration"
  | missingArrayEnd => "Expected ']]' at the end of an array declaration"
  | declaredTwice key => "Cannot declare " ++ keyText key ++ " twice"
  | overwritten => "Cannot overwrite a value"
  | immutable key => "Cannot mutate immutable namespace " ++ keyText key
  | redefined key => "Cannot redefine namespace " ++ keyText key
  | duplicate name => "Duplicate inline table key " ++ Text.quoted name
  | unclosedTable => "Unclosed inline table"
  | unclosedArray => "Unclosed array"
  | unterminated => "Unterminated string"
  | missingDelimiter delimiter => "Expected " ++ Text.quoted delimiter
  | illegalInString c => "Illegal character " ++ Text.quoted (String.ofList [c])
  | illegalInText c =>
      "Found invalid character " ++ Text.quoted (String.ofList [c])
  | escape => "Unescaped '\\' in a string"
  | hexDigits => "Invalid hex value"
  | surrogate => "Escaped character is not a Unicode scalar value"
  | moment => "Invalid date or datetime"
  | value => "Invalid value"
  | exceeded l => l.message

def place (before : List Char) : String :=
  "line " ++ Text.natural (before.count '\n' + 1) ++ ", column " ++
    Text.natural ((before.reverse.takeWhile (· != '\n')).length + 1)

def Error.message (e : Error) (s : List Char) : String :=
  e.cause.message ++ " (at " ++
    (if e.remaining = 0 then "end of document"
      else place (s.take (s.length - e.remaining))) ++ ")"

end Toml
end SiteAudit
