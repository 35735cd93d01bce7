import SiteAudit.Text.Decimal
import SiteAudit.Text.Quoted

/-!
# Values for templates

A template is filled with texts, numbers, truth values, or nothing.  A value has
a plain text and a quoted text; the two differ for texts only.  The kind of a
value is a value itself.
-/

namespace SiteAudit
namespace Template

/-- The kinds of values; `sort` is the kind of the kinds. -/
inductive Kind
  | text
  | number
  | flag
  | null
  | sort
  deriving DecidableEq, Repr

def Kind.name : Kind → String
  | text => "str"
  | number => "int"
  | flag => "bool"
  | null => "NoneType"
  | sort => "type"

inductive Value
  | text (s : String)
  | number (n : WritableInt)
  | flag (b : Bool)
  | null
  | kind (k : Kind)
  deriving DecidableEq, Repr

namespace Value

def display : Value → String
  | text s => s
  | number n => n.text
  | flag b => if b then "True" else "False"
  | null => "None"
  | kind k => "<class '" ++ k.name ++ "'>"

def quote : Value → String
  | text s => Text.quoted s
  | v => v.display

def kindOf : Value → Kind
  | text _ => .text
  | number _ => .number
  | flag _ => .flag
  | null => .null
  | kind _ => .sort

end Value

end Template
end SiteAudit
