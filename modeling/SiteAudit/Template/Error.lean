import SiteAudit.Template.Value
import SiteAudit.Text.Hex

/-!
# Complaints about templates

A template may be malformed, may ask for a value or a part of a value that is
not there, or may ask for a layout that its value does not have.
-/

namespace SiteAudit
namespace Template

inductive Error
  | loneOpening
  | loneClosing
  | unclosedField
  | openingInName
  | missingConversion
  | textAfterConversion
  | unclosedLayout
  | positionalField
  | oversizedNumber
  | tooDeep
  | unknownConversion (c : Char)
  | noValue (name : String)
  | emptyPart
  | unclosedBracket
  | textAfterBracket
  | noPart (v : Value) (part : String)
  | noItems (v : Value)
  | noNumber
  | noSuchItem
  | malformedLayout (layout : String) (kind : Kind)
  | missingPrecision
  | bothSeparators
  | separatorForCode (separator code : Char)
  | unknownCode (code : Char) (kind : Kind)
  | signForText (space : Bool)
  | zeroCoercion (kind : Kind)
  | alternateForText
  | alignmentForText
  | precisionForNumber
  | signForCharacter
  | alternateForCharacter
  | noCharacter
  | oversizedCharacter
  | oversizedReal
  | oversizedPrecision
  | oversizedText
  | layoutForKind (kind : Kind)
  deriving DecidableEq, Repr

def codeOf (c : Char) : String :=
  let digits := (Text.hexPadded 8 c.toNat).dropWhile (· == '0')
  "\\x" ++ String.ofList (if digits.isEmpty then ['0'] else digits)

/-- A conversion in a complaint: as it is, or by its code if it is no visible
ASCII character. -/
def shownConversion (c : Char) : String :=
  if 32 < c.toNat && c.toNat < 127 then c.toString else codeOf c

/-- A code of a layout in a complaint: as it is, or by its code if it is blank
or no ASCII character. -/
def shownCode (c : Char) : String :=
  if 32 < c.toNat && c.toNat < 128 then c.toString else codeOf c

def Value.owner : Value → String
  | .kind k => "type object '" ++ k.name ++ "'"
  | v => "'" ++ v.kindOf.name ++ "' object"

def Value.itemOwner : Value → String
  | .kind k => "type '" ++ k.name ++ "'"
  | v => "'" ++ v.kindOf.name ++ "' object"

def Error.message : Error → String
  | loneOpening => "Single '\x7b' encountered in format string"
  | loneClosing => "Single '\x7d' encountered in format string"
  | unclosedField => "expected '\x7d' before end of string"
  | openingInName => "unexpected '\x7b' in field name"
  | missingConversion => "end of string while looking for conversion specifier"
  | textAfterConversion => "expected ':' after conversion specifier"
  | unclosedLayout => "unmatched '\x7b' in format spec"
  | positionalField => "Format string contains positional fields"
  | oversizedNumber => "Too many decimal digits in format string"
  | tooDeep => "Max string recursion exceeded"
  | unknownConversion c => "Unknown conversion specifier " ++ shownConversion c
  | noValue name => name
  | emptyPart => "Empty attribute in format string"
  | unclosedBracket => "Missing ']' in format string"
  | textAfterBracket =>
      "Only '.' or '[' may follow ']' in format field specifier"
  | noPart v part => v.owner ++ " has no attribute '" ++ part ++ "'"
  | noItems v => v.itemOwner ++ " is not subscriptable"
  | noNumber => "string indices must be integers, not 'str'"
  | noSuchItem => "string index out of range"
  | malformedLayout layout kind =>
      "Invalid format specifier '" ++ layout ++ "' for object of type '" ++
        kind.name ++ "'"
  | missingPrecision => "Format specifier missing precision"
  | bothSeparators => "Cannot specify both ',' and '_'."
  | separatorForCode separator code =>
      "Cannot specify '" ++ separator.toString ++ "' with '" ++
        shownCode code ++ "'."
  | unknownCode code kind =>
      "Unknown format code '" ++ shownCode code ++ "' for object of type '" ++
        kind.name ++ "'"
  | signForText space =>
      (if space then "Space"
        else "Sign") ++ " not allowed in string format specifier"
  | zeroCoercion kind =>
      "Negative zero coercion (z) not allowed in " ++
        (if kind = .text then "string" else "integer") ++ " format specifier"
  | alternateForText =>
      "Alternate form (#) not allowed in string format specifier"
  | alignmentForText => "'=' alignment not allowed in string format specifier"
  | precisionForNumber => "Precision not allowed in integer format specifier"
  | signForCharacter => "Sign not allowed with integer format specifier 'c'"
  | alternateForCharacter =>
      "Alternate form (#) not allowed with integer format specifier 'c'"
  | noCharacter => "%c arg not in range(0x110000)"
  | oversizedCharacter => "Python int too large to convert to C long"
  | oversizedReal => "int too large to convert to float"
  | oversizedPrecision => "precision too big"
  | oversizedText => ""
  | layoutForKind kind =>
      "unsupported format string passed to " ++ kind.name ++ ".__format__"

end Template
end SiteAudit
