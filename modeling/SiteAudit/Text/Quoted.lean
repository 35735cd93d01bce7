import SiteAudit.Text.Hex
import SiteAudit.Text.Printable

/-!
# Quoted text

Messages show a piece of text in quotes, so that blanks and controls in it can
be seen.  Single quotes are used unless the text holds a single quote and no
double quote.  Inside, a backslash and the chosen mark are escaped, the three
common controls have short escapes, and what else has no visible form is written
by its code point.
-/

namespace SiteAudit
namespace Text

def quoteMark (s : List Char) : Char :=
  if s.contains '\'' && !s.contains '"' then '"' else '\''

def quoteChar (mark c : Char) : List Char :=
  if c == '\\' || c == mark then ['\\', c]
  else if c == '\n' then ['\\', 'n']
  else if c == '\r' then ['\\', 'r']
  else if c == '\t' then ['\\', 't']
  else if isPrintable c then [c]
  else if c.toNat < 0x100 then '\\' :: 'x' :: hexPadded 2 c.toNat
  else if c.toNat < 0x10000 then '\\' :: 'u' :: hexPadded 4 c.toNat
  else '\\' :: 'U' :: hexPadded 8 c.toNat

def quoteChars (s : List Char) : List Char :=
  let mark := quoteMark s
  mark :: s.flatMap (quoteChar mark) ++ [mark]

def quoted (s : String) : String :=
  String.ofList (quoteChars s.toList)

end Text
end SiteAudit
