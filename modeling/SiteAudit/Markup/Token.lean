/-!
# Tokens and lexemes

Reading markup cuts it into lexemes.  A lexeme keeps the piece of markup that it
was read from, so that the lexemes of a text put together give the text again,
and says what that piece means, if it means anything.

Raw text elements switch the reading mode: behind their start tag everything is
text up to their end tag.
-/

namespace SiteAudit
namespace Markup

/-- What a piece of markup means. -/
inductive Token
  | text (content : List Char)
  | characterData (content : List Char)
  | remark (content : List Char)
  | startTag (name : String) (attributes : List (String × String))
      (closed : Bool)
  | endTag (name : String)
  deriving DecidableEq, Repr

structure Lexeme where
  source : List Char
  token : Option Token
  deriving DecidableEq, Repr

/-- How the text ahead is to be read. -/
inductive Mode
  | markup
  | raw (element : String)
  deriving DecidableEq, Repr

/-- The result of reading one lexeme at the start of a text: how many characters
it takes, what it means, and how to go on behind it.  Every lexeme takes at
least one character. -/
structure Reading where
  used : Nat
  token : Option Token
  mode : Mode
  used_pos : 0 < used := by omega

def rawElements : List String :=
  ["script", "style"]

def Reading.text (content : List Char) (mode : Mode) : Reading where
  used := max 1 content.length
  token := some (.text content)
  mode := mode

theorem length_drop_lt {c : Char} {s : List Char} {n : Nat} (h : 0 < n) :
    ((c :: s).drop n).length < (c :: s).length := by
  simp only [List.length_drop, List.length_cons]
  omega

end Markup
end SiteAudit
