import SiteAudit.Text.Alphanumeric
import SiteAudit.Text.Blank
import SiteAudit.Text.Caseless

/-!
# Outline declarations in style sheets

A declaration takes the outline away when it sets the outline, or its width, to
`none` or to zero.  What follows the value must not make another value of it: a
letter, a digit, an underscore, a point or a percent sign would.  A style sheet
with another way to show the focus makes up for that.
-/

namespace SiteAudit
namespace Rules

def continuesCssValue (c : Char) : Bool :=
  Text.isWordChar c || c == '.' || c == '%'

def afterNoOutline? (s : List Char) : Option (List Char) :=
  match Text.afterCaseless? ['n', 'o', 'n', 'e'] s with
  | some rest => some rest
  | none => Text.afterCaseless? ['0'] s

def startsSuppression (s : List Char) : Bool :=
  match Text.afterCaseless? ['o', 'u', 't', 'l', 'i', 'n', 'e'] s with
  | none => false
  | some s1 =>
      let s2 := (Text.afterCaseless? ['-', 'w', 'i', 'd', 't', 'h'] s1).getD s1
      match s2.dropWhile Text.isBlank with
      | ':' :: s3 =>
          match afterNoOutline? (s3.dropWhile Text.isBlank) with
          | some rest => !rest.head?.any continuesCssValue
          | none => false
      | _ => false

/-- Whether a style sheet has a declaration that takes the outline away. -/
def suppressesOutline : List Char → Bool
  | [] => false
  | c :: rest => startsSuppression (c :: rest) || suppressesOutline rest

def replacesOutline (s : List Char) : Bool :=
  Text.occursCaseless ":focus-visible".toList s ||
    Text.occursCaseless "box-shadow".toList s

end Rules
end SiteAudit
