import SiteAudit.Text.Decimal
import SiteAudit.Text.Quoted

/-!
# Rejected markup

Reading recovers from nearly every mistake.  Three things it does not accept: a
marked section whose keyword is unknown, a marked section without a keyword, and
a decimal character reference with too many digits.
-/

namespace SiteAudit
namespace Markup

inductive Rejection
  | unknownKeyword (keyword : List Char)
  | missingKeyword (context : List Char)
  | oversizedNumber (digits : Nat)
  deriving DecidableEq, Repr

def oversizedMessage (digits : Nat) : String :=
  "Exceeds the limit (4300 digits) for integer string conversion: value has " ++
    Text.natural digits ++
    " digits; use sys.set_int_max_str_digits() to increase the limit"

namespace Rejection

def detail : Rejection → String
  | unknownKeyword keyword =>
      "unknown status keyword " ++ String.ofList (Text.quoteChars keyword) ++
        " in marked section"
  | missingKeyword context =>
      "expected name token at " ++ String.ofList (Text.quoteChars context)
  | oversizedNumber digits => oversizedMessage digits

def message : Rejection → String
  | oversizedNumber digits => "ValueError: " ++ oversizedMessage digits
  | r =>
      "ParserRejectedMarkup: The markup you provided was rejected by the " ++
        "parser. Trying a different parser or a different encoding may help." ++
        "\n\nOriginal exception(s) from parser:\n AssertionError: " ++
        r.detail

end Rejection

end Markup
end SiteAudit
