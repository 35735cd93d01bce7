/-!
# Letters without regard to case

A small letter of a pattern is met by itself and by its capital, and three
letters have further forms: the i without a dot and the I with one, the long s,
and the sign of the kelvin.
-/

namespace SiteAudit
namespace Text

def isFormOf (small c : Char) : Bool :=
  c == small || c.toLower == small ||
    (small == 'i' && (c.toNat == 0x130 || c.toNat == 0x131)) ||
    (small == 's' && c.toNat == 0x17F) ||
    (small == 'k' && c.toNat == 0x212A)

/-- What follows a word at the start of a text, in any case; the word is given
in small letters. -/
def afterCaseless? : List Char → List Char → Option (List Char)
  | [], s => some s
  | _ :: _, [] => none
  | p :: ps, c :: s => if isFormOf p c then afterCaseless? ps s else none

/-- Whether a word occurs in a text in any case; the word is given in small
letters. -/
def occursCaseless (word : List Char) : List Char → Bool
  | [] => word.isEmpty
  | c :: rest =>
      (afterCaseless? word (c :: rest)).isSome || occursCaseless word rest

end Text
end SiteAudit
