import SiteAudit.Json.Decode

/-!
# The grammar of JSON

Which texts denote a value is said by rules that know of no reader and no
writer: how characters may be spelled in a string, what a number looks like, and
where blanks may stand.  A value has many texts.
-/

namespace SiteAudit
namespace Json

def IsBlank (s : List Char) : Prop :=
  ∀ c ∈ s, isSpace c = true

structure IsUnit (n : Nat) (digits : List Char) : Prop where
  four : digits.length = 4
  hexadecimal : ∀ c ∈ digits, Text.isHexDigit c = true
  value : Text.hexNumber digits = n

def shortEscapes : List (Char × Char) :=
  [('"', '"'), ('\\', '\\'), ('/', '/'), ('b', Char.ofNat 8),
   ('f', Char.ofNat 12), ('n', '\n'), ('r', '\r'), ('t', '\t')]

/-- The spellings of a character in a string.  A character beyond the
sixteen-bit ones may be spelled by the two units of a surrogate pair. -/
inductive CharDenotes (c : Char) : List Char → Prop
  | plain (printable : 32 ≤ c.toNat) (quote : c ≠ '"') (backslash : c ≠ '\\') :
      CharDenotes c [c]
  | short {letter : Char} (listed : (letter, c) ∈ shortEscapes) :
      CharDenotes c ['\\', letter]
  | unit {digits : List Char} (spelled : IsUnit c.toNat digits) :
      CharDenotes c ('\\' :: 'u' :: digits)
  | pair {high low : Nat} {first second : List Char} (high_lt : high < 0x400)
      (low_lt : low < 0x400)
      (value : c.toNat = 0x10000 + high * 0x400 + low)
      (spelled_high : IsUnit (0xD800 + high) first)
      (spelled_low : IsUnit (0xDC00 + low) second) :
      CharDenotes c ('\\' :: 'u' :: (first ++ '\\' :: 'u' :: second))

inductive CharsDenote : List Char → List Char → Prop
  | nil : CharsDenote [] []
  | cons {c : Char} {cs s rest : List Char} (head : CharDenotes c s)
      (tail : CharsDenote cs rest) :
      CharsDenote (c :: cs) (s ++ rest)

inductive StringDenotes (t : String) : List Char → Prop
  | quoted {s : List Char} (chars : CharsDenote t.toList s) :
      StringDenotes t ('"' :: (s ++ ['"']))

structure IsDigits (s : List Char) : Prop where
  nonempty : s ≠ []
  decimal : ∀ c ∈ s, Text.isDigit c = true

structure IsWhole (s : List Char) : Prop extends IsDigits s where
  unpadded : s.head? = some '0' → s.length = 1

def minus (negative : Bool) : List Char :=
  if negative then ['-'] else []

inductive FractionDenotes : List Char → List Char → Prop
  | absent : FractionDenotes [] []
  | present {digits : List Char} (isDigits : IsDigits digits) :
      FractionDenotes digits ('.' :: digits)

inductive ExponentDenotes : Option Int → List Char → Prop
  | absent : ExponentDenotes none []
  | signed {mark : Char} {negative : Bool} {digits : List Char}
      (letter : mark = 'e' ∨ mark = 'E')
      (isDigits : IsDigits digits) :
      ExponentDenotes (some (Json.signed negative (Text.numberOf digits)))
        (mark :: (minus negative ++ digits))
  | plus {mark : Char} {digits : List Char} (letter : mark = 'e' ∨ mark = 'E')
      (isDigits : IsDigits digits) :
      ExponentDenotes (some (Text.numberOf digits)) (mark :: '+' :: digits)

/-- The spellings of a number.  What has neither a fraction nor an exponent is
an integer. -/
inductive NumberDenotes : Json → List Char → Prop
  | integer {negative : Bool} {whole : List Char} {n : WritableInt}
      (isWhole : IsWhole whole)
      (value : n.value = signed negative (Text.numberOf whole)) :
      NumberDenotes (integer n) (minus negative ++ whole)
  | decimal {negative : Bool} {whole digits fraction exponent : List Char}
      {e : Option Int}
      (isWhole : IsWhole whole) (isFraction : FractionDenotes digits fraction)
      (isExponent : ExponentDenotes e exponent)
      (inexact : digits ≠ [] ∨ e ≠ none) :
      NumberDenotes (decimal negative (Text.numberOf (whole ++ digits))
        (e.getD 0 - digits.length))
        (minus negative ++ (whole ++ (fraction ++ exponent)))

inductive NameDenotes (name : String) : List Char → Prop
  | padded {before s after : List Char} (isBefore : IsBlank before)
      (isString : StringDenotes name s)
      (isAfter : IsBlank after) : NameDenotes name (before ++ (s ++ after))

mutual

inductive Denotes : Json → List Char → Prop
  | null : Denotes null ['n', 'u', 'l', 'l']
  | true : Denotes (flag true) ['t', 'r', 'u', 'e']
  | false : Denotes (flag false) ['f', 'a', 'l', 's', 'e']
  | number {v : Json} {s : List Char} (isNumber : NumberDenotes v s) :
      Denotes v s
  | text {t : String} {s : List Char} (isString : StringDenotes t s) :
      Denotes (text t) s
  | emptyList {blank : List Char} (isBlank : IsBlank blank) :
      Denotes (list []) ('[' :: (blank ++ [']']))
  | list {vs : List Json} {s : List Char} (items : ItemsDenote vs s) :
      Denotes (list vs) ('[' :: (s ++ [']']))
  | emptyObject {blank : List Char} (isBlank : IsBlank blank) :
      Denotes (object []) ('\x7b' :: (blank ++ ['\x7d']))
  | object {ms : List (String × Json)} {s : List Char}
      (members : MembersDenote ms s) :
      Denotes (object ms) ('\x7b' :: (s ++ ['\x7d']))

inductive IsTextOf : Json → List Char → Prop
  | padded {v : Json} {before s after : List Char} (isBefore : IsBlank before)
      (denotes : Denotes v s)
      (isAfter : IsBlank after) : IsTextOf v (before ++ (s ++ after))

inductive ItemsDenote : List Json → List Char → Prop
  | last {v : Json} {s : List Char} (head : IsTextOf v s) : ItemsDenote [v] s
  | cons {v : Json} {vs : List Json} {s rest : List Char} (head : IsTextOf v s)
      (tail : ItemsDenote vs rest) :
      ItemsDenote (v :: vs) (s ++ ',' :: rest)

inductive MembersDenote : List (String × Json) → List Char → Prop
  | last {name : String} {v : Json} {key s : List Char}
      (isName : NameDenotes name key) (head : IsTextOf v s) :
      MembersDenote [(name, v)] (key ++ ':' :: s)
  | cons {name : String} {v : Json} {ms : List (String × Json)}
      {key s rest : List Char}
      (isName : NameDenotes name key) (head : IsTextOf v s)
      (tail : MembersDenote ms rest) :
      MembersDenote ((name, v) :: ms) (key ++ ':' :: (s ++ ',' :: rest))

end

end Json
end SiteAudit
