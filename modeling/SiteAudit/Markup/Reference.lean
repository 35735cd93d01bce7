import SiteAudit.Markup.Reference.CapitalAtoM
import SiteAudit.Markup.Reference.CapitalNtoZ
import SiteAudit.Markup.Reference.SmallAtoF
import SiteAudit.Markup.Reference.SmallGtoN
import SiteAudit.Markup.Reference.SmallOtoZ
import SiteAudit.Markup.Rejection
import SiteAudit.Text.Hex

/-!
# Character references

A reference stands for a piece of text, by a name or by a number.  Running text
and attribute values follow different rules.  In running text a name needs no
semicolon, and a number outside the code points is replaced.  In an attribute
value a name without a semicolon must be one of the old names, where the longest
old name that the text starts with counts, and a number that no document may use
stands for nothing.

Decimal numerals beyond a fixed length are rejected in both places.
-/

namespace SiteAudit
namespace Markup
namespace Reference

def namesStartingWith : Char → List (String × String)
  | 'A' => namesCapitalA
  | 'B' => namesCapitalB
  | 'C' => namesCapitalC
  | 'D' => namesCapitalD
  | 'E' => namesCapitalE
  | 'F' => namesCapitalF
  | 'G' => namesCapitalG
  | 'H' => namesCapitalH
  | 'I' => namesCapitalI
  | 'J' => namesCapitalJ
  | 'K' => namesCapitalK
  | 'L' => namesCapitalL
  | 'M' => namesCapitalM
  | 'N' => namesCapitalN
  | 'O' => namesCapitalO
  | 'P' => namesCapitalP
  | 'Q' => namesCapitalQ
  | 'R' => namesCapitalR
  | 'S' => namesCapitalS
  | 'T' => namesCapitalT
  | 'U' => namesCapitalU
  | 'V' => namesCapitalV
  | 'W' => namesCapitalW
  | 'X' => namesCapitalX
  | 'Y' => namesCapitalY
  | 'Z' => namesCapitalZ
  | 'a' => namesSmallA
  | 'b' => namesSmallB
  | 'c' => namesSmallC
  | 'd' => namesSmallD
  | 'e' => namesSmallE
  | 'f' => namesSmallF
  | 'g' => namesSmallG
  | 'h' => namesSmallH
  | 'i' => namesSmallI
  | 'j' => namesSmallJ
  | 'k' => namesSmallK
  | 'l' => namesSmallL
  | 'm' => namesSmallM
  | 'n' => namesSmallN
  | 'o' => namesSmallO
  | 'p' => namesSmallP
  | 'q' => namesSmallQ
  | 'r' => namesSmallR
  | 's' => namesSmallS
  | 't' => namesSmallT
  | 'u' => namesSmallU
  | 'v' => namesSmallV
  | 'w' => namesSmallW
  | 'x' => namesSmallX
  | 'y' => namesSmallY
  | 'z' => namesSmallZ
  | _ => []

def expansion? : List Char → Option (List Char)
  | [] => none
  | c :: rest =>
      ((namesStartingWith c).lookup (String.ofList (c :: rest))).map
        String.toList

/-- The old names, which attribute values accept without a semicolon. -/
def oldNames : List String :=
  ["AElig", "AMP", "Aacute", "Acirc", "Agrave", "Aring", "Atilde", "Auml",
   "COPY", "Ccedil", "ETH", "Eacute", "Ecirc", "Egrave", "Euml", "GT", "Iacute",
   "Icirc", "Igrave", "Iuml", "LT", "Ntilde", "Oacute", "Ocirc", "Ograve",
   "Oslash", "Otilde", "Ouml", "QUOT", "REG", "THORN", "Uacute", "Ucirc",
   "Ugrave", "Uuml", "Yacute", "aacute", "acirc", "acute", "aelig", "agrave",
   "amp", "aring", "atilde", "auml", "brvbar", "ccedil", "cedil", "cent",
   "copy", "curren", "deg", "divide", "eacute", "ecirc", "egrave", "eth",
   "euml", "frac12", "frac14", "frac34", "gt", "iacute", "icirc", "iexcl",
   "igrave", "iquest", "iuml", "laquo", "lt", "macr", "micro", "middot", "nbsp",
   "not", "ntilde", "oacute", "ocirc", "ograve", "ordf", "ordm", "oslash",
   "otilde", "ouml", "para", "plusmn", "pound", "quot", "raquo", "reg", "sect",
   "shy", "sup1", "sup2", "sup3", "szlig", "thorn", "times", "uacute", "ucirc",
   "ugrave", "uml", "uuml", "yacute", "yen", "yuml"]

def oldExpansion? (name : List Char) : Option (List Char) :=
  if oldNames.contains (String.ofList name) then expansion? name else none

/-- The characters that the numbers from 0x80 to 0x9F stand for. -/
def upperControls : List Nat :=
  [0x20AC, 0x81, 0x201A, 0x192, 0x201E, 0x2026, 0x2020, 0x2021, 0x2C6, 0x2030,
   0x160, 0x2039, 0x152, 0x8D, 0x17D, 0x8F, 0x90, 0x2018, 0x2019, 0x201C,
   0x201D, 0x2022, 0x2013, 0x2014, 0x2DC, 0x2122, 0x161, 0x203A, 0x153, 0x9D,
   0x17E, 0x178]

def replacement : Char :=
  Char.ofNat 0xFFFD

def isScalar (n : Nat) : Bool :=
  n < 0xD800 || (0xDFFF < n && n ≤ 0x10FFFF)

def charOf (n : Nat) : Char :=
  if 0x80 ≤ n && n ≤ 0x9F then Char.ofNat (upperControls.getD (n - 0x80) n)
    else Char.ofNat n

def numberInText (n : Nat) : Char :=
  if n == 0 || !isScalar n then replacement else charOf n

/-- The code points that a document must not use. -/
def isForbidden (n : Nat) : Bool :=
  (1 ≤ n && n ≤ 8) || n == 0xB || (0xE ≤ n && n ≤ 0x1F) || n == 0x7F ||
    (0xFDD0 ≤ n && n ≤ 0xFDEF) ||
    n % 0x10000 == 0xFFFE || n % 0x10000 == 0xFFFF

def numberInValue (n : Nat) : List Char :=
  if n == 0 || !isScalar n then [replacement]
  else if isForbidden n then []
  else [charOf n]

def decimal (digits : List Char) : Except Rejection Nat :=
  if Text.maxDigits < digits.length then .error (.oversizedNumber digits.length)
  else .ok (digits.foldl (fun n c => 10 * n + (c.toNat - 48)) 0)

/-- The longest of the beginnings of a text, from `n` characters down to two,
that is an old name: what it stands for, and its length. -/
def longestOldName? (s : List Char) : Nat → Option (List Char × Nat)
  | 0 => none
  | n + 1 =>
      if n = 0 then none
      else
        match oldExpansion? (s.take (n + 1)) with
        | some text => some (text, n + 1)
        | none => longestOldName? s n

/-- What a name in an attribute value stands for; the flag says whether a
semicolon closes it. -/
def namedInValue (name : List Char) (closed : Bool) : List Char :=
  let tail := if closed then [';'] else []
  match if closed then expansion? name else oldExpansion? name with
  | some text => text
  | none =>
      match longestOldName? name (if closed then name.length
        else name.length - 1) with
      | some (text, n) => text ++ name.drop n ++ tail
      | none => '&' :: name ++ tail

def isNameInValue (c : Char) : Bool :=
  !(c == '\t' || c == '\n' || c.toNat == 0xC || c == ' ' || c == '<' ||
    c == '&' || c == '#' || c == ';')

def dropSemicolon : List Char → Bool × List Char
  | ';' :: rest => (true, rest)
  | rest => (false, rest)

/-- A reference in an attribute value, behind its ampersand: what it stands for,
and what follows it. -/
def inValue? (s : List Char) :
    Except Rejection (Option (List Char × List Char)) :=
  match s with
  | '#' :: x :: rest =>
      if x.isDigit then
        let digits := (x :: rest).takeWhile Char.isDigit
        (decimal digits).map fun n =>
          some (numberInValue n,
            (dropSemicolon ((x :: rest).dropWhile Char.isDigit)).2)
      else if x == 'x' || x == 'X' then
        let digits := rest.takeWhile Text.isHexDigit
        if digits.isEmpty then .ok none
        else
          .ok (some (numberInValue (Text.hexNumber digits),
            (dropSemicolon (rest.dropWhile Text.isHexDigit)).2))
      else .ok none
  | _ =>
      let name := (s.take 32).takeWhile isNameInValue
      if name.isEmpty then .ok none
      else
        let (closed, rest) := dropSemicolon (s.drop name.length)
        .ok (some (namedInValue name closed, rest))

theorem length_dropSemicolon_le (s : List Char) :
    (dropSemicolon s).2.length ≤ s.length := by
  unfold dropSemicolon
  split <;> simp

theorem length_le_of_inValue? {s text rest : List Char}
    (h : inValue? s = .ok (some (text, rest))) :
    rest.length ≤ s.length := by
  unfold inValue? at h
  split at h
  · rename_i x tail
    have hx : (dropSemicolon ((x :: tail).dropWhile Char.isDigit)).2.length ≤
        tail.length + 1 :=
      Nat.le_trans (length_dropSemicolon_le _)
        (List.dropWhile_suffix _).length_le
    have ht : (dropSemicolon (tail.dropWhile Text.isHexDigit)).2.length ≤
        tail.length :=
      Nat.le_trans (length_dropSemicolon_le _)
        (List.dropWhile_suffix _).length_le
    split at h
    · cases hd : decimal ((x :: tail).takeWhile Char.isDigit) with
      | error e => simp [hd, Except.map] at h
      | ok n =>
          simp only [hd, Except.map, Except.ok.injEq, Option.some.injEq,
            Prod.mk.injEq] at h
          rw [← h.2]
          simp only [List.length_cons]
          omega
    · split at h
      · dsimp only at h
        split at h
        · simp at h
        · simp only [Except.ok.injEq, Option.some.injEq, Prod.mk.injEq] at h
          rw [← h.2]
          simp only [List.length_cons]
          omega
      · simp at h
  · simp only at h
    split at h
    · simp at h
    · simp only [Except.ok.injEq, Option.some.injEq, Prod.mk.injEq] at h
      rw [← h.2]
      refine Nat.le_trans (length_dropSemicolon_le _) ?_
      simp

/-- The text of an attribute value with its references resolved; `done` holds
the resolved part, the last character first. -/
def resolveFrom (done : List Char) (s : List Char) :
    Except Rejection (List Char) :=
  match s with
  | [] => .ok done.reverse
  | c :: rest =>
      if c == '&' then
        match _h : inValue? rest with
        | .error e => .error e
        | .ok (some (text, after)) => resolveFrom (text.reverse ++ done) after
        | .ok none => resolveFrom (c :: done) rest
      else resolveFrom (c :: done) rest
termination_by s.length
decreasing_by
  all_goals simp_wf
  have := length_le_of_inValue? _h
  omega

def resolve (s : List Char) : Except Rejection (List Char) :=
  resolveFrom [] s

end Reference
end Markup
end SiteAudit
