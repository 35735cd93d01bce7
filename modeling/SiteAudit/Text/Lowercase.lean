import SiteAudit.Text.LetterCase

/-!
# Lower case

Every capital is replaced by its small letter.  Two letters are special: a
dotted capital I becomes an i with a combining dot, and a capital sigma is
written in its final form at the end of a word.
-/

namespace SiteAudit
namespace Text

def lowerChar (c : Char) : List Char :=
  if c.toNat < 128 then [c.toLower]
  else if c.toNat == 0x130 then ['i', Char.ofNat 0x307]
  else
    match caseRuns.findSome? (·.small? c.toNat) with
    | some n => [Char.ofNat n]
    | none => [c]

def meetsLetter (s : List Char) : Bool :=
  (s.dropWhile caseTransparent.contains).head?.any casedChars.contains

/-- The small form of a text; `before` holds the characters already passed, the
nearest first. -/
def lowerFrom (before : List Char) : List Char → List Char
  | [] => []
  | c :: rest =>
      (if c.toNat == 0x3A3 then
        [Char.ofNat (if meetsLetter before && !meetsLetter rest then 0x3C2
          else 0x3C3)]
      else lowerChar c) ++ lowerFrom (c :: before) rest

def lower (s : String) : String :=
  String.ofList (lowerFrom [] s.toList)

end Text
end SiteAudit
