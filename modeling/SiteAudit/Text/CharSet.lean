/-!
# Sets of characters

A set of characters is given by inclusive ranges of code points.  Membership
asks for one range that holds the character, so a set is read off its table and
the table is data.
-/

namespace SiteAudit
namespace Text

structure CharSet where
  ranges : List (Nat × Nat)

namespace CharSet

def contains (s : CharSet) (c : Char) : Bool :=
  s.ranges.any fun r => r.1 ≤ c.toNat && c.toNat ≤ r.2

end CharSet

end Text
end SiteAudit
