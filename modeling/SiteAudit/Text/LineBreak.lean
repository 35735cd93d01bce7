/-!
# Line breaks

A text read from a file may end its lines with a line feed, with a carriage
return, or with both.  All three become line feeds: every carriage return turns
into a line feed, and a line feed right after a carriage return belongs to it
and is dropped.
-/

namespace SiteAudit
namespace Text

def unifyLineBreaks (s : List Char) : List Char :=
  (('\n' :: s).zip s).filterMap fun (previous, c) =>
    if c == '\n' && previous == '\r' then none
    else if c == '\r' then some '\n'
    else some c

def countLineFeeds (s : List Char) : Nat :=
  s.count '\n'

end Text
end SiteAudit
