import SiteAudit.Text.Decimal
import SiteAudit.Text.Hex

/-!
# UTF-8

Bytes are decoded from left to right.  A sequence starts with a lead byte that
tells how many continuation bytes follow and in which range the first of them
lies; the ranges keep out overlong forms, surrogates and values beyond the last
code point.  The first sequence that breaks these rules is reported with its
place.
-/

namespace SiteAudit
namespace Text
namespace Utf8

inductive Reason
  | start
  | continuation
  | truncated
  deriving DecidableEq, Repr

/-- The first malformed sequence: its first byte, its place, and how many bytes
belong to it. -/
structure Malformed where
  byte : UInt8
  position : Nat
  length : Nat
  reason : Reason
  deriving DecidableEq, Repr

def Reason.message : Reason → String
  | .start => "invalid start byte"
  | .continuation => "invalid continuation byte"
  | .truncated => "unexpected end of data"

/-- The report of a malformed sequence; a sequence of several bytes shows the
places of its first and last byte. -/
def Malformed.message (m : Malformed) : String :=
  let place :=
    if m.length = 1 then
      "byte 0x" ++ String.ofList (hexPadded 2 m.byte.toNat) ++
        " in position " ++ natural m.position
    else
      "bytes in position " ++ natural m.position ++ "-" ++
        natural (m.position + m.length - 1)
  "'utf-8' codec can't decode " ++ place ++ ": " ++ m.reason.message

/-- A sequence under way: where it started, what it is worth so far, how many
bytes it lacks, and the range of the next one. -/
structure Pending where
  lead : UInt8
  position : Nat
  length : Nat
  value : Nat
  missing : Nat
  low : Nat
  high : Nat

def opening? (b : UInt8) (position : Nat) : Option Pending :=
  let n := b.toNat
  if 0xC2 ≤ n && n ≤ 0xDF then some ⟨b, position, 1, n - 0xC0, 1, 0x80, 0xBF⟩
  else if n == 0xE0 then some ⟨b, position, 1, 0, 2, 0xA0, 0xBF⟩
  else if n == 0xED then some ⟨b, position, 1, 0xD, 2, 0x80, 0x9F⟩
  else if 0xE1 ≤ n && n ≤ 0xEF then
    some ⟨b, position, 1, n - 0xE0, 2, 0x80, 0xBF⟩
  else if n == 0xF0 then some ⟨b, position, 1, 0, 3, 0x90, 0xBF⟩
  else if 0xF1 ≤ n && n ≤ 0xF3 then
    some ⟨b, position, 1, n - 0xF0, 3, 0x80, 0xBF⟩
  else if n == 0xF4 then some ⟨b, position, 1, 4, 3, 0x80, 0x8F⟩
  else none

def Pending.extend (p : Pending) (b : UInt8) : Pending :=
  { p with
    length := p.length + 1
    value := p.value * 64 + (b.toNat - 0x80)
    missing := p.missing - 1
    low := 0x80
    high := 0xBF }

/-- Decode the bytes behind `position`; `done` holds the characters read so far,
the last one first. -/
def decodeFrom (done : List Char) :
    Option Pending → Nat → List UInt8 → Except Malformed (List Char)
  | none, _, [] => .ok done.reverse
  | some p, _, [] => .error ⟨p.lead, p.position, p.length, .truncated⟩
  | none, position, b :: rest =>
      if b.toNat < 0x80 then
        decodeFrom (Char.ofNat b.toNat :: done) none (position + 1) rest
      else
        match opening? b position with
        | some p => decodeFrom done (some p) (position + 1) rest
        | none => .error ⟨b, position, 1, .start⟩
  | some p, position, b :: rest =>
      if p.low ≤ b.toNat && b.toNat ≤ p.high then
        let q := p.extend b
        if q.missing = 0 then
          decodeFrom (Char.ofNat q.value :: done) none (position + 1) rest
        else decodeFrom done (some q) (position + 1) rest
      else .error ⟨p.lead, p.position, p.length, .continuation⟩

def decode (bytes : List UInt8) : Except Malformed (List Char) :=
  decodeFrom [] none 0 bytes

def encode (s : List Char) : List UInt8 :=
  s.flatMap String.utf8EncodeChar

end Utf8
end Text
end SiteAudit
