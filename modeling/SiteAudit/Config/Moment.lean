import SiteAudit.Text.Decimal

/-!
# Dates and times

A moment is a date, a time of day, or both together, then perhaps with an offset
from universal time.  A moment has a plain text and a detailed one, which names
its parts.
-/

namespace SiteAudit
namespace Config

structure Date where
  year : Nat
  month : Nat
  day : Nat
  deriving DecidableEq, Repr

structure Time where
  hour : Nat
  minute : Nat
  second : Nat
  microsecond : Nat
  deriving DecidableEq, Repr

inductive Moment
  | date (d : Date)
  | time (t : Time)
  | dateTime (d : Date) (t : Time) (offset : Option Int)
  deriving DecidableEq, Repr

def isLeapYear (year : Nat) : Bool :=
  year % 4 == 0 && (year % 100 != 0 || year % 400 == 0)

def daysInMonth (year month : Nat) : Nat :=
  if month == 2 then (if isLeapYear year then 29 else 28)
  else if month == 4 || month == 6 || month == 9 || month == 11 then 30
  else 31

/-- Whether there is such a day; years start at one. -/
def Date.isValid (d : Date) : Bool :=
  1 ≤ d.year && d.year ≤ 9999 && 1 ≤ d.month && d.month ≤ 12 && 1 ≤ d.day &&
    d.day ≤ daysInMonth d.year d.month

def padded (width n : Nat) : String :=
  let digits := Text.digitsOf n
  String.ofList (List.replicate (width - digits.length) '0' ++ digits)

def Date.text (d : Date) : String :=
  padded 4 d.year ++ "-" ++ padded 2 d.month ++ "-" ++ padded 2 d.day

/-- The text of a time of day; its fraction is written if there is one. -/
def Time.text (t : Time) : String :=
  padded 2 t.hour ++ ":" ++ padded 2 t.minute ++ ":" ++ padded 2 t.second ++
    if t.microsecond = 0 then "" else "." ++ padded 6 t.microsecond

def offsetText (offset : Int) : String :=
  (if offset < 0 then "-" else "+") ++ padded 2 (offset.natAbs / 60) ++ ":" ++
    padded 2 (offset.natAbs % 60)

def Date.parts (d : Date) : List Nat :=
  [d.year, d.month, d.day]

/-- The parts of a time; seconds, and fractions of them, are left out if nothing
follows and they are zero. -/
def Time.parts (t : Time) : List Nat :=
  [t.hour, t.minute] ++
    if t.microsecond ≠ 0 then [t.second, t.microsecond]
      else if t.second ≠ 0 then [t.second] else []

def offsetDetails (offset : Int) : String :=
  if offset = 0 then "datetime.timezone.utc"
  else
    let seconds := (offset * 60).emod 86400
    let days := (offset * 60).ediv 86400
    let parts := (if days = 0 then [] else ["days=" ++ Text.integer days]) ++
      (if seconds = 0 then [] else ["seconds=" ++ Text.integer seconds])
    "datetime.timezone(datetime.timedelta(" ++ ", ".intercalate parts ++ "))"

namespace Moment

def text : Moment → String
  | date d => d.text
  | time t => t.text
  | dateTime d t offset =>
      d.text ++ " " ++ t.text ++
        match offset with
        | none => ""
        | some o => offsetText o

def details : Moment → String
  | date d => "datetime.date(" ++ row d.parts ++ ")"
  | time t => "datetime.time(" ++ row t.parts ++ ")"
  | dateTime d t offset =>
      "datetime.datetime(" ++ row (d.parts ++ t.parts) ++
        (match offset with
          | none => ""
          | some o => ", tzinfo=" ++ offsetDetails o) ++ ")"
where
  row (parts : List Nat) : String :=
    ", ".intercalate (parts.map Text.natural)

end Moment

end Config
end SiteAudit
