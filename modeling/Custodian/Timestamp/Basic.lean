import Custodian.Text.Basic

/-!
# Timestamps

A timestamp is a calendar date, a time of day and perhaps an offset from universal time. The time
may stand in a leap second, which is the second 60. Timestamps are written in the form of
ISO 8601: a date of today's years has four digits of the year, any other year a sign; the fraction is
written only if it is not zero, in as few groups of three digits as hold it.
-/

namespace Custodian

/-- A calendar date. -/
structure Date where
  year : Int
  month : Nat
  day : Nat
deriving DecidableEq

/-- A time of day. -/
structure Time where
  hour : Nat
  minute : Nat
  /-- The second; 60 is a leap second. -/
  second : Nat
  nanosecond : Nat
deriving DecidableEq

/-- A date with a time of day and, unless it is local, an offset. -/
structure Timestamp where
  date : Date
  time : Time
  /-- Minutes ahead of universal time. -/
  offset : Option Int
deriving DecidableEq

/-! ### The calendar -/

namespace Date

def isLeap (year : Int) : Bool :=
  year % 4 = 0 && (year % 100 ≠ 0 || year % 400 = 0)

/-- How many days a month has. -/
def daysOf (year : Int) (month : Nat) : Nat :=
  if month = 2 then if isLeap year then 29 else 28
  else if month = 4 ∨ month = 6 ∨ month = 9 ∨ month = 11 then 30 else 31

/-- The first day of the calendar. -/
def first : Date := ⟨-262143, 1, 1⟩

/-- The last day of the calendar. -/
def last : Date := ⟨262142, 12, 31⟩

/-- Whether the calendar has this date. -/
def isValid (d : Date) : Bool :=
  first.year ≤ d.year && d.year ≤ last.year && 1 ≤ d.month && d.month ≤ 12 && 1 ≤ d.day &&
    d.day ≤ daysOf d.year d.month

end Date

namespace Time

def midnight : Time := ⟨0, 0, 0, 0⟩

/-- Whether a day has this time. -/
def isValid (t : Time) : Bool :=
  t.hour ≤ 23 && t.minute ≤ 59 && t.second ≤ 60 && t.nanosecond < Nat.pow 10 9

end Time

namespace Timestamp

/-- Whether an offset is less than a day. -/
def isOffset (minutes : Int) : Bool :=
  minutes.natAbs < 24 * 60

/-- Whether the date and time exist and also fall into the calendar as universal time. -/
def isValid (t : Timestamp) : Bool :=
  t.date.isValid && t.time.isValid &&
    match t.offset with
    | none => true
    | some offset =>
      let minutes : Int := t.time.hour * 60 + t.time.minute - offset
      isOffset offset && !(t.date = Date.first && minutes < 0) &&
        !(t.date = Date.last && 24 * 60 ≤ minutes)

/-! ### Writing -/

/-- A year: four digits, with a sign if it is negative or needs more. -/
def writeYear (year : Int) : Text :=
  if 0 ≤ year ∧ year ≤ 9999 then Text.padNat 4 year.toNat
  else (if year < 0 then '-' else '+') :: Text.padNat 4 year.natAbs

/-- A fraction of a second, in groups of three digits; nothing if it is zero. -/
def writeFraction (nanosecond : Nat) : Text :=
  if nanosecond = 0 then []
  else if nanosecond % 1000000 = 0 then '.' :: Text.padNat 3 (nanosecond / 1000000)
  else if nanosecond % 1000 = 0 then '.' :: Text.padNat 6 (nanosecond / 1000)
  else '.' :: Text.padNat 9 nanosecond

/-- An offset: a sign, hours and minutes. -/
def writeOffset (minutes : Int) : Text :=
  (if minutes < 0 then '-' else '+') :: Text.padNat 2 (minutes.natAbs / 60) ++
    ':' :: Text.padNat 2 (minutes.natAbs % 60)

def write (t : Timestamp) : Text :=
  writeYear t.date.year ++ '-' :: Text.padNat 2 t.date.month ++ '-' :: Text.padNat 2 t.date.day ++
    'T' :: Text.padNat 2 t.time.hour ++ ':' :: Text.padNat 2 t.time.minute ++
    ':' :: Text.padNat 2 t.time.second ++ writeFraction t.time.nanosecond ++
    (t.offset.map writeOffset).getD []

end Timestamp

end Custodian
