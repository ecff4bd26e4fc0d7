/-!
# Dates and timestamps

A date of the proleptic Gregorian calendar and a time of day without a zone. Both carry the proof
that their fields are in range, so that no invalid one can be written or bound. A leap second is
second 59 with a nanosecond count of a billion or more.
-/

namespace SqlTemplate

/-- The year has a twenty-ninth of February. -/
def isLeapYear (year : Int) : Bool :=
  year % 4 == 0 && (year % 100 != 0 || year % 400 == 0)

/-- The number of days of a month. -/
def daysInMonth (year : Int) : Nat → Nat
  | 2 => if isLeapYear year then 29 else 28
  | 4 | 6 | 9 | 11 => 30
  | _ => 31

/-- The least year that a date can have. -/
def minYear : Int := -262143

/-- The greatest year that a date can have. -/
def maxYear : Int := 262142

/-- A calendar date. -/
structure Date where
  /-- The year, counted from year 0. -/
  year : Int
  /-- The month, from 1. -/
  month : Nat
  /-- The day of the month, from 1. -/
  day : Nat
  /-- Every field is in range. -/
  valid : minYear ≤ year ∧ year ≤ maxYear ∧ 1 ≤ month ∧ month ≤ 12 ∧ 1 ≤ day ∧
    day ≤ daysInMonth year month
  deriving DecidableEq

namespace Date

/-- The date with these fields, if there is one. -/
def of? (year : Int) (month day : Nat) : Option Date :=
  if h : minYear ≤ year ∧ year ≤ maxYear ∧ 1 ≤ month ∧ month ≤ 12 ∧ 1 ≤ day ∧
      day ≤ daysInMonth year month then
    some ⟨year, month, day, h⟩
  else none

/-- Every date is the date with its fields. -/
theorem of?_fields (d : Date) : of? d.year d.month d.day = some d := by
  simp [of?, d.valid]

/-- Earlier dates come first. -/
protected def compare (a b : Date) : Ordering :=
  (compare a.year b.year).then ((compare a.month b.month).then (compare a.day b.day))

end Date

/-- A date and a time of day. -/
structure Timestamp where
  /-- The day. -/
  date : Date
  /-- The hour, from 0. -/
  hour : Nat
  /-- The minute, from 0. -/
  minute : Nat
  /-- The second, from 0. -/
  second : Nat
  /-- The nanoseconds since the second began; a billion or more in a leap second. -/
  nanosecond : Nat
  /-- Every field is in range. -/
  valid : hour < 24 ∧ minute < 60 ∧ second < 60 ∧ nanosecond < 2000000000 ∧
    (1000000000 ≤ nanosecond → second = 59)
  deriving DecidableEq

namespace Timestamp

/-- The timestamp with these fields, if there is one. -/
def of? (date : Date) (hour minute second nanosecond : Nat) : Option Timestamp :=
  if h : hour < 24 ∧ minute < 60 ∧ second < 60 ∧ nanosecond < 2000000000 ∧
      (1000000000 ≤ nanosecond → second = 59) then
    some ⟨date, hour, minute, second, nanosecond, h⟩
  else none

/-- Every timestamp is the timestamp with its fields. -/
theorem of?_fields (t : Timestamp) :
    of? t.date t.hour t.minute t.second t.nanosecond = some t := by
  unfold of?
  rw [dif_pos t.valid]

/-- The first moment of a day. -/
def midnight (date : Date) : Timestamp :=
  ⟨date, 0, 0, 0, 0, by decide⟩

/-- Earlier timestamps come first, a leap second after second 59. -/
protected def compare (a b : Timestamp) : Ordering :=
  (a.date.compare b.date).then <| (compare a.hour b.hour).then <|
    (compare a.minute b.minute).then <| (compare a.second b.second).then <|
      compare a.nanosecond b.nanosecond

end Timestamp

end SqlTemplate
