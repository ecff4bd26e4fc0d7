import SqlTemplate.Calendar.Date
import SqlTemplate.Text.Blank

/-!
# The text of dates and timestamps

A date is written `2024-01-31`, a timestamp with a separator, the time and a fraction of the
second. Years outside 0 to 9999 carry a sign. Reading is more lenient than writing: blanks before
a field, fields of one digit, years of any length behind a sign and fractions of any length are
accepted. The reader reports the first fault it meets from left to right, and a day that does not
exist only once the whole text has been read.
-/

namespace SqlTemplate

/-- Why a text is no date or timestamp. -/
inductive CalendarError where
  /-- A field has a value that it cannot take. -/
  | outOfRange
  /-- A character stands where another was required. -/
  | invalid
  /-- The text ends too early. -/
  | tooShort
  /-- Something follows the last field. -/
  | trailing
  deriving DecidableEq, Repr

/-- The wording of the fault. -/
def CalendarError.message : CalendarError → String
  | outOfRange => "input is out of range"
  | invalid => "input contains invalid characters"
  | tooShort => "premature end of input"
  | trailing => "trailing input"

namespace Calendar

/-- The digits of `n`, filled up with zeros to `width`. -/
def padded (width n : Nat) : String :=
  let digits := Nat.toDigits 10 n
  String.ofList (List.replicate (width - digits.length) '0' ++ digits)

/-- Four digits, and a sign outside 0 to 9999. -/
def yearText (year : Int) : String :=
  if 0 ≤ year ∧ year ≤ 9999 then padded 4 year.toNat
  else if year < 0 then "-" ++ padded 4 year.natAbs
  else "+" ++ padded 4 year.natAbs

/-- How much of the fraction of a second is written. -/
inductive Fraction where
  /-- Three digits, what lies below a millisecond dropped. -/
  | millis
  /-- The fewest of 0, 3, 6 or 9 digits that are exact. -/
  | exact
  deriving DecidableEq, Repr

/-- The fraction of a second with its point. -/
def Fraction.text (f : Fraction) (nanosecond : Nat) : String :=
  let nanos := nanosecond % 1000000000
  match f with
  | .millis => "." ++ padded 3 (nanos / 1000000)
  | .exact =>
    if nanos = 0 then ""
    else if nanos % 1000000 = 0 then "." ++ padded 3 (nanos / 1000000)
    else if nanos % 1000 = 0 then "." ++ padded 6 (nanos / 1000)
    else "." ++ padded 9 nanos

/-- Reading of a text from the left; the state is what is left of it. -/
abbrev Reader := StateT (List Char) (Except CalendarError)

namespace Reader

/-- The given character comes next. -/
def literal (c : Char) : Reader Unit := do
  match ← get with
  | [] => throw .tooShort
  | d :: rest => if d = c then set rest else throw .invalid

/-- Blanks may come next. -/
def blanks : Reader Unit :=
  modify Text.trimStart

/-- One digit or more, `width` at most where it is given. -/
def number (width : Option Nat) : Reader Nat := do
  let cs ← get
  let digits := (match width with
    | none => cs
    | some n => cs.take n).takeWhile Char.isDigit
  match cs, digits with
  | [], _ => throw .tooShort
  | _, [] => throw .invalid
  | _, _ => do
    set (cs.drop digits.length)
    return digits.foldl (fun n c => 10 * n + (c.toNat - '0'.toNat)) 0

/-- One digit or two, of a value between the bounds. -/
def field (least greatest : Nat) : Reader Nat := do
  blanks
  let n ← number (some 2)
  if least ≤ n ∧ n ≤ greatest then return n else throw .outOfRange

/-- A year of at most four digits, or a sign and any number of digits. -/
def year : Reader Int := do
  blanks
  let signed (sign : Int) : Reader Int := do
    modify List.tail
    let n ← number none
    return sign * n
  let y ← match ← get with
    | '-' :: _ => signed (-1)
    | '+' :: _ => signed 1
    | _ => do
      let n ← number (some 4)
      return (n : Int)
  if -2147483648 ≤ y ∧ y ≤ 2147483647 then return y else throw .outOfRange

/-- The year, the month and the day of a date that need not exist. -/
def ymd : Reader (Int × Nat × Nat) := do
  let y ← year
  literal '-'
  let m ← field 1 12
  literal '-'
  let d ← field 1 31
  return (y, m, d)

/-- The fraction of a second in nanoseconds: digits after a point, those beyond the ninth without
effect. -/
def fraction : Reader Nat := do
  match ← get with
  | '.' :: rest => do
    set rest
    let digits := (rest.take 9).takeWhile Char.isDigit
    let n ← number (some 9)
    modify (·.dropWhile Char.isDigit)
    return n * Nat.pow 10 (9 - digits.length)
  | _ => return 0

/-- The nanoseconds of a second field and its fraction, the second 60 counted as the leap second
after 59. -/
def leap (second nanos : Nat) : Nat × Nat :=
  if second = 60 then (59, nanos + 1000000000) else (second, nanos)

/-- Reads the whole of a text. -/
def whole {α : Type} (reader : Reader α) (text : String) : Except CalendarError α := do
  let (a, rest) ← reader.run text.toList
  if rest.isEmpty then return a else throw .trailing

end Reader

end Calendar

open Calendar Reader

/-- The text of a date: year, month and day. -/
def Date.toText (d : Date) : String :=
  yearText d.year ++ "-" ++ padded 2 d.month ++ "-" ++ padded 2 d.day

/-- Reads a date. -/
def Date.read (text : String) : Except CalendarError Date := do
  let (year, month, day) ← whole ymd text
  match Date.of? year month day with
  | some date => return date
  | none => throw .outOfRange

/-- The text of a timestamp: date, separator, time of day and fraction. -/
def Timestamp.toText (separator : Char) (fraction : Fraction) (t : Timestamp) : String :=
  t.date.toText ++ separator.toString ++ padded 2 t.hour ++ ":" ++ padded 2 t.minute ++ ":" ++
    padded 2 (t.second + t.nanosecond / 1000000000) ++ fraction.text t.nanosecond

/-- Reads a timestamp; a blank as separator stands for any number of blanks, none included. -/
def Timestamp.read (separator : Char) (text : String) : Except CalendarError Timestamp := do
  let reader : Reader ((Int × Nat × Nat) × (Nat × Nat × Nat × Nat)) := do
    let date ← ymd
    if separator = ' ' then blanks else literal separator
    let hour ← field 0 23
    literal ':'
    let minute ← field 0 59
    literal ':'
    let second ← field 0 60
    let nanos ← Reader.fraction
    return (date, hour, minute, leap second nanos)
  let ((year, month, day), hour, minute, second, nanos) ← whole reader text
  -- Each field is in range, so that only the day can be one that does not exist.
  match Date.of? year month day with
  | none => throw .outOfRange
  | some date =>
    match Timestamp.of? date hour minute second nanos with
    | some t => return t
    | none => throw .outOfRange

end SqlTemplate
