import RecordFilter.Number.Binary64
import RecordFilter.Text.Blank

/-!
# Date-times

A calendar date of the proleptic Gregorian calendar and a time of day with
nanoseconds, without an offset.  Nanoseconds from `10 ^ 9` up mark a leap second
and stand beside second 59.

The calendar part counts days, weekdays and weeks of the year; the text part
writes and reads `YYYY-MM-DDTHH:MM:SS` with a fraction.
-/

namespace RecordFilter

namespace Calendar

/-- Whether the year has a 29 February. -/
def isLeap (year : Int) : Bool :=
  year % 4 = 0 && (year % 100 ≠ 0 || year % 400 = 0)

/-- Days of a month, counted from 1; none for a month outside the year. -/
def daysInMonth (year : Int) (month : Nat) : Nat :=
  match month with
  | 1 | 3 | 5 | 7 | 8 | 10 | 12 => 31
  | 4 | 6 | 9 | 11 => 30
  | 2 => if isLeap year then 29 else 28
  | _ => 0

/-- Days from 1 January of year 1 to 1 January of the year. -/
def daysBeforeYear (year : Int) : Int :=
  let past := year - 1
  365 * past + past / 4 - past / 100 + past / 400

/-- Days of the year that lie before the month. -/
def daysBeforeMonth (year : Int) (month : Nat) : Nat :=
  (List.range month).foldr (fun earlier total => daysInMonth year earlier + total) 0

/-- Weeks of the week-numbering year: 53 when it begins on a Thursday, or on a
    Wednesday in a leap year. -/
def weeksInYear (year : Int) : Nat :=
  let first := daysBeforeYear year % 7
  if first = 3 ∨ (first = 2 ∧ isLeap year) then 53 else 52

end Calendar

/-- The parts of a date-time are those of a day that exists. -/
def DateTimeValid (year : Int) (month day hour minute second nanosecond : Nat) : Prop :=
  (-262143 ≤ year ∧ year ≤ 262142) ∧ (1 ≤ month ∧ month ≤ 12) ∧
    (1 ≤ day ∧ day ≤ Calendar.daysInMonth year month) ∧ hour < 24 ∧ minute < 60 ∧ second < 60 ∧
    nanosecond < 2000000000 ∧ (1000000000 ≤ nanosecond → second = 59)

instance (year : Int) (month day hour minute second nanosecond : Nat) :
    Decidable (DateTimeValid year month day hour minute second nanosecond) :=
  inferInstanceAs (Decidable (_ ∧ _))

/-- A date and a time of day. -/
structure DateTime where
  year : Int
  month : Nat
  day : Nat
  hour : Nat
  minute : Nat
  second : Nat
  nanosecond : Nat
  valid : DateTimeValid year month day hour minute second nanosecond
  deriving DecidableEq, Repr

namespace DateTime

/-- The date-time with these parts, when the day and the time exist. -/
def make? (year : Int) (month day hour minute second nanosecond : Nat) : Option DateTime :=
  if valid : DateTimeValid year month day hour minute second nanosecond then
    some ⟨year, month, day, hour, minute, second, nanosecond, valid⟩
  else none

/-- Midnight of 1 January 1970. -/
def epoch : DateTime := ⟨1970, 1, 1, 0, 0, 0, 0, by decide⟩

/-- Chronological order. -/
def order (a b : DateTime) : Ordering :=
  (compare a.year b.year).then <| (compare a.month b.month).then <|
    (compare a.day b.day).then <| (compare a.hour b.hour).then <|
      (compare a.minute b.minute).then <| (compare a.second b.second).then <|
        compare a.nanosecond b.nanosecond

/-- The same date at midnight. -/
def startOfDay (d : DateTime) : DateTime :=
  ⟨d.year, d.month, d.day, 0, 0, 0, 0,
    ⟨d.valid.1, d.valid.2.1, d.valid.2.2.1, by decide, by decide, by decide, by decide, by decide⟩⟩

/-- Day of the year, counted from 1. -/
def dayOfYear (d : DateTime) : Nat :=
  Calendar.daysBeforeMonth d.year d.month + d.day

/-- Days since 1 January of year 1. -/
def dayNumber (d : DateTime) : Int :=
  Calendar.daysBeforeYear d.year + d.dayOfYear - 1

/-- Days since Monday. -/
def daysFromMonday (d : DateTime) : Nat :=
  (d.dayNumber % 7).toNat

/-- Days since Sunday. -/
def daysFromSunday (d : DateTime) : Nat :=
  (d.daysFromMonday + 1) % 7

/-- Seconds since 1 January 1970; a leap second counts as the second before. -/
def timestamp (d : DateTime) : Int :=
  (d.dayNumber - 719162) * 86400 + d.hour * 3600 + d.minute * 60 + d.second

/-- The week-numbering year and the week in it: a week belongs to the year of its
    Thursday. -/
def week (d : DateTime) : Int × Nat :=
  let number := (d.dayOfYear + 9 - d.daysFromMonday) / 7
  if number = 0 then (d.year - 1, Calendar.weeksInYear (d.year - 1))
  else if Calendar.weeksInYear d.year < number then (d.year + 1, 1)
  else (d.year, number)

/-- The second as written: a leap second is number 60. -/
def writtenSecond (d : DateTime) : Nat :=
  d.second + d.nanosecond / 1000000000

/-- Nanoseconds within the written second. -/
def fraction (d : DateTime) : Nat :=
  d.nanosecond % 1000000000

/-! ## Text -/

/-- Decimal digits of a number, filled up on the left to a width. -/
def padded (fill : Char) (width n : Nat) : List Char :=
  let digits := Nat.toDigits 10 n
  List.replicate (width - digits.length) fill ++ digits

/-- A number with its sign in front, filled up with zeros to a width that counts
    the sign. -/
def signed (width : Nat) (n : Int) : List Char :=
  (if n < 0 then '-' else '+') :: padded '0' (width - 1) n.natAbs

/-- The fraction with three, six or nine digits, or nothing when it is zero. -/
def fractionText (nanoseconds : Nat) : List Char :=
  if nanoseconds = 0 then []
  else if nanoseconds % 1000000 = 0 then '.' :: padded '0' 3 (nanoseconds / 1000000)
  else if nanoseconds % 1000 = 0 then '.' :: padded '0' 6 (nanoseconds / 1000)
  else '.' :: padded '0' 9 nanoseconds

/-- The year with four digits; outside `0 .. 9999` it carries a sign. -/
def yearText (year : Int) : List Char :=
  if 0 ≤ year ∧ year ≤ 9999 then padded '0' 4 year.toNat else signed 5 year

/-- Date and time of day with a separator between them. -/
def toText (separator : Char) (d : DateTime) : String :=
  String.ofList <|
    yearText d.year ++ '-' :: padded '0' 2 d.month ++ '-' :: padded '0' 2 d.day ++
      separator :: padded '0' 2 d.hour ++ ':' :: padded '0' 2 d.minute ++
      ':' :: padded '0' 2 d.writtenSecond ++ fractionText d.fraction

/-- Reads between one and `limit` digits. -/
def readNumber? (limit : Nat) (text : List Char) : Option (Nat × List Char) :=
  let digits := (text.take limit).takeWhile Char.isDigit
  if digits.isEmpty then none
  else some (Nat.ofDigitChars 10 digits 0, text.drop digits.length)

/-- Reads a number of at most `limit` digits after white space. -/
def readField? (limit : Nat) (text : List Char) : Option (Nat × List Char) :=
  readNumber? limit (Text.skipBlank text)

/-- Reads a year: four digits, or a sign and any number of digits. -/
def readYear? (text : List Char) : Option (Int × List Char) :=
  match Text.skipBlank text with
  | '-' :: rest => (readNumber? rest.length rest).map fun (n, rest) => (-(n : Int), rest)
  | '+' :: rest => (readNumber? rest.length rest).map fun (n, rest) => ((n : Int), rest)
  | rest => (readNumber? 4 rest).map fun (n, rest) => ((n : Int), rest)

/-- Passes a character that may stand after white space. -/
def readMark? (mark : Char) (text : List Char) : Option (List Char) :=
  match Text.skipBlank text with
  | c :: rest => if c = mark then some rest else none
  | [] => none

/-- Reads a fraction of at most nine digits; further digits are passed over. -/
def readFraction? : List Char → Option (Nat × List Char)
  | '.' :: rest =>
    (readNumber? 9 rest).map fun (n, tail) =>
      (n * 10 ^ (9 - (rest.length - tail.length)), tail.dropWhile Char.isDigit)
  | rest => some (0, rest)

/-- Reads date and time joined by `T`.  White space may stand around the parts,
    and second 60 is a leap second. -/
def ofText? (text : String) : Option DateTime := do
  let (year, rest) ← readYear? text.toList
  let (month, rest) ← readField? 2 (← readMark? '-' rest)
  let (day, rest) ← readField? 2 (← readMark? '-' rest)
  let (hour, rest) ← readField? 2 (← readMark? 'T' rest)
  let (minute, rest) ← readField? 2 (← readMark? ':' rest)
  let (second, rest) ← readField? 2 (← readMark? ':' rest)
  let (fraction, rest) ← readFraction? rest
  if (Text.skipBlank rest).isEmpty then
    if second = 60 then make? year month day hour minute 59 (1000000000 + fraction)
    else make? year month day hour minute second fraction
  else none

end DateTime

end RecordFilter
