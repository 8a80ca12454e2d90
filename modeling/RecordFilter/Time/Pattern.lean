import RecordFilter.Time.DateTime

/-!
# Date-time patterns

A pattern is text in which `%` starts a field, as in `%Y-%m-%d`.  `Pattern.parse`
reads the text into items, `Item.format?` writes one item for a date-time, and
`Pattern.format?` joins them.

Whether an item can be written depends on the item alone: a date-time has every
field except an offset, and text that names no field can never be written.
-/

namespace RecordFilter.Pattern

/-- How a number is filled up on the left. -/
inductive Padding where
  | none
  | zero
  | space
  deriving DecidableEq, Repr

/-- A part of a date-time written as a number. -/
inductive NumericField where
  | year
  | century
  | yearOfCentury
  | weekYear
  | weekYearOfCentury
  | quarter
  | month
  | day
  | weekFromSunday
  | weekFromMonday
  | week
  | daysFromSunday
  | weekday
  | dayOfYear
  | hour
  | hour12
  | minute
  | second
  | nanosecond
  | timestamp
  deriving DecidableEq, Repr

/-- A part of a date-time written in a fixed form. -/
inductive FixedField where
  | shortMonth
  | longMonth
  | shortWeekday
  | longWeekday
  | lowerHalf
  | upperHalf
  | fraction
  | fractionOf (places : Nat)
  | fractionDigits (places : Nat)
  deriving DecidableEq, Repr

/-- One item of a pattern. -/
inductive Item where
  | literal (text : List Char)
  | numeric (field : NumericField) (padding : Padding)
  | fixed (field : FixedField)
  /-- A zone name or an offset from universal time. -/
  | offset
  /-- Text after `%` that names no field. -/
  | unknown
  deriving DecidableEq, Repr

/-! ## Reading a pattern -/

/-- A number filled up with zeros. -/
def zeros (field : NumericField) : Item := .numeric field .zero

/-- A number filled up with blanks. -/
def blanks (field : NumericField) : Item := .numeric field .space

/-- Items with literal text between them. -/
def joined (separator : String) (items : List Item) : List Item :=
  items.intersperse (.literal separator.toList)

/-- Hours, minutes and seconds. -/
def clock : List Item := joined ":" [zeros .hour, zeros .minute, zeros .second]

/-- The items a single letter stands for. -/
def ofLetter : Char → Option (List Item)
  | 'A' => some [.fixed .longWeekday]
  | 'B' => some [.fixed .longMonth]
  | 'C' => some [zeros .century]
  | 'D' | 'x' => some (joined "/" [zeros .month, zeros .day, zeros .yearOfCentury])
  | 'F' => some (joined "-" [zeros .year, zeros .month, zeros .day])
  | 'G' => some [zeros .weekYear]
  | 'H' => some [zeros .hour]
  | 'I' => some [zeros .hour12]
  | 'M' => some [zeros .minute]
  | 'P' => some [.fixed .lowerHalf]
  | 'R' => some (joined ":" [zeros .hour, zeros .minute])
  | 'S' => some [zeros .second]
  | 'T' | 'X' => some clock
  | 'U' => some [zeros .weekFromSunday]
  | 'V' => some [zeros .week]
  | 'W' => some [zeros .weekFromMonday]
  | 'Y' => some [zeros .year]
  | 'Z' => some [.offset]
  | 'a' => some [.fixed .shortWeekday]
  | 'b' | 'h' => some [.fixed .shortMonth]
  | 'c' => some <| joined " " [.fixed .shortWeekday, .fixed .shortMonth, blanks .day] ++
      .literal [' '] :: clock ++ [.literal [' '], zeros .year]
  | 'd' => some [zeros .day]
  | 'e' => some [blanks .day]
  | 'f' => some [zeros .nanosecond]
  | 'g' => some [zeros .weekYearOfCentury]
  | 'j' => some [zeros .dayOfYear]
  | 'k' => some [blanks .hour]
  | 'l' => some [blanks .hour12]
  | 'm' => some [zeros .month]
  | 'n' => some [.literal ['\n']]
  | 'p' => some [.fixed .upperHalf]
  | 'q' => some [.numeric .quarter .none]
  | 'r' => some <| joined ":" [zeros .hour12, zeros .minute, zeros .second] ++
      [.literal [' '], .fixed .upperHalf]
  | 's' => some [.numeric .timestamp .none]
  | 't' => some [.literal ['\t']]
  | 'u' => some [.numeric .weekday .none]
  | 'v' => some (joined "-" [blanks .day, .fixed .shortMonth, zeros .year])
  | 'w' => some [.numeric .daysFromSunday .none]
  | 'y' => some [zeros .yearOfCentury]
  | 'z' | '+' => some [.offset]
  | '%' => some [.literal ['%']]
  | _ => none

/-- Reads what follows `%`: the items it stands for and the text after it. -/
def readField : List Char → List Item × List Char
  | ':' :: ':' :: ':' :: 'z' :: rest => ([.offset], rest)
  | ':' :: ':' :: 'z' :: rest => ([.offset], rest)
  | ':' :: 'z' :: rest => ([.offset], rest)
  | '.' :: '3' :: 'f' :: rest => ([.fixed (.fractionOf 3)], rest)
  | '.' :: '6' :: 'f' :: rest => ([.fixed (.fractionOf 6)], rest)
  | '.' :: '9' :: 'f' :: rest => ([.fixed (.fractionOf 9)], rest)
  | '.' :: 'f' :: rest => ([.fixed .fraction], rest)
  | '3' :: 'f' :: rest => ([.fixed (.fractionDigits 3)], rest)
  | '6' :: 'f' :: rest => ([.fixed (.fractionDigits 6)], rest)
  | '9' :: 'f' :: rest => ([.fixed (.fractionDigits 9)], rest)
  | c :: rest => ((ofLetter c).getD [.unknown], rest)
  | [] => ([.unknown], [])

/-- Replaces the padding.  Only a single number can be padded differently. -/
def withPadding (padding : Padding) : List Item → List Item
  | [.numeric field _] => [.numeric field padding]
  | _ => [.unknown]

/-- Reads what follows `%`, where a mark for the padding or for the offset's
    alternative form may come first. -/
def readSpecifier : List Char → List Item × List Char
  | '-' :: rest => (withPadding .none (readField rest).1, (readField rest).2)
  | '0' :: rest => (withPadding .zero (readField rest).1, (readField rest).2)
  | '_' :: rest => (withPadding .space (readField rest).1, (readField rest).2)
  | '#' :: 'z' :: rest => ([.offset], rest)
  | '#' :: rest => ([.unknown], rest)
  | rest => readField rest

/-- Reading a specifier never adds text. -/
theorem length_readField_le (text : List Char) : (readField text).2.length ≤ text.length := by
  unfold readField
  split <;> simp <;> omega

theorem length_readSpecifier_le (text : List Char) :
    (readSpecifier text).2.length ≤ text.length := by
  unfold readSpecifier
  split
  · exact Nat.le_succ_of_le (length_readField_le _)
  · exact Nat.le_succ_of_le (length_readField_le _)
  · exact Nat.le_succ_of_le (length_readField_le _)
  · simp only [List.length_cons]; omega
  · simp only [List.length_cons]; omega
  · exact length_readField_le _

/-- Reads a pattern.  Text outside the specifiers stands for itself. -/
def parse : List Char → List Item
  | [] => []
  | '%' :: rest => (readSpecifier rest).1 ++ parse (readSpecifier rest).2
  | c :: rest => .literal [c] :: parse rest
termination_by text => text.length
decreasing_by
  · exact Nat.lt_succ_of_le (length_readSpecifier_le rest)
  · simp

/-! ## Writing a date-time -/

def monthNames : List String :=
  ["January", "February", "March", "April", "May", "June", "July", "August", "September",
    "October", "November", "December"]

def weekdayNames : List String :=
  ["Monday", "Tuesday", "Wednesday", "Thursday", "Friday", "Saturday", "Sunday"]

/-- A name by its position. -/
def nameAt (names : List String) (position : Nat) : List Char :=
  (names[position]?.getD "").toList

/-- Hour on a twelve-hour clock. -/
def clockHour (d : DateTime) : Nat :=
  if d.hour % 12 = 0 then 12 else d.hour % 12

/-- A number of two digits, held in a byte.  Past 99 the first digit runs on
    through the character table. -/
def twoDigits (padding : Padding) (n : Nat) : List Char :=
  let ones := Char.ofNat ('0'.toNat + n % 10)
  match n / 10, padding with
  | 0, .none => [ones]
  | 0, .space => [' ', ones]
  | tens, _ => [Char.ofNat ('0'.toNat + tens), ones]

/-- A number filled up to a width that counts a minus sign. -/
def filled (padding : Padding) (width : Nat) (n : Int) : List Char :=
  let digits := Nat.toDigits 10 n.natAbs
  let sign := if n < 0 then ['-'] else []
  let missing := width - (sign.length + digits.length)
  match padding with
  | .none => sign ++ digits
  | .zero => sign ++ List.replicate missing '0' ++ digits
  | .space => List.replicate missing ' ' ++ sign ++ digits

/-- A number with its sign always written, filled up to a width. -/
def filledSigned (padding : Padding) (width : Nat) (n : Int) : List Char :=
  let digits := Nat.toDigits 10 n.natAbs
  let sign := if n < 0 then '-' else '+'
  let missing := width - (1 + digits.length)
  match padding with
  | .none => sign :: digits
  | .zero => sign :: List.replicate missing '0' ++ digits
  | .space => List.replicate missing ' ' ++ sign :: digits

/-- A year with four digits, signed outside `0 .. 9999`. -/
def yearText (padding : Padding) (year : Int) : List Char :=
  if 0 ≤ year ∧ year ≤ 9999 then filled padding 4 year else filledSigned padding 5 year

/-- Writes a numeric field. -/
def NumericField.format (field : NumericField) (padding : Padding) (d : DateTime) : List Char :=
  match field with
  | .year => yearText padding d.year
  | .century => twoDigits padding ((d.year / 100) % 256).toNat
  | .yearOfCentury => twoDigits padding (d.year % 100).toNat
  | .weekYear => yearText padding d.week.1
  | .weekYearOfCentury => twoDigits padding (d.week.1 % 100).toNat
  | .quarter => twoDigits .none ((d.month - 1) / 3 + 1)
  | .month => twoDigits padding d.month
  | .day => twoDigits padding d.day
  | .weekFromSunday => twoDigits padding ((d.dayOfYear + 6 - d.daysFromSunday) / 7)
  | .weekFromMonday => twoDigits padding ((d.dayOfYear + 6 - d.daysFromMonday) / 7)
  | .week => twoDigits padding d.week.2
  | .daysFromSunday => twoDigits .none d.daysFromSunday
  | .weekday => twoDigits .none (d.daysFromMonday + 1)
  | .dayOfYear => filled padding 3 d.dayOfYear
  | .hour => twoDigits padding d.hour
  | .hour12 => twoDigits padding (clockHour d)
  | .minute => twoDigits padding d.minute
  | .second => twoDigits padding d.writtenSecond
  | .nanosecond => filled padding 9 d.fraction
  | .timestamp => filled padding 9 d.timestamp

/-- The first digits of a fraction. -/
def leadingFraction (places : Nat) (d : DateTime) : List Char :=
  DateTime.padded '0' places (d.fraction / 10 ^ (9 - places))

/-- Writes a fixed field. -/
def FixedField.format (field : FixedField) (d : DateTime) : List Char :=
  match field with
  | .shortMonth => (nameAt monthNames (d.month - 1)).take 3
  | .longMonth => nameAt monthNames (d.month - 1)
  | .shortWeekday => (nameAt weekdayNames d.daysFromMonday).take 3
  | .longWeekday => nameAt weekdayNames d.daysFromMonday
  | .lowerHalf => if d.hour < 12 then "am".toList else "pm".toList
  | .upperHalf => if d.hour < 12 then "AM".toList else "PM".toList
  | .fraction => DateTime.fractionText d.fraction
  | .fractionOf places => '.' :: leadingFraction places d
  | .fractionDigits places => leadingFraction places d

/-- Writes one item; an offset or an unknown field cannot be written. -/
def Item.format? (d : DateTime) : Item → Option (List Char)
  | .literal text => some text
  | .numeric field padding => some (field.format padding d)
  | .fixed field => some (field.format d)
  | .offset | .unknown => none

/-- Writes a date-time after a pattern, when every item can be written. -/
def format? (pattern : String) (d : DateTime) : Option (List Char) :=
  ((parse pattern.toList).mapM (Item.format? d)).map List.flatten

end RecordFilter.Pattern
