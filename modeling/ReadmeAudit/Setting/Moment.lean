/-!
# Dates and times

A `Moment` is a date, a time of day, or both, as it may be given in a file of options. It has a
plain text, and a literal text that stands for it inside lists and tables.
-/

namespace ReadmeAudit

/-- A day. -/
structure Date where
  /-- The year. -/
  year : Nat
  /-- The month, from 1. -/
  month : Nat
  /-- The day of the month, from 1. -/
  day : Nat
deriving Repr, DecidableEq

/-- A time of day. -/
structure Time where
  /-- The hour. -/
  hour : Nat
  /-- The minute. -/
  minute : Nat
  /-- The second. -/
  second : Nat
  /-- The millionths of a second. -/
  micro : Nat
deriving Repr, DecidableEq

/-- A date, a time, or both. -/
inductive Moment where
  /-- A day. -/
  | date (value : Date)
  /-- A time of day. -/
  | time (value : Time)
  /-- A time of a day, perhaps with the offset of its zone in minutes. -/
  | dateTime (day : Date) (clock : Time) (offset : Option Int)
deriving Repr, DecidableEq

/-- A number with at least some digits. -/
def padded (width number : Nat) : String :=
  let digits := Nat.toDigits 10 number
  String.ofList (List.replicate (width - digits.length) '0' ++ digits)

namespace Date

/-- Whether a year has a leap day. -/
def isLeap (year : Nat) : Bool :=
  year % 4 = 0 && (year % 100 != 0 || year % 400 = 0)

/-- The number of days of a month. -/
def daysIn (year month : Nat) : Nat :=
  if month = 2 then if isLeap year then 29 else 28
  else if [4, 6, 9, 11].contains month then 30 else 31

/-- Whether a date exists. -/
def isValid (date : Date) : Bool :=
  0 < date.year && 0 < date.month && date.month ≤ 12 && 0 < date.day
    && date.day ≤ daysIn date.year date.month

/-- The text of a date. -/
def text (date : Date) : String :=
  padded 4 date.year ++ "-" ++ padded 2 date.month ++ "-" ++ padded 2 date.day

end Date

namespace Time

/-- The text of a time. -/
def text (time : Time) : String :=
  padded 2 time.hour ++ ":" ++ padded 2 time.minute ++ ":" ++ padded 2 time.second
    ++ if time.micro = 0 then "" else "." ++ padded 6 time.micro

/-- The numbers of a time, without zeros for the seconds and their parts at the end. -/
def numbers (time : Time) : List Nat :=
  [time.hour, time.minute]
    ++ if time.micro != 0 then [time.second, time.micro]
      else if time.second != 0 then [time.second] else []

end Time

namespace Moment

/-- The text of an offset in minutes. -/
def offsetText (offset : Int) : String :=
  (if offset < 0 then "-" else "+") ++ padded 2 (offset.natAbs / 60) ++ ":"
    ++ padded 2 (offset.natAbs % 60)

/-- The text of a moment. -/
def text : Moment → String
  | date day => day.text
  | time clock => clock.text
  | dateTime day clock offset =>
    day.text ++ " " ++ clock.text ++ ((offset.map offsetText).getD "")

/-- The literal text of an offset in minutes. -/
def offsetLiteral (offset : Int) : String :=
  if offset = 0 then "datetime.timezone.utc"
  else
    let seconds := toString ((offset * 60) % 86400)
    let days := if offset < 0 then "days=-1, " else ""
    "datetime.timezone(datetime.timedelta(" ++ days ++ "seconds=" ++ seconds ++ "))"

/-- The literal text of a moment. -/
def literal : Moment → String
  | date day => "datetime.date(" ++ numbers [day.year, day.month, day.day] ++ ")"
  | time clock => "datetime.time(" ++ numbers clock.numbers ++ ")"
  | dateTime day clock offset =>
    "datetime.datetime(" ++ numbers ([day.year, day.month, day.day] ++ clock.numbers)
      ++ ((offset.map fun minutes => ", tzinfo=" ++ offsetLiteral minutes).getD "") ++ ")"
where
  /-- Numbers separated by commas. -/
  numbers (values : List Nat) : String :=
    ", ".intercalate (values.map toString)

end Moment

end ReadmeAudit
