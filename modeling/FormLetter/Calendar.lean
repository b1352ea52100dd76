import FormLetter.Text.Basic

/-!
# Calendar

Instants of the local clock in the Gregorian calendar, extended to all years before and after its
introduction, the texts that a letter shows for them, and clocks.
-/

namespace FormLetter.Calendar

/-- An instant of the local clock. A leap second is second 59 with a nanosecond count of a second
or more. -/
structure Instant where
  year : Int
  month : Nat
  day : Nat
  hour : Nat
  minute : Nat
  second : Nat
  nanosecond : Nat := 0
  deriving DecidableEq, Repr

/-- Names of the days of the week, from the day that the first of March of year 0 was. -/
def weekdayNames : List Text :=
  ["Wednesday".toList, "Thursday".toList, "Friday".toList, "Saturday".toList, "Sunday".toList,
    "Monday".toList, "Tuesday".toList]

/-- Names of the months from January on. -/
def monthNames : List Text :=
  ["January".toList, "February".toList, "March".toList, "April".toList, "May".toList,
    "June".toList, "July".toList, "August".toList, "September".toList, "October".toList,
    "November".toList, "December".toList]

/-- Whether a year has a leap day. -/
def isLeapYear (year : Int) : Bool := year % 4 = 0 && (year % 100 != 0 || year % 400 = 0)

/-- The number of days of a month. -/
def daysOfMonth (year : Int) (month : Nat) : Nat :=
  if month = 2 then if isLeapYear year then 29 else 28
  else if month ∈ [4, 6, 9, 11] then 30
  else 31

/-- The number of days from the first of March of year 0 to a date. Years are counted from March,
so that a leap day ends its year. -/
def dayNumber (year : Int) (month day : Nat) : Int :=
  let y := if month ≤ 2 then year - 1 else year
  let m := (month + 9) % 12
  365 * y + y / 4 - y / 100 + y / 400 + ((153 * m + 2) / 5 + day : Nat) - 1

namespace Instant

/-- The name of the day of the week: the format `%A`. -/
def weekday (t : Instant) : Text :=
  (weekdayNames[(dayNumber t.year t.month t.day % 7).toNat]?).getD []

/-- The name of the month: the format `%B`. -/
def monthName (t : Instant) : Text := (monthNames[t.month - 1]?).getD []

/-- The year with four digits or more, and with a sign before 0 and after 9999: the format `%Y`. -/
def yearText (t : Instant) : Text :=
  let digits := Text.padded 4 t.year.natAbs
  if t.year < 0 then '-' :: digits else if t.year ≤ 9999 then digits else '+' :: digits

/-- The date as year, month and day: the format `%Y-%m-%d`. -/
def dateText (t : Instant) : Text :=
  t.yearText ++ '-' :: Text.padded 2 t.month ++ '-' :: Text.padded 2 t.day

/-- The second shown, which is 60 in a leap second. -/
def shownSecond (t : Instant) : Nat := t.second + t.nanosecond / 1000000000

/-- The date and the time of day to the second: the format `%Y-%m-%d %H:%M:%S`. -/
def timeText (t : Instant) : Text :=
  t.dateText ++ ' ' :: Text.padded 2 t.hour ++ ':' :: Text.padded 2 t.minute ++
    ':' :: Text.padded 2 t.shownSecond

end Instant

/-! ## Clocks -/

/-- A clock, by the instants that it shows when it is read for the first time, for the second
time, and so on: a `Clock`. -/
structure Clock where
  reading : Nat → Instant

namespace Clock

/-- A clock that stands still: the `FixedClock`. -/
@[coe] def fixed (t : Instant) : Clock := ⟨fun _ => t⟩

instance : Coe Instant Clock := ⟨fixed⟩

/-- The clock after some readings. -/
def later (clock : Clock) (readings : Nat) : Clock := ⟨fun i => clock.reading (i + readings)⟩

end Clock

end FormLetter.Calendar
