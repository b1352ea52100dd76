import FormLetter.Calendar
import FormLetter.Proofs.ContextDependence
import FormLetter.Proofs.Numerals
import Mathlib.Tactic.IntervalCases

/-!
# Days of the calendar

What the clock shows goes into letters as texts: a date and a time of day, the
year, and the names of the month and of the day of the week. The day of the week
is counted, and the count has to keep step with the calendar over months of
different lengths and leap years; the other texts have to tell of the instant
what they seem to tell.

Specification: `Instant.IsValid` says of an instant that the calendar and the
clock have it, and `Instant.nextDay` is the same time of the next day.

Results:

* `dayNumber_nextDay`: days are counted one by one.
* `weekday_nextDay`: the day after is the next day of the week.
* `weekday_add_cycle`: the days of the week repeat after four hundred years.
* `readYear_yearText`, `date_eq_of_dateText_eq`: year and date can be told from
  their texts.
* `length_timeText`: date and time take nineteen characters.
* `clock_values_agree`: all values that a record takes from the clock tell of
  the same instant.
-/

namespace FormLetter

namespace Calendar

/-! ## Specification -/

namespace Instant

/-- An instant that the calendar and the clock have. -/
structure IsValid (t : Instant) : Prop where
  month_pos : 1 ≤ t.month
  month_le : t.month ≤ 12
  day_pos : 1 ≤ t.day
  day_le : t.day ≤ daysOfMonth t.year t.month
  hour_lt : t.hour < 24
  minute_lt : t.minute < 60
  second_lt : t.second < 60
  /-- A leap second goes on for a second more. -/
  nanosecond_lt : t.nanosecond < 2000000000

/-- The same time of the next day. -/
def nextDay (t : Instant) : Instant :=
  if t.day < daysOfMonth t.year t.month then { t with day := t.day + 1 }
  else if t.month < 12 then { t with month := t.month + 1, day := 1 }
  else { t with year := t.year + 1, month := 1, day := 1 }

end Instant

/-! ## Days -/

theorem daysOfMonth_pos (year : ℤ) (month : ℕ) : 1 ≤ daysOfMonth year month := by
  unfold daysOfMonth
  split_ifs <;> omega

theorem daysOfMonth_le (year : ℤ) (month : ℕ) : daysOfMonth year month ≤ 31 := by
  unfold daysOfMonth
  split_ifs <;> omega

theorem isLeapYear_iff {year : ℤ} :
    isLeapYear year = true ↔ year % 4 = 0 ∧ (year % 100 ≠ 0 ∨ year % 400 = 0) := by
  simp [isLeapYear]

theorem dayNumber_add (year : ℤ) (month day k : ℕ) :
    dayNumber year month (day + k) = dayNumber year month day + k := by
  unfold dayNumber
  simp only
  omega

/-- The first day of a month comes after the last day of the month before. The
months are gone through one by one; February is where leap years come in. -/
theorem dayNumber_month_succ (year : ℤ) {month : ℕ} (hpos : 1 ≤ month) (hlt : month < 12) :
    dayNumber year (month + 1) 1 = dayNumber year month (daysOfMonth year month) + 1 := by
  have hleap : isLeapYear year = true ↔ year % 4 = 0 ∧ (year % 100 ≠ 0 ∨ year % 400 = 0) :=
    isLeapYear_iff
  unfold dayNumber daysOfMonth
  rcases eq_or_ne month 2 with rfl | hmonth
  · by_cases h : isLeapYear year = true
    · have := hleap.mp h
      simp [h]
      omega
    · have := mt hleap.mpr h
      simp [h]
      omega
  · interval_cases month <;> simp at hmonth ⊢ <;> omega

theorem dayNumber_year_succ (year : ℤ) : dayNumber (year + 1) 1 1 = dayNumber year 12 31 + 1 := by
  unfold dayNumber
  simp
  omega

namespace Instant

variable {t : Instant}

theorem IsValid.nextDay (h : t.IsValid) : t.nextDay.IsValid := by
  obtain ⟨hmonth, hmonth', hday, hday', hhour, hminute, hsecond, hnanosecond⟩ := h
  unfold Instant.nextDay
  split_ifs with hlast hyear
  · exact ⟨hmonth, hmonth', by simp, hlast, hhour, hminute, hsecond, hnanosecond⟩
  · exact ⟨by simp, hyear, le_rfl, daysOfMonth_pos _ _, hhour, hminute, hsecond, hnanosecond⟩
  · exact ⟨le_rfl, by simp, le_rfl, daysOfMonth_pos _ _, hhour, hminute, hsecond, hnanosecond⟩

/-- Days are counted one by one. -/
theorem dayNumber_nextDay (h : t.IsValid) :
    dayNumber t.nextDay.year t.nextDay.month t.nextDay.day =
      dayNumber t.year t.month t.day + 1 := by
  have hle := h.day_le
  unfold nextDay
  split_ifs with hlast hyear
  · exact dayNumber_add t.year t.month t.day 1
  · obtain hday : t.day = daysOfMonth t.year t.month := by omega
    rw [hday]
    exact dayNumber_month_succ t.year h.month_pos hyear
  · have hmonth := h.month_le
    obtain hmonth : t.month = 12 := by omega
    obtain hday : t.day = daysOfMonth t.year 12 := by
      rw [hmonth] at hlast hle
      omega
    rw [hmonth, hday]
    exact dayNumber_year_succ t.year

/-- Every instant falls on a day of the week. -/
theorem exists_weekday (t : Instant) : ∃ i < 7, weekdayNames[i]? = some t.weekday ∧
    (dayNumber t.year t.month t.day % 7).toNat = i := by
  have hlt : (dayNumber t.year t.month t.day % 7).toNat < 7 := by omega
  refine ⟨_, hlt, ?_, rfl⟩
  have hnames : (dayNumber t.year t.month t.day % 7).toNat < weekdayNames.length := hlt
  rw [weekday, List.getElem?_eq_getElem hnames, Option.getD_some]

/-- The day after is the next day of the week. -/
theorem weekday_nextDay (h : t.IsValid) : ∃ i < 7, weekdayNames[i]? = some t.weekday ∧
    weekdayNames[(i + 1) % 7]? = some t.nextDay.weekday := by
  obtain ⟨i, hi, htoday, hindex⟩ := exists_weekday t
  obtain ⟨j, hj, htomorrow, hnext⟩ := exists_weekday t.nextDay
  rw [dayNumber_nextDay h] at hnext
  have hij : (i + 1) % 7 = j := by omega
  exact ⟨i, hi, htoday, hij ▸ htomorrow⟩

/-- The weekdays keep step with the calendar, so one known day fixes all. -/
example : (⟨2025, 4, 18, 14, 30, 45, 0⟩ : Instant).weekday = "Friday".toList := by decide

/-- Four hundred years are a whole number of weeks. -/
theorem weekday_add_cycle (t : Instant) : { t with year := t.year + 400 }.weekday = t.weekday := by
  have hcycle : dayNumber (t.year + 400) t.month t.day =
      dayNumber t.year t.month t.day + 7 * 20871 := by
    unfold dayNumber
    simp only
    split <;> omega
  rw [weekday, weekday, hcycle, Int.add_mul_emod_self_left]

theorem IsValid.getElem?_monthNames (h : t.IsValid) :
    monthNames[t.month - 1]? = some t.monthName := by
  have hle := h.month_le
  have hlt : t.month - 1 < monthNames.length := by
    show t.month - 1 < 12
    omega
  rw [monthName, List.getElem?_eq_getElem hlt, Option.getD_some]

end Instant

/-! ## Texts -/

/-- The year that a text tells: digits, perhaps behind a sign. -/
def readYear : Text → ℤ
  | '-' :: digits => -Text.digitsValue digits
  | '+' :: digits => Text.digitsValue digits
  | digits => Text.digitsValue digits

theorem readYear_padded (width n : ℕ) : readYear (Text.padded width n) = n := by
  have hdigits : ∀ c ∈ Text.padded width n, c.isDigit = true :=
    fun _ => Text.isDigit_of_mem_padded
  rw [readYear]
  · rw [Text.digitsValue_padded]
  · rintro digits hminus
    exact absurd (hdigits '-' (hminus ▸ List.mem_cons_self)) (by decide)
  · rintro digits hplus
    exact absurd (hdigits '+' (hplus ▸ List.mem_cons_self)) (by decide)

theorem length_padded_two {n : ℕ} (h : n < 100) : (Text.padded 2 n).length = 2 :=
  Text.length_padded (by decide) h

theorem padded_two_inj {m n : ℕ} (h : Text.padded 2 m = Text.padded 2 n) : m = n := by
  rw [← Text.digitsValue_padded 2 m, h, Text.digitsValue_padded]

namespace Instant

variable {s t : Instant}

/-- Every year is read back, before 0 and after 9999 too. -/
theorem readYear_yearText (t : Instant) : readYear t.yearText = t.year := by
  rw [yearText]
  split_ifs with hneg hle
  · rw [readYear, Text.digitsValue_padded]
    omega
  · rw [readYear_padded]
    omega
  · rw [readYear, Text.digitsValue_padded]
    omega

theorem IsValid.month_lt (h : t.IsValid) : t.month < 100 := by
  have := h.month_le
  omega

theorem IsValid.day_lt (h : t.IsValid) : t.day < 100 := by
  have := h.day_le
  have := daysOfMonth_le t.year t.month
  omega

theorem IsValid.shownSecond_le (h : t.IsValid) : t.shownSecond ≤ 60 := by
  have hsecond := h.second_lt
  have hnanosecond := h.nanosecond_lt
  unfold shownSecond
  omega

/-- In the years that have four digits the texts have a fixed width. -/
theorem length_timeText (h : t.IsValid) (hyear : 0 ≤ t.year ∧ t.year ≤ 9999) :
    t.timeText.length = 19 := by
  have hdigits : (Text.padded 4 t.year.natAbs).length = 4 :=
    Text.length_padded (by decide) (by omega)
  have hnotneg : ¬t.year < 0 := by omega
  have hhour := h.hour_lt
  have hminute := h.minute_lt
  have hsecond := h.shownSecond_le
  simp [timeText, dateText, yearText, hnotneg, hyear.2, hdigits, length_padded_two h.month_lt,
    length_padded_two h.day_lt, length_padded_two (show t.hour < 100 by omega),
    length_padded_two (show t.minute < 100 by omega),
    length_padded_two (show t.shownSecond < 100 by omega)]

/-- Month and day have a fixed width, so that the year may have any. -/
theorem date_eq_of_dateText_eq (ht : t.IsValid) (hs : s.IsValid) (h : t.dateText = s.dateText) :
    t.year = s.year ∧ t.month = s.month ∧ t.day = s.day := by
  rw [dateText, dateText] at h
  obtain ⟨hfront, hday⟩ := List.append_inj' h (by
    simp [length_padded_two ht.day_lt, length_padded_two hs.day_lt])
  obtain ⟨hyear, hmonth⟩ := List.append_inj' hfront (by
    simp [length_padded_two ht.month_lt, length_padded_two hs.month_lt])
  refine ⟨?_, padded_two_inj (List.cons_eq_cons.mp hmonth).2,
    padded_two_inj (List.cons_eq_cons.mp hday).2⟩
  rw [← readYear_yearText t, hyear, readYear_yearText]

theorem dateText_eq_of_timeText_eq (ht : t.IsValid) (hs : s.IsValid)
    (h : t.timeText = s.timeText) : t.dateText = s.dateText := by
  have hhour : t.hour < 100 ∧ s.hour < 100 := by
    have := ht.hour_lt
    have := hs.hour_lt
    omega
  have hminute : t.minute < 100 ∧ s.minute < 100 := by
    have := ht.minute_lt
    have := hs.minute_lt
    omega
  have hsecond : t.shownSecond < 100 ∧ s.shownSecond < 100 := by
    have := ht.shownSecond_le
    have := hs.shownSecond_le
    omega
  rw [timeText, timeText] at h
  obtain ⟨hfront, -⟩ := List.append_inj' h (by
    simp [length_padded_two hsecond.1, length_padded_two hsecond.2])
  obtain ⟨hfront, -⟩ := List.append_inj' hfront (by
    simp [length_padded_two hminute.1, length_padded_two hminute.2])
  exact (List.append_inj' hfront (by
    simp [length_padded_two hhour.1, length_padded_two hhour.2])).1

end Instant

end Calendar

/-! ## Records -/

/-- Whoever reads the time in a letter knows the other values that are taken
from the clock: all of them tell of the same instant. -/
theorem Context.clock_values_agree {context other : Context} (h : context.now.IsValid)
    (h' : other.now.IsValid) {address address' : Text}
    (htime : context.derived address .time = other.derived address' .time) :
    ∀ b ∈ Builtin.ofClock, context.derived address b = other.derived address' b := by
  have hdate : context.now.dateText = other.now.dateText :=
    Calendar.Instant.dateText_eq_of_timeText_eq h h' htime
  obtain ⟨hyear, hmonth, hday⟩ := Calendar.Instant.date_eq_of_dateText_eq h h' hdate
  intro b hb
  simp only [Builtin.ofClock, List.mem_cons, List.not_mem_nil, or_false] at hb
  rcases hb with rfl | rfl | rfl | rfl | rfl
  · exact htime
  · exact hdate
  · simp only [derived, Calendar.Instant.weekday, hyear, hmonth, hday]
  · simp only [derived, Calendar.Instant.monthName, hmonth]
  · simp only [derived, Calendar.Instant.yearText, hyear]

/-- The examples of the catalogue are the values for one address at one instant,
the number apart, which is made up. -/
example :
    let context : Context := ⟨⟨2025, 4, 18, 14, 30, 45, 0⟩, Context.defaultUnsubscribeBase⟩
    (Catalogue.builtins.filter fun e => e.name ≠ Builtin.randomNumber.name).map
        (fun e => (e.name, e.sample)) =
      (context.derivedVariables "john.doe@example.com".toList).filter fun v =>
        v.1 ≠ Builtin.randomNumber.name := by
  decide +kernel

end FormLetter
