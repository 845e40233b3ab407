/-!
# The calendar

Dates of the Gregorian calendar, extended in both directions without a year being left out: year 0 comes
before year 1. Days are numbered from 1 January of year 1. A date and its day number determine each
other: `dayNumber_ofDayNumber` says so of every number.
-/

namespace BoxOffice.Calendar

/-- A year with 29 February. -/
def isLeap (year : Int) : Bool :=
  year % 4 = 0 && (year % 100 ≠ 0 || year % 400 = 0)

/-- The days of the years from 1 up to but without the given one. -/
def daysBeforeYear (year : Int) : Int :=
  let past := year - 1
  365 * past + past / 4 - past / 100 + past / 400

/-- The lengths of the months, January first. -/
def monthLengths (leap : Bool) : List Nat :=
  [31, if leap then 29 else 28, 31, 30, 31, 30, 31, 31, 30, 31, 30, 31]

/-- A date. -/
structure Date where
  year : Int
  /-- The month, from 1. -/
  month : Nat
  /-- The day of the month, from 1. -/
  day : Nat
  deriving DecidableEq, Repr

/-- Whether the calendar has the date. -/
def Date.isValid (d : Date) : Bool :=
  match (monthLengths (isLeap d.year))[d.month - 1]? with
  | none => false
  | some length => 1 ≤ d.month && 1 ≤ d.day && d.day ≤ length

/-- The days of months together. -/
def totalLength : List Nat → Nat
  | [] => 0
  | length :: rest => length + totalLength rest

/-- The days of a year before one of its months. -/
def daysBeforeMonth (leap : Bool) (month : Nat) : Nat :=
  totalLength ((monthLengths leap).take (month - 1))

/-- The number of a date's day. -/
def Date.dayNumber (d : Date) : Int :=
  daysBeforeYear d.year + daysBeforeMonth (isLeap d.year) d.month + (d.day : Int) - 1

/-- The year of a day: the average length of a year gives it up to one year. -/
def yearOfDay (n : Int) : Int :=
  let guess := n * 400 / 146097 + 1
  if n < daysBeforeYear guess then guess - 1
  else if daysBeforeYear (guess + 1) ≤ n then guess + 1
  else guess

/-- The months that are over on a day counted from the first of `lengths`, and the days since. -/
def splitMonths : List Nat → Nat → Nat × Nat
  | [], days => (0, days)
  | length :: rest, days =>
    if days < length then (0, days)
    else
      let (months, left) := splitMonths rest (days - length)
      (months + 1, left)

/-- The date of a day. -/
def Date.ofDayNumber (n : Int) : Date :=
  let year := yearOfDay n
  let (months, days) := splitMonths (monthLengths (isLeap year)) (n - daysBeforeYear year).toNat
  ⟨year, months + 1, days + 1⟩

/-! ### Dates and day numbers -/

theorem daysBeforeYear_yearOfDay_le (n : Int) : daysBeforeYear (yearOfDay n) ≤ n := by
  rw [yearOfDay]
  split
  · simp only [daysBeforeYear] at *
    omega
  · split
    · assumption
    · simp only [daysBeforeYear] at *
      omega

theorem lt_daysBeforeYear_succ_yearOfDay (n : Int) : n < daysBeforeYear (yearOfDay n + 1) := by
  rw [yearOfDay]
  split
  · simp only [daysBeforeYear] at *
    omega
  · split
    · simp only [daysBeforeYear] at *
      omega
    · omega

theorem splitMonths_sum (lengths : List Nat) (days : Nat) :
    totalLength (lengths.take (splitMonths lengths days).1) + (splitMonths lengths days).2 = days := by
  induction lengths generalizing days with
  | nil => simp [splitMonths, totalLength]
  | cons length rest ih =>
    rw [splitMonths]
    split
    · simp [totalLength]
    · have := ih (days - length)
      simp only [List.take_succ_cons, totalLength]
      omega

/-- The day of the date of a day is that day. -/
theorem dayNumber_ofDayNumber (n : Int) : (Date.ofDayNumber n).dayNumber = n := by
  have hle := daysBeforeYear_yearOfDay_le n
  have hsum := splitMonths_sum (monthLengths (isLeap (yearOfDay n)))
    (n - daysBeforeYear (yearOfDay n)).toNat
  simp only [Date.ofDayNumber, Date.dayNumber, daysBeforeMonth, Nat.add_sub_cancel]
  omega

end BoxOffice.Calendar
