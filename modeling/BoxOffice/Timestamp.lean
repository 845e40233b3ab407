import BoxOffice.Calendar
import BoxOffice.Decimal.Integer

/-!
# Points in time

A timestamp counts seconds from the start of 1970 and nanoseconds within the second, in universal time,
from the first second of the year -262143 to the last of the year 262142. A leap second is the 59th
second of a minute with a thousand million nanoseconds or more. `Timestamp.text` is the form in messages
and answers, `Timestamp.sentence` the form in reports.
-/

namespace BoxOffice

/-- The day number of 1 January 1970. -/
def Timestamp.epochDay : Int := 719162

/-- The first second there is. -/
def Timestamp.firstSecond : Int := -8334601228800

/-- The last second there is. -/
def Timestamp.lastSecond : Int := 8210266876799

/-- A point in time. -/
structure Timestamp where
  /-- Seconds since the start of 1970. -/
  seconds : Int
  /-- Nanoseconds within the second, beyond a thousand million in a leap second. -/
  nanos : Nat
  first_le : Timestamp.firstSecond ≤ seconds
  le_last : seconds ≤ Timestamp.lastSecond
  nanos_lt : nanos < 2000000000
  leap_at_59 : 1000000000 ≤ nanos → seconds % 60 = 59
  deriving DecidableEq, Repr

namespace Timestamp

/-- The point in time with the given parts, when there is one. -/
def ofParts? (seconds : Int) (nanos : Nat) : Option Timestamp :=
  if h : (firstSecond ≤ seconds ∧ seconds ≤ lastSecond) ∧ nanos < 2000000000 ∧
      (1000000000 ≤ nanos → seconds % 60 = 59) then
    some ⟨seconds, nanos, h.1.1, h.1.2, h.2.1, h.2.2⟩
  else none

/-- The start of a second that there is. -/
def ofSecond (second : Int) (inRange : firstSecond ≤ second ∧ second ≤ lastSecond) : Timestamp :=
  ⟨second, 0, inRange.1, inRange.2, by decide, fun leap => absurd leap (by decide)⟩

/-- The start of 1970. -/
def epoch : Timestamp := ofSecond 0 (by decide)

instance : Inhabited Timestamp := ⟨epoch⟩

/-- Later in time: a leap second comes after its minute's other seconds. -/
def after (t u : Timestamp) : Bool :=
  u.seconds < t.seconds || u.seconds = t.seconds && u.nanos < t.nanos

/-- The point in time some nanoseconds later, or earlier when they are negative. A step that stays in a
leap second stays there; one that leaves it counts it as the second it follows, or, backwards, as the one
after. There is no result beyond the first and the last second. -/
def add? (t : Timestamp) (nanos : Int) : Option Timestamp :=
  let seconds := nanos.tdiv 1000000000
  let rest := nanos.tmod 1000000000
  let sum (start : Int) (part : Nat) : Option Timestamp :=
    let total : Int := part + rest
    ofParts? (start + seconds + total / 1000000000) (total % 1000000000).toNat
  if t.nanos < 1000000000 then sum t.seconds t.nanos
  else if 0 < seconds ∨ (0 < rest ∧ 2000000000 ≤ t.nanos + rest) then
    sum t.seconds (t.nanos - 1000000000)
  else if seconds < 0 then sum (t.seconds + 1) (t.nanos - 1000000000)
  else ofParts? t.seconds (t.nanos + rest).toNat

/-! ### Writing -/

/-- A year: four digits, and a sign when four are not enough or it is before year 0. -/
def yearText (year : Int) : List Char :=
  if 0 ≤ year ∧ year ≤ 9999 then Decimal.paddedDigits 4 year.toNat
  else (if year < 0 then '-' else '+') :: Decimal.paddedDigits 4 year.natAbs

/-- The fraction of a second: nothing when it is zero, else the least of 3, 6 and 9 digits that hold
it. -/
def fractionText (nanos : Nat) : List Char :=
  if nanos = 0 then []
  else if nanos % 1000000 = 0 then '.' :: Decimal.paddedDigits 3 (nanos / 1000000)
  else if nanos % 1000 = 0 then '.' :: Decimal.paddedDigits 6 (nanos / 1000)
  else '.' :: Decimal.paddedDigits 9 nanos

/-- The date of a point in time. -/
def date (t : Timestamp) : Calendar.Date :=
  Calendar.Date.ofDayNumber (t.seconds / 86400 + epochDay)

/-- Date and time of day, with `separator` between them. A leap second shows as second 60. -/
def body (separator : Char) (t : Timestamp) : List Char :=
  let date := t.date
  let ofDay := (t.seconds % 86400).toNat
  let second := ofDay % 60 + t.nanos / 1000000000
  yearText date.year ++ '-' :: Decimal.paddedDigits 2 date.month ++ '-' ::
    Decimal.paddedDigits 2 date.day ++ separator :: Decimal.paddedDigits 2 (ofDay / 3600) ++ ':' ::
    Decimal.paddedDigits 2 (ofDay / 60 % 60) ++ ':' :: Decimal.paddedDigits 2 second ++
    fractionText (t.nanos % 1000000000)

/-- The form in messages, such as `2030-01-01T00:00:00Z`. -/
def text (t : Timestamp) : String :=
  String.ofList (body 'T' t ++ ['Z'])

/-- The form in reports, such as `2030-01-01 00:00:00 UTC`. -/
def sentence (t : Timestamp) : String :=
  String.ofList (body ' ' t ++ " UTC".toList)

end Timestamp

end BoxOffice
