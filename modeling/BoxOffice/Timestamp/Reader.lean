import BoxOffice.Timestamp
import BoxOffice.Text.Blank

/-!
# Reading points in time

A date text is year, month and day with hyphens, one of `T`, `t` and a space, hour, minute and second
with colons and an optional fraction, and an offset from universal time: `Z`, `z`, `UTC` in any case, or
a sign with hours and minutes. Fields may have one digit, blanks may stand before numbers and separators
and before the offset and at the end, and a year of more than four digits needs a sign. The first fault
from the left is the one that is told, and a value is checked as soon as it is read.
-/

namespace BoxOffice.Timestamp

/-- What is wrong with a text that is no date. -/
inductive Fault
  | tooShort
  /-- A character that may not stand there. -/
  | invalid
  /-- Something after the offset. -/
  | tooLong
  /-- A field or the whole beyond its range. -/
  | outOfRange
  /-- A time of day that the offset carries beyond the first or last day. -/
  | impossible
  deriving DecidableEq, Repr

/-- The report of a fault. -/
def Fault.message : Fault → String
  | .tooShort => "premature end of input"
  | .invalid => "input contains invalid characters"
  | .tooLong => "trailing input"
  | .outOfRange => "input is out of range"
  | .impossible => "no possible date and time matching input"

/-- The greatest number that a field can hold on the way. -/
def fieldLimit : Nat := 9223372036854775807

/-- Goes on with a number: at most `width` more digits. -/
def moreDigits : Nat → Nat → List Char → Except Fault (Nat × List Char)
  | 0, n, cs => .ok (n, cs)
  | _ + 1, n, [] => .ok (n, [])
  | width + 1, n, c :: cs =>
    match Decimal.digitValue? c with
    | none => .ok (n, c :: cs)
    | some d => if fieldLimit < n * 10 + d then .error .outOfRange else moreDigits width (n * 10 + d) cs

/-- A number of one to `width` digits. -/
def number (width : Nat) : List Char → Except Fault (Nat × List Char)
  | [] => .error .tooShort
  | c :: cs =>
    match Decimal.digitValue? c with
    | none => .error .invalid
    | some d => moreDigits (width - 1) d cs

/-- A number of at most two digits between `low` and `high`, after blanks. -/
def field (low high : Nat) (cs : List Char) : Except Fault (Nat × List Char) := do
  let (n, rest) ← number 2 (Text.dropBlanks cs)
  if low ≤ n ∧ n ≤ high then .ok (n, rest) else .error .outOfRange

/-- A separator after blanks. -/
def separator (mark : Char) (cs : List Char) : Except Fault (List Char) :=
  match Text.dropBlanks cs with
  | [] => .error .tooShort
  | c :: rest => if c = mark then .ok rest else .error .invalid

/-- A year: up to four digits, or a sign and any number of them. It has to fit in 32 bits. -/
def year (cs : List Char) : Except Fault (Int × List Char) := do
  let fits (y : Int) (rest : List Char) : Except Fault (Int × List Char) :=
    if -2147483648 ≤ y ∧ y ≤ 2147483647 then .ok (y, rest) else .error .outOfRange
  match Text.dropBlanks cs with
  | '-' :: rest =>
    let (n, rest) ← number (rest.length + 1) rest
    fits (-n) rest
  | '+' :: rest =>
    let (n, rest) ← number (rest.length + 1) rest
    fits n rest
  | rest =>
    let (n, rest) ← number 4 rest
    fits n rest

/-- A fraction of a second in nanoseconds: nine digits count, further ones are dropped. -/
def fraction : List Char → Except Fault (Nat × List Char)
  | '.' :: rest => do
    let (n, after) ← number 9 rest
    let count := rest.length - after.length
    .ok (n * Nat.pow 10 (9 - count), after.dropWhile fun c => (Decimal.digitValue? c).isSome)
  | cs => .ok (0, cs)

/-- Two digits of an offset. -/
def twoDigits : List Char → Except Fault (Nat × Nat × List Char)
  | [] => .error .tooShort
  | [c] => .error (if c.utf8Size < 2 then .tooShort else .invalid)
  | c :: d :: rest =>
    match Decimal.digitValue? c, Decimal.digitValue? d with
    | some tens, some ones => .ok (tens, ones, rest)
    | _, _ => .error .invalid

/-- An offset in seconds. -/
def offset (cs : List Char) : Except Fault (Int × List Char) :=
  if (cs.take 3).map Char.toLower = ['u', 't', 'c'] then .ok (0, cs.drop 3)
  else
    let signed (sign : Int) (rest : List Char) : Except Fault (Int × List Char) := do
      let (tens, ones, rest) ← twoDigits rest
      let hours := tens * 10 + ones
      let (tens, ones, rest) ← twoDigits (rest.dropWhile fun c => c = ':' || Text.isBlank c)
      if 6 ≤ tens then .error .outOfRange
      else .ok (sign * (hours * 3600 + (tens * 10 + ones) * 60), rest)
    match cs with
    | [] => .error .tooShort
    | c :: rest =>
      if c = 'Z' ∨ c = 'z' then .ok (0, rest)
      else if c = '+' then signed 1 rest
      else if c = '-' ∨ c = '\u2212' then signed (-1) rest
      else .error .invalid

/-- The point in time of a date, a time of day in seconds and nanoseconds, and an offset. -/
def assemble (date : Calendar.Date) (ofDay nanos : Nat) (offset : Int) : Except Fault Timestamp :=
  let seconds := (date.dayNumber - epochDay) * 86400 + ofDay
  if date.isValid = false ∨ seconds < firstSecond ∨ lastSecond < seconds then .error .outOfRange
  else if offset ≤ -86400 ∨ 86400 ≤ offset then .error .outOfRange
  else
    match ofParts? (seconds - offset) nanos with
    | some t => .ok t
    | none => .error .impossible

/-- Reads a point in time, or tells the first fault. -/
def read (s : String) : Except Fault Timestamp := do
  let (year, cs) ← year s.toList
  let cs ← separator '-' cs
  let (month, cs) ← field 1 12 cs
  let cs ← separator '-' cs
  let (day, cs) ← field 1 31 cs
  let cs ←
    match cs with
    | [] => .error .tooShort
    | c :: rest => if c = 'T' ∨ c = 't' ∨ c = ' ' then .ok rest else .error Fault.invalid
  let (hour, cs) ← field 0 23 cs
  let cs ← separator ':' cs
  let (minute, cs) ← field 0 59 cs
  let cs ← separator ':' cs
  let (second, cs) ← field 0 60 cs
  let (nanos, cs) ← fraction cs
  let (offset, cs) ← offset (Text.dropBlanks cs)
  if Text.dropBlanks cs ≠ [] then .error .tooLong
  let leap := if second = 60 then 1 else 0
  assemble ⟨year, month, day⟩ (hour * 3600 + minute * 60 + (second - leap))
    (nanos + leap * 1000000000) offset

end BoxOffice.Timestamp
