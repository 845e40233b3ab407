import BoxOffice.Decimal.Nearest
import BoxOffice.Span

/-!
# How often and how long

A retry policy bounds the number of further attempts and fixes the wait before each: the first wait times
a power of the growth factor, never more than the greatest wait. Waits are computed as doubles in whole
milliseconds; one that is no number, or not below the greatest wait, is the greatest wait. A spread
scales a wait by a factor drawn around one. There may be no such factor, and the scaled wait may be none:
then there is a fault in place of the wait, which is a panic.
-/

namespace BoxOffice.Retry

/-- Why there is no wait. -/
inductive Fault
  /-- There is no factor to draw. -/
  | noFactor
  /-- The wait would be shorter than none. -/
  | negative
  /-- The wait would be longer than every span, or is no number. -/
  | tooLong
  deriving DecidableEq, Repr

/-- The text that a fault panics with. -/
def Fault.message : Fault → String
  | noFactor => "cannot sample empty range"
  | negative => "cannot convert float seconds to Duration: value is negative"
  | tooLong => "cannot convert float seconds to Duration: value is either too big or NaN"

/-- The seconds of a span. -/
def secondsOf (s : Span) : Float :=
  Decimal.nearest s.wholeSeconds 1 + Decimal.nearest s.subNanos 1 / 1000000000.0

/-- The span of so many seconds, to the nearest nanosecond, the even one on a tie. Spans are counted in
seconds of 64 bits. -/
def spanOf (seconds : Float) : Except Fault Span :=
  if seconds < 0.0 then .error .negative
  else if seconds < 18446744073709551616.0 then
    let (m, q) := Decimal.significand seconds
    .ok ⟨Decimal.roundDiv (m * 1000000000 * Nat.pow 2 q.toNat) (Nat.pow 2 (-q).toNat)⟩
  else .error .tooLong

/-- A span times a factor. -/
def scaled (s : Span) (factor : Float) : Except Fault Span := spanOf (factor * secondsOf s)

/-- How often and how long to wait between attempts. -/
structure Policy where
  /-- The attempts after the first. -/
  maxRetries : Nat
  /-- The wait before the first of them. -/
  initial : Span
  /-- The greatest wait. -/
  greatest : Span
  /-- How much longer each wait is than the one before. -/
  multiplier : Float
  /-- How much of a wait may be added or taken away, from 0 to 1. -/
  spread : Float

namespace Policy

/-- Three retries, from 100 milliseconds on, twice as long each time, 30 seconds at most. -/
def standard : Policy := ⟨3, .ofMillis 100, .ofSeconds 30, 2.0, 0.0⟩

/-- No retry. -/
def none : Policy := ⟨0, ⟨0⟩, ⟨0⟩, 1.0, 0.0⟩

instance : Inhabited Policy := ⟨standard⟩

/-- The greatest exponent that a wait is computed with. -/
def maxExponent : Nat := 2147483647

/-- The product of `acc` and a power of `base`, by squaring: for each binary digit of the exponent from
the lowest on, a one multiplies the product by the current square. -/
def powerFrom (acc base : Float) (n : Nat) : Float :=
  let acc := if n % 2 = 1 then acc * base else acc
  if n / 2 = 0 then acc else powerFrom acc (base * base) (n / 2)
termination_by n
decreasing_by omega

/-- A power with a whole exponent. -/
def power (base : Float) (n : Nat) : Float := powerFrom 1.0 base n

/-- The wait before retry `n`, counted from zero, without spread. -/
def backoff (p : Policy) (n : Nat) : Span :=
  let cap := Decimal.nearest p.greatest.millis 1
  let wait := Decimal.nearest p.initial.millis 1 * power p.multiplier (min n maxExponent)
  if wait.isFinite && wait < cap then .ofMillis wait.toUInt64.toNat else p.greatest

/-- The spread within its bounds. No number stays what it is. -/
def boundedSpread (p : Policy) : Float :=
  if p.spread < 0.0 then 0.0 else if 1.0 < p.spread then 1.0 else p.spread

/-- The wait before retry `n` when `draw`, from 0 to 1, is drawn for the spread. -/
def wait (p : Policy) (n : Nat) (draw : Float) : Except Fault Span :=
  let base := p.backoff n
  let spread := p.boundedSpread
  if spread == 0.0 || base.nanos == 0 then .ok base
  else
    let least := 1.0 - spread
    let greatest := 1.0 + spread
    if least ≤ greatest then scaled base (least + draw * (greatest - least)) else .error .noFactor

/-- The shortest and the longest wait before retry `n`. -/
def bounds (p : Policy) (n : Nat) : Except Fault (Span × Span) := do
  return (← p.wait n 0.0, ← p.wait n 1.0)

end Policy

end BoxOffice.Retry
