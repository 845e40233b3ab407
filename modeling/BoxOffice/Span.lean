/-!
# Spans of time

A span is a length of time in whole nanoseconds, never negative. The clock that everything waits on
ticks in milliseconds, so a wait ends with the first tick that is not before it.
-/

namespace BoxOffice

/-- A length of time. -/
structure Span where
  nanos : Nat
  deriving DecidableEq, Repr, Inhabited

namespace Span

/-- A span of whole seconds. -/
def ofSeconds (n : Nat) : Span := ⟨n * 1000000000⟩

/-- A span of whole milliseconds. -/
def ofMillis (n : Nat) : Span := ⟨n * 1000000⟩

/-- A span of whole microseconds. -/
def ofMicros (n : Nat) : Span := ⟨n * 1000⟩

/-- The whole milliseconds in a span. -/
def millis (s : Span) : Nat := s.nanos / 1000000

/-- The ticks of one millisecond that a wait of this span takes. -/
def ticks (s : Span) : Nat := (s.nanos + 999999) / 1000000

/-- The whole seconds in a span. -/
def wholeSeconds (s : Span) : Nat := s.nanos / 1000000000

/-- The nanoseconds of a span beyond its whole seconds. -/
def subNanos (s : Span) : Nat := s.nanos % 1000000000

@[simp]
theorem ticks_ofMillis (n : Nat) : (ofMillis n).ticks = n := by
  simp only [ofMillis, ticks]
  omega

end Span

end BoxOffice
