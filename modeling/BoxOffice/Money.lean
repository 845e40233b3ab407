import BoxOffice.Ident

/-!
# Money

An amount is a whole number of cents of either sign that fits in 64 bits. A price times a number of
seats stops at the greatest and the least amount there is.
-/

namespace BoxOffice

/-- An amount of money. -/
structure Money where
  cents : Int
  deriving DecidableEq, Repr, Inhabited

namespace Money

/-- No money. -/
def zero : Money := ⟨0⟩

/-- The greatest amount. -/
def greatest : Int := 9223372036854775807

/-- The least amount. -/
def least : Int := -9223372036854775808

/-- A unit price times a number of seats, held within the greatest and the least amount. -/
def times (price : Money) (seats : Nat) : Money :=
  ⟨max least (min greatest (price.cents * seats))⟩

/-- The form in reports: a minus sign where needed, units, a point and two digits. -/
def text (m : Money) : String :=
  let size := m.cents.natAbs
  let body := Decimal.natText (size / 100) ++ "." ++ Decimal.padded 2 (size % 100)
  if m.cents < 0 then "-" ++ body else body

end Money

end BoxOffice
