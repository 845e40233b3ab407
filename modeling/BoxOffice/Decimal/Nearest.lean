/-!
# Binary floating point numbers nearest to a fraction

A finite positive double is `m * 2 ^ q` with `m < 2 ^ 53` and `-1074 ≤ q ≤ 971`. `nearest` finds the one
nearest to a given fraction, the even one on a tie, and infinity from half a step beyond the greatest.
-/

namespace BoxOffice.Decimal

/-- The quotient rounded to a whole number, a tie going to the even neighbour. -/
def roundDiv (num den : Nat) : Nat :=
  let quotient := num / den
  let twice := 2 * (num % den)
  if twice < den then quotient
  else if den < twice then quotient + 1
  else if quotient % 2 = 0 then quotient else quotient + 1

/-- The exponent of two by which a fraction has to be divided to lie below `2 ^ 53` and no lower than
half of that, or the least exponent there is. -/
def scaleOf (num den : Nat) : Int :=
  let upper : Int := (num.log2 : Int) - den.log2 - 52
  let fitsBelow := num * Nat.pow 2 (1 - upper).toNat < den * Nat.pow 2 (53 + (upper - 1).toNat)
  max (if fitsBelow then upper - 1 else upper) (-1074)

/-- The bits of the double nearest to a fraction. -/
def nearestBits (num den : Nat) : UInt64 :=
  if num = 0 then 0
  else
    let q := scaleOf num den
    let m := roundDiv (num * Nat.pow 2 (-q).toNat) (den * Nat.pow 2 q.toNat)
    let (m, q) := if m = Nat.pow 2 53 then (Nat.pow 2 52, q + 1) else (m, q)
    if q > 971 then 0x7FF0000000000000
    else if m < Nat.pow 2 52 then UInt64.ofNat m
    else UInt64.ofNat ((q + 1075).toNat * Nat.pow 2 52 + (m - Nat.pow 2 52))

/-- The double nearest to a fraction. -/
def nearest (num den : Nat) : Float :=
  Float.ofBits (nearestBits num den)

/-- The double nearest to `m * 10 ^ e`. Beyond the range of doubles no power is computed. -/
def nearestScientific (m : Nat) (e : Int) : Float :=
  let magnitude : Int := (Nat.log2 m : Int) / 4 + e
  if m = 0 then 0
  else if magnitude > 400 then Float.ofBits 0x7FF0000000000000
  else if (Nat.log2 m : Int) / 3 + 1 + e < -400 then 0
  else nearest (m * Nat.pow 10 e.toNat) (Nat.pow 10 (-e).toNat)

/-- The whole numbers `m` and `q` with which a finite double without its sign is `m * 2 ^ q`. -/
def significand (x : Float) : Nat × Int :=
  let bits : Nat := x.toBits.toNat
  let field : Nat := bits / Nat.pow 2 52 % Nat.pow 2 11
  let fraction : Nat := bits % Nat.pow 2 52
  if field = 0 then (fraction, -1074) else (Nat.pow 2 52 + fraction, (field : Int) - 1075)

end BoxOffice.Decimal
