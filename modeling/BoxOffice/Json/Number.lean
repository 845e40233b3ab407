import BoxOffice.Json.Error
import BoxOffice.Decimal.Nearest
import BoxOffice.Text.Bytes

/-!
# Numbers in JSON

A number is an optional minus sign, digits without a superfluous leading zero, an optional fraction and
an optional exponent. It stands for a whole number when it has neither fraction nor exponent and fits in
64 bits, and for a double otherwise; `-0` is a double. The double is found from at most as many digits as
fit in 64 bits, scaled by a power of ten.
-/

namespace BoxOffice.Json

/-- The byte of an ASCII character. -/
def ascii (c : Char) : UInt8 := UInt8.ofNat c.toNat

/-- The value of a digit's byte. -/
def digitOf? (b : UInt8) : Option Nat :=
  if 48 ≤ b.toNat ∧ b.toNat ≤ 57 then some (b.toNat - 48) else none

/-- The digits at the start of bytes, and the rest. -/
def takeDigits : Bytes → List Nat × Bytes
  | [] => ([], [])
  | b :: rest =>
    match digitOf? b with
    | none => ([], b :: rest)
    | some d => (d :: (takeDigits rest).1, (takeDigits rest).2)

/-- The parts of a number as it is written. -/
structure NumberText where
  /-- Whether there is a minus sign. -/
  negative : Bool
  /-- The digits before the point. -/
  whole : List Nat
  /-- The digits after the point, when there is one. -/
  fraction : Option (List Nat)
  /-- The exponent, when there is one. -/
  exponent : Option Int

/-- The digits before the point. -/
def readWhole : Bytes → Except Error (List Nat × Bytes)
  | [] => .error .endInValue
  | b :: rest =>
    match digitOf? b with
    | none => .error .invalidNumber
    | some 0 => if (takeDigits rest).1 = [] then .ok ([0], rest) else .error .invalidNumber
    | some d => .ok (d :: (takeDigits rest).1, (takeDigits rest).2)

/-- A fraction: a point and at least one digit. -/
def readFraction : Bytes → Except Error (Option (List Nat) × Bytes)
  | [] => .ok (none, [])
  | b :: rest =>
    if b = ascii '.' then
      match takeDigits rest with
      | ([], []) => .error .endInValue
      | ([], _) => .error .invalidNumber
      | (ds, rest) => .ok (some ds, rest)
    else .ok (none, b :: rest)

/-- The sign at the start of bytes, and the rest. -/
def takeSign : Bytes → Bool × Bytes
  | [] => (false, [])
  | b :: rest =>
    if b = ascii '+' then (false, rest)
    else if b = ascii '-' then (true, rest)
    else (false, b :: rest)

/-- An exponent: the letter, an optional sign and at least one digit. -/
def readExponent : Bytes → Except Error (Option Int × Bytes)
  | [] => .ok (none, [])
  | b :: rest =>
    if b = ascii 'e' ∨ b = ascii 'E' then
      let (negative, rest) := takeSign rest
      match takeDigits rest with
      | ([], []) => .error .endInValue
      | ([], _) => .error .invalidNumber
      | (ds, rest) =>
        let size : Int := Decimal.value ds
        .ok (some (if negative then -size else size), rest)
    else .ok (none, b :: rest)

/-- A number after its sign. -/
def readNumberText (negative : Bool) (bytes : Bytes) : Except Error (NumberText × Bytes) := do
  let (whole, rest) ← readWhole bytes
  let (fraction, rest) ← readFraction rest
  let (exponent, rest) ← readExponent rest
  .ok (⟨negative, whole, fraction, exponent⟩, rest)

/-! ### The value of a number -/

/-- The greatest number that fits in 64 bits without a sign. -/
def maxNat64 : Nat := 18446744073709551615

/-- The digits before the point up to the first that no longer fits in 64 bits, and the count of the
others. -/
def absorbWhole : List Nat → Nat → Nat × Nat
  | [], n => (n, 0)
  | d :: ds, n => if maxNat64 < n * 10 + d then (n, ds.length + 1) else absorbWhole ds (n * 10 + d)

/-- The digits after the point, added to those before it while they fit, and how many did. -/
def absorbFraction : List Nat → Nat → Nat × Nat
  | [], n => (n, 0)
  | d :: ds, n =>
    if maxNat64 < n * 10 + d then (n, 0)
    else
      let (m, count) := absorbFraction ds (n * 10 + d)
      (m, count + 1)

/-- A power of ten. -/
def powerOfTen (n : Nat) : Float := Decimal.nearest (Nat.pow 10 n) 1

/-- A number of 64 bits times a power of ten, or nothing when it is too large. -/
def scale? (significand : Nat) (exponent : Int) : Option Float :=
  let x := Decimal.nearest significand 1
  if significand = 0 then some x
  else if 308 < exponent then none
  else if 0 ≤ exponent then
    let y := x * powerOfTen exponent.toNat
    if y.isInf then none else some y
  else if -308 ≤ exponent then some (x / powerOfTen (-exponent).toNat)
  else if -616 ≤ exponent then some (x / powerOfTen 308 / powerOfTen (-exponent - 308).toNat)
  else some 0

/-- The value of a number. -/
inductive Number
  /-- A whole number that fits in 64 bits. -/
  | integer (i : Int)
  /-- Any other. -/
  | real (x : Float)

/-- A number as it is found in place of something else. -/
def Number.found : Number → Found
  | integer i => .integer i
  | real x => .real x

/-- The value of a written number. -/
def NumberText.value (t : NumberText) : Except Error Number :=
  let (n, dropped) := absorbWhole t.whole 0
  let signed (x : Float) : Number := .real (if t.negative then -x else x)
  if t.fraction = none ∧ t.exponent = none ∧ dropped = 0 then
    if t.negative = false then .ok (.integer n)
    else if 0 < n ∧ n ≤ 9223372036854775808 then .ok (.integer (-n))
    else .ok (signed (Decimal.nearest n 1))
  else
    let (m, count) := absorbFraction (t.fraction.getD []) n
    match scale? m (dropped - count + t.exponent.getD 0) with
    | some x => .ok (signed x)
    | none => .error .numberOutOfRange

/-- The value of a number after its sign. -/
def readNumber (negative : Bool) (bytes : Bytes) : Except Error (Number × Bytes) := do
  let (text, rest) ← readNumberText negative bytes
  let n ← text.value
  .ok (n, rest)

end BoxOffice.Json
