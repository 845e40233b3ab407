import BoxOffice.Decimal.Integer
import BoxOffice.Decimal.Nearest

/-!
# Reading numbers with a point and an exponent

A setting may be a number such as `0.8`, `.5`, `5.` or `1e-3`, or one of the names `inf`, `infinity` and
`nan` in any case, each with an optional sign. There has to be a digit before or after the point, and an
exponent has to have a digit. The result is the nearest double; what is too large is infinity.
-/

namespace BoxOffice.Decimal

/-- The digits at the start of a text, as their value and count, and what follows them. -/
def takeDigits (cs : List Char) : List Nat × List Char :=
  ((cs.takeWhile (digitValue? · |>.isSome)).filterMap digitValue?,
    cs.dropWhile (digitValue? · |>.isSome))

/-- The exponent at the end of a number: nothing, or `e`, an optional sign and digits. -/
def readExponent? : List Char → Option Int
  | [] => some 0
  | c :: rest =>
    if c = 'e' ∨ c = 'E' then
      match rest with
      | '+' :: ds => (readDigits? ds).map Int.ofNat
      | '-' :: ds => (readDigits? ds).map fun n => -(n : Int)
      | ds => (readDigits? ds).map Int.ofNat
    else none

/-- A number without its sign. -/
def readMagnitude? (cs : List Char) : Option Float :=
  let lower := cs.map Char.toLower
  if lower = ['i', 'n', 'f'] ∨ lower = ['i', 'n', 'f', 'i', 'n', 'i', 't', 'y'] then
    some (Float.ofBits 0x7FF0000000000000)
  else if lower = ['n', 'a', 'n'] then some (Float.ofBits 0x7FF8000000000000)
  else
    let (whole, rest) := takeDigits cs
    let (fraction, rest) :=
      match rest with
      | '.' :: rest => takeDigits rest
      | rest => ([], rest)
    if whole = [] ∧ fraction = [] then none
    else (readExponent? rest).map fun e =>
      nearestScientific (value (whole ++ fraction)) (e - fraction.length)

/-- A number with an optional sign. -/
def readFloat? (s : String) : Option Float :=
  match s.toList with
  | '+' :: rest => readMagnitude? rest
  | '-' :: rest => (readMagnitude? rest).map fun x => -x
  | cs => readMagnitude? cs

end BoxOffice.Decimal
