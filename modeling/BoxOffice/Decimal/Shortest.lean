import BoxOffice.Decimal.Integer
import BoxOffice.Decimal.Nearest

/-!
# The shortest decimal text of a double

Of all decimals that read back as a given double, the text shows one with the fewest digits, and of
those the one nearest to it, the even one on a tie. `shortest` finds its digits in exact arithmetic: on
the grid of decimals with one digit, then two, and so on, it tests the two neighbours of the value, and
the first grid with a hit wins. `FloatStyle` holds what a format decides beyond the digits.
-/

namespace BoxOffice.Decimal

/-- A decimal `digits * 10 ^ exponent`. -/
structure Digits where
  /-- The digits as one number. -/
  digits : Nat
  /-- The power of ten that the last digit counts. -/
  exponent : Int
  deriving DecidableEq, Repr

/-- The order of the decimal `c * 10 ^ k` and the number `x * 2 ^ s`. -/
def compareDecimal (c : Nat) (k : Int) (x : Nat) (s : Int) : Ordering :=
  compare (c * Nat.pow 10 k.toNat * Nat.pow 2 (-s).toNat) (x * Nat.pow 2 s.toNat * Nat.pow 10 (-k).toNat)

/-- The greatest `c` with `c * 10 ^ k ≤ x * 2 ^ s`. -/
def decimalFloor (k : Int) (x : Nat) (s : Int) : Nat :=
  (x * Nat.pow 2 s.toNat * Nat.pow 10 (-k).toNat) / (Nat.pow 10 k.toNat * Nat.pow 2 (-s).toNat)

/-- The power of ten of the first digit of `x * 2 ^ s`, found upwards from a power known to be at most
that. -/
def leadingExponent (x : Nat) (s : Int) : Nat → Int → Int
  | 0, k => k
  | fuel + 1, k => if compareDecimal 1 (k + 1) x s = .gt then k else leadingExponent x s fuel (k + 1)

/-- The double `m * 2 ^ q`: the decimals between `low` and `high` read back as it, ends included when
`m` is even. All three are in units of `2 ^ (q - 2)`. -/
structure Neighbourhood where
  /-- Four times the significand. -/
  centre : Nat
  /-- The lower end. -/
  low : Nat
  /-- The upper end. -/
  high : Nat
  /-- The power of two that one unit counts. -/
  unit : Int
  /-- Whether the ends belong to it. -/
  closed : Bool

/-- The neighbourhood of a positive double. Just above a power of two the gap below is half as wide. -/
def Neighbourhood.ofDouble (m : Nat) (q : Int) : Neighbourhood where
  centre := 4 * m
  low := if m = Nat.pow 2 52 ∧ q > -1074 then 4 * m - 1 else 4 * m - 2
  high := 4 * m + 2
  unit := q - 2
  closed := m % 2 = 0

/-- Whether the decimal `c * 10 ^ k` reads back as the double. -/
def Neighbourhood.has (b : Neighbourhood) (c : Nat) (k : Int) : Bool :=
  let fromBelow := compareDecimal c k b.low b.unit
  let fromAbove := compareDecimal c k b.high b.unit
  (fromBelow = .gt || b.closed && fromBelow = .eq) && (fromAbove = .lt || b.closed && fromAbove = .eq)

/-- The nearer of two neighbouring decimals `c` and `c + 1`, the even one on a tie. -/
def Neighbourhood.nearer (b : Neighbourhood) (c : Nat) (k : Int) : Nat :=
  let twice := (2 * c + 1) * Nat.pow 10 k.toNat * Nat.pow 2 (-b.unit).toNat
  let value := 2 * (b.centre * Nat.pow 2 b.unit.toNat * Nat.pow 10 (-k).toNat)
  if value < twice then c else if twice < value then c + 1 else if c % 2 = 0 then c else c + 1

/-- The first grid, from `17 - fuel` digits on, with a decimal that reads back. -/
def Neighbourhood.search (b : Neighbourhood) (top : Int) : Nat → Digits
  | 0 => ⟨decimalFloor (top - 16) b.centre b.unit, top - 16⟩
  | fuel + 1 =>
    let k := top - ((16 - fuel : Nat) : Int)
    let c := decimalFloor k b.centre b.unit
    match b.has c k, b.has (c + 1) k with
    | true, true => ⟨b.nearer c k, k⟩
    | true, false => ⟨c, k⟩
    | false, true => ⟨c + 1, k⟩
    | false, false => b.search top fuel

/-- A decimal without zeros at its end. -/
def Digits.trimmed : Nat → Digits → Digits
  | 0, d => d
  | fuel + 1, d =>
    if d.digits ≠ 0 ∧ d.digits % 10 = 0 then trimmed fuel ⟨d.digits / 10, d.exponent + 1⟩ else d

/-- The shortest decimal of the positive double `m * 2 ^ q`. -/
def shortest (m : Nat) (q : Int) : Digits :=
  let b := Neighbourhood.ofDouble m q
  let top := leadingExponent b.centre b.unit 700 (-330)
  (b.search top 17).trimmed 20

/-- What a format of doubles decides beyond the digits. -/
structure FloatStyle where
  /-- The least power of ten of a first digit that is written without an exponent. -/
  leastPlain : Int
  /-- The greatest power of ten of a first digit that is written without an exponent. -/
  greatestPlain : Int
  /-- The least number of digits of an exponent, whose sign is always written. -/
  exponentWidth : Nat

/-- A decimal written with a point: `.0` follows a whole number. -/
def plainText (ds : List Char) (exponent : Int) : List Char :=
  if 0 ≤ exponent then ds ++ List.replicate exponent.toNat '0' ++ ['.', '0']
  else
    let places := (-exponent).toNat
    if places < ds.length then
      ds.take (ds.length - places) ++ '.' :: ds.drop (ds.length - places)
    else ['0', '.'] ++ List.replicate (places - ds.length) '0' ++ ds

/-- A decimal written with one digit before the point and an exponent. -/
def exponentText (style : FloatStyle) (ds : List Char) (top : Int) : List Char :=
  let mantissa :=
    match ds with
    | [] => []
    | [d] => [d]
    | d :: rest => d :: '.' :: rest
  let sign := if top < 0 then '-' else '+'
  mantissa ++ ['e', sign] ++ paddedDigits style.exponentWidth top.natAbs

/-- A finite double of a given style. -/
def FloatStyle.text (style : FloatStyle) (x : Float) : String :=
  let negative := Nat.pow 2 63 ≤ x.toBits.toNat
  let (m, q) := significand x
  let body :=
    if m = 0 then ['0', '.', '0']
    else
      let d : Digits := shortest m q
      let ds := (digits d.digits).map digitChar
      let top := d.exponent + (ds.length : Int) - 1
      if style.leastPlain ≤ top ∧ top ≤ style.greatestPlain then plainText ds d.exponent
      else exponentText style ds top
  String.ofList (if negative then '-' :: body else body)

end BoxOffice.Decimal
