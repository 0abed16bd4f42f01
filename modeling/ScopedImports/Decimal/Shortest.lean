import ScopedImports.Decimal.Double

/-!
The shortest decimal of a double.

Of all decimals that round to a double, take those with the fewest digits, of these the nearest to
the double, and of two equally near ones the even one.  A decimal rounds to `m · 2 ^ e` when it lies
between the midpoints to the neighbouring doubles; the midpoints count when `m` is even.

Design.  Digits are tried in growing number.  With `n` digits the decimals around the double form a
grid, and if any point of the grid lies in the interval, so does one of the two next to the double;
hence only those two are looked at, in exact arithmetic.
-/

namespace ScopedImports

/-- The number `digits · 10 ^ exponent`. -/
structure Decimal where
  digits : Nat
  exponent : Int
  deriving DecidableEq, Repr

namespace Decimal

/-- The numbers that round to a double, over a common denominator: both ends, the double between
them, and whether the ends belong. -/
structure Interval where
  low : Nat
  value : Nat
  high : Nat
  den : Nat
  closed : Bool

/-- The interval of a double other than zero.  The lower neighbour of a power of two is nearer. -/
def intervalOf (x : Double) : Interval :=
  let below := if x.mantissa = Nat.pow 2 52 ∧ -1074 < x.exponent then 1 else 2
  let (num, den) := Double.scaled 1 4 (-x.exponent)
  { low := (4 * x.mantissa - below) * num
    value := 4 * x.mantissa * num
    high := (4 * x.mantissa + 2) * num
    den
    closed := x.mantissa % 2 == 0 }

/-- The decimal as a quotient. -/
def quotient (d : Decimal) : Nat × Nat :=
  if 0 ≤ d.exponent then (d.digits * Nat.pow 10 d.exponent.toNat, 1)
  else (d.digits, Nat.pow 10 (-d.exponent).toNat)

/-- The decimal rounds to the double of the interval. -/
def within (i : Interval) (d : Decimal) : Bool :=
  let (num, den) := d.quotient
  if i.closed then i.low * den ≤ num * i.den && num * i.den ≤ i.high * den
  else i.low * den < num * i.den && num * i.den < i.high * den

/-- The point of the grid of step `10 ^ exponent` that lies at or below the double. -/
def floorAt (i : Interval) (exponent : Int) : Decimal :=
  if 0 ≤ exponent then ⟨i.value / (i.den * Nat.pow 10 exponent.toNat), exponent⟩
  else ⟨i.value * Nat.pow 10 (-exponent).toNat / i.den, exponent⟩

/-- The distance from a decimal to the double, times both denominators. -/
def distance (i : Interval) (d : Decimal) : Nat :=
  let (num, den) := d.quotient
  (num * i.den - i.value * den) + (i.value * den - num * i.den)

/-- The better of the two grid points around the double, if one of them rounds to it. -/
def onGrid (i : Interval) (exponent : Int) : Option Decimal :=
  let lower := floorAt i exponent
  let upper : Decimal := ⟨lower.digits + 1, exponent⟩
  match within i lower, within i upper with
  | true, true =>
    match compare (distance i lower) (distance i upper) with
    | .lt => some lower
    | .gt => some upper
    | .eq => some (if lower.digits % 2 = 0 then lower else upper)
  | true, false => some lower
  | false, true => some upper
  | false, false => none

/-- Number of decimal digits. -/
def length (n : Nat) : Nat := (Nat.toDigits 10 n).length

/-- How many digits of the double stand before its decimal point; zero or less where it has leading
zeros behind the point. -/
def magnitude (i : Interval) : Int := (length (i.value * Nat.pow 10 400 / i.den) : Int) - 400

/-- The decimal without zeros at its end. -/
def stripZeros (d : Decimal) : Decimal :=
  let zeros := ((Nat.toDigits 10 d.digits).reverse.takeWhile (· = '0')).length
  ⟨d.digits / Nat.pow 10 zeros, d.exponent + zeros⟩

/-- The shortest decimal of a double other than zero; seventeen digits always suffice. -/
def shortest (x : Double) : Decimal :=
  let i := intervalOf x
  let found := (List.range 17).findSome? fun (n : Nat) => onGrid i (magnitude i - (n + 1))
  stripZeros (found.getD (floorAt i (magnitude i - 17)))

/-! ### Layout -/

/-- Where positional notation ends, and what stands before a power that is not negative.  The least
and the greatest position of the decimal point are counted in digits from the first one. -/
structure Layout where
  leastPoint : Int
  greatestPoint : Int
  plus : List Char

/-- Numbers from `0.00001` up to sixteen digits before the point are positional; behind an `e` the
sign is always written. -/
def Layout.plain : Layout := ⟨-4, 16, ['+']⟩

/-- The power of ten with its sign. -/
def Layout.power (layout : Layout) (power : Int) : List Char :=
  (if 0 ≤ power then layout.plus else ['-']) ++ Nat.toDigits 10 power.natAbs

/-- The digits with a point behind the first. -/
def scientific (layout : Layout) (digits : List Char) (power : Int) : List Char :=
  let head := match digits with
    | first :: second :: rest => first :: '.' :: second :: rest
    | short => short
  head ++ 'e' :: layout.power power

/-- A decimal in the notation that the layout asks for. -/
def render (layout : Layout) (d : Decimal) : List Char :=
  let digits := Nat.toDigits 10 d.digits
  let point : Int := digits.length + d.exponent
  if layout.leastPoint ≤ point ∧ point ≤ layout.greatestPoint then
    if 0 ≤ d.exponent then digits ++ List.replicate d.exponent.toNat '0' ++ ['.', '0']
    else if 0 < point then digits.take point.toNat ++ '.' :: digits.drop point.toNat
    else '0' :: '.' :: List.replicate (-point).toNat '0' ++ digits
  else scientific layout digits (point - 1)

/-- A double in the shortest form that reads back. -/
def ofDouble (negative : Bool) (x : Double) : List Char :=
  (if negative then ['-'] else []) ++
    if x.isZero then ['0', '.', '0'] else render .plain (shortest x)

end Decimal

end ScopedImports
