import ScopedImports.Decimal.Double

/-!
Numbers as they are written, and the values they are read as.

A numeral without fraction and exponent is an integer as long as it fits 64 bits; every other one is
a double.  A double is read with limited precision: the leading digits that fit 64 bits are taken
as an integer, rounded to a double, and then multiplied or divided by a power of ten that has been
rounded to a double as well.  A numeral beyond the largest double has no value.
-/

namespace ScopedImports.Json

/-- A number as it is written, digit by digit. -/
structure Numeral where
  negative : Bool
  whole : List Nat
  fraction : List Nat
  /-- The exponent's digits, and whether a minus stands before them. -/
  exponent : Option (Bool × List Nat)
  deriving DecidableEq, Repr

/-- What a numeral is read as. -/
inductive Number
  | integer (value : Int)
  | float (negative : Bool) (value : Double)
  deriving DecidableEq, Repr

namespace Numeral

/-- The numeral of a natural number. -/
def ofNat (n : Nat) : Numeral :=
  ⟨false, (Nat.toDigits 10 n).map fun c => c.toNat - '0'.toNat, [], none⟩

/-- The number that digits spell, most significant digit first. -/
def fromDigits (digits : List Nat) : Nat := digits.foldl (fun n d => n * 10 + d) 0

/-- Continue a number with digits as long as it fits 64 bits; the digits that are left over. -/
def takeFitting (n : Nat) : List Nat → Nat × List Nat
  | [] => (n, [])
  | d :: rest => if n * 10 + d < Nat.pow 2 64 then takeFitting (n * 10 + d) rest else (n, d :: rest)

/-- Divide by a power of ten, at most `10 ^ 308` at a time. -/
def divideByTenTo (x : Double) (power : Nat) : Option Double :=
  if x.isZero then some x
  else if power ≤ 308 then do x.div (← Double.tenTo power)
  else do
    let y ← x.div (← Double.tenTo 308)
    divideByTenTo y (power - 308)
  termination_by power

/-- `significand · 10 ^ power` as a double; none where it is too large. -/
def scale (significand : Nat) (power : Int) : Option Double := do
  let x ← Double.nearest significand 1
  if power < 0 then divideByTenTo x (-power).toNat
  else if power ≤ 308 then x.mul (← Double.tenTo power.toNat)
  else if x.isZero then some x
  else none

/-- The value of a numeral as a double without its sign. -/
def double? (n : Numeral) : Option Double :=
  let (significand, dropped) := takeFitting 0 n.whole
  let (significand, unread) := takeFitting significand n.fraction
  let power : Int := (dropped.length : Int) - (n.fraction.length - unread.length : Nat)
  match n.exponent with
  | none => scale significand power
  | some (false, digits) => scale significand (power + fromDigits digits)
  | some (true, digits) => scale significand (power - fromDigits digits)

/-- The integer that the numeral is read as, if it is one. -/
def integer? (n : Numeral) : Option Int :=
  if n.fraction ≠ [] ∨ n.exponent.isSome then none
  else
    let magnitude := fromDigits n.whole
    if n.negative then
      if 0 < magnitude ∧ magnitude ≤ Nat.pow 2 63 then some (-(magnitude : Int)) else none
    else if magnitude < Nat.pow 2 64 then some magnitude
    else none

/-- What the numeral is read as; none where it is too large. -/
def value? (n : Numeral) : Option Number :=
  match n.integer? with
  | some value => some (.integer value)
  | none => n.double?.map (.float n.negative)

/-- The digits as characters. -/
def digitChars (digits : List Nat) : List Char := digits.map fun d => Char.ofNat ('0'.toNat + d)

/-- The numeral as it is written. -/
def render (n : Numeral) : List Char :=
  (if n.negative then ['-'] else []) ++ digitChars n.whole
    ++ (if n.fraction = [] then [] else '.' :: digitChars n.fraction)
    ++ match n.exponent with
      | none => []
      | some (minus, digits) => 'e' :: (if minus then ['-'] else []) ++ digitChars digits

end Numeral

end ScopedImports.Json
