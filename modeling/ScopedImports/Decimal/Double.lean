/-!
Doubles as exact numbers.

A finite double is `mantissa · 2 ^ exponent` with at most 53 bits of mantissa and an exponent of at
least -1074.  `nearest` rounds a positive quotient to it, ties to the even mantissa; products and
quotients of doubles are rounded once from their exact values.
-/

namespace ScopedImports

/-- A finite double without its sign. -/
structure Double where
  mantissa : Nat
  exponent : Int
  deriving DecidableEq, Repr

namespace Double

/-- `num / den` scaled by `2 ^ (-e)`, as a quotient. -/
def scaled (num den : Nat) (e : Int) : Nat × Nat :=
  if 0 ≤ e then (num, den * Nat.pow 2 e.toNat) else (num * Nat.pow 2 (-e).toNat, den)

/-- The integer nearest to a quotient, ties to even. -/
def roundQuotient (num den : Nat) : Nat :=
  let whole := num / den
  let twice := 2 * (num % den)
  if twice < den then whole
  else if den < twice then whole + 1
  else whole + whole % 2

/-- The exponent at which a positive quotient has a mantissa of 53 bits, or the least exponent. -/
def exponentOf (num den : Nat) : Int :=
  let guess : Int := (num.log2 : Int) - (den.log2 : Int) - 52
  let (n, d) := scaled num den guess
  max (if n < d * Nat.pow 2 52 then guess - 1 else guess) (-1074)

/-- The double nearest to a quotient; none where that is beyond the largest double. -/
def nearest (num den : Nat) : Option Double :=
  if num = 0 then some ⟨0, 0⟩
  else
    let e := exponentOf num den
    let (n, d) := scaled num den e
    let m := roundQuotient n d
    let (m, e) := if m = Nat.pow 2 53 then (Nat.pow 2 52, e + 1) else (m, e)
    if 971 < e then none else some ⟨m, e⟩

/-- The double as an exact quotient. -/
def quotient (x : Double) : Nat × Nat := scaled x.mantissa 1 (-x.exponent)

/-- The product, rounded to a double. -/
def mul (x y : Double) : Option Double :=
  nearest (x.quotient.1 * y.quotient.1) (x.quotient.2 * y.quotient.2)

/-- The quotient by a double other than zero, rounded to a double. -/
def div (x y : Double) : Option Double :=
  nearest (x.quotient.1 * y.quotient.2) (x.quotient.2 * y.quotient.1)

/-- The double nearest to a power of ten. -/
def tenTo (n : Nat) : Option Double := nearest (Nat.pow 10 n) 1

/-- Zero. -/
def isZero (x : Double) : Bool := x.mantissa == 0

end Double

end ScopedImports
