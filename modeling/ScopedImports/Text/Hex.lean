/-!
Hexadecimal digits: bytes written with two digits each and read back in either case.
-/

namespace ScopedImports.Hex

/-- The digit for a number below sixteen, in lower case. -/
def digit (n : Nat) : Char := "0123456789abcdef".toList.getD n '0'

/-- The number that a digit of either case stands for. -/
def value? (c : Char) : Option Nat :=
  if '0' ≤ c ∧ c ≤ '9' then some (c.toNat - '0'.toNat)
  else if 'a' ≤ c ∧ c ≤ 'f' then some (c.toNat - 'a'.toNat + 10)
  else if 'A' ≤ c ∧ c ≤ 'F' then some (c.toNat - 'A'.toNat + 10)
  else none

/-- A byte as two digits, the higher one first. -/
def ofByte (b : UInt8) : List Char := [digit (b.toNat / 16), digit (b.toNat % 16)]

/-- Bytes as digits. -/
def encode (bytes : List UInt8) : List Char := bytes.flatMap ofByte

/-- The bytes that an even number of digits spells. -/
def decode? : List Char → Option (List UInt8)
  | [] => some []
  | [_] => none
  | h :: l :: rest => do
    let high ← value? h
    let low ← value? l
    let bytes ← decode? rest
    pure (UInt8.ofNat (high * 16 + low) :: bytes)

end ScopedImports.Hex
