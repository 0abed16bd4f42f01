/-!
UTF-8 over byte lists.

Paths are byte sequences that need not be text.  `chunks` reads bytes as far as they are text and
keeps what is not: each invalid chunk is a maximal subpart, that is, the longest start of some
well-formed sequence, or else a single byte.  The strict reading (`decode?`) and the lossy one
(`lossy`) are both views of the chunks, so they agree on where a sequence ends.

    e2 82 41   =   invalid [e2, 82], char 'A'
    ed a0 80   =   invalid [ed], invalid [a0], invalid [80]
-/

namespace ScopedImports.Utf8

/-- A character, or bytes that belong to no character. -/
inductive Chunk
  | char (c : Char)
  | invalid (bytes : List UInt8)
  deriving DecidableEq, Repr

/-- The bytes of a text. -/
def encode (text : List Char) : List UInt8 := text.flatMap String.utf8EncodeChar

/-- What a lead byte announces: how many bytes follow it, the range its second byte must lie in,
and the high bits it contributes. -/
structure Lead where
  following : Nat
  low : UInt8
  high : UInt8
  bits : Nat

/-- The announcement of a lead byte outside ASCII.  The narrowed ranges after `e0`, `ed`, `f0` and
`f4` exclude overlong forms, surrogates and numbers above `10ffff`. -/
def lead? (b : UInt8) : Option Lead :=
  if b < 0xc2 then none
  else if b < 0xe0 then some ⟨1, 0x80, 0xbf, b.toNat - 0xc0⟩
  else if b = 0xe0 then some ⟨2, 0xa0, 0xbf, 0⟩
  else if b = 0xed then some ⟨2, 0x80, 0x9f, 13⟩
  else if b < 0xf0 then some ⟨2, 0x80, 0xbf, b.toNat - 0xe0⟩
  else if b = 0xf0 then some ⟨3, 0x90, 0xbf, 0⟩
  else if b < 0xf4 then some ⟨3, 0x80, 0xbf, b.toNat - 0xf0⟩
  else if b = 0xf4 then some ⟨3, 0x80, 0x8f, 4⟩
  else none

/-- Append the six bits that a continuation byte carries. -/
def extend (bits : Nat) (b : UInt8) : Nat := bits * 64 + (b.toNat - 0x80)

/-- A byte that may stand third or fourth in a sequence. -/
def isContinuation (b : UInt8) : Bool := 0x80 ≤ b && b ≤ 0xbf

/-- Split bytes into characters and maximal invalid subparts. -/
def chunks : List UInt8 → List Chunk
  | [] => []
  | a :: rest =>
    if a < 0x80 then .char (Char.ofNat a.toNat) :: chunks rest
    else match lead? a with
    | none => .invalid [a] :: chunks rest
    | some lead =>
      match rest with
      | [] => [.invalid [a]]
      | b :: rest₂ =>
        if ¬(lead.low ≤ b ∧ b ≤ lead.high) then .invalid [a] :: chunks (b :: rest₂)
        else if lead.following = 1 then .char (Char.ofNat (extend lead.bits b)) :: chunks rest₂
        else match rest₂ with
        | [] => [.invalid [a, b]]
        | c :: rest₃ =>
          if ¬isContinuation c then .invalid [a, b] :: chunks (c :: rest₃)
          else if lead.following = 2 then
            .char (Char.ofNat (extend (extend lead.bits b) c)) :: chunks rest₃
          else match rest₃ with
          | [] => [.invalid [a, b, c]]
          | d :: rest₄ =>
            if ¬isContinuation d then .invalid [a, b, c] :: chunks (d :: rest₄)
            else .char (Char.ofNat (extend (extend (extend lead.bits b) c) d)) :: chunks rest₄

/-- The character of a valid chunk. -/
def Chunk.char? : Chunk → Option Char
  | .char c => some c
  | .invalid _ => none

/-- The text that the bytes are, if they are text. -/
def decode? (bytes : List UInt8) : Option (List Char) := (chunks bytes).mapM Chunk.char?

/-- The text with U+FFFD in place of every invalid chunk. -/
def lossy (bytes : List UInt8) : List Char :=
  (chunks bytes).map fun chunk => chunk.char?.getD '\uFFFD'

end ScopedImports.Utf8
