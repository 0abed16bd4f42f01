import ScopedImports.Text.Hex
import ScopedImports.Text.Hidden
import ScopedImports.Text.Utf8

/-!
Text between quotes, for a reader who must be able to tell any two texts apart.

Quotes and backslashes are escaped, the common controls have short escapes, and a character that
does not show on its own is written by its number.  Bytes that are not text are written one by one.

    a"b   as  "a\"b"        tab  as  "\t"        U+0301  as  "\u{301}"        byte ff  as  "\xFF"
-/

namespace ScopedImports.Quoted

/-- The short escape of a character, if it has one. -/
def shortEscape? : Char → Option Char
  | '\x00' => some '0'
  | '\t' => some 't'
  | '\n' => some 'n'
  | '\r' => some 'r'
  | '"' => some '"'
  | '\\' => some '\\'
  | _ => none

/-- A character as it stands between quotes. -/
def char (c : Char) : List Char :=
  match shortEscape? c with
  | some e => ['\\', e]
  | none =>
    if Text.isHidden c then
      '\\' :: 'u' :: '\x7b' :: Nat.toDigits 16 c.toNat ++ ['\x7d']
    else [c]

/-- A byte that belongs to no character, in upper-case digits. -/
def byte (b : UInt8) : List Char := '\\' :: 'x' :: (Hex.ofByte b).map Char.toUpper

/-- A chunk as it stands between quotes. -/
def chunk : Utf8.Chunk → List Char
  | .char c => char c
  | .invalid bytes => bytes.flatMap byte

/-- Bytes between quotes. -/
def ofBytes (bytes : List UInt8) : String :=
  String.ofList ('"' :: (Utf8.chunks bytes).flatMap chunk ++ ['"'])

/-- Text between quotes. -/
def ofText (text : String) : String := String.ofList ('"' :: text.toList.flatMap char ++ ['"'])

end ScopedImports.Quoted
