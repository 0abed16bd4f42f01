import ScopedImports.Json.Numeral
import ScopedImports.Text.Hex

/-!
JSON values and their compact text.

A value keeps its numbers as they are written and its members in the order in which they occur, with
repeated names and all; `member?` gives the last member of a name.  The text has no white space, and
a string escapes what it must: quotes, backslashes and controls.
-/

namespace ScopedImports

/-- A JSON value. -/
inductive Json
  | null
  | bool (value : Bool)
  | number (numeral : Json.Numeral)
  | string (text : String)
  | array (items : List Json)
  | object (members : List (String × Json))
  deriving Repr, Inhabited

namespace Json

/-- The value of the last member called `name`. -/
def member? (members : List (String × Json)) (name : String) : Option Json :=
  (members.reverse.find? fun m => m.1 == name).map Prod.snd

/-- The natural number as a value. -/
def ofNat (n : Nat) : Json := .number (.ofNat n)

/-- The integer as a value. -/
def ofInt (n : Int) : Json := .number { Numeral.ofNat n.natAbs with negative := decide (n < 0) }

/-! ### Writing -/

/-- A character as it is written in a string. -/
def writeChar (c : Char) : List Char :=
  match c with
  | '"' => ['\\', '"']
  | '\\' => ['\\', '\\']
  | '\x08' => ['\\', 'b']
  | '\x0c' => ['\\', 'f']
  | '\n' => ['\\', 'n']
  | '\r' => ['\\', 'r']
  | '\t' => ['\\', 't']
  | _ =>
    if c < ' ' then '\\' :: 'u' :: '0' :: '0' :: Hex.ofByte (UInt8.ofNat c.toNat) else [c]

section Write

variable (escape : Char → List Char)

/-- A string as it is written, with the given way to write its characters. -/
def writeString (text : String) : List Char := '"' :: text.toList.flatMap escape ++ ['"']

mutual

/-- A value as it is written. -/
def write : Json → List Char
  | null => "null".toList
  | bool true => "true".toList
  | bool false => "false".toList
  | number numeral => numeral.render
  | string text => writeString escape text
  | array [] => ['[', ']']
  | array (item :: rest) => '[' :: write item ++ writeItems rest
  | object [] => ['\x7b', '\x7d']
  | object ((name, value) :: rest) =>
    '\x7b' :: writeString escape name ++ ':' :: write value ++ writeMembers rest

/-- The items after the first one, and the end of their array. -/
def writeItems : List Json → List Char
  | [] => [']']
  | item :: rest => ',' :: write item ++ writeItems rest

/-- The members after the first one, and the end of their object. -/
def writeMembers : List (String × Json) → List Char
  | [] => ['\x7d']
  | (name, value) :: rest =>
    ',' :: writeString escape name ++ ':' :: write value ++ writeMembers rest

end

end Write

/-- The compact text of a value. -/
def render (value : Json) : String := String.ofList (write writeChar value)

end Json

end ScopedImports
