import ScopedImports.Json.Token
import ScopedImports.Json.Value

/-!
Reading values from tokens.

The reader is a machine that takes one token at a time and keeps what is open on a stack.  It does
not fix what a value is: a `Reading` says what becomes of words, numbers, strings, arrays and
objects.  Two readings matter.  `Reading.build` makes values, and refuses numbers that are too
large, strings with escapes that spell no character, and brackets inside too many others;
`Reading.skip` checks the grammar only.

    read text  =  the value that `build` makes of all tokens of the text
-/

namespace ScopedImports.Json

/-- How many brackets may be open at once where values are made. -/
def levels : Nat := 127

/-- What a reader makes of the parts of a text. -/
structure Reading (ν : Type) where
  /-- One more bracket may open inside so many. -/
  opens : Nat → Bool
  word : Option Bool → ν
  number : Numeral → Except Flaw ν
  /-- What is wrong with a number that breaks off. -/
  brokenNumber : Flaw → Flaw
  string : Quotation → Except Flaw ν
  name : Quotation → Except Flaw String
  array : List ν → ν
  object : List (String × ν) → ν

namespace Reading

variable {ν : Type}

/-- Something open: an array with its items so far, or an object with its members so far, last one
first, and the name of the member that is being read. -/
inductive Frame (ν : Type)
  | array (items : List ν)
  | object (members : List (String × ν)) (name : String)

/-- What may come next. -/
inductive Awaiting
  | value
  /-- A value, or the end of an array that has no items. -/
  | item
  /-- A name. -/
  | name
  /-- A name, or the end of an object that has no members. -/
  | member
  | colon
  /-- A comma, or the end of what is open. -/
  | comma
  deriving DecidableEq, Repr

/-- What the machine is waiting for, and what is open, innermost first. -/
structure Config (ν : Type) where
  awaiting : Awaiting
  stack : List (Frame ν)

/-- The machine before the first token of a value. -/
def Config.start : Config ν := ⟨.value, []⟩

/-- The machine after a token: the value is complete, or more is to come. -/
inductive Progress (ν : Type)
  | complete (value : ν)
  | more (config : Config ν)

/-- Put a value where it belongs. -/
def deliver (value : ν) : List (Frame ν) → Progress ν
  | [] => .complete value
  | .array items :: stack => .more ⟨.comma, .array (value :: items) :: stack⟩
  | .object members name :: stack =>
    .more ⟨.comma, .object ((name, value) :: members) name :: stack⟩

variable (reading : Reading ν)

/-- The value of what is open, which ends here. -/
def close : Frame ν → ν
  | .array items => reading.array items.reverse
  | .object members _ => reading.object members.reverse

/-- The machine behind a bracket that opens. -/
def inside (stack : List (Frame ν)) : Bracket → Config ν
  | .array => ⟨.item, .array [] :: stack⟩
  | .object => ⟨.member, .object [] "" :: stack⟩

/-- Take the first token of a value. -/
def begin (stack : List (Frame ν)) : Token → Except Flaw (Progress ν)
  | .word value => .ok (deliver (reading.word value) stack)
  | .brokenWord flaw => .error flaw
  | .number numeral => (deliver · stack) <$> reading.number numeral
  | .brokenNumber flaw => .error (reading.brokenNumber flaw)
  | .string quotation => (deliver · stack) <$> reading.string quotation
  | .opening bracket =>
    if reading.opens stack.length then .ok (.more (inside stack bracket)) else .error .malformed
  | .closing _ | .colon | .comma | .stray => .error .malformed

/-- Take a token. -/
def step : Config ν → Token → Except Flaw (Progress ν)
  | ⟨.value, stack⟩, token => reading.begin stack token
  | ⟨.item, .array items :: stack⟩, .closing .array =>
    .ok (deliver (reading.close (.array items)) stack)
  | ⟨.item, stack⟩, token => reading.begin stack token
  | ⟨.member, .object members name :: stack⟩, .closing .object =>
    .ok (deliver (reading.close (.object members name)) stack)
  | ⟨.member, .object members _ :: stack⟩, .string quotation
  | ⟨.name, .object members _ :: stack⟩, .string quotation =>
    (fun name => .more ⟨.colon, .object members name :: stack⟩) <$> reading.name quotation
  | ⟨.colon, stack⟩, .colon => .ok (.more ⟨.value, stack⟩)
  | ⟨.comma, .array items :: stack⟩, .closing .array =>
    .ok (deliver (reading.close (.array items)) stack)
  | ⟨.comma, .object members name :: stack⟩, .closing .object =>
    .ok (deliver (reading.close (.object members name)) stack)
  | ⟨.comma, .array items :: stack⟩, .comma => .ok (.more ⟨.value, .array items :: stack⟩)
  | ⟨.comma, .object members name :: stack⟩, .comma =>
    .ok (.more ⟨.name, .object members name :: stack⟩)
  | _, _ => .error .malformed

/-- Read one value; what is left are the tokens behind it. -/
def run : Config ν → List Token → Except Flaw (ν × List Token)
  | _, [] => .error .ended
  | config, token :: rest =>
    match reading.step config token with
    | .error flaw => .error flaw
    | .ok (.complete value) => .ok (value, rest)
    | .ok (.more config) => run config rest

/-- Make values. -/
def build : Reading Json where
  opens depth := depth < levels
  word
    | some value => .bool value
    | none => .null
  number numeral := if numeral.value?.isSome then .ok (.number numeral) else .error .malformed
  brokenNumber flaw := flaw
  string quotation := .string <$> quotation.text
  name quotation := quotation.text
  array := .array
  object := .object

/-- Check the grammar only. -/
def skip : Reading Unit where
  opens _ := true
  word _ := ()
  number _ := .ok ()
  brokenNumber _ := .malformed
  string quotation := quotation.skip
  name quotation := (fun _ => "") <$> quotation.skip
  array _ := ()
  object _ := ()

end Reading

/-- The value that the tokens of a whole text make. -/
def ofTokens (tokens : List Token) : Except Flaw Json :=
  match Reading.build.run .start tokens with
  | .error flaw => .error flaw
  | .ok (value, []) => .ok value
  | .ok (_, _ :: _) => .error .malformed

/-- Read a value from a text. -/
def read (text : String) : Except Flaw Json := ofTokens (tokens text.toList)

end ScopedImports.Json
