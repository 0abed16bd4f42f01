import ScopedImports.Json.Numeral
import ScopedImports.Text.Hex

/-!
The tokens of a JSON text.

Text is cut into tokens by a machine that takes one character at a time (`Mode.step`), so cutting is
a plain recursion on the text.  The list of tokens ends early where the text stops being JSON: the
last token then says what was begun there and what is wrong with it.  Whoever reads tokens from the
left meets the flaw exactly when it is the next thing to be read, and may well fail before.

A string token keeps its escapes apart from its characters, because a text may hold escapes that
spell no character (half of a surrogate pair).  They are a flaw only for a reader who uses the
string.
-/

namespace ScopedImports.Json

/-- Why a text is not JSON: it ends too early, or it is wrong before its end. -/
inductive Flaw
  | ended
  | malformed
  deriving DecidableEq, Repr

/-- Part of a string: a character, or the sixteen-bit unit of an escape `\u`. -/
inductive Piece
  | char (c : Char)
  | unit (value : Nat)
  deriving DecidableEq, Repr

/-- The content of a string token, up to the closing quote or up to a flaw. -/
structure Quotation where
  pieces : List Piece
  flaw : Option Flaw
  deriving DecidableEq, Repr

/-- What is enclosed in brackets. -/
inductive Bracket
  | array
  | object
  deriving DecidableEq, Repr

/-- A token. -/
inductive Token
  | opening (bracket : Bracket)
  | closing (bracket : Bracket)
  | colon
  | comma
  /-- `true`, `false`, or else `null`. -/
  | word (value : Option Bool)
  /-- The beginning of a word. -/
  | brokenWord (flaw : Flaw)
  | number (numeral : Numeral)
  /-- The beginning of a number. -/
  | brokenNumber (flaw : Flaw)
  | string (quotation : Quotation)
  /-- A character that begins no token. -/
  | stray
  deriving DecidableEq, Repr

/-! ### Cutting text into tokens -/

/-- Where in a number the machine is. -/
inductive NumberPart
  | sign
  | zero
  | whole
  | point
  | fraction
  | mark
  | markSign
  | exponent
  deriving DecidableEq, Repr

/-- What the machine is in the middle of. -/
inductive Mode
  | between
  /-- A word, with the characters still to come. -/
  | word (left : List Char) (value : Option Bool)
  | number (part : NumberPart) (numeral : Numeral)
  /-- A string, with its pieces so far, last one first. -/
  | string (done : List Piece)
  /-- Behind a backslash. -/
  | escape (done : List Piece)
  /-- Behind `\u`, with the value and number of the digits so far. -/
  | unit (done : List Piece) (value count : Nat)
  /-- Behind `\u` and something that is no digit, with the bytes of an escape still to come. -/
  | badUnit (done : List Piece) (missing : Nat)
  /-- Behind a flaw: nothing more is read. -/
  | over

/-- White space between tokens. -/
def isBlank (c : Char) : Bool := c == ' ' || c == '\t' || c == '\n' || c == '\r'

/-- The value of a decimal digit. -/
def digit? (c : Char) : Option Nat :=
  if '0' ≤ c ∧ c ≤ '9' then some (c.toNat - '0'.toNat) else none

/-- What a character between tokens begins. -/
def Mode.enter (c : Char) : List Token × Mode :=
  if isBlank c then ([], .between)
  else match c with
  | '\x7b' => ([.opening .object], .between)
  | '\x7d' => ([.closing .object], .between)
  | '[' => ([.opening .array], .between)
  | ']' => ([.closing .array], .between)
  | ':' => ([.colon], .between)
  | ',' => ([.comma], .between)
  | '"' => ([], .string [])
  | 't' => ([], .word ['r', 'u', 'e'] (some true))
  | 'f' => ([], .word ['a', 'l', 's', 'e'] (some false))
  | 'n' => ([], .word ['u', 'l', 'l'] none)
  | '-' => ([], .number .sign ⟨true, [], [], none⟩)
  | _ =>
    match digit? c with
    | some d => ([], .number (if d = 0 then .zero else .whole) ⟨false, [d], [], none⟩)
    | none => ([.stray], .over)

/-- Continue a number with a character; none if the character does not belong to it. -/
def NumberPart.step (part : NumberPart) (n : Numeral) (c : Char) :
    Option (NumberPart × Numeral) :=
  let power (minus : Bool) (digits : List Nat) : Numeral :=
    { n with exponent := some (minus, digits) }
  let (minus, digits) := n.exponent.getD (false, [])
  match part, digit? c with
  | .sign, some d => some (if d = 0 then .zero else .whole, { n with whole := [d] })
  | .whole, some d => some (.whole, { n with whole := n.whole ++ [d] })
  | .point, some d | .fraction, some d => some (.fraction, { n with fraction := n.fraction ++ [d] })
  | .mark, some d | .markSign, some d | .exponent, some d =>
    some (.exponent, power minus (digits ++ [d]))
  | .zero, none | .whole, none =>
    if c = '.' then some (.point, n)
    else if c = 'e' ∨ c = 'E' then some (.mark, power false [])
    else none
  | .fraction, none => if c = 'e' ∨ c = 'E' then some (.mark, power false []) else none
  | .mark, none =>
    if c = '+' ∨ c = '-' then some (.markSign, power (c = '-') []) else none
  | _, _ => none

/-- The number may end here.  A zero at its beginning may end it, but no digit may follow it. -/
def NumberPart.complete : NumberPart → Bool
  | .zero | .whole | .fraction | .exponent => true
  | .sign | .point | .mark | .markSign => false

/-- The character that a short escape stands for. -/
def escaped? : Char → Option Char
  | '"' => some '"'
  | '\\' => some '\\'
  | '/' => some '/'
  | 'b' => some '\x08'
  | 'f' => some '\x0c'
  | 'n' => some '\n'
  | 'r' => some '\r'
  | 't' => some '\t'
  | _ => none

/-- A string that breaks off. -/
def brokenString (done : List Piece) (flaw : Flaw) : Token := .string ⟨done.reverse, some flaw⟩

/-- Take one character: the tokens that are complete with it, and what comes next. -/
def Mode.step : Mode → Char → List Token × Mode
  | .between, c => enter c
  | .word left value, c =>
    match left with
    | [] => ([.word value], .over)
    | expected :: left =>
      if c ≠ expected then ([.brokenWord .malformed], .over)
      else if left = [] then ([.word value], .between)
      else ([], .word left value)
  | .number part n, c =>
    match part.step n c with
    | some (part, n) => ([], .number part n)
    | none =>
      if part.complete ∧ ¬(part = .zero ∧ (digit? c).isSome) then
        let (tokens, next) := enter c
        (.number n :: tokens, next)
      else ([.brokenNumber .malformed], .over)
  | .string done, c =>
    if c = '"' then ([.string ⟨done.reverse, none⟩], .between)
    else if c = '\\' then ([], .escape done)
    else if c < ' ' then ([brokenString done .malformed], .over)
    else ([], .string (.char c :: done))
  | .escape done, c =>
    if c = 'u' then ([], .unit done 0 0)
    else match escaped? c with
      | some e => ([], .string (.char e :: done))
      | none => ([brokenString done .malformed], .over)
  | .unit done value count, c =>
    match Hex.value? c with
    | some d =>
      if count = 3 then ([], .string (.unit (value * 16 + d) :: done))
      else ([], .unit done (value * 16 + d) (count + 1))
    | none =>
      if count + c.utf8Size < 4 then ([], .badUnit done (4 - (count + c.utf8Size)))
      else ([brokenString done .malformed], .over)
  | .badUnit done missing, c =>
    if c.utf8Size < missing then ([], .badUnit done (missing - c.utf8Size))
    else ([brokenString done .malformed], .over)
  | .over, _ => ([], .over)

/-- The token that the end of the text completes or cuts short. -/
def Mode.finish : Mode → List Token
  | .between | .over => []
  | .word _ _ => [.brokenWord .ended]
  | .number part n => if part.complete then [.number n] else [.brokenNumber .ended]
  | .string done | .escape done | .unit done _ _ | .badUnit done _ => [brokenString done .ended]

/-- The tokens of a text in the middle of which the machine is. -/
def scan : Mode → List Char → List Token
  | mode, [] => mode.finish
  | mode, c :: rest =>
    let (tokens, next) := mode.step c
    tokens ++ scan next rest

/-- The tokens of a text. -/
def tokens (text : List Char) : List Token := scan .between text

/-! ### The text of a string -/

/-- The character of a surrogate pair. -/
def pairChar (high low : Nat) : Char :=
  Char.ofNat (0x10000 + (high - 0xd800) * 0x400 + (low - 0xdc00))

/-- The characters that pieces spell.  A high surrogate must be followed by a low one, and a low one
may not stand alone. -/
def spell (flaw : Option Flaw) : List Piece → Except Flaw (List Char)
  | [] =>
    match flaw with
    | none => .ok []
    | some flaw => .error flaw
  | .char c :: rest => (c :: ·) <$> spell flaw rest
  | .unit u :: rest =>
    if 0xdc00 ≤ u ∧ u ≤ 0xdfff then .error .malformed
    else if 0xd800 ≤ u ∧ u ≤ 0xdbff then
      match rest with
      | .unit v :: rest =>
        if 0xdc00 ≤ v ∧ v ≤ 0xdfff then (pairChar u v :: ·) <$> spell flaw rest
        else .error .malformed
      | .char _ :: _ => .error .malformed
      | [] => .error (flaw.getD .malformed)
    else (Char.ofNat u :: ·) <$> spell flaw rest

/-- The text of a string token, for a reader who uses it. -/
def Quotation.text (q : Quotation) : Except Flaw String := String.ofList <$> spell q.flaw q.pieces

/-- The string token is well formed, for a reader who skips it. -/
def Quotation.skip (q : Quotation) : Except Flaw Unit :=
  match q.flaw with
  | none => .ok ()
  | some flaw => .error flaw

end ScopedImports.Json
