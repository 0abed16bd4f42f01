import ScopedImports.Json.Reader
import ScopedImports.Settings.Member

/-!
Settings from a JSON text.

The tokens are taken from the left, one at a time, and no value is built: what a member of another
name holds is checked for its grammar and skipped.  The first thing wrong decides the fault,
whatever comes behind it.  In contrast to a value, a text must not give a known member twice.

    {"case_sensitive": 1, "case_sensitive"      a number where a truth value is expected
    {"u": [1, {"case_sensitive": 1}]            ends too early

This is one reader of settings; what holds for any of them is said of a `Codec`.
-/

namespace ScopedImports.Settings

open Json (Token Flaw Reading)

/-- What is wrong with a text. -/
inductive Fault
  /-- The text ends too early. -/
  | ended
  /-- The text is not JSON, or goes on behind the settings. -/
  | malformed
  /-- Something of the wrong kind, or given twice. -/
  | mismatched
  deriving DecidableEq, Repr

/-- A flaw of the text is a fault of the settings. -/
def Fault.ofFlaw : Flaw → Fault
  | .ended => .ended
  | .malformed => .malformed

/-- What comes next in the text, and what has been said so far. -/
inductive Stage
  | start
  /-- A name, or the end of an object that has no members. -/
  | member (draft : Draft)
  | name (draft : Draft)
  /-- A colon behind the name of a known member, or of another one. -/
  | colon (draft : Draft) (known : Option Member)
  /-- The value of a member in an object. -/
  | value (draft : Draft) (m : Member)
  /-- The value of a member that is not known, or what is left of it. -/
  | skipping (draft : Draft) (config : Reading.Config Unit)
  /-- A comma, or the end of the object. -/
  | comma (draft : Draft)
  /-- The value of the first member, or the end of an array that has no items. -/
  | first (draft : Draft)
  /-- The value of the next member in an array, and the members behind it. -/
  | item (draft : Draft) (m : Member) (left : List Member)
  /-- A comma, or the end of the array; the members still to come. -/
  | itemComma (draft : Draft) (left : List Member)
  /-- Nothing: the settings are complete. -/
  | finished (draft : Draft)

/-- The fault of a token that begins something of the wrong kind.  A word, number or string counts
as such only if it is well formed itself. -/
def wrongKind : Token → Fault
  | .word _ | .opening _ => .mismatched
  | .number numeral => if numeral.value?.isSome then .mismatched else .malformed
  | .string quotation =>
    match quotation.text with
    | .ok _ => .mismatched
    | .error flaw => .ofFlaw flaw
  | .brokenWord flaw | .brokenNumber flaw => .ofFlaw flaw
  | .closing _ | .colon | .comma | .stray => .malformed

/-- The result of a reading as one of the text. -/
def liftFlaw {α : Type} : Except Flaw α → Except Fault α
  | .ok a => .ok a
  | .error flaw => .error (.ofFlaw flaw)

/-- Give a member a value that is complete. -/
def Draft.setValue (draft : Draft) (m : Member) (value : Json) : Except Fault Draft :=
  match draft.set? m value with
  | some draft => .ok draft
  | none => .error .mismatched

/-- Give a member the value that a token is. -/
def Draft.setToken (draft : Draft) (m : Member) (token : Token) : Except Fault Draft :=
  match token with
  | .string quotation => do draft.setValue m (.string (← liftFlaw quotation.text))
  | .word (some b) => draft.setValue m (.bool b)
  | other => .error (wrongKind other)

/-- Take the name of a member. -/
def takeName (draft : Draft) (quotation : Json.Quotation) : Except Fault Stage := do
  let name ← liftFlaw quotation.text
  match Member.ofName? name with
  | some m => if draft.has m then .error .mismatched else .ok (.colon draft (some m))
  | none => .ok (.colon draft none)

/-- Take the next token of a value that is skipped. -/
def skipToken (draft : Draft) (config : Reading.Config Unit) (token : Token) :
    Except Fault Stage := do
  match ← liftFlaw (Reading.skip.step config token) with
  | .complete _ => .ok (.comma draft)
  | .more config => .ok (.skipping draft config)

/-- Take a token. -/
def Stage.step : Stage → Token → Except Fault Stage
  | .start, .opening .object => .ok (.member .empty)
  | .start, .opening .array => .ok (.first .empty)
  | .start, token => .error (wrongKind token)
  | .member draft, .closing .object => .ok (.finished draft)
  | .member draft, .string quotation | .name draft, .string quotation => takeName draft quotation
  | .colon draft (some m), .colon => .ok (.value draft m)
  | .colon draft none, .colon => .ok (.skipping draft .start)
  | .value draft m, token => .comma <$> draft.setToken m token
  | .skipping draft config, token => skipToken draft config token
  | .comma draft, .closing .object => .ok (.finished draft)
  | .comma draft, .comma => .ok (.name draft)
  | .first draft, .closing .array => .ok (.finished draft)
  | .first draft, token =>
    (fun draft => .itemComma draft [.configName, .caseSensitive])
      <$> draft.setToken .projectConfig token
  | .item draft m left, token => (fun draft => .itemComma draft left) <$> draft.setToken m token
  | .itemComma draft _, .closing .array => .ok (.finished draft)
  | .itemComma draft (m :: left), .comma => .ok (.item draft m left)
  | _, _ => .error .malformed

/-- Take all tokens. -/
def Stage.run : Stage → List Token → Except Fault Settings
  | .finished draft, [] => .ok draft.finish
  | _, [] => .error .ended
  | stage, token :: rest => do (← stage.step token).run rest

/-- The settings that a text describes. -/
def ofText (text : String) : Except Fault Settings := Stage.start.run (Json.tokens text.toList)

end ScopedImports.Settings
