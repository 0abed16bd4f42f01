import ScopedImports.Decimal.Shortest
import ScopedImports.Settings.Member
import ScopedImports.Text.Quoted

/-!
Settings from a JSON value.

An object gives members by name, and members of other names are ignored; an array gives them in
order, and must not be longer.  What is wrong is reported for the first member that is wrong: in an
object the members are looked at in the order of their names, in an array from the left.

This is one reader of settings; what holds for any of them is said of a `Codec`.
-/

namespace ScopedImports.Settings

/-- Why a value is not settings. -/
inductive Mismatch
  /-- A value of the wrong kind, and what was expected in its place. -/
  | kind (found : Json) (expected : String)
  /-- An array with more items than there are members. -/
  | tooLong (length : Nat)
  deriving Repr

/-- A number by kind and value.  One that is too large to be read has neither. -/
def describeNumber (n : Json.Numeral) : String :=
  match n.value? with
  | some (.integer value) => "integer `" ++ toString value ++ "`"
  | some (.float negative value) =>
    "floating point `" ++ String.ofList (Decimal.ofDouble negative value) ++ "`"
  | none => "number"

/-- A value by kind; words, numbers and strings are shown. -/
def describeKind : Json → String
  | .null => "null"
  | .bool true => "boolean `true`"
  | .bool false => "boolean `false`"
  | .number n => describeNumber n
  | .string text => "string " ++ Quoted.ofText text
  | .array _ => "sequence"
  | .object _ => "map"

/-- The mismatch in words. -/
def Mismatch.message : Mismatch → String
  | kind found expected => "invalid type: " ++ describeKind found ++ ", expected " ++ expected
  | tooLong length =>
    "invalid length " ++ toString length ++ ", expected fewer elements in array"

/-- What a member takes, in words. -/
def Member.expected : Member → String
  | projectConfig => "path string"
  | configName => "a string"
  | caseSensitive => "a boolean"

/-- What settings are written as, in words. -/
def expected : String := "struct SessionConfig"

/-- Give a member a value. -/
def Draft.set (draft : Draft) (m : Member) (value : Json) : Except Mismatch Draft :=
  match draft.set? m value with
  | some draft => .ok draft
  | none => .error (.kind value m.expected)

/-- Members in the order of their names. -/
def Member.byName : List Member := [.caseSensitive, .configName, .projectConfig]

/-- Give one member after the other its value, as far as there are values. -/
def Draft.setAll (draft : Draft) : List (Member × Json) → Except Mismatch Draft
  | [] => .ok draft
  | (m, value) :: rest => do (← draft.set m value).setAll rest

/-- The settings that a value describes. -/
def ofJson (value : Json) : Except Mismatch Settings :=
  match value with
  | .object members =>
    let given := Member.byName.filterMap fun m =>
      (Json.member? members m.name).map fun value => (m, value)
    Draft.finish <$> Draft.empty.setAll given
  | .array items => do
    let draft ← Draft.empty.setAll (Member.all.zip items)
    if Member.all.length < items.length then .error (.tooLong items.length)
    else pure draft.finish
  | other => .error (.kind other expected)

end ScopedImports.Settings
