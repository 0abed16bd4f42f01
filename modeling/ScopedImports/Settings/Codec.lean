import ScopedImports.Settings.Member

/-!
Coders of settings.

Settings declare what they are made of: the names, kinds and order of their members (`Member`), and
what a member is that is left out (`Settings.default`).  How they are read and written is left to a
serialization library, which derives it from the declaration.  The library is not part of this
project, so a `Codec` stands for it: any way of coding settings, about which nothing is fixed here.

Reading is driven by members or by items, one after the other, whatever they come from:

    text   --->  members of an object   --->   ofMembers     --->
    value  --->  items of an array      --->   ofItems       --->  settings
-/

namespace ScopedImports.Settings

/-- How settings are coded. -/
structure Codec where
  /-- The value that a text is parsed to, with all members of objects in the order of the text, also
  where it repeats a name. -/
  parse : String → Option Json
  /-- The numbers that can be read. -/
  inRange : Json.Numeral → Prop
  /-- The settings that the members of an object come to, behind what has been said already. -/
  ofMembers : Draft → List (String × Json) → Option Settings
  /-- The settings that the items of an array come to when they are given to members in order, and
  the items that are left. -/
  ofItems : Draft → List Member → List Json → Option (Settings × List Json)
  /-- The settings that a text is read as. -/
  ofText : String → Option Settings
  /-- The settings that a value is read as. -/
  ofValue : Json → Option Settings
  /-- A character as it is written inside a string. -/
  escape : Char → List Char
  /-- The text that settings are written as. -/
  toText : Settings → Option String
  /-- The value that settings are written as. -/
  toValue : Settings → Option Json

namespace Codec

variable (codec : Codec)

/-- The settings of an array, if none of its items is left. -/
def ofArray (items : List Json) : Option Settings :=
  match codec.ofItems .empty Member.all items with
  | some (settings, []) => some settings
  | _ => none

/-- What a value comes to whose members are visited in the order in which they stand. -/
def visit : Json → Option Settings
  | .object members => codec.ofMembers .empty members
  | .array items => codec.ofArray items
  | _ => none

end Codec

end ScopedImports.Settings
