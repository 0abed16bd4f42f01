import ScopedImports.Json.Value
import ScopedImports.Settings.Basic

/-!
The members of settings in JSON: their names, their order, and what has been said of them so far.

Settings are written as an object or, shorter, as an array of the members in order.  A member that
is left out has its default value.
-/

namespace ScopedImports.Settings

/-- A member of the settings. -/
inductive Member
  | projectConfig
  | configName
  | caseSensitive
  deriving DecidableEq, Repr

/-- The members in the order in which an array gives them. -/
def Member.all : List Member := [.projectConfig, .configName, .caseSensitive]

/-- The name of a member in JSON. -/
def Member.name : Member → String
  | projectConfig => "project_config"
  | configName => "config_file_name"
  | caseSensitive => "case_sensitive"

/-- The member of the given name. -/
def Member.ofName? (name : String) : Option Member := Member.all.find? fun m => m.name == name

/-- What has been said of the members. -/
structure Draft where
  projectConfig : Option String
  configName : Option String
  caseSensitive : Option Bool
  deriving DecidableEq, Repr

namespace Draft

/-- Nothing has been said. -/
def empty : Draft := ⟨none, none, none⟩

/-- Something has been said of the member. -/
def has (draft : Draft) : Member → Bool
  | .projectConfig => draft.projectConfig.isSome
  | .configName => draft.configName.isSome
  | .caseSensitive => draft.caseSensitive.isSome

/-- Give a member a value; none if the value is not of the member's kind. -/
def set? (draft : Draft) : Member → Json → Option Draft
  | .projectConfig, .string text => some { draft with projectConfig := some text }
  | .configName, .string text => some { draft with configName := some text }
  | .caseSensitive, .bool value => some { draft with caseSensitive := some value }
  | _, _ => none

/-- The settings, with defaults for what has not been said. -/
def finish (draft : Draft) : Settings where
  projectConfig := (draft.projectConfig.map Path.ofText).getD default.projectConfig
  configName := draft.configName.getD default.configName
  caseSensitive := draft.caseSensitive.getD default.caseSensitive

end Draft

/-! ### Writing -/

/-- The value of a member; none if the project configuration is no text. -/
def value? (settings : Settings) : Member → Option Json
  | .projectConfig => settings.projectConfig.text?.map .string
  | .configName => some (.string settings.configName)
  | .caseSensitive => some (.bool settings.caseSensitive)

/-- The members with their values, if all of them have one. -/
def members? (settings : Settings) : Option (List (String × Json)) :=
  Member.all.mapM fun m => (settings.value? m).map fun value => (m.name, value)

/-- The settings as an object; none if one of the members has no value. -/
def toJson? (settings : Settings) : Option Json := settings.members?.map .object

/-- Why settings cannot be written. -/
def notTextMessage : String := "path contains invalid UTF-8 characters"

end ScopedImports.Settings
