import ScopedImports.Path.Basic

/-!
The settings of a session.
-/

namespace ScopedImports

/-- What a session is set up with. -/
structure Settings where
  /-- The configuration of files that no configuration encloses. -/
  projectConfig : Path
  /-- The name of the configuration file looked for in every directory above a file. -/
  configName : String
  /-- Whether the host's file names differ by case. -/
  caseSensitive : Bool
  deriving DecidableEq, Repr

namespace Settings

/-- The name of a configuration file where none is agreed on. -/
def defaultConfigName : String := "tsconfig.json"

/-- The settings where nothing is said. -/
def default : Settings := ⟨Path.ofText defaultConfigName, defaultConfigName, true⟩

instance : Inhabited Settings := ⟨default⟩

/-- The default settings for the given project configuration. -/
def ofProject (projectConfig : Path) : Settings := { default with projectConfig }

/-- Settings that agree, where the project configuration may be spelt differently. -/
def Same (a b : Settings) : Prop :=
  a.projectConfig.Same b.projectConfig ∧ a.configName = b.configName ∧
    a.caseSensitive = b.caseSensitive

instance (a b : Settings) : Decidable (a.Same b) := inferInstanceAs (Decidable (_ ∧ _ ∧ _))

end Settings

end ScopedImports
