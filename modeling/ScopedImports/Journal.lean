import ScopedImports.Collaborators
import ScopedImports.Scope

/-!
What is on record about a run.

An action of the library (`Act`) uses the world of its collaborators, draws fresh identities, and
keeps a journal.  The journal lists in order what was asked of the collaborators and the notes left
for a reader of the log; it is only ever extended.
-/

namespace ScopedImports

/-- A line of the log. -/
inductive Note
  /-- An enclosing configuration was found. -/
  | located (file : String) (scope : Scope)
  /-- No configuration encloses the file, so the default scope governs it. -/
  | fellBack (file : String) (scope : Scope)
  /-- The loader rejected the scope's configuration. -/
  | loadFailed (scope : Scope) (failure : Failure)
  /-- The scope's options are known and its resolver is being built. -/
  | building (scope : Scope)
  /-- A batch of names was resolved with so many calls of the finder. -/
  | resolvedBatch (scope : Scope) (file : String) (names loads : Nat)
  deriving DecidableEq, Repr

/-- How important a log line is. -/
inductive Level
  | trace
  | debug
  | warn
  deriving DecidableEq, Repr

/-- The value of a log field. -/
inductive FieldValue
  | text (value : String)
  | count (value : Nat)
  deriving DecidableEq, Repr

namespace Note

/-- A failed load is worth a warning, a new resolver is news, the rest is detail. -/
def level : Note → Level
  | located .. | fellBack .. | resolvedBatch .. => .trace
  | building .. => .debug
  | loadFailed .. => .warn

/-- The wording of a log line. -/
def message : Note → String
  | located .. => "Located configuration"
  | fellBack .. => "No enclosing configuration, using default scope"
  | loadFailed .. => "Failed to load configuration"
  | building .. => "Building resolver for configuration scope"
  | resolvedBatch .. => "Resolved module batch"

/-- The fields of a log line. -/
def fields : Note → List (String × FieldValue)
  | located file scope | fellBack file scope =>
    [("file", .text file), ("scope", .text scope.display)]
  | loadFailed scope failure =>
    [("scope", .text scope.display), ("error", .text failure.message)]
  | building scope => [("scope", .text scope.display)]
  | resolvedBatch scope file names loads =>
    [("scope", .text scope.display), ("file", .text file), ("names", .count names),
      ("loads", .count loads)]

end Note

/-- An entry of the journal. -/
inductive Event (Options : Type)
  /-- The host was asked for a file while a configuration was looked for. -/
  | probed (path : Path)
  /-- The loader was asked for options. -/
  | parsed (path : Path)
  /-- The finder was asked for a new cache. -/
  | madeCache (directory : Path)
  /-- The finder was asked for a module. -/
  | searched (name file : String) (options : Options)
  /-- A line was left for the log. -/
  | noted (note : Note)
  deriving DecidableEq, Repr

/-- What an action works with besides the caches: the collaborators' world, the number of
identities given out so far, and the journal, oldest entry first. -/
structure Env (σ Options : Type) where
  world : σ
  fresh : Nat
  journal : List (Event Options)

/-- An action that may use the collaborators. -/
abbrev Act (σ Options : Type) := StateM (Env σ Options)

namespace Act

variable {σ Options α : Type}

/-- Let a collaborator act on its world. -/
def ask (question : StateM σ α) : Act σ Options α := fun env =>
  let (answer, world) := question env.world
  (answer, { env with world := world })

/-- Put an entry into the journal. -/
def record (event : Event Options) : Act σ Options Unit :=
  modify fun env => { env with journal := env.journal ++ [event] }

/-- Leave a line for the log. -/
def note (line : Note) : Act σ Options Unit := record (.noted line)

/-- An identity that nothing else has. -/
def newIdentity : Act σ Options Nat := modifyGet fun env =>
  (env.fresh, { env with fresh := env.fresh + 1 })

theorem run_ask (question : StateM σ α) (env : Env σ Options) :
    (ask question).run env = pure ((question.run env.world).1,
      { env with world := (question.run env.world).2 }) := rfl

theorem run_record (event : Event Options) (env : Env σ Options) :
    (record event).run env = pure ((), { env with journal := env.journal ++ [event] }) := rfl

theorem run_note (line : Note) (env : Env σ Options) :
    (note line).run env = pure ((), { env with journal := env.journal ++ [.noted line] }) := rfl

end Act

end ScopedImports
