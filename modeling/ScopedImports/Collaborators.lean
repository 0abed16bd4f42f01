import ScopedImports.Failure

/-!
The capabilities that a session is given: a view of the file system, a parser of configuration
files, and the algorithm that finds one module.

Each of them acts on a world `σ` of its own choosing and may answer the same question differently
the next time.  A collaborator that always answers alike is one that ignores the world.
-/

namespace ScopedImports

variable {σ Options Module Cache : Type}

/-- The file system as seen by the locator and by the finder. -/
structure Host (σ : Type) where
  /-- Where relative paths start. -/
  workingDirectory : StateM σ Path
  /-- The form of a file name under which a finder may remember it. -/
  canonicalName : String → StateM σ String
  /-- Whether there is a regular file at the path. -/
  isFile : Path → StateM σ Bool

/-- Reads the options that a configuration file declares. -/
abbrev Loader (σ Options : Type) := Path → StateM σ (Except Failure Options)

/-- Finds the module that one name stands for.  What a finder remembers between calls is its cache:
one is made for every scope and handed back on each call for that scope. -/
structure Finder (σ Options Module Cache : Type) where
  /-- An empty cache for a new scope. -/
  newCache : Path → Host σ → StateM σ Cache
  /-- The module that `name` stands for in `file`, if there is one, and the cache after the call. -/
  find : (name file : String) → Options → Host σ → Cache → StateM σ (Option Module × Cache)

end ScopedImports
