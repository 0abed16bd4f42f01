import ScopedImports.Collaborators
import ScopedImports.InMemory.World

/-!
A loader with prepared results: the first request for a configuration file gets the first result
prepared for it, the second the second, and the last one stays.
-/

namespace ScopedImports.InMemory

/-- The results prepared for configuration files, which are told apart by their bytes. -/
abbrev Prepared := List (Path × List (Except Failure String))

/-- The result for a configuration file of which nothing is known. -/
def missingOptions (path : Path) : Except Failure String :=
  .error (.malformed path "unexpected end of JSON input")

/-- The prepared result for the request number `n`, counted from zero. -/
def Prepared.result (prepared : Prepared) (path : Path) (n : Nat) : Except Failure String :=
  match prepared.find? fun entry => entry.1 = path with
  | none => missingOptions path
  | some (_, results) => (results[min n (results.length - 1)]?).getD (missingOptions path)

/-- The loader that gives prepared results. -/
def preparedLoader (prepared : Prepared) : Loader World String := fun path => do
  let earlier := (← get).parses.count path
  modify fun world => { world with parses := world.parses ++ [path] }
  return prepared.result path earlier

end ScopedImports.InMemory
