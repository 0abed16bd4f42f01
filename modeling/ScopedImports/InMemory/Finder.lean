import ScopedImports.InMemory.World
import ScopedImports.Collaborators
import ScopedImports.Memo

/-!
A finder that composes the path of a module from the options and the name.

It remembers modules under the host's canonical form of their names, so that on a host that ignores
case the first spelling of a name decides.  Names that start with `missing` have no module; a name
that starts with `probe:` stands for the path behind it, if the host has a file there, and is never
remembered.
-/

namespace ScopedImports.InMemory

/-- What the finder remembers for a scope: where the cache was made, the modules by canonical name,
and how often one of them was found again. -/
structure Modules where
  directory : Path
  known : Memo (id : String → String) String
  hits : Nat

/-- What is left of a text behind `start`, if it starts so. -/
def behind? : (start text : List Char) → Option (List Char)
  | [], text => some text
  | _ :: _, [] => none
  | s :: start, c :: text => if s = c then behind? start text else none

/-- What a name stands for. -/
inductive Target
  | nothing
  /-- A file, if there is one. -/
  | probed (path : String)
  /-- A module to be composed. -/
  | composed

/-- Tell names apart by how they start. -/
def Target.ofName (name : String) : Target :=
  if (behind? "missing".toList name.toList).isSome then nothing
  else match behind? "probe:".toList name.toList with
    | some path => probed (String.ofList path)
    | none => composed

/-- The module that options and name make. -/
def compose (options name : String) : String := options ++ "/" ++ name ++ ".ts"

/-- Find the module of a name. -/
def findModule (name options : String) (host : Host World) (modules : Modules) :
    StateM World (Option String × Modules) := do
  match Target.ofName name with
  | .nothing => pure (none, modules)
  | .probed path =>
    let found ← host.isFile (Path.ofText path)
    pure (if found then some path else none, modules)
  | .composed =>
    let key ← host.canonicalName name
    match modules.known.find? key with
    | some module => pure (some module, { modules with hits := modules.hits + 1 })
    | none =>
      let (module, known) := modules.known.settle key (compose options name)
      pure (some module, { modules with known })

/-- The finder that composes modules. -/
def composingFinder : Finder World String String Modules where
  newCache directory host := do
    let sample ← host.canonicalName "Aa"
    modify fun world => { world with caches := world.caches ++ [(directory, sample)] }
    pure ⟨directory, ∅, 0⟩
  find name _ options host modules := findModule name options host modules

end ScopedImports.InMemory
