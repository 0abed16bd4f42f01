import ScopedImports.Path.Basic

/-!
The world of collaborators that live in memory: the files that there are, and a record of what the
collaborators were asked.
-/

namespace ScopedImports.InMemory

/-- The files that there are, and what the collaborators were asked, oldest first. -/
structure World where
  files : List Path
  /-- The paths at which a file was looked for. -/
  probes : List Path
  /-- The directory of every new cache, and a sample of the host's canonical names. -/
  caches : List (Path × String)
  /-- The configuration files whose options were asked for. -/
  parses : List Path

namespace World

/-- The world with the given files, before anything is asked. -/
def ofFiles (files : List Path) : World := ⟨files, [], [], []⟩

/-- Make a file; tells whether it is new. -/
def addFile (path : Path) : StateM World Bool := fun world =>
  if path ∈ world.files then (false, world)
  else (true, { world with files := world.files ++ [path] })

/-- Remove a file; tells whether there was one. -/
def removeFile (path : Path) : StateM World Bool := fun world =>
  let kept := world.files.filter fun file => file ≠ path
  (decide (path ∈ world.files), { world with files := kept })

end World

end ScopedImports.InMemory
