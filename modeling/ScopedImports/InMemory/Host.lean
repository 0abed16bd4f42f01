import ScopedImports.Collaborators
import ScopedImports.FileTree
import ScopedImports.InMemory.World
import ScopedImports.Text.Casing

/-!
Hosts in memory: one that knows a set of files, and one that looks into a tree of files.
-/

namespace ScopedImports.InMemory

/-- When a path names one of a set of files. -/
inductive Matching
  /-- When it is spelt alike, byte for byte. -/
  | bySpelling
  /-- When it is another spelling of the same path. -/
  | byComponents
  deriving DecidableEq, Repr

/-- The path names the file. -/
def Matching.agrees : Matching → Path → Path → Bool
  | bySpelling, path, file => path = file
  | byComponents, path, file => decide (path.Same file)

/-- Record a probe. -/
def noteProbe (path : Path) : StateM World Unit :=
  modify fun world => { world with probes := world.probes ++ [path] }

/-- A host that knows a set of files.  Canonical names are in lower case, for ASCII letters, if
`fold` says so. -/
def setHost (directory : Path) (matching : Matching) (fold : Bool) : Host World where
  workingDirectory := pure directory
  canonicalName name := pure (if fold then name.map Char.toLower else name)
  isFile path := do
    noteProbe path
    return (← get).files.any (matching.agrees path)

/-- The form of a file name on a system whose names do or do not differ by case. -/
def canonicalName (caseSensitive : Bool) (name : String) : String :=
  if caseSensitive then name else Text.lower name

/-- A host that works in `directory` and looks into a tree of files. -/
def treeHost (tree : FileTree) (directory : Path) (caseSensitive : Bool) : Host World where
  workingDirectory := pure directory
  canonicalName name := pure (canonicalName caseSensitive name)
  isFile path := do
    noteProbe path
    return tree.isFile path

/-- A host that works at the root of a system without files, and leaves no record. -/
def rootHost (caseSensitive : Bool) : Host World where
  workingDirectory := pure (Path.ofText "/")
  canonicalName name := pure (canonicalName caseSensitive name)
  isFile path := pure (FileTree.empty.isFile path)

end ScopedImports.InMemory
