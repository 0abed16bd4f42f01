import ScopedImports.Path.Basic

/-!
The directories above a path, and the places where a file of a given name may govern it.

Dropping steps from the end of a path leaves a start of its bytes, with the blank pieces at the end
of that start removed and everything in front kept as it was written:

    parent "/a//b/c" = "/a//b"    parent "/a/./b" = "/a"    parent "./a" = "."    parent "/" = none

`above` lists what is left after one step is dropped, after two, and so on; `parent` is its first
element.  `candidates file name` joins `name` to every directory above `file`, nearest first.
-/

namespace ScopedImports.Path

/-- The path of a first piece and the later pieces in reverse, blank ones at the end dropped.  A
root alone keeps its separator. -/
def trunk (first : List UInt8) (before : List (List UInt8)) : Path :=
  match (before.dropWhile isBlank).reverse with
  | [] => if first = [] then ⟨[slash]⟩ else ⟨first⟩
  | rest => ⟨glue (first :: rest)⟩

/-- What is left of a path when one step after the other is dropped from its end.  The later pieces
are given last one first; a first piece that is no root is a step as well. -/
def climb (first : List UInt8) : List (List UInt8) → List Path
  | [] => if first = [] then [] else [⟨[]⟩]
  | piece :: before =>
    if isBlank piece then climb first before else trunk first before :: climb first before

/-- The paths above `p`, nearest first: none for a root and for the empty path. -/
def above (p : Path) : List Path :=
  match p.pieces with
  | [] => []
  | first :: rest => climb first rest.reverse

/-- The path without its last step. -/
def parent (p : Path) : Option Path := p.above.head?

/-- The path itself, as it is written, and then the paths above it. -/
def ancestors (p : Path) : List Path := p :: p.above

/-- Where a file called `name` may govern `file`: in each directory above it, nearest first. -/
def candidates (file : Path) (name : String) : List Path :=
  file.above.map fun directory => directory.join (ofText name)

end ScopedImports.Path
