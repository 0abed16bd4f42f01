import ScopedImports.Path.Basic

/-!
A tree of files, directories and symbolic links, where a path leads in it, and how it grows.

A path is followed from the top of the tree piece by piece.  Every piece, a blank one included,
needs a directory to be taken in; so `a/` and `a/.` name nothing when `a` is a file.  A link is
replaced by the pieces of its target, at most forty times on one path.  Paths that leave the tree,
through the root or through `..` at the top, lead nowhere.

The last name on the way may be one that nothing has yet: there a new file goes.  So a file that is
added at a link which dangles appears where the link points.  New directories and links go by their
own name into the directory that the pieces before it lead to.

* `FileTree.follow`: the place where pieces lead.
* `FileTree.add`: the tree with one more entry, and with the directories above it.
* `FileTree.isFile`: whether a path leads to a regular file.
-/

namespace ScopedImports

/-- What stands at a place of a tree. -/
inductive Node
  | file
  | directory
  | link (target : Path)
  deriving DecidableEq, Repr

/-- A place in a tree, by names from the top. -/
abbrev Place := List (List UInt8)

/-- The nodes of a tree by their place. -/
structure FileTree where
  nodes : List (Place × Node)
  deriving Repr

namespace FileTree

/-- A tree with nothing but its top directory. -/
def empty : FileTree := ⟨[]⟩

/-- What stands at a place. -/
def node? (tree : FileTree) (place : Place) : Option Node :=
  if place = [] then some .directory
  else (tree.nodes.find? fun entry => entry.1 = place).map Prod.snd

/-! ### Following a path -/

/-- The longest name, in bytes. -/
def longestName : Nat := 255

/-- The longest path, in bytes. -/
def longestPath : Nat := 4095

/-- How many links may be followed on one path. -/
def linkLimit : Nat := 40

/-- Follow pieces from a place.  Where a link stands, `jump` goes on with the pieces of its target
in front of those that are left. -/
def walk (tree : FileTree) (jump : Place → (pieces : List (List UInt8)) → Option Place)
    (place : Place) : (pieces : List (List UInt8)) → Option Place
  | [] => some place
  | piece :: rest =>
    if tree.node? place ≠ some .directory then none
    else if Path.isBlank piece then walk tree jump place rest
    else if piece = Path.upPiece then
      if place = [] then none else walk tree jump place.dropLast rest
    else if longestName < piece.length then none
    else match tree.node? (place ++ [piece]) with
      | some (.link target) =>
        if target.isAbsolute then none else jump place (target.pieces ++ rest)
      | _ => walk tree jump (place ++ [piece]) rest

/-- Follow pieces from a place, and at most so many links. -/
def follow (tree : FileTree) : (links : Nat) → Place → (pieces : List (List UInt8)) → Option Place
  | 0 => tree.walk fun _ _ => none
  | links + 1 => tree.walk (follow tree links)

/-- There is a regular file where the path leads. -/
def isFile (tree : FileTree) (path : Path) : Bool :=
  if path.isAbsolute ∨ longestPath < path.bytes.length ∨ 0 ∈ path.bytes then false
  else (tree.follow linkLimit [] path.pieces).bind tree.node? == some .file

/-! ### Adding entries -/

/-- The place of the last piece, as a name in the directory that the pieces before it lead to.  A
link that stands there is not followed. -/
def entryPlace? (tree : FileTree) (pieces : List (List UInt8)) : Option Place := do
  let name ← pieces.getLast?
  let above ← tree.follow linkLimit [] pieces.dropLast
  if tree.node? above = some .directory ∧ name ≠ Path.upPiece ∧ name.length ≤ longestName then
    some (above ++ [name])
  else none

/-- Put a node at a place, if there is one and nothing stands there yet. -/
def insert (tree : FileTree) (place : Option Place) (node : Node) : FileTree :=
  match place with
  | some place => if (tree.node? place).isSome then tree else ⟨tree.nodes ++ [(place, node)]⟩
  | none => tree

/-- Make a directory. -/
def addDirectory (tree : FileTree) (pieces : List (List UInt8)) : FileTree :=
  tree.insert (tree.entryPlace? pieces) .directory

/-- Add a node, and before it, from the top down, the directories on the way to it that are not
there yet. -/
def add (tree : FileTree) (path : Path) (node : Node) : FileTree :=
  let pieces := path.pieces.filter fun piece => !Path.isBlank piece
  let above := (List.range pieces.length).map pieces.take
  let tree := above.foldl addDirectory tree
  match node with
  | .file => tree.insert (tree.follow linkLimit [] pieces) .file
  | .directory => tree.addDirectory pieces
  | .link target => tree.insert (tree.entryPlace? pieces) (.link target)

end FileTree

end ScopedImports
