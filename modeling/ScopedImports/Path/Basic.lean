import ScopedImports.Text.Utf8

/-!
Paths are byte sequences, and their components say which file they name.

Two readings of a path live side by side.  By bytes, a path is exactly what the caller wrote.  By
components, separators that repeat or trail and `.` pieces that change nothing are dropped, while
`..` stays as it is:

    components "/a//b/."  =  components "/a/b"          components "./a"  ≠  components "a"

Design.  A path is cut at its separators into pieces (`pieces`, never empty), and everything else
is said on pieces: the first one tells whether the path is rooted, the later ones count unless they
are blank.
-/

namespace ScopedImports

/-- A path: any bytes, text or not. -/
structure Path where
  bytes : List UInt8
  deriving DecidableEq, Repr, Inhabited

namespace Path

/-- One step of a path. -/
inductive Component
  | root
  | here
  | up
  | name (bytes : List UInt8)
  deriving DecidableEq, Repr

/-- The separator `/`. -/
def slash : UInt8 := 47

/-- The piece `.`. -/
def dotPiece : List UInt8 := [46]

/-- The piece `..`. -/
def upPiece : List UInt8 := [46, 46]

/-- The path that a text spells. -/
def ofText (text : String) : Path := ⟨Utf8.encode text.toList⟩

/-- The text that a path spells, if its bytes are text. -/
def text? (p : Path) : Option String := (Utf8.decode? p.bytes).map String.ofList

/-- The path for a reader: bytes that are not text show as U+FFFD. -/
def display (p : Path) : String := String.ofList (Utf8.lossy p.bytes)

/-! ### Pieces -/

/-- Cut bytes at every separator.  There is always one piece more than there are separators. -/
def cut : List UInt8 → List (List UInt8)
  | [] => [[]]
  | b :: rest =>
    if b = slash then [] :: cut rest
    else match cut rest with
      | [] => [[b]]
      | piece :: more => (b :: piece) :: more

/-- Put pieces together with separators between them. -/
def glue (pieces : List (List UInt8)) : List UInt8 := List.intercalate [slash] pieces

theorem cut_ne_nil (bytes : List UInt8) : cut bytes ≠ [] := by
  cases bytes with
  | nil => simp [cut]
  | cons b rest =>
    unfold cut
    split
    · simp
    · split <;> simp

theorem glue_cons {piece : List UInt8} {rest : List (List UInt8)} (h : rest ≠ []) :
    glue (piece :: rest) = piece ++ slash :: glue rest := by
  obtain ⟨next, more, rfl⟩ := List.exists_cons_of_ne_nil h
  simp [glue, List.intercalate, List.intersperse]

/-- Nothing is lost by cutting. -/
theorem glue_cut (bytes : List UInt8) : glue (cut bytes) = bytes := by
  induction bytes with
  | nil => simp [cut, glue, List.intercalate]
  | cons b rest ih =>
    obtain ⟨piece, more, h⟩ := List.exists_cons_of_ne_nil (cut_ne_nil rest)
    rw [h] at ih
    by_cases hb : b = slash
    · simp [cut, hb, h, glue_cons, ih]
    · simp only [cut, hb, if_false, h]
      cases more with
      | nil => simpa [glue, List.intercalate] using ih
      | cons next more => simpa [glue_cons] using ih

/-- No piece holds a separator. -/
theorem slash_not_mem_of_mem_cut {bytes piece : List UInt8} (h : piece ∈ cut bytes) :
    slash ∉ piece := by
  induction bytes generalizing piece with
  | nil => simp_all [cut]
  | cons b rest ih =>
    obtain ⟨first, more, hc⟩ := List.exists_cons_of_ne_nil (cut_ne_nil rest)
    by_cases hb : b = slash
    · rcases List.mem_cons.1 (by simpa [cut, hb] using h) with rfl | h
      · simp
      · exact ih h
    · simp only [cut, hb, if_false, hc] at h
      rcases List.mem_cons.1 h with rfl | h
      · have := ih (hc ▸ List.mem_cons_self)
        simp [this, Ne.symm hb]
      · exact ih (hc ▸ List.mem_cons_of_mem _ h)

/-- The pieces of a path; a rooted path starts with an empty one. -/
def pieces (p : Path) : List (List UInt8) := cut p.bytes

/-- A piece that stands for no step, unless it is the first: empty, or `.`. -/
def isBlank (piece : List UInt8) : Bool := piece.isEmpty || piece == dotPiece

/-! ### Components -/

/-- The step that a piece stands for. -/
def component (piece : List UInt8) : Component :=
  if piece = upPiece then .up else if piece = dotPiece then .here else .name piece

/-- The steps of the first piece, given the pieces after it.  An empty first piece is the root,
unless the whole path is empty. -/
def leading (first : List UInt8) (rest : List (List UInt8)) : List Component :=
  if first = [] then (if rest = [] then [] else [.root]) else [component first]

/-- The steps of a path in order. -/
def components (p : Path) : List Component :=
  match p.pieces with
  | [] => []
  | first :: rest => leading first rest ++ (rest.filter fun piece => !isBlank piece).map component

/-- Two spellings of one path: the steps agree. -/
def Same (p q : Path) : Prop := p.components = q.components

instance (p q : Path) : Decidable (p.Same q) := inferInstanceAs (Decidable (_ = _))

/-! ### Joining -/

/-- A path that starts at the root. -/
def isAbsolute (p : Path) : Bool := p.bytes.head? == some slash

/-- `q` as seen from the directory `p`.  An absolute `q` stands for itself. -/
def join (p q : Path) : Path :=
  if q.isAbsolute then q
  else if p.bytes = [] ∨ p.bytes.getLast? = some slash then ⟨p.bytes ++ q.bytes⟩
  else ⟨p.bytes ++ slash :: q.bytes⟩

/-- A path given by a caller who works in `directory`. -/
def anchor (p directory : Path) : Path := directory.join p

end Path

end ScopedImports
