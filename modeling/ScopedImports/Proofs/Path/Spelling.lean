import Mathlib.Data.List.DropRight
import ScopedImports.Proofs.Path.Names

/-!
The nearest place for a file, and the same name written beside the file.

A file `front ++ x` has its nearest place for a name `n` in its own directory.  That directory is
found by climbing, which drops the blank pieces at the end of `front`, and then `n` is joined to it.
Written beside the file, the name has all of `front` before it:

    front     nearest place     beside the file
    /a/b/     /a/b/n            /a/b/n
    /a/./     /a/n              /a/./n
    /a//      /a/n              /a//n
    ./        ./n               ./n

By components the two are always equal.  Byte for byte they are equal if and only if climbing has no
blank piece to drop (`Tidy`).  A first piece is never dropped, so `./` is tidy and `/a/./` is not.
-/

namespace ScopedImports.Path

/-- There is nothing to drop at the end of what is written in front of a name: it is empty, or the
root, or one separator behind a directory whose last piece is no `.` that could be left out. -/
def Tidy (front : List UInt8) : Prop :=
  front = [] ∨ front = [slash] ∨ ∃ directory, front = directory ++ [slash] ∧ directory ≠ [] ∧
    directory.getLast? ≠ some slash ∧
    ((cut directory).getLast? ≠ some dotPiece ∨ directory = dotPiece)

/-! ### Pieces and bytes -/

/-- Paths with the same pieces have the same bytes. -/
theorem pieces_inj {p q : Path} : p.pieces = q.pieces ↔ p = q := by
  constructor
  · intro same
    have bytes : glue p.pieces = glue q.pieces := by rw [same]
    rw [pieces, pieces, glue_cut, glue_cut] at bytes
    obtain ⟨some⟩ := p
    obtain ⟨other⟩ := q
    exact congrArg Path.mk bytes
  · rintro rfl
    rfl

theorem glue_concat (first : List UInt8) (rest : List (List UInt8)) (last : List UInt8) :
    glue (first :: (rest ++ [last])) = glue (first :: rest) ++ slash :: last := by
  induction rest generalizing first with
  | nil =>
    rw [glue_singleton, List.nil_append, glue_cons (List.cons_ne_nil _ _), glue_singleton]
  | cons next rest ih =>
    rw [List.cons_append, glue_cons (List.cons_ne_nil _ _), ih, glue_cons (List.cons_ne_nil _ _),
      List.append_assoc, List.cons_append]

/-- Bytes end in a separator where there is nothing in the last piece. -/
theorem getLast?_glue_eq_slash_iff {first last : List UInt8} {rest : List (List UInt8)}
    (whole : slash ∉ last) :
    (glue (first :: (rest ++ [last]))).getLast? = some slash ↔ last = [] := by
  rw [glue_concat]
  constructor
  · intro ends
    by_contra solid
    rw [List.getLast?_append_of_ne_nil _ (List.cons_ne_nil _ _), List.getLast?_cons_of_ne_nil solid]
      at ends
    exact whole (List.mem_of_getLast? ends)
  · rintro rfl
    exact List.getLast?_concat

/-! ### Tidiness, piece by piece -/

/-- A single piece is never dropped. -/
theorem tidy_of_not_mem {directory : List UInt8} (whole : slash ∉ directory) :
    Tidy (directory ++ [slash]) := by
  by_cases root : directory = []
  · exact .inr (.inl (by rw [root, List.nil_append]))
  · refine .inr (.inr ⟨directory, rfl, root, fun ends => whole (List.mem_of_getLast? ends), ?_⟩)
    rw [cut_of_not_mem whole]
    by_cases dot : directory = dotPiece
    · exact .inr dot
    · exact .inl (by simpa using dot)

/-- Of several pieces, the last is dropped if it is blank. -/
theorem tidy_iff_of_cut_concat {directory first last : List UInt8} {rest : List (List UInt8)}
    (cuts : cut directory = first :: (rest ++ [last])) :
    Tidy (directory ++ [slash]) ↔ ¬ isBlank last = true := by
  have among : last ∈ cut directory := by
    rw [cuts]
    simp
  have whole : slash ∉ last := slash_not_mem_of_mem_cut among
  have ends : directory.getLast? = some slash ↔ last = [] := by
    rw [← glue_cut directory, cuts]
    exact getLast?_glue_eq_slash_iff whole
  have piece : (cut directory).getLast? = some last := by
    rw [cuts, ← List.cons_append]
    exact List.getLast?_concat
  have several {alone : List UInt8} (whole : slash ∉ alone) : directory ≠ alone := by
    rintro rfl
    rw [cut_of_not_mem whole] at cuts
    simp at cuts
  constructor
  · rintro (none | root | ⟨directory', same, -, closed, dot⟩)
    · simp at none
    · exact absurd (List.append_cancel_right root) (several List.not_mem_nil)
    · obtain rfl := List.append_cancel_right same
      have solid : last ≠ [] := fun none => closed (ends.2 none)
      have other : last ≠ dotPiece := by
        rintro rfl
        exact dot.elim (fun no => no piece) (several whole)
      simp [isBlank, solid, other]
  · intro solid
    refine .inr (.inr ⟨directory, rfl, several List.not_mem_nil, ?_, .inl ?_⟩)
    · intro closed
      rw [ends.1 closed] at solid
      exact solid rfl
    · intro dot
      rw [piece] at dot
      rw [Option.some.inj dot] at solid
      exact solid rfl

/-- What is written is tidy where climbing drops no piece of it. -/
theorem tidy_iff {directory first : List UInt8} {rest : List (List UInt8)}
    (cuts : cut directory = first :: rest) :
    Tidy (directory ++ [slash]) ↔ rest.rdropWhile isBlank = rest := by
  rcases rest.eq_nil_or_concat with rfl | ⟨before, last, rfl⟩
  · have one : directory = first := by
      rw [← glue_cut directory, cuts]
      simp [glue, List.intercalate]
    have among : first ∈ cut directory := by
      rw [cuts]
      exact List.mem_singleton_self first
    have whole : slash ∉ directory := one ▸ slash_not_mem_of_mem_cut among
    exact iff_of_true (tidy_of_not_mem whole) rfl
  · rw [List.concat_eq_append] at cuts ⊢
    rw [tidy_iff_of_cut_concat cuts, List.rdropWhile_eq_self_iff]
    simp

/-! ### A name joined to what climbing leaves -/

section Join

variable {n : Path} (relative : n.isAbsolute = false)

include relative

/-- A name joined to a directory that does not end in a separator adds its pieces. -/
theorem pieces_join_of_closed {d : Path} (solid : d.bytes ≠ [])
    (closed : d.bytes.getLast? ≠ some slash) : (d.join n).pieces = d.pieces ++ n.pieces := by
  rw [join, if_neg (by simp [relative]), if_neg (not_or.2 ⟨solid, closed⟩), pieces, cut_append]
  rfl

/-- Joined to what is left when steps are dropped, a name comes right behind the pieces that are
left. -/
theorem pieces_join_trunk {first : List UInt8} {before : List (List UInt8)}
    (whole : ∀ piece ∈ first :: before, slash ∉ piece) :
    ((trunk first before).join n).pieces
      = first :: ((before.dropWhile isBlank).reverse ++ n.pieces) := by
  rcases left : before.dropWhile isBlank with - | ⟨last, more⟩
  · have alone : trunk first before = if first = [] then ⟨[slash]⟩ else ⟨first⟩ := by
      rw [trunk, left]
      rfl
    by_cases root : first = []
    · -- the root keeps its separator, and the name is put right behind it
      rw [alone, if_pos root, join, if_neg (by simp [relative]), if_pos (.inr rfl), root]
      rfl
    · have closed : first.getLast? ≠ some slash :=
        fun ends => whole first List.mem_cons_self (List.mem_of_getLast? ends)
      rw [alone, if_neg root, pieces_join_of_closed relative root closed, pieces,
        cut_of_not_mem (whole first List.mem_cons_self)]
      rfl
  · have solid : ¬ isBlank last = true := by
      have head := List.head?_dropWhile_not isBlank before
      rw [left] at head
      simpa using head
    have kept : ∀ piece ∈ first :: (more.reverse ++ [last]), slash ∉ piece := by
      intro piece mem
      rcases List.mem_cons.1 mem with rfl | mem
      · exact whole piece List.mem_cons_self
      · rw [← List.reverse_cons, List.mem_reverse, ← left] at mem
        exact whole piece (List.mem_cons_of_mem _ ((List.dropWhile_sublist isBlank).mem mem))
    have shape : trunk first before = ⟨glue (first :: (more.reverse ++ [last]))⟩ := by
      rw [trunk, left, List.reverse_cons]
      rcases turned : more.reverse ++ [last] with - | ⟨next, rest⟩
      · simp at turned
      · rfl
    have some : (⟨glue (first :: (more.reverse ++ [last]))⟩ : Path).bytes ≠ [] := by
      simp [glue_concat]
    have closed : (⟨glue (first :: (more.reverse ++ [last]))⟩ : Path).bytes.getLast?
        ≠ Option.some slash := by
      rw [Ne, getLast?_glue_eq_slash_iff (kept last (by simp))]
      rintro rfl
      exact solid rfl
    rw [shape, pieces_join_of_closed relative some closed, pieces, cut_glue kept, List.reverse_cons]
    rfl

end Join

/-! ### The two spellings -/

section Beside

variable {directory first : List UInt8} {rest : List (List UInt8)}
variable (cuts : cut directory = first :: rest)

include cuts

/-- The nearest directory of a file is what is left of the directory that is written. -/
theorem parent_beside {file : List UInt8} (whole : slash ∉ file) (solid : ¬ isBlank file = true) :
    (⟨directory ++ slash :: file⟩ : Path).parent = some (trunk first rest.reverse) := by
  rw [parent, above, pieces, cut_append, cuts, cut_of_not_mem whole]
  show (climb first (rest ++ [file]).reverse).head? = _
  rw [List.reverse_append, List.reverse_singleton, List.singleton_append, climb, if_neg solid]
  rfl

variable {n : Path} (relative : n.isAbsolute = false)

include relative

theorem pieces_nearest : ((trunk first rest.reverse).join n).pieces
    = first :: (rest.rdropWhile isBlank ++ n.pieces) := by
  apply pieces_join_trunk relative
  intro piece mem
  have among : piece ∈ cut directory := by
    rw [cuts]
    simpa using mem
  exact slash_not_mem_of_mem_cut among

omit relative in
theorem pieces_beside :
    (⟨directory ++ slash :: n.bytes⟩ : Path).pieces = first :: (rest ++ n.pieces) := by
  rw [pieces, cut_append, cuts]
  rfl

/-- By components, the nearest place is the name beside the file. -/
theorem same_nearest :
    ((trunk first rest.reverse).join n).Same ⟨directory ++ slash :: n.bytes⟩ := by
  have behind (some : List (List UInt8)) : some ++ n.pieces ≠ [] :=
    List.append_ne_nil_of_right_ne_nil _ (cut_ne_nil n.bytes)
  have dropped : steps (rest.rdropWhile isBlank) = steps rest := by
    rw [List.rdropWhile, steps_dropWhile, List.reverse_reverse]
  rw [Same, components_of_pieces (pieces_nearest cuts relative) (.inr (behind _)),
    components_of_pieces (pieces_beside cuts) (.inr (behind _)), steps_append, steps_append,
    dropped]

/-- Byte for byte, the nearest place is the name beside the file where no piece is dropped. -/
theorem nearest_eq_iff : (trunk first rest.reverse).join n = ⟨directory ++ slash :: n.bytes⟩ ↔
    rest.rdropWhile isBlank = rest := by
  rw [← pieces_inj, pieces_nearest cuts relative, pieces_beside cuts, List.cons.injEq,
    List.append_cancel_right_eq]
  simp

end Beside

/-- **The nearest place for a file is the name written beside the file**, by components always, and
byte for byte if and only if what is written in front of them is tidy. -/
theorem candidates_beside {front : List UInt8}
    (ends : front = [] ∨ ∃ directory, front = directory ++ [slash]) {file name : String}
    (isFile : IsName file) (isName : IsName name) :
    ∃ nearest farther,
      (⟨front ++ (ofText file).bytes⟩ : Path).candidates name = nearest :: farther ∧
      nearest.Same ⟨front ++ (ofText name).bytes⟩ ∧
      (nearest = ⟨front ++ (ofText name).bytes⟩ ↔ Tidy front) := by
  rw [candidates_eq]
  rcases ends with rfl | ⟨directory, rfl⟩
  · -- a file without a directory has the empty path above it
    have up : (⟨[] ++ (ofText file).bytes⟩ : Path).parent = some ⟨[]⟩ := by
      rw [List.nil_append, parent, above, pieces, cut_of_not_mem isFile.slash_not_mem]
      show (climb (ofText file).bytes []).head? = _
      rw [climb, if_neg isFile.bytes_ne_nil]
      rfl
    have place : (⟨[]⟩ : Path).join (ofText name) = ⟨[] ++ (ofText name).bytes⟩ := by
      rw [join, if_neg (by simp [isName.relative]), if_pos (.inl rfl)]
    rw [up]
    exact ⟨_, _, rfl, congrArg components place, iff_of_true place (.inl rfl)⟩
  · obtain ⟨first, rest, cuts⟩ := List.exists_cons_of_ne_nil (cut_ne_nil directory)
    have behind (text : List UInt8) : directory ++ [slash] ++ text = directory ++ slash :: text :=
      List.append_assoc _ _ _
    rw [behind, behind, parent_beside cuts isFile.slash_not_mem isFile.not_isBlank]
    refine ⟨_, _, rfl, same_nearest cuts isName.relative, ?_⟩
    rw [nearest_eq_iff cuts isName.relative, tidy_iff cuts]

end ScopedImports.Path
