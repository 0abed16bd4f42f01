import Mathlib.Data.List.Forall2
import ScopedImports.Proofs.Path.Ancestry

/-!
Climbing and joining, read by components.

Both are defined on bytes: climbing cuts bytes off and keeps the others as they are written, joining
puts bytes together.  By components they do what their names say,

    components (parent p)  =  components p without the last
    components (join d n)  =  components d, and then the steps of n        (n relative, d not empty)

and so neither can tell two spellings of one path apart.  The directories above two spellings
correspond one to one, however the bytes differ (`same_ancestors`, `same_candidates`).
-/

namespace ScopedImports.Path

theorem Same.components_eq {p q : Path} (h : p.Same q) : p.components = q.components := h

/-! ### The first piece and the steps behind it -/

/-- The first component of a path that is not empty: a first piece without bytes is the root. -/
def outset (first : List UInt8) : Component := if first = [] then .root else component first

/-- The components that later pieces stand for. -/
def steps (pieces : List (List UInt8)) : List Component :=
  (pieces.filter fun piece => !isBlank piece).map component

theorem steps_append (pieces more : List (List UInt8)) :
    steps (pieces ++ more) = steps pieces ++ steps more := by
  rw [steps, List.filter_append, List.map_append, steps, steps]

theorem steps_of_blank {piece : List UInt8} (blank : isBlank piece = true) :
    steps [piece] = [] := by
  rw [steps, List.filter_cons_of_neg (by simp [blank])]
  rfl

theorem steps_of_not_blank {piece : List UInt8} (solid : ¬ isBlank piece = true) :
    steps [piece] = [component piece] := by
  rw [steps, List.filter_cons_of_pos (by simp [solid])]
  rfl

/-- Blank pieces at the end are no steps. -/
theorem steps_dropWhile (before : List (List UInt8)) :
    steps (before.dropWhile isBlank).reverse = steps before.reverse := by
  induction before with
  | nil => rfl
  | cons piece before ih =>
    by_cases blank : isBlank piece = true
    · rw [List.dropWhile_cons_of_pos blank, ih, List.reverse_cons, steps_append,
        steps_of_blank blank, List.append_nil]
    · rw [List.dropWhile_cons_of_neg blank]

theorem components_of_pieces {p : Path} {first : List UInt8} {rest : List (List UInt8)}
    (cuts : p.pieces = first :: rest) (some : first ≠ [] ∨ rest ≠ []) :
    p.components = outset first :: steps rest := by
  rw [components, cuts]
  show leading first rest ++ steps rest = _
  by_cases root : first = []
  · have behind : rest ≠ [] := some.resolve_left fun other => other root
    rw [leading, if_pos root, if_neg behind, outset, if_pos root]
    rfl
  · rw [leading, if_neg root, outset, if_neg root]
    rfl

/-- A path that has bytes falls into a first piece that has bytes, or into several pieces. -/
theorem exists_pieces {p : Path} (some : p.bytes ≠ []) :
    ∃ first rest, p.pieces = first :: rest ∧ (first ≠ [] ∨ rest ≠ []) := by
  obtain ⟨first, rest, cuts⟩ := List.exists_cons_of_ne_nil (cut_ne_nil p.bytes)
  refine ⟨first, rest, cuts, ?_⟩
  by_contra neither
  obtain ⟨rfl, rfl⟩ : first = [] ∧ rest = [] := by simpa using neither
  have bytes := glue_cut p.bytes
  rw [cuts] at bytes
  exact some bytes.symm

/-- Only the empty path has no components. -/
theorem components_eq_nil_iff {p : Path} : p.components = [] ↔ p.bytes = [] := by
  constructor
  · intro none
    by_contra some
    obtain ⟨first, rest, cuts, behind⟩ := exists_pieces some
    rw [components_of_pieces cuts behind] at none
    cases none
  · intro empty
    obtain ⟨bytes⟩ := p
    subst empty
    rfl

/-! ### Climbing -/

/-- No piece is the root. -/
theorem component_ne_root (piece : List UInt8) : component piece ≠ .root := by
  rw [component]
  split
  · simp
  · split <;> simp

theorem outset_eq_root_iff {first : List UInt8} : outset first = .root ↔ first = [] := by
  rw [outset]
  by_cases first = [] <;> simp [*, component_ne_root]

theorem components_trunk {first : List UInt8} {before : List (List UInt8)}
    (whole : ∀ piece ∈ first :: before, slash ∉ piece) :
    (trunk first before).components = outset first :: steps before.reverse := by
  rw [← steps_dropWhile, trunk]
  rcases left : (before.dropWhile isBlank).reverse with - | ⟨next, rest⟩
  · -- nothing but the first piece is left
    by_cases root : first = []
    · subst root
      rfl
    · show (if first = [] then ⟨[slash]⟩ else ⟨first⟩ : Path).components = _
      rw [if_neg root]
      exact components_of_pieces (cut_of_not_mem (whole first List.mem_cons_self)) (.inl root)
  · refine components_of_pieces (cut_glue ?_) (.inr (List.cons_ne_nil next rest))
    intro piece mem
    rcases List.mem_cons.1 mem with rfl | mem
    · exact whole piece List.mem_cons_self
    · rw [← left, List.mem_reverse] at mem
      exact whole piece (List.mem_cons_of_mem _ ((List.dropWhile_sublist isBlank).mem mem))

/-- The nearest path above has all the components but the last. -/
theorem components_of_head?_climb {first : List UInt8} {before : List (List UInt8)} {d : Path}
    (whole : ∀ piece ∈ first :: before, slash ∉ piece)
    (nearest : (climb first before).head? = some d) :
    d.components = (outset first :: steps before.reverse).dropLast := by
  induction before with
  | nil =>
    rw [climb] at nearest
    by_cases root : first = []
    · rw [if_pos root] at nearest
      cases nearest
    · rw [if_neg root] at nearest
      cases nearest
      rfl
  | cons piece before ih =>
    have fewer : ∀ other ∈ first :: before, slash ∉ other := by
      intro other mem
      rcases List.mem_cons.1 mem with rfl | mem
      · exact whole other List.mem_cons_self
      · exact whole other (List.mem_cons_of_mem _ (List.mem_cons_of_mem _ mem))
    rw [climb] at nearest
    rw [List.reverse_cons, steps_append]
    by_cases blank : isBlank piece = true
    · rw [if_pos blank] at nearest
      rw [steps_of_blank blank, List.append_nil]
      exact ih fewer nearest
    · rw [if_neg blank] at nearest
      cases nearest
      rw [steps_of_not_blank blank, components_trunk fewer, ← List.cons_append,
        List.dropLast_concat]

/-- There is nothing above a root. -/
theorem climb_eq_nil_iff {first : List UInt8} {before : List (List UInt8)} :
    climb first before = [] ↔ first = [] ∧ steps before.reverse = [] := by
  induction before with
  | nil =>
    rw [climb]
    by_cases root : first = []
    · simp [root, steps]
    · simp [root]
  | cons piece before ih =>
    rw [climb, List.reverse_cons, steps_append]
    by_cases blank : isBlank piece = true
    · rw [if_pos blank, ih, steps_of_blank blank, List.append_nil]
    · rw [if_neg blank, steps_of_not_blank blank]
      simp

/-- **The parent has all the components but the last.** -/
theorem components_parent {p d : Path} (h : p.parent = some d) :
    d.components = p.components.dropLast := by
  by_cases empty : p.bytes = []
  · obtain ⟨bytes⟩ := p
    subst empty
    cases h
  · obtain ⟨first, rest, cuts, behind⟩ := exists_pieces empty
    rw [parent, above, cuts] at h
    have nearest := components_of_head?_climb (slash_not_mem_of_pieces cuts) h
    rw [List.reverse_reverse] at nearest
    rw [nearest, components_of_pieces cuts behind]

/-- The empty path and the root have no parent, and every other path has one. -/
theorem parent_eq_none_iff {p : Path} :
    p.parent = none ↔ p.components = [] ∨ p.components = [.root] := by
  by_cases empty : p.bytes = []
  · obtain ⟨bytes⟩ := p
    subst empty
    decide
  · obtain ⟨first, rest, cuts, behind⟩ := exists_pieces empty
    rw [parent, above, cuts, List.head?_eq_none_iff, climb_eq_nil_iff, List.reverse_reverse,
      components_of_pieces cuts behind]
    simp [outset_eq_root_iff]

/-- Two spellings have the same directories above them, each again in two spellings. -/
theorem same_above {p q : Path} (h : p.Same q) : List.Forall₂ Same p.above q.above := by
  have bare : p.parent = none ↔ q.parent = none := by
    rw [parent_eq_none_iff, parent_eq_none_iff, h.components_eq]
  rcases up : p.parent with - | d
  · rw [above_eq p, above_eq q, up, bare.1 up]
    exact .nil
  · obtain ⟨e, up'⟩ := Option.ne_none_iff_exists'.1 (mt bare.2 (by simp [up]))
    have nearest : d.Same e := by
      rw [Same, components_parent up, components_parent up', h.components_eq]
    rw [above_eq p, above_eq q, up, up']
    exact .cons nearest (same_above nearest)
termination_by p.above.length
decreasing_by
  rw [above_eq p, up]
  exact Nat.lt_succ_self _

theorem same_ancestors {p q : Path} (h : p.Same q) : List.Forall₂ Same p.ancestors q.ancestors :=
  .cons h (same_above h)

/-! ### Joining -/

/-- The pieces of the name come after those of the directory, where a separator at the end of the
directory has no piece behind it. -/
theorem pieces_join {d n : Path} (some : d.bytes ≠ []) (relative : ¬ n.isAbsolute = true) :
    ∃ first rest, (d.join n).pieces = first :: (rest ++ n.pieces) ∧
      (d.pieces = first :: rest ∧ (first ≠ [] ∨ rest ≠ []) ∨
        d.pieces = first :: (rest ++ [[]])) := by
  rw [join, if_neg relative]
  by_cases separated : d.bytes.getLast? = Option.some slash
  · obtain ⟨before, ends⟩ := List.getLast?_eq_some_iff.1 separated
    obtain ⟨first, rest, cuts⟩ := List.exists_cons_of_ne_nil (cut_ne_nil before)
    refine ⟨first, rest, ?_, .inr ?_⟩
    · rw [if_pos (.inr separated), pieces, ends, List.append_assoc, List.singleton_append,
        cut_append, cuts]
      rfl
    · rw [pieces, ends, cut_append, cuts]
      rfl
  · obtain ⟨first, rest, cuts, behind⟩ := exists_pieces some
    refine ⟨first, rest, ?_, .inl ⟨cuts, behind⟩⟩
    rw [if_neg (not_or.2 ⟨some, separated⟩), pieces, cut_append, ← pieces, cuts]
    rfl

/-- **Joining a relative name adds its steps**, unless the directory is the empty path. -/
theorem components_join {d n : Path} (some : d.bytes ≠ []) (relative : ¬ n.isAbsolute = true) :
    (d.join n).components = d.components ++ steps n.pieces := by
  obtain ⟨first, rest, joined, directory⟩ := pieces_join some relative
  have behind : rest ++ n.pieces ≠ [] := List.append_ne_nil_of_right_ne_nil _ (cut_ne_nil n.bytes)
  rw [components_of_pieces joined (.inr behind), steps_append]
  rcases directory with ⟨cuts, solid⟩ | cuts
  · rw [components_of_pieces cuts solid, List.cons_append]
  · rw [components_of_pieces cuts (.inr (List.append_ne_nil_of_right_ne_nil _ (by simp))),
      steps_append, steps_of_blank rfl, List.append_nil, List.cons_append]

/-- A name joined to two spellings of a directory gives two spellings of one path. -/
theorem same_join {d e : Path} (h : d.Same e) (n : Path) : (d.join n).Same (e.join n) := by
  by_cases absolute : n.isAbsolute = true
  · rw [join, join, if_pos absolute, if_pos absolute, Same]
  have empty : d.bytes = [] ↔ e.bytes = [] := by
    rw [← components_eq_nil_iff, ← components_eq_nil_iff, h.components_eq]
  by_cases none : d.bytes = []
  · -- there is only one spelling of the empty path
    have one : d = e := by
      obtain ⟨bytes⟩ := d
      obtain ⟨bytes'⟩ := e
      rw [show bytes = [] from none, show bytes' = [] from empty.1 none]
    rw [one, Same]
  · rw [Same, components_join none absolute, components_join (mt empty.2 none) absolute,
      h.components_eq]

/-! ### Candidates -/

/-- For two files of one directory the places are the same, each in two spellings. -/
theorem same_candidates {file file' above above' : Path} (parent : file.parent = some above)
    (parent' : file'.parent = some above') (h : above.Same above') (name : String) :
    List.Forall₂ Same (file.candidates name) (file'.candidates name) := by
  rw [candidates_eq, candidates_eq, parent, parent', List.forall₂_map_left_iff,
    List.forall₂_map_right_iff]
  exact (same_ancestors h).imp fun _ _ same => same_join same _

/-- Where the directory is spelt alike, so are the places. -/
theorem candidates_congr {file file' : Path} (h : file.parent = file'.parent) (name : String) :
    file.candidates name = file'.candidates name := by
  rw [candidates_eq, candidates_eq, h]

end ScopedImports.Path
