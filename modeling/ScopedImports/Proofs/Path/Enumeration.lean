import Mathlib.Data.List.Basic
import ScopedImports.Proofs.Path.Components

/-!
The places above a file, one by one.

A path climbs one rung at a time.  Its rungs are its components but for the root, and the directory
`k + 1` rungs up has all of them but the last `k + 1`:

    file  /a/./b//c/x      rungs  a  b  c  x
    k     0                1               2            3
    d     /a/./b//c        /a/./b          /a           /
    rungs a  b  c          a  b            a

Every one of these directories is a start of the file's own bytes (`parent_isPrefix`), so what is
written in front of it is kept.  There are as many places as there are rungs, each of them exactly
once (`candidates_enumerate`).
-/

namespace ScopedImports.Path

/-! ### Rungs -/

/-- The root, if the path starts there. -/
def origin (p : Path) : List Component := if p.isAbsolute then [.root] else []

/-- The components of a path, not counting the root. -/
def rungs (p : Path) : List Component := p.components.filter fun step => step ≠ .root

theorem root_not_mem_steps (pieces : List (List UInt8)) : .root ∉ steps pieces := by
  intro mem
  obtain ⟨piece, -, root⟩ := List.mem_map.1 mem
  exact component_ne_root piece root

/-- The first piece has no bytes if the first byte is a separator. -/
theorem head_cut {b : UInt8} {bytes first : List UInt8} {rest : List (List UInt8)}
    (cuts : cut (b :: bytes) = first :: rest) : first = [] ↔ b = slash := by
  obtain ⟨piece, more, h⟩ := List.exists_cons_of_ne_nil (cut_ne_nil bytes)
  by_cases separator : b = slash
  · rw [cut, if_pos separator] at cuts
    obtain ⟨rfl, -⟩ := List.cons.inj cuts
    simp [separator]
  · rw [cut, if_neg separator, h] at cuts
    obtain ⟨rfl, -⟩ := List.cons.inj cuts
    simp [separator]

/-- A path that starts at the root has the root for its first component. -/
theorem isAbsolute_iff {p : Path} : p.isAbsolute = true ↔ p.components.head? = some .root := by
  obtain ⟨bytes⟩ := p
  rcases bytes with - | ⟨b, bytes⟩
  · decide
  · obtain ⟨first, rest, cuts, behind⟩ := exists_pieces (p := ⟨b :: bytes⟩) (by simp)
    rw [components_of_pieces cuts behind, List.head?_cons, Option.some.injEq, outset_eq_root_iff,
      head_cut cuts, isAbsolute]
    simp

/-- Where the root does not occur, nothing is left out. -/
theorem filter_ne_root {some : List Component} (solid : .root ∉ some) :
    some.filter (fun step => step ≠ .root) = some := by
  rw [List.filter_eq_self]
  intro step mem
  have other : step ≠ .root := fun root => solid (root ▸ mem)
  simpa using other

theorem components_eq_rungs (p : Path) : p.components = p.origin ++ p.rungs := by
  by_cases empty : p.bytes = []
  · obtain ⟨bytes⟩ := p
    subst empty
    rfl
  · obtain ⟨first, rest, cuts, behind⟩ := exists_pieces empty
    have shape := components_of_pieces cuts behind
    -- the root can only come first
    have others := filter_ne_root (root_not_mem_steps rest)
    have start : p.isAbsolute = true ↔ outset first = .root := by
      rw [isAbsolute_iff, shape, List.head?_cons, Option.some.injEq]
    rw [origin, rungs, shape]
    by_cases root : outset first = .root
    · rw [if_pos (start.2 root), List.filter_cons_of_neg (by simp [root]), others, root]
      rfl
    · rw [if_neg (mt start.1 root), List.filter_cons_of_pos (by simpa using root), others]
      rfl

theorem root_not_mem_rungs (p : Path) : .root ∉ p.rungs := by
  simp [rungs]

/-- The root and the rungs can be told from the components. -/
theorem eq_of_components {p q : Path} {some : List Component} (solid : .root ∉ some)
    (h : q.components = p.origin ++ some) : q.origin = p.origin ∧ q.rungs = some := by
  have start : q.isAbsolute = true ↔ p.isAbsolute = true := by
    rw [isAbsolute_iff, h, origin]
    by_cases absolute : p.isAbsolute = true
    · simp [absolute]
    · rcases some with - | ⟨first, rest⟩
      · simp [absolute]
      · have other : first ≠ .root := fun root => solid (root ▸ List.mem_cons_self)
        simp [absolute, other]
  constructor
  · simp only [origin, start]
  · rw [rungs, h, List.filter_append, filter_ne_root solid, origin]
    split
    · rfl
    · rfl

/-! ### Starts of a path -/

/-- Putting together more pieces only adds bytes at the end. -/
theorem glue_isPrefix (first : List UInt8) (rest more : List (List UInt8)) :
    glue (first :: rest) <+: glue (first :: (rest ++ more)) := by
  induction rest generalizing first with
  | nil =>
    rcases more with - | ⟨next, more⟩
    · exact List.prefix_refl _
    · rw [glue_singleton, List.nil_append, glue_cons (List.cons_ne_nil next more)]
      exact List.prefix_append _ _
  | cons next rest ih =>
    rw [List.cons_append, glue_cons (List.cons_ne_nil _ _), glue_cons (List.cons_ne_nil _ _),
      List.prefix_append_right_inj, List.cons_prefix_cons]
    exact ⟨rfl, ih next⟩

/-- What is left when pieces are dropped is a start of the bytes that they are dropped from. -/
theorem trunk_isPrefix (first : List UInt8) (before : List (List UInt8)) (piece : List UInt8) :
    (trunk first before).bytes <+: glue (first :: (before.reverse ++ [piece])) := by
  have split : before.reverse = (before.dropWhile isBlank).reverse
      ++ (before.takeWhile isBlank).reverse := by
    rw [← List.reverse_append, List.takeWhile_append_dropWhile]
  rw [trunk, split]
  rcases (before.dropWhile isBlank).reverse with - | ⟨next, rest⟩
  · by_cases root : first = []
    · -- a root alone keeps the separator behind it
      subst root
      rw [glue_cons (by simp)]
      exact List.prefix_append [slash] _
    · show (if first = [] then ⟨[slash]⟩ else ⟨first⟩ : Path).bytes <+: _
      rw [if_neg root, glue_cons (by simp)]
      exact List.prefix_append _ _
  · show glue (first :: next :: rest) <+: _
    rw [List.append_assoc]
    exact glue_isPrefix first (next :: rest) _

theorem isPrefix_of_head?_climb {first : List UInt8} {before : List (List UInt8)} {d : Path}
    (nearest : (climb first before).head? = some d) :
    d.bytes <+: glue (first :: before.reverse) := by
  induction before with
  | nil =>
    rw [climb] at nearest
    split at nearest
    · cases nearest
    · cases nearest
      exact List.nil_prefix
  | cons piece before ih =>
    rw [climb] at nearest
    rw [List.reverse_cons]
    split at nearest
    · exact (ih nearest).trans (glue_isPrefix first before.reverse [piece])
    · cases nearest
      exact trunk_isPrefix first before piece

/-- **The parent is a start of the path**, byte for byte. -/
theorem parent_isPrefix {p d : Path} (h : p.parent = some d) : d.bytes <+: p.bytes := by
  obtain ⟨first, rest, cuts⟩ := List.exists_cons_of_ne_nil (cut_ne_nil p.bytes)
  have start : (climb first rest.reverse).head? = some d := by
    have shape : p.pieces = first :: rest := cuts
    rw [parent, above, shape] at h
    exact h
  have bytes := isPrefix_of_head?_climb start
  rw [List.reverse_reverse, ← cuts, glue_cut] at bytes
  exact bytes

/-! ### One rung up -/

/-- A path has no rungs and nothing above it, or its parent is one rung up. -/
theorem parent_cases (p : Path) :
    p.parent = none ∧ p.rungs = [] ∨
      ∃ d last, p.parent = some d ∧ d.bytes <+: p.bytes ∧ d.origin = p.origin ∧
        p.rungs = d.rungs ++ [last] := by
  have shape := components_eq_rungs p
  rcases up : p.parent with - | d
  · refine .inl ⟨rfl, ?_⟩
    rcases parent_eq_none_iff.1 up with none | root
    · simp [rungs, none]
    · simp [rungs, root]
  · have some : p.rungs ≠ [] := by
      intro none
      have bare : p.components = [] ∨ p.components = [.root] := by
        rw [shape, none, origin]
        split
        · exact .inr rfl
        · exact .inl rfl
      rw [parent_eq_none_iff.2 bare] at up
      cases up
    have fewer : d.components = p.origin ++ p.rungs.dropLast := by
      rw [components_parent up, shape, List.dropLast_append_of_ne_nil some]
    have solid : .root ∉ p.rungs.dropLast :=
      fun mem => root_not_mem_rungs p ((List.dropLast_sublist _).mem mem)
    obtain ⟨same, left⟩ := eq_of_components solid fewer
    refine .inr ⟨d, p.rungs.getLast some, rfl, parent_isPrefix up, same, ?_⟩
    rw [left, List.dropLast_append_getLast]

/-- There are as many directories above a path as it has rungs. -/
theorem length_above (p : Path) : p.above.length = p.rungs.length := by
  induction count : p.rungs.length generalizing p with
  | zero =>
    rcases parent_cases p with ⟨up, -⟩ | ⟨d, last, -, -, -, more⟩
    · rw [above_eq, up]
      rfl
    · rw [more] at count
      simp at count
  | succ n ih =>
    rcases parent_cases p with ⟨-, none⟩ | ⟨d, last, up, -, -, more⟩
    · rw [none] at count
      cases count
    · have fewer : d.rungs.length = n := by simpa [more] using count
      rw [above_eq, up]
      show d.above.length + 1 = n + 1
      rw [ih d fewer]

/-- **The directory so many rungs up** is a start of the path's bytes and has the other rungs. -/
theorem getElem?_above {p : Path} {k : Nat} (lt : k < p.rungs.length) :
    ∃ d, p.above[k]? = some d ∧ d.bytes <+: p.bytes ∧
      d.components = p.origin ++ p.rungs.take (p.rungs.length - 1 - k) := by
  induction k generalizing p with
  | zero =>
    rcases parent_cases p with ⟨-, none⟩ | ⟨d, last, up, start, same, more⟩
    · simp [none] at lt
    · refine ⟨d, ?_, start, ?_⟩
      · rw [above_eq, up]
        rfl
      · rw [components_eq_rungs d, same, more]
        simp
  | succ k ih =>
    rcases parent_cases p with ⟨-, none⟩ | ⟨d, last, up, start, same, more⟩
    · simp [none] at lt
    · have fewer : k < d.rungs.length := by
        rw [more, List.length_append] at lt
        exact Nat.lt_of_succ_lt_succ lt
      obtain ⟨e, there, before, components⟩ := ih fewer
      refine ⟨e, ?_, before.trans start, ?_⟩
      · rw [above_eq, up]
        exact there
      · have left : p.rungs.length - 1 - (k + 1) = d.rungs.length - 1 - k := by
          rw [more, List.length_append, List.length_singleton]
          omega
        rw [components, same, left, more, List.take_append_of_le_length (by omega)]

/-! ### The places -/

/-- What the places are where a configuration called `name` may govern `file`. -/
structure Enumerates (file : Path) (name : String) (places : List Path) : Prop where
  /-- There is one for each rung of the file. -/
  length : places.length = file.rungs.length
  /-- The place number `k` is the name, joined to a start of the file's bytes that has the same
  origin and all rungs but the last `k + 1`. -/
  place : ∀ k < file.rungs.length, ∃ d : Path, places[k]? = some (d.join (ofText name)) ∧
    d.bytes <+: file.bytes ∧
    d.components = file.origin ++ file.rungs.take (file.rungs.length - 1 - k)
  /-- An absolute file and a relative name have absolute places. -/
  absolute : file.isAbsolute = true → (ofText name).isAbsolute = false →
    ∀ place ∈ places, place.isAbsolute = true
  /-- From place to place there is one component less. -/
  descent : file.isAbsolute = true → (ofText name).isAbsolute = false →
    ∀ k nearer farther, places[k]? = some nearer → places[k + 1]? = some farther →
      nearer.components.length = farther.components.length + 1
  /-- No two places are spellings of one path. -/
  distinct : file.isAbsolute = true → (ofText name).isAbsolute = false →
    places.Pairwise fun nearer farther => ¬ nearer.Same farther
  /-- An absolute name stands for itself. -/
  constant : (ofText name).isAbsolute = true → ∀ place ∈ places, place = ofText name

/-- The place that is so many rungs up. -/
theorem getElem?_candidates {file : Path} {k : Nat} (lt : k < file.rungs.length) (name : String) :
    ∃ d : Path, (file.candidates name)[k]? = some (d.join (ofText name)) ∧
      d.bytes <+: file.bytes ∧
      d.components = file.origin ++ file.rungs.take (file.rungs.length - 1 - k) := by
  obtain ⟨d, there, start, components⟩ := getElem?_above lt
  refine ⟨d, ?_, start, components⟩
  rw [candidates, List.getElem?_map, there, Option.map_some]

theorem length_candidates (file : Path) (name : String) :
    (file.candidates name).length = file.rungs.length := by
  rw [candidates, List.length_map, length_above]

theorem lt_of_getElem?_candidates {file place : Path} {name : String} {k : Nat}
    (there : (file.candidates name)[k]? = some place) : k < file.rungs.length := by
  rw [← length_candidates file name]
  exact (List.getElem?_eq_some_iff.1 there).1

section Absolute

variable {file : Path} {name : String} (absolute : file.isAbsolute = true)
variable (relative : (ofText name).isAbsolute = false)

include absolute relative

/-- A place above an absolute file starts at the root, and its components can be counted. -/
theorem components_candidate {k : Nat} {place : Path}
    (there : (file.candidates name)[k]? = some place) :
    place.components = .root :: (file.rungs.take (file.rungs.length - 1 - k)
      ++ steps (ofText name).pieces) := by
  have lt := lt_of_getElem?_candidates there
  obtain ⟨d, here, -, components⟩ := getElem?_candidates lt name
  rw [here] at there
  obtain rfl := Option.some.inj there
  rw [origin, if_pos absolute] at components
  have some : d.bytes ≠ [] := by
    rw [Ne, ← components_eq_nil_iff, components]
    simp
  rw [components_join some (by simp [relative]), components]
  rfl

theorem length_components_candidate {k : Nat} {place : Path}
    (there : (file.candidates name)[k]? = some place) :
    place.components.length + k = file.rungs.length + (steps (ofText name).pieces).length := by
  have lt := lt_of_getElem?_candidates there
  rw [components_candidate absolute relative there]
  simp only [List.length_cons, List.length_append, List.length_take]
  omega

theorem pairwise_candidates :
    (file.candidates name).Pairwise fun nearer farther => ¬ nearer.Same farther := by
  rw [List.pairwise_iff_getElem]
  intro i j i_lt j_lt before same
  have nearer := length_components_candidate absolute relative (List.getElem?_eq_getElem i_lt)
  have farther := length_components_candidate absolute relative (List.getElem?_eq_getElem j_lt)
  rw [same.components_eq] at nearer
  omega

end Absolute

/-- **The places above a file are enumerated**, one for each rung, nearest first. -/
theorem candidates_enumerate (file : Path) (name : String) :
    Enumerates file name (file.candidates name) where
  length := length_candidates file name
  place _ lt := getElem?_candidates lt name
  absolute := by
    intro absolute relative place mem
    obtain ⟨k, there⟩ := List.mem_iff_getElem?.1 mem
    rw [isAbsolute_iff, components_candidate absolute relative there]
    rfl
  descent := by
    intro absolute relative k nearer farther here there
    have near := length_components_candidate absolute relative here
    have far := length_components_candidate absolute relative there
    omega
  distinct := pairwise_candidates
  constant := by
    intro absolute place mem
    obtain ⟨d, -, rfl⟩ := List.mem_map.1 mem
    rw [join, if_pos absolute]

/-- Separators and dots in front of a directory are kept, those behind it are not. -/
example : (ofText "/a/.//b/./x").candidates "c"
    = [ofText "/a/.//b/c", ofText "/a/c", ofText "/c"] := by decide +kernel

end ScopedImports.Path
