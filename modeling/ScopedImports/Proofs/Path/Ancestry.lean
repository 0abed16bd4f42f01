import ScopedImports.Path.Ancestors

/-!
The directories above a file are its parent and the directories above that.

`above` goes through the pieces of a path once.  Read step by step it is the chain of parents:

    above p  =  []                      where p has no parent
    above p  =  d :: above d            where d is the parent of p

For this, what is left of a path must fall into the very pieces that are left (`cut_glue`).
-/

namespace ScopedImports.Path

/-! ### Cutting what was glued -/

/-- Cutting goes through a separator. -/
theorem cut_append (bytes more : List UInt8) :
    cut (bytes ++ slash :: more) = cut bytes ++ cut more := by
  induction bytes with
  | nil => simp [cut]
  | cons b bytes ih =>
    obtain ⟨piece, pieces, cuts⟩ := List.exists_cons_of_ne_nil (cut_ne_nil bytes)
    rw [List.cons_append, cut, cut, ih]
    by_cases separator : b = slash
    · rw [if_pos separator, if_pos separator, List.cons_append]
    · rw [if_neg separator, if_neg separator, cuts]
      rfl

theorem cut_of_not_mem {piece : List UInt8} (whole : slash ∉ piece) : cut piece = [piece] := by
  induction piece with
  | nil => rfl
  | cons b piece ih =>
    have other : b ≠ slash := (List.ne_of_not_mem_cons whole).symm
    rw [cut, if_neg other, ih (List.not_mem_of_not_mem_cons whole)]

theorem glue_singleton (piece : List UInt8) : glue [piece] = piece := by
  simp [glue, List.intercalate]

/-- Pieces without separators are found again. -/
theorem cut_glue {first : List UInt8} {rest : List (List UInt8)}
    (whole : ∀ piece ∈ first :: rest, slash ∉ piece) :
    cut (glue (first :: rest)) = first :: rest := by
  induction rest generalizing first with
  | nil =>
    rw [glue_singleton]
    exact cut_of_not_mem (whole first List.mem_cons_self)
  | cons next rest ih =>
    rw [glue_cons (List.cons_ne_nil next rest),
      cut_append, cut_of_not_mem (whole first List.mem_cons_self), ih]
    · rfl
    exact fun piece mem => whole piece (List.mem_cons_of_mem _ mem)

/-! ### What is left when steps are dropped -/

/-- Blank pieces are no steps. -/
theorem climb_dropWhile (first : List UInt8) (before : List (List UInt8)) :
    climb first (before.dropWhile isBlank) = climb first before := by
  induction before with
  | nil => rfl
  | cons piece before ih =>
    by_cases blank : isBlank piece = true
    · rw [List.dropWhile_cons_of_pos blank, ih, climb, if_pos blank]
    · rw [List.dropWhile_cons_of_neg blank]

theorem above_glue {first : List UInt8} {rest : List (List UInt8)}
    (whole : ∀ piece ∈ first :: rest, slash ∉ piece) :
    (⟨glue (first :: rest)⟩ : Path).above = climb first rest.reverse := by
  rw [above, pieces, cut_glue whole]

/-- Above what is left are the paths that come next. -/
theorem above_trunk {first : List UInt8} {before : List (List UInt8)}
    (whole : ∀ piece ∈ first :: before, slash ∉ piece) :
    (trunk first before).above = climb first before := by
  rw [← climb_dropWhile, trunk]
  rcases left : before.dropWhile isBlank with - | ⟨last, more⟩
  · -- nothing but the first piece is left
    by_cases root : first = []
    · subst root
      rfl
    · show (if first = [] then ⟨[slash]⟩ else ⟨first⟩ : Path).above = climb first []
      rw [if_neg root, above, pieces, cut_of_not_mem (whole first List.mem_cons_self)]
      rfl
  · rcases turned : (last :: more).reverse with - | ⟨next, rest⟩
    · simp at turned
    · have back : (next :: rest).reverse = last :: more := by rw [← turned, List.reverse_reverse]
      have kept : ∀ piece ∈ next :: rest, piece ∈ before := by
        intro piece mem
        rw [← turned, List.mem_reverse, ← left] at mem
        exact (List.dropWhile_sublist isBlank).mem mem
      show (⟨glue (first :: next :: rest)⟩ : Path).above = _
      rw [above_glue, back]
      intro piece mem
      rcases List.mem_cons.1 mem with rfl | mem
      · exact whole piece List.mem_cons_self
      · exact whole piece (List.mem_cons_of_mem _ (kept piece mem))

/-- Every path of a chain has the rest of the chain above it. -/
theorem above_of_climb {first : List UInt8} {before : List (List UInt8)} {nearest : Path}
    {farther : List Path} (whole : ∀ piece ∈ first :: before, slash ∉ piece)
    (chain : climb first before = nearest :: farther) : nearest.above = farther := by
  induction before with
  | nil =>
    rw [climb] at chain
    by_cases root : first = []
    · rw [if_pos root] at chain
      cases chain
    · rw [if_neg root] at chain
      cases chain
      rfl
  | cons piece before ih =>
    have shorter : ∀ other ∈ first :: before, slash ∉ other := by
      intro other mem
      rcases List.mem_cons.1 mem with rfl | mem
      · exact whole other List.mem_cons_self
      · exact whole other (List.mem_cons_of_mem _ (List.mem_cons_of_mem _ mem))
    rw [climb] at chain
    by_cases blank : isBlank piece = true
    · rw [if_pos blank] at chain
      exact ih shorter chain
    · rw [if_neg blank] at chain
      cases chain
      exact above_trunk shorter

/-- The pieces of a path are whole, also when the later ones are given last one first. -/
theorem slash_not_mem_of_pieces {p : Path} {first : List UInt8} {rest : List (List UInt8)}
    (cuts : p.pieces = first :: rest) : ∀ piece ∈ first :: rest.reverse, slash ∉ piece := by
  intro piece mem
  have among : piece ∈ cut p.bytes := by
    rw [pieces] at cuts
    rw [cuts]
    simpa using mem
  exact slash_not_mem_of_mem_cut among

/-- **The directories above a path are its parent and those above the parent.** -/
theorem above_eq (p : Path) :
    p.above = match p.parent with
      | none => []
      | some directory => directory.ancestors := by
  rw [parent]
  rcases chain : p.above with - | ⟨directory, farther⟩
  · rfl
  · show directory :: farther = directory :: directory.above
    congr 1
    rcases cuts : p.pieces with - | ⟨first, rest⟩
    · rw [above, cuts] at chain
      cases chain
    · rw [above, cuts] at chain
      exact (above_of_climb (slash_not_mem_of_pieces cuts) chain).symm

/-- The places where a file may govern another, from parent to parent. -/
theorem candidates_eq (file : Path) (name : String) :
    file.candidates name = match file.parent with
      | none => []
      | some directory => directory.ancestors.map fun above => above.join (ofText name) := by
  rw [candidates, above_eq]
  rcases file.parent with - | directory
  · rfl
  · rfl

end ScopedImports.Path
