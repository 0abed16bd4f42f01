import ScopedImports.Resolution.Basic

/-!
Demanding that every name resolved.

`Resolution.demand` goes through names and outcomes side by side and ends at the first outcome that
is missing.  Without the recursion, and for lists of any two lengths:

    names       a   b   c   d              outcomes    x   y   -   z   -
    compared    a   b   c   d              the demand fails with  c

Only the positions that both lists have count.  The demand is met with exactly the modules at these
positions, or it fails with the name at the first of them that is missing; the statement of both
sides is `Demanded`.
-/

namespace ScopedImports.Resolution

variable {Module : Type} {file : String} {names : List String} {outcomes : List (Resolution Module)}

/-- The first position with a name at which the outcome is missing, and its name. -/
structure FirstMissing (names : List String) (outcomes : List (Resolution Module)) (i : Nat)
    (name : String) : Prop where
  name : names[i]? = some name
  missing : outcomes[i]? = some .unresolved
  least : ∀ j < i, outcomes[j]? ≠ some .unresolved

/-- What it means for `answer` to be the one to the demand that every name resolved. -/
structure Demanded (file : String) (names : List String) (outcomes : List (Resolution Module))
    (answer : Except Failure (List (Shared Module))) : Prop where
  /-- The modules are the very ones at the positions that have a name, in their order. -/
  ok_iff : ∀ modules, answer = .ok modules ↔ outcomes.take names.length = modules.map .resolved
  /-- The demand is met if no outcome with a name is missing. -/
  met_iff : (∃ modules, answer = .ok modules) ↔ .unresolved ∉ outcomes.take names.length
  /-- Otherwise the first name whose outcome is missing is at fault. -/
  error_iff : ∀ failure, answer = .error failure ↔
    ∃ i name, FirstMissing names outcomes i name ∧ failure = .unresolved name file

/-! ### One position -/

theorem demand_nil (file : String) (names : List String) :
    demand file names ([] : List (Resolution Module)) = .ok [] := by
  cases names <;> rfl

theorem demand_unresolved (file name : String) (names : List String)
    (outcomes : List (Resolution Module)) :
    demand file (name :: names) (.unresolved :: outcomes) = .error (.unresolved name file) := rfl

theorem demand_resolved (file name : String) (names : List String) (module : Shared Module)
    (outcomes : List (Resolution Module)) :
    demand file (name :: names) (.resolved module :: outcomes)
      = (module :: ·) <$> demand file names outcomes := rfl

/-- A failure goes through, and an answer is changed. -/
theorem map_eq_ok_iff {α β : Type} {result : Except Failure α} {change : α → β} {b : β} :
    change <$> result = .ok b ↔ ∃ a, result = .ok a ∧ change a = b := by
  cases result <;> simp [Functor.map, Except.map]

theorem map_eq_error_iff {α β : Type} {result : Except Failure α} {change : α → β}
    {failure : Failure} : change <$> result = .error failure ↔ result = .error failure := by
  cases result <;> simp [Functor.map, Except.map]

/-- Behind a module the first missing position is one farther away. -/
theorem firstMissing_cons_resolved {first name : String} {module : Shared Module} {i : Nat} :
    FirstMissing (first :: names) (.resolved module :: outcomes) i name ↔
      ∃ j, i = j + 1 ∧ FirstMissing names outcomes j name := by
  constructor
  · rintro ⟨here, missing, least⟩
    cases i with
    | zero => simp at missing
    | succ j => exact ⟨j, rfl, here, missing, fun k lt => least (k + 1) (Nat.succ_lt_succ lt)⟩
  · rintro ⟨j, rfl, here, missing, least⟩
    refine ⟨here, missing, ?_⟩
    intro k lt
    cases k with
    | zero => simp
    | succ k => exact least k (Nat.lt_of_succ_lt_succ lt)

/-- In front of a missing outcome there is nothing to look at. -/
theorem firstMissing_cons_unresolved {first name : String} {i : Nat} :
    FirstMissing (first :: names) (.unresolved :: outcomes) i name ↔ i = 0 ∧ first = name := by
  constructor
  · rintro ⟨here, missing, least⟩
    cases i with
    | zero => exact ⟨rfl, Option.some.inj here⟩
    | succ j => exact absurd rfl (least 0 (Nat.succ_pos j))
  · rintro ⟨rfl, rfl⟩
    exact ⟨rfl, rfl, fun j lt => absurd lt (Nat.not_lt_zero j)⟩

/-! ### All positions -/

theorem demand_eq_ok_iff (file : String) (names : List String)
    (outcomes : List (Resolution Module)) (modules : List (Shared Module)) :
    demand file names outcomes = .ok modules ↔
      outcomes.take names.length = modules.map .resolved := by
  induction names generalizing outcomes modules with
  | nil => cases modules <;> simp [demand]
  | cons name names ih =>
    rcases outcomes with - | ⟨module | -, outcomes⟩
    · rw [demand_nil]
      cases modules <;> simp
    · rw [demand_resolved, map_eq_ok_iff, List.length_cons, List.take_succ_cons]
      constructor
      · rintro ⟨others, rest, rfl⟩
        rw [(ih outcomes others).1 rest]
        rfl
      · intro all
        rcases modules with - | ⟨first, others⟩
        · cases all
        · obtain ⟨same, rest⟩ := List.cons.inj all
          obtain rfl := Resolution.resolved.inj same
          exact ⟨others, (ih outcomes others).2 rest, rfl⟩
    · rw [demand_unresolved, List.length_cons, List.take_succ_cons]
      cases modules <;> simp

theorem demand_eq_error_iff (file : String) (names : List String)
    (outcomes : List (Resolution Module)) (failure : Failure) :
    demand file names outcomes = .error failure ↔
      ∃ i name, FirstMissing names outcomes i name ∧ failure = .unresolved name file := by
  induction names generalizing outcomes with
  | nil =>
    show Except.ok [] = .error failure ↔ _
    simp only [reduceCtorEq, false_iff]
    rintro ⟨i, name, ⟨here, -, -⟩, -⟩
    simp at here
  | cons first names ih =>
    rcases outcomes with - | ⟨module | -, outcomes⟩
    · rw [demand_nil]
      simp only [reduceCtorEq, false_iff]
      rintro ⟨i, name, ⟨-, missing, -⟩, -⟩
      simp at missing
    · rw [demand_resolved, map_eq_error_iff, ih]
      constructor
      · rintro ⟨j, name, here, same⟩
        exact ⟨j + 1, name, firstMissing_cons_resolved.2 ⟨j, rfl, here⟩, same⟩
      · rintro ⟨i, name, here, same⟩
        obtain ⟨j, rfl, before⟩ := firstMissing_cons_resolved.1 here
        exact ⟨j, name, before, same⟩
    · rw [demand_unresolved]
      simp only [firstMissing_cons_unresolved, Except.error.injEq]
      constructor
      · rintro rfl
        exact ⟨0, first, ⟨rfl, rfl⟩, rfl⟩
      · rintro ⟨i, name, ⟨-, rfl⟩, rfl⟩
        rfl

/-- Outcomes among which none is missing are modules. -/
theorem exists_modules_iff (outcomes : List (Resolution Module)) :
    (∃ modules : List (Shared Module), outcomes = modules.map .resolved) ↔
      .unresolved ∉ outcomes := by
  induction outcomes with
  | nil => exact ⟨fun _ => List.not_mem_nil, fun _ => ⟨[], rfl⟩⟩
  | cons outcome outcomes ih =>
    rw [List.mem_cons, not_or, ← ih]
    constructor
    · rintro ⟨modules, all⟩
      rcases modules with - | ⟨module, modules⟩
      · cases all
      · obtain ⟨rfl, rest⟩ := List.cons.inj all
        exact ⟨nofun, modules, rest⟩
    · rintro ⟨there, modules, rfl⟩
      rcases outcome with module | -
      · exact ⟨module :: modules, rfl⟩
      · exact absurd rfl there

/-- **What is demanded**, for lists of any two lengths. -/
theorem demand_demanded (file : String) (names : List String)
    (outcomes : List (Resolution Module)) :
    Demanded file names outcomes (demand file names outcomes) where
  ok_iff := demand_eq_ok_iff file names outcomes
  met_iff := by
    rw [← exists_modules_iff]
    exact exists_congr fun modules => demand_eq_ok_iff file names outcomes modules
  error_iff := demand_eq_error_iff file names outcomes

end ScopedImports.Resolution
