import Mathlib.Data.List.Induction
import ScopedImports.Proofs.Path.Enumeration

/-!
Folding: where a path leads when its `..` are taken.

Paths are never folded by the look-up, which goes by what is written.  Folding says which directory
is meant: `.` stays, a name goes down, and `..` goes up again, but not above the root.

    path      /a   /a/b   /a/b/..   /a/b/../c
    folded    a    a b    a         a c

A directory that is written at the start of a path need not be above what the path leads to: `/a/b`
is written in front, and left again.  What comes behind the directory never leaves it if and only if
it has, up to every point, at most as many `..` as names (`isPrefix_follow_iff`).
-/

namespace ScopedImports.Path

/-- The names that lead down from the root to a directory. -/
abbrev Trail := List (List UInt8)

/-- Go one step. -/
def Component.follow (trail : Trail) : Component → Trail
  | .root => []
  | .here => trail
  | .up => trail.dropLast
  | .name piece => trail ++ [piece]

/-- Go from a directory, step by step. -/
def follow (trail : Trail) (steps : List Component) : Trail := steps.foldl Component.follow trail

/-- Where a path leads, from the root on. -/
def folded (p : Path) : Trail := follow [] p.components

/-- The step goes down. -/
def Component.isName : Component → Bool
  | .name _ => true
  | _ => false

/-- The steps never lead out of the directory in which they begin: up to every point there are at
most as many `..` as names. -/
def Stays (steps : List Component) : Prop :=
  ∀ n, (steps.take n).count .up ≤ (steps.take n).countP Component.isName

/-- There is nothing to check behind the last step. -/
theorem stays_iff_forall_lt {steps : List Component} : Stays steps ↔ ∀ n < steps.length + 1,
    (steps.take n).count .up ≤ (steps.take n).countP Component.isName := by
  constructor
  · intro stays n _
    exact stays n
  · intro bounded n
    by_cases short : n < steps.length + 1
    · exact bounded n short
    · have all := bounded steps.length (Nat.lt_succ_self _)
      rw [List.take_length] at all
      rw [List.take_of_length_le (by omega)]
      exact all

instance (steps : List Component) : Decidable (Stays steps) :=
  decidable_of_iff _ stays_iff_forall_lt.symm

theorem follow_append (trail : Trail) (steps more : List Component) :
    follow trail (steps ++ more) = follow (follow trail steps) more :=
  List.foldl_append

theorem follow_concat (trail : Trail) (steps : List Component) (step : Component) :
    follow trail (steps ++ [step]) = step.follow (follow trail steps) :=
  follow_append trail steps [step]

/-! ### Steps that stay -/

namespace Stays

variable {steps : List Component}

theorem take (stays : Stays steps) (n : Nat) : Stays (steps.take n) := by
  intro m
  rw [List.take_take]
  exact stays (min m n)

/-- Steps stay if the steps before the last do, and the last does not lead out. -/
theorem concat_iff {step : Component} : Stays (steps ++ [step]) ↔ Stays steps ∧
    (steps ++ [step]).count .up ≤ (steps ++ [step]).countP Component.isName := by
  constructor
  · intro stays
    constructor
    · have before := stays.take steps.length
      rw [List.take_left] at before
      exact before
    · have all := stays (steps ++ [step]).length
      rw [List.take_length] at all
      exact all
  · rintro ⟨before, all⟩ n
    by_cases short : n ≤ steps.length
    · rw [List.take_append_of_le_length short]
      exact before n
    · rw [List.take_of_length_le (by simp; omega)]
      exact all

/-- Without `..` no step leads out. -/
theorem of_up_not_mem (down : .up ∉ steps) : Stays steps := by
  intro n
  rw [List.count_eq_zero_of_not_mem fun mem => down (List.mem_of_mem_take mem)]
  exact Nat.zero_le _

/-- Steps that stay only add names, one for every name that is not taken back. -/
theorem follow_eq (stays : Stays steps) (relative : .root ∉ steps) (trail : Trail) :
    ∃ more, follow trail steps = trail ++ more ∧
      more.length + steps.count .up = steps.countP Component.isName := by
  induction steps using List.reverseRecOn with
  | nil => exact ⟨[], (List.append_nil trail).symm, rfl⟩
  | append_singleton steps step ih =>
    obtain ⟨before, all⟩ := concat_iff.1 stays
    obtain ⟨more, led, count⟩ := ih before fun mem => relative (List.mem_append_left _ mem)
    rw [follow_concat, led]
    rw [List.count_append, List.countP_append] at all ⊢
    cases step with
    | root => simp at relative
    | here =>
      refine ⟨more, rfl, ?_⟩
      simpa [Component.isName] using count
    | name piece =>
      refine ⟨more ++ [piece], List.append_assoc _ _ _, ?_⟩
      simp [Component.isName] at count ⊢
      omega
    | up =>
      -- there is a name to take back
      have some : more ≠ [] := by
        rintro rfl
        simp [Component.isName] at count all
        omega
      refine ⟨more.dropLast, List.dropLast_append_of_ne_nil some, ?_⟩
      have positive := List.length_pos_iff.2 some
      simp [Component.isName] at count ⊢
      omega

/-- Steps that never lead out of a directory below the root, stay. -/
theorem of_isPrefix (relative : .root ∉ steps) {trail : Trail} (low : trail ≠ [])
    (within : ∀ n, trail <+: follow trail (steps.take n)) : Stays steps := by
  induction steps using List.reverseRecOn with
  | nil => exact of_up_not_mem List.not_mem_nil
  | append_singleton steps step ih =>
    have fewer : .root ∉ steps := fun mem => relative (List.mem_append_left _ mem)
    have before : Stays steps := by
      apply ih fewer
      intro n
      have first := within (min n steps.length)
      rw [List.take_append_of_le_length (Nat.min_le_right _ _), ← List.take_take, List.take_length]
        at first
      exact first
    obtain ⟨more, led, count⟩ := before.follow_eq fewer trail
    refine concat_iff.2 ⟨before, ?_⟩
    rw [List.count_append, List.countP_append]
    cases step with
    | root => simp at relative
    | here | name =>
      simp [Component.isName]
      omega
    | up =>
      -- what is left is no shorter than the directory, so there was a name to take back
      have last := within (steps ++ [Component.up]).length
      rw [List.take_length, follow_concat, led] at last
      have length := last.length_le
      have positive := List.length_pos_iff.2 low
      simp only [Component.follow, List.length_dropLast, List.length_append] at length
      simp [Component.isName]
      omega

end Stays

/-- **Steps never lead out of a directory** if and only if they stay, or it is the root. -/
theorem isPrefix_follow_iff {steps : List Component} (relative : .root ∉ steps) (trail : Trail) :
    (∀ n, trail <+: follow trail (steps.take n)) ↔ trail = [] ∨ Stays steps := by
  constructor
  · intro within
    by_cases top : trail = []
    · exact .inl top
    · exact .inr (.of_isPrefix relative top within)
  · rintro (rfl | stays) n
    · exact List.nil_prefix
    · have fewer : .root ∉ steps.take n := fun mem => relative (List.mem_of_mem_take mem)
      obtain ⟨more, led, -⟩ := (stays.take n).follow_eq fewer trail
      rw [led]
      exact List.prefix_append _ _

end ScopedImports.Path
