import Mathlib.Data.List.Basic
import ScopedImports.Resolution.Batch

/-!
A batch is one load for each distinct name.

`Batch.load` goes through the names from left to right with a memo at hand.  What it does to the
outside is said here without the memo: the distinct names are loaded in order of first occurrence,
and then every position takes the value of its name,

    load names file loader  =  spread names <$> names.eraseDups.mapM (loader · file).

The loader may be stateful in any lawful monad, so the order of the loads is part of the equation.
-/

namespace ScopedImports.Batch

variable {α : Type} {m : Type → Type} [Monad m] [LawfulMonad m]

/-- Give every position the value of its name, from the values of the distinct names in order of
first occurrence. -/
def spread (names : List String) (values : List α) : List α :=
  names.filterMap fun name => values[names.eraseDups.idxOf name]?

omit [Monad m] [LawfulMonad m] in
/-- Where a value depends on the name alone, every position takes that value. -/
theorem spread_map (value : String → α) (names : List String) :
    spread names (names.eraseDups.map value) = names.map value := by
  have each : ∀ name ∈ names,
      (names.eraseDups.map value)[names.eraseDups.idxOf name]? = some (value name) := by
    intro name mem
    have found : names.eraseDups[names.eraseDups.idxOf name]? = some name :=
      List.getElem?_idxOf (List.mem_eraseDups.2 mem)
    rw [List.getElem?_map, found, Option.map_some]
  rw [spread, List.filterMap_congr each, List.filterMap_eq_map']

/-! ### Names that are still to be loaded -/

/-- The distinct names without a value so far, in order of first occurrence. -/
def unloaded (memo : Memo (id : String → String) α) (names : List String) : List String :=
  (names.filter fun name => (memo.find? name).isNone).eraseDups

/-- The value of a name: the one it has, or its share of the values of the names in `fresh`. -/
def valueOf (memo : Memo (id : String → String) α) (fresh : List String) (values : List α)
    (name : String) : Option α :=
  (memo.find? name).or values[fresh.idxOf name]?

variable {memo : Memo (id : String → String) α} {name : String} {a : α}

theorem unloaded_cons_of_some (h : memo.find? name = some a) (names : List String) :
    unloaded memo (name :: names) = unloaded memo names := by
  simp [unloaded, h]

/-- Loading a name takes it off the names that are still to be loaded, whatever its value is. -/
theorem unloaded_cons_of_none (h : memo.find? name = none) (names : List String) :
    ∃ rest, unloaded memo (name :: names) = name :: rest ∧
      ∀ a, unloaded (memo.push name a h) names = rest := by
  refine ⟨(names.filter fun other =>
    (!other == name) && (memo.find? other).isNone).eraseDups, ?_, fun a => ?_⟩
  · simp [unloaded, h, List.eraseDups_cons, List.filter_filter]
  · rw [unloaded]
    congr 2
    funext other
    rw [Memo.find?_push]
    by_cases same : name = other
    · simp [same]
    · simp [same, Ne.symm same]

/-- A name that has just been loaded takes the first of the values that are left. -/
theorem valueOf_push (h : memo.find? name = none) (a : α) (fresh : List String) (values : List α)
    (other : String) :
    valueOf (memo.push name a h) fresh values other
      = valueOf memo (name :: fresh) (a :: values) other := by
  rw [valueOf, valueOf, Memo.find?_push]
  by_cases same : name = other
  · subst same
    simp [h]
  · have shifted : (name :: fresh).idxOf other = fresh.idxOf other + 1 := by
      rw [List.idxOf_cons, beq_false_of_ne same, cond_false]
    simp [same, shifted]

/-! ### The loads of a batch -/

/-- The value of a name, loaded unless the memo has it. -/
def value (file : String) (loader : (name file : String) → m α) (name : String) :
    StateT (Memo (id : String → String) α) m α :=
  Memo.consult id name fun name => liftM (loader name file)

theorem run'_mapM_value_cons (name : String) (names : List String) (file : String)
    (loader : (name file : String) → m α) (memo : Memo (id : String → String) α) :
    ((name :: names).mapM (value file loader)).run' memo
      = (value file loader name).run memo >>= fun p =>
          (p.1 :: ·) <$> (names.mapM (value file loader)).run' p.2 := by
  simp [List.mapM_cons, StateT.run'_eq]

/-- From any memo on, exactly the names that are still to be loaded are loaded. -/
theorem run'_mapM_value (names : List String) (file : String) (loader : (name file : String) → m α)
    (memo : Memo (id : String → String) α) :
    (names.mapM (value file loader)).run' memo
      = (fun values => names.filterMap (valueOf memo (unloaded memo names) values))
          <$> (unloaded memo names).mapM (loader · file) := by
  induction names generalizing memo with
  | nil => simp [unloaded]
  | cons name names ih =>
    rw [run'_mapM_value_cons]
    rcases h : memo.find? name with - | a
    · -- the name is loaded now, and is known to the names behind it
      have loaded : (value file loader name).run memo
          = loader name file >>= fun a => pure (a, memo.push name a h) := by
        rw [value, Memo.consult_of_none h]
        simp [Memo.settle_of_none h]
      obtain ⟨rest, split, left⟩ := unloaded_cons_of_none h names
      have first (a : α) (values : List α) :
          valueOf memo (name :: rest) (a :: values) name = some a := by
        simp [valueOf, h]
      rw [loaded, split, List.mapM_cons, bind_assoc, map_bind]
      congr 1
      funext a
      rw [pure_bind, ih, left a, bind_pure_comp, Functor.map_map, Functor.map_map]
      congr 1
      funext values
      rw [List.filterMap_cons, first]
      congr 2
      funext other
      exact valueOf_push h a rest values other
    · -- the name has its value
      have known : (value file loader name).run memo = pure (a, memo) :=
        Memo.consult_of_some h _
      have stays (fresh : List String) (values : List α) :
          valueOf memo fresh values name = some a := by
        simp [valueOf, h]
      rw [known, pure_bind, ih, unloaded_cons_of_some h, Functor.map_map]
      simp [stays]

/-- **A batch is one load for each distinct name**, in order of first occurrence. -/
theorem load_eq (names : List String) (file : String) (loader : (name file : String) → m α) :
    load names file loader = spread names <$> names.eraseDups.mapM (loader · file) := by
  have start : unloaded (∅ : Memo (id : String → String) α) names = names.eraseDups := by
    rw [unloaded, List.filter_eq_self.2 (by simp)]
  have run : load names file loader = (names.mapM (value file loader)).run' ∅ := by
    rw [StateT.run'_eq, load, bind_pure_comp]
    rfl
  rw [run, run'_mapM_value, start]
  rfl

end ScopedImports.Batch
