import ScopedImports.Proofs.Resolution.Distinct

/-!
The calls that a batch makes, and which call every position gets its value from.

The rank of a name is the number of distinct names that come before it in a batch,

    names   a b a c b        calls   a b c        ranks   0 1 0 2 1,

and a position with a name of rank `r` takes the result of call `r`.  This is so for every loader:
a loader may answer differently each time, so a call is told apart from the others by its place in
the history, and the whole history up to a call is at the loader's disposal (`Recalling`).
-/

namespace ScopedImports.Batch

variable {α : Type}

/-! ### Ranks -/

/-- The number of distinct names that come before the first occurrence of `name`. -/
def rank (names : List String) (name : String) : Nat :=
  (names.takeWhile (· ≠ name)).eraseDups.length

theorem idxOf_eraseDups {names : List String} {name : String} (mem : name ∈ names) :
    names.eraseDups.idxOf name = rank names name := by
  obtain ⟨before, after, rfl, new⟩ := List.eq_append_cons_of_mem mem
  have others : (before ++ name :: after).takeWhile (· ≠ name) = before := by
    have pass : ∀ other ∈ before, decide (other ≠ name) = true := by
      intro other among
      exact decide_eq_true fun same => new (same ▸ among)
    rw [List.takeWhile_append_of_pos pass, List.takeWhile_cons_of_neg (by simp), List.append_nil]
  have absent : name ∉ before.eraseDups := fun among => new (List.mem_eraseDups.1 among)
  have kept : (name :: after).removeAll before = name :: after.removeAll before := by
    rw [List.cons_removeAll, if_pos (by simpa using new)]
  rw [rank, others, List.eraseDups_append, List.idxOf_append_of_notMem absent, kept,
    List.eraseDups_cons, List.idxOf_cons_self, Nat.add_zero]

/-- A name stands at its rank among the distinct names. -/
theorem getElem?_rank {names : List String} {name : String} (mem : name ∈ names) :
    names.eraseDups[rank names name]? = some name := by
  rw [← idxOf_eraseDups mem]
  exact List.getElem?_idxOf (List.mem_eraseDups.2 mem)

/-- Different names have different ranks. -/
theorem eq_of_rank_eq {names : List String} {name other : String} (mem : name ∈ names)
    (mem' : other ∈ names) (same : rank names name = rank names other) : name = other := by
  have stands := getElem?_rank mem
  rw [same, getElem?_rank mem'] at stands
  exact (Option.some.inj stands).symm

/-! ### What a position takes -/

section Spread

variable {names : List String} {values : List α}

/-- Where every distinct name has a value, so has every position. -/
theorem map_some_spread (full : values.length = names.eraseDups.length) :
    (spread names values).map some = names.map fun name => values[rank names name]? := by
  have value : ∀ name ∈ names,
      values[names.eraseDups.idxOf name]? = values[rank names name]? := by
    intro name mem
    rw [idxOf_eraseDups mem]
  have there : ∀ value ∈ names.map fun name => values[rank names name]?, value.isSome = true := by
    intro value among
    obtain ⟨name, mem, rfl⟩ := List.mem_map.1 among
    obtain ⟨below, -⟩ := List.getElem?_eq_some_iff.1 (getElem?_rank mem)
    rw [List.getElem?_eq_getElem (full ▸ below)]
    rfl
  rw [spread, List.filterMap_congr value, List.map_filterMap_some_eq_filter_map_isSome,
    List.filter_eq_self.2 there]

theorem length_spread (full : values.length = names.eraseDups.length) :
    (spread names values).length = names.length := by
  have lengths := congrArg List.length (map_some_spread full)
  rwa [List.length_map, List.length_map] at lengths

/-- A position takes the value that stands at the rank of its name. -/
theorem getElem?_spread (full : values.length = names.eraseDups.length) {i : Nat} {name : String}
    (here : names[i]? = some name) :
    ∃ value, (spread names values)[i]? = some value ∧ values[rank names name]? = some value := by
  have values_at : ((spread names values).map some)[i]?
      = (names.map fun name => values[rank names name]?)[i]? := by rw [map_some_spread full]
  rw [List.getElem?_map, List.getElem?_map, here, Option.map_some] at values_at
  obtain ⟨value, at_i, same⟩ := Option.map_eq_some_iff.1 values_at
  exact ⟨value, at_i, same.symm⟩

end Spread

/-! ### Loaders that recall their calls -/

/-- A call of a loader, and what it came to. -/
structure Call (α : Type) where
  name : String
  file : String
  result : α

/-- A loader that recalls all its calls: what it answers may depend on every one of them. -/
abbrev Recalling (α : Type) := List (Call α) → (name file : String) → α

/-- Call the loader, and add the call to the history. -/
def Recalling.answer (loader : Recalling α) (name file : String) : StateM (List (Call α)) α :=
  fun history =>
    let result := loader history name file
    (result, history ++ [⟨name, file, result⟩])

/-- The calls for the names, one after the other, where `past` are the calls before them. -/
def Recalling.calls (loader : Recalling α) (file : String) :
    List (Call α) → List String → List (Call α)
  | _, [] => []
  | past, name :: names =>
    let call := ⟨name, file, loader past name file⟩
    call :: calls loader file (past ++ [call]) names

namespace Recalling

variable (loader : Recalling α) (file : String)

theorem mapM_answer_cons (name : String) (names : List String) (past : List (Call α)) :
    ((name :: names).mapM (loader.answer · file)).run past
      = let call := ⟨name, file, loader past name file⟩
        let rest := (names.mapM (loader.answer · file)).run (past ++ [call])
        (call.result :: rest.1, rest.2) := by
  rw [List.mapM_cons, StateT.run_bind]
  rfl

theorem mapM_answer (names : List String) (past : List (Call α)) :
    (names.mapM (loader.answer · file)).run past
      = ((loader.calls file past names).map Call.result, past ++ loader.calls file past names) := by
  induction names generalizing past with
  | nil => rw [calls, List.append_nil]; rfl
  | cons name names ih =>
    rw [mapM_answer_cons]
    dsimp only
    rw [ih, List.append_assoc]
    rfl

theorem names_calls (past : List (Call α)) (names : List String) :
    (loader.calls file past names).map Call.name = names := by
  induction names generalizing past with
  | nil => rfl
  | cons name names ih => rw [calls, List.map_cons, ih]

/-- Every call is about the file, and its result is the loader's answer after the calls before. -/
theorem of_getElem?_calls {past : List (Call α)} {names : List String} {k : Nat} {call : Call α}
    (here : (loader.calls file past names)[k]? = some call) :
    call.file = file ∧
      call.result = loader (past ++ (loader.calls file past names).take k) call.name file := by
  induction names generalizing past k with
  | nil => cases here
  | cons name names ih =>
    rw [calls] at here ⊢
    rcases k with - | k
    · obtain rfl := Option.some.inj here
      exact ⟨rfl, by rw [List.take_zero, List.append_nil]⟩
    · obtain ⟨about, result⟩ := ih here
      rw [List.append_assoc] at result
      exact ⟨about, result⟩

end Recalling

/-- **The calls of a batch are the distinct names in order of first occurrence, and every position
takes the result of the call that has the rank of its name.**  This holds for every loader, whatever
it answers and on which of its calls this depends. -/
theorem load_calls (loader : Recalling α) (names : List String) (file : String)
    (past : List (Call α)) :
    let done := (load names file loader.answer).run past
    ∃ calls : List (Call α),
      done.2 = past ++ calls ∧ calls.map Call.name = names.eraseDups ∧
      (∀ (k : Nat) (call : Call α), calls[k]? = some call →
        call.file = file ∧ call.result = loader (past ++ calls.take k) call.name file) ∧
      done.1.length = names.length ∧
      ∀ (i : Nat) (name : String), names[i]? = some name →
        ∃ call, calls[rank names name]? = some call ∧ call.name = name ∧
          done.1[i]? = some call.result := by
  intro done
  let calls := loader.calls file past names.eraseDups
  have run : done = (spread names (calls.map Call.result), past ++ calls) := by
    show (load names file loader.answer).run past = _
    rw [load_eq, StateT.run_map, Recalling.mapM_answer]
    rfl
  have called : calls.map Call.name = names.eraseDups := loader.names_calls file past _
  have full : (calls.map Call.result).length = names.eraseDups.length := by
    rw [List.length_map, ← called, List.length_map]
  rw [run]
  refine ⟨calls, rfl, called, fun k call here => loader.of_getElem?_calls file here,
    length_spread full, ?_⟩
  intro i name here
  obtain ⟨value, taken, at_rank⟩ := getElem?_spread full here
  rw [List.getElem?_map] at at_rank
  obtain ⟨call, there, rfl⟩ := Option.map_eq_some_iff.1 at_rank
  refine ⟨call, there, ?_, taken⟩
  -- the call at the rank of the name is the call for the name
  have named := getElem?_rank (List.mem_of_getElem? here)
  rw [← called, List.getElem?_map, there] at named
  exact Option.some.inj named

end ScopedImports.Batch
