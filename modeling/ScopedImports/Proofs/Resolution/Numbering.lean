import ScopedImports.Proofs.Resolution.BareBatch

/-!
Modules are numbered in the order in which they are found.

A batch calls the finder once for each distinct name, and every module that is found takes the next
number; a name without a module takes none.  With `n` as the first number,

    found      x    -    y    z        numbered   n    -    n+1    n+2.

Hence what a batch comes to is what the finder has found and one number, the first: another first
number renumbers all modules alike (`number_eq_map`), and sharing is not affected.
-/

namespace ScopedImports

variable {σ Options Module Cache : Type}

/-! ### Renumbering -/

/-- The same value under a number that is greater by `n`. -/
def Shared.shift {α : Type} (n : Nat) (shared : Shared α) : Shared α :=
  ⟨shared.id + n, shared.value⟩

namespace Resolution

/-- Renumber the module, if the name resolved. -/
def shift (n : Nat) : Resolution Module → Resolution Module
  | resolved module => .resolved (module.shift n)
  | unresolved => .unresolved

/-- A demand does not look at the numbers. -/
theorem demand_map_shift (n : Nat) (file : String) (names : List String)
    (outcomes : List (Resolution Module)) :
    demand file names (outcomes.map (shift n))
      = List.map (Shared.shift n) <$> demand file names outcomes := by
  induction names generalizing outcomes with
  | nil => rfl
  | cons name names ih =>
    rcases outcomes with - | ⟨module | -, outcomes⟩
    · rfl
    · show (module.shift n :: ·) <$> demand file names (outcomes.map (shift n)) = _
      rw [ih, demand]
      rcases demand file names outcomes with failure | modules <;> rfl
    · rfl

end Resolution

/-! ### Numbers of a batch -/

/-- Give numbers to what was found, in order, from `n` on. -/
def number (n : Nat) : List (Option Module) → List (Resolution Module)
  | [] => []
  | none :: rest => .unresolved :: number n rest
  | some value :: rest => .resolved ⟨n, value⟩ :: number (n + 1) rest

/-- Another first number renumbers all modules alike. -/
theorem number_eq_map (found : List (Option Module)) (n : Nat) :
    number n found = (number 0 found).map (Resolution.shift n) := by
  have later (n k : Nat) : number (n + k) found = (number n found).map (Resolution.shift k) := by
    induction found generalizing n with
    | nil => rfl
    | cons first rest ih =>
      rcases first with - | value
      · rw [number, number, List.map_cons, ih]
        rfl
      · rw [number, number, List.map_cons, ← ih, Nat.add_right_comm]
        rfl
  rw [← later, Nat.zero_add]

/-- A module that is found takes a number from those behind it. -/
theorem number_cons (n : Nat) (first : Option Module) (rest : List (Option Module)) :
    number n (first :: rest)
      = number n [first] ++ number (n + [first].countP Option.isSome) rest := by
  rcases first with - | value <;> rfl

theorem length_number (n : Nat) (found : List (Option Module)) :
    (number n found).length = found.length := by
  induction found generalizing n with
  | nil => rfl
  | cons first rest ih =>
    rcases first with - | value
    · exact congrArg (· + 1) (ih n)
    · exact congrArg (· + 1) (ih (n + 1))

theorem map_module?_number (n : Nat) (found : List (Option Module)) :
    (number n found).map Resolution.module? = found := by
  induction found generalizing n with
  | nil => rfl
  | cons first rest ih =>
    rcases first with - | value
    · exact congrArg (none :: ·) (ih n)
    · exact congrArg (some value :: ·) (ih (n + 1))

/-- The numbers given out are those from `n` on, one for each module that was found. -/
theorem id_of_mem_number {n : Nat} {found : List (Option Module)} {module : Shared Module}
    (mem : .resolved module ∈ number n found) :
    n ≤ module.id ∧ module.id < n + found.countP Option.isSome := by
  induction found generalizing n with
  | nil => cases mem
  | cons first rest ih =>
    rcases first with - | value
    · rcases List.mem_cons.1 mem with clash | later
      · cases clash
      · rw [List.countP_cons_of_neg (by simp)]
        exact ih later
    · rw [List.countP_cons_of_pos rfl]
      rcases List.mem_cons.1 mem with here | later
      · cases here
        exact ⟨Nat.le_refl n, Nat.lt_add_of_pos_right (Nat.succ_pos _)⟩
      · obtain ⟨above, below⟩ := ih later
        omega

/-- Later modules have greater numbers. -/
theorem pairwise_number (n : Nat) (found : List (Option Module)) :
    (number n found).Pairwise fun first second => ∀ module module',
      first = .resolved module → second = .resolved module' → module.id < module'.id := by
  induction found generalizing n with
  | nil => exact .nil
  | cons first rest ih =>
    rcases first with - | value
    · exact .cons (fun _ _ _ _ clash => nomatch clash) (ih n)
    · refine .cons ?_ (ih (n + 1))
      rintro second mem module module' here rfl
      cases here
      exact (id_of_mem_number mem).1

namespace Resolver

variable (finder : Finder σ Options Module Cache) (host : Host σ)

/-- Searching names one after the other numbers what is found from the next number on. -/
theorem mapM_search_numbered (options : Options) (names : List String) (file : String)
    (progress : Progress Cache) (env : Env σ Options) :
    let found := ((names.mapM (finder.call host options file)).run progress.cache).run env.world
    let done := ((names.mapM fun name => search finder host options name file).run progress).run env
    done.1.1 = number env.fresh found.1.1 ∧
      done.2.fresh = env.fresh + found.1.1.countP Option.isSome := by
  induction names generalizing progress env with
  | nil => exact ⟨rfl, rfl⟩
  | cons name names ih =>
    rw [List.mapM_cons, List.mapM_cons, StateT.run_bind, StateT.run_bind, StateT.run_bind,
      StateT.run_bind]
    -- what the finder says now decides whether a number is taken
    rcases h : ((finder.call host options file name).run progress.cache).run env.world
      with ⟨⟨- | value, cache⟩, world⟩
    · rw [search_run_of_none h]
      obtain ⟨rest, fresh⟩ := ih ⟨cache, progress.loads + 1⟩ (searched name file options world env)
      exact ⟨congrArg (List.cons Resolution.unresolved) rest, fresh⟩
    · rw [search_run_of_some h]
      obtain ⟨rest, fresh⟩ := ih ⟨cache, progress.loads + 1⟩
        { searched name file options world env with fresh := env.fresh + 1 }
      refine ⟨congrArg (List.cons (Resolution.resolved ⟨env.fresh, value⟩)) rest, fresh.trans ?_⟩
      rw [Nat.add_assoc, Nat.add_comm 1]
      exact congrArg (env.fresh + ·) (List.countP_cons_of_pos rfl).symm

/-- **A resolver numbers what the finder finds**, from the next number on. -/
theorem resolve_numbered (resolver : Resolver Options Cache) (names : List String) (file : String)
    (env : Env σ Options) :
    let found := ((names.eraseDups.mapM (finder.call host resolver.options file)).run
      resolver.cache).run env.world
    let done := (resolver.resolve finder host names file).run env
    done.1.1 = Batch.spread names (number env.fresh found.1.1) ∧
      done.2.fresh = env.fresh + found.1.1.countP Option.isSome := by
  obtain ⟨outcomes, fresh⟩ := mapM_search_numbered finder host resolver.options names.eraseDups file
    ⟨resolver.cache, 0⟩ env
  rw [resolve_eq]
  exact ⟨congrArg (Batch.spread names) outcomes, fresh⟩

end Resolver

end ScopedImports
