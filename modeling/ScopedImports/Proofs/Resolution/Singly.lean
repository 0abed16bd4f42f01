import ScopedImports.Proofs.Resolution.Numbering
import ScopedImports.Proofs.Resolution.Ranks

/-!
A batch is its distinct names, one at a time.

A resolver may be given names in one batch, or each name in a batch of its own.  Where the names are
distinct, the finder cannot tell the two apart: it is asked the same questions in the same order,
and leaves the same cache and the same world.  Hence

    resolve names file   does what   resolve [a] file, resolve [b] file, ..

does for the distinct names `a`, `b`, .. in order of first occurrence, and every position holds the
outcome of its own name (`resolve_one_by_one`).  On the way every module that is found takes a
number of its own, so modules are shared within a batch where the names are the same, and nowhere
else.
-/

namespace ScopedImports

variable {σ Options Module Cache : Type}

/-! ### What can happen between two batches -/

/-- The second is the first at a later time: collaborators may have been asked, entries may have
been made, and identities may have been given out. -/
inductive Env.Before : Env σ Options → Env σ Options → Prop
  | refl (env : Env σ Options) : Before env env
  | ask {env later : Env σ Options} {α : Type} (question : StateM σ α) :
      Before env later → Before env ((Act.ask question).run later).2
  | record {env later : Env σ Options} (event : Event Options) :
      Before env later → Before env ((Act.record event).run later).2
  | newIdentity {env later : Env σ Options} :
      Before env later → Before env (Act.newIdentity.run later).2

/-- Identities are never taken back. -/
theorem Env.Before.fresh_le {env later : Env σ Options} (h : env.Before later) :
    env.fresh ≤ later.fresh := by
  induction h with
  | refl => exact Nat.le_refl _
  | ask _ _ ih | record _ _ ih => exact ih
  | newIdentity _ ih => exact Nat.le_succ_of_le ih

/-! ### The questions that the finder is asked -/

/-- The name, the file and the options that the finder was called with. -/
def Event.searched? : Event Options → Option (String × String × Options)
  | .searched name file options => some (name, file, options)
  | _ => none

/-- What the finder has been called with, in order. -/
def Env.searches (env : Env σ Options) : List (String × String × Options) :=
  env.journal.filterMap Event.searched?

theorem Finder.length_mapM_call (finder : Finder σ Options Module Cache) (host : Host σ)
    (options : Options) (names : List String) (file : String) (cache : Cache) (world : σ) :
    (((names.mapM (finder.call host options file)).run cache).run world).1.1.length
      = names.length := by
  induction names generalizing cache world with
  | nil => rfl
  | cons name names ih =>
    rw [Finder.mapM_call_cons, List.length_cons, List.length_cons, ih]

/-- The modules among the outcomes. -/
def modulesOf (outcomes : List (Resolution Module)) : List (Shared Module) :=
  outcomes.filterMap Resolution.shared?

theorem mem_modulesOf {outcomes : List (Resolution Module)} {module : Shared Module} :
    module ∈ modulesOf outcomes ↔ .resolved module ∈ outcomes := by
  rw [modulesOf, List.mem_filterMap]
  constructor
  · rintro ⟨outcome, mem, shared⟩
    rcases outcome with module' | -
    · cases shared
      exact mem
    · cases shared
  · intro mem
    exact ⟨_, mem, rfl⟩

namespace Batch

theorem spread_singleton {α : Type} (name : String) (value : α) :
    spread [name] [value] = [value] := by
  simp [spread, List.eraseDups_cons]

theorem mem_of_mem_spread {α : Type} {names : List String} {values : List α} {value : α}
    (mem : value ∈ spread names values) : value ∈ values := by
  obtain ⟨name, -, at_rank⟩ := List.mem_filterMap.1 mem
  exact List.mem_of_getElem? at_rank

end Batch

namespace Resolver

variable (finder : Finder σ Options Module Cache) (host : Host σ)

/-- Resolve the names one after the other, each in a batch of its own. -/
def resolveSingly (names : List String) (file : String) :
    StateT (Resolver Options Cache) (Act σ Options) (List (List (Resolution Module))) :=
  names.mapM fun name resolver => resolver.resolve finder host [name] file

/-! ### A batch and its names -/

/-- What a batch does to the finder, and what it reports, in terms of what is found. -/
structure Found (resolver : Resolver Options Cache) (names : List String) (file : String)
    (env : Env σ Options) (found : (List (Option Module) × Cache) × σ)
    (next : Resolver Options Cache) (after : Env σ Options) : Prop where
  next : next = { resolver with cache := found.1.2 }
  world : after.world = found.2
  fresh : after.fresh = env.fresh + found.1.1.countP Option.isSome
  searches : after.searches
    = env.searches ++ names.map fun name => (name, file, resolver.options)

/-- One more name in front. -/
theorem Found.cons {resolver middle last : Resolver Options Cache} {name : String}
    {names : List String} {file : String} {env between after : Env σ Options}
    {found : Option Module} {cache : Cache} {world : σ}
    {rest : (List (Option Module) × Cache) × σ}
    (first : Found resolver [name] file env (([found], cache), world) middle between)
    (later : Found middle names file between rest last after) :
    Found resolver (name :: names) file env ((found :: rest.1.1, rest.1.2), rest.2) last after where
  next := by rw [later.next, first.next]
  world := later.world
  fresh := by
    have counts : (found :: rest.1.1).countP Option.isSome
        = [found].countP Option.isSome + rest.1.1.countP Option.isSome := by
      rw [← List.countP_append, List.singleton_append]
    rw [later.fresh, first.fresh, Nat.add_assoc, counts]
  searches := by
    rw [later.searches, first.searches, first.next, List.append_assoc]
    rfl

/-- A batch asks the finder for its distinct names. -/
theorem resolve_found (resolver : Resolver Options Cache) (names : List String) (file : String)
    (env : Env σ Options) :
    let found := ((names.eraseDups.mapM (finder.call host resolver.options file)).run
      resolver.cache).run env.world
    let done := (resolver.resolve finder host names file).run env
    done.1.1 = Batch.spread names (number env.fresh found.1.1) ∧
      Found resolver names.eraseDups file env found done.1.2 done.2 := by
  obtain ⟨outcomes, fresh⟩ := resolve_numbered finder host resolver names file env
  have resolved := resolve_run finder host resolver names file env
  refine ⟨outcomes, resolved.next, resolved.world, fresh, ?_⟩
  have questions : (names.eraseDups.map fun name =>
      Event.searched name file resolver.options).filterMap Event.searched?
        = names.eraseDups.map fun name => (name, file, resolver.options) := by
    rw [List.filterMap_map]
    exact congrFun List.filterMap_eq_map names.eraseDups
  rw [Env.searches, resolved.journal, List.filterMap_append, List.filterMap_append, questions]
  exact List.append_nil _

/-- A batch of one name calls the finder once. -/
theorem resolve_singleton (resolver : Resolver Options Cache) (name file : String)
    (env : Env σ Options) :
    let found := (finder.find name file resolver.options host resolver.cache).run env.world
    let done := (resolver.resolve finder host [name] file).run env
    done.1.1 = number env.fresh [found.1.1] ∧
      Found resolver [name] file env (([found.1.1], found.1.2), found.2) done.1.2 done.2 := by
  have alone (found : Option Module) :
      Batch.spread [name] (number env.fresh [found]) = number env.fresh [found] := by
    rcases found with - | value <;> exact Batch.spread_singleton name _
  obtain ⟨outcomes, found⟩ := resolve_found finder host resolver [name] file env
  exact ⟨outcomes.trans (alone _), found⟩

theorem resolveSingly_cons (name : String) (names : List String) (file : String)
    (resolver : Resolver Options Cache) (env : Env σ Options) :
    ((resolveSingly finder host (name :: names) file).run resolver).run env
      = let first := (resolver.resolve finder host [name] file).run env
        let rest := ((resolveSingly finder host names file).run first.1.2).run first.2
        ((first.1.1 :: rest.1.1, rest.1.2), rest.2) := by
  rw [resolveSingly, List.mapM_cons, StateT.run_bind, StateT.run_bind]
  rfl

/-- Names that are resolved one at a time are found one after the other, and numbered in order. -/
theorem resolveSingly_found (names : List String) (file : String)
    (resolver : Resolver Options Cache) (env : Env σ Options) :
    let found := ((names.mapM (finder.call host resolver.options file)).run
      resolver.cache).run env.world
    let done := ((resolveSingly finder host names file).run resolver).run env
    done.1.1 = (number env.fresh found.1.1).map ([·]) ∧
      Found resolver names file env found done.1.2 done.2 := by
  induction names generalizing resolver env with
  | nil => exact ⟨rfl, rfl, rfl, rfl, (List.append_nil _).symm⟩
  | cons name names ih =>
    rw [resolveSingly_cons, Finder.mapM_call_cons]
    obtain ⟨outcomes, first⟩ := resolve_singleton finder host resolver name file env
    generalize (resolver.resolve finder host [name] file).run env = done at outcomes first ⊢
    generalize (finder.find name file resolver.options host resolver.cache).run env.world = said
      at outcomes first ⊢
    obtain ⟨⟨one, middle⟩, between⟩ := done
    -- the rest begins where the first name has left resolver and world
    obtain ⟨more, later⟩ := ih middle between
    obtain rfl : middle = { resolver with cache := said.1.2 } := first.next
    have world : between.world = said.2 := first.world
    have fresh : between.fresh = env.fresh + [said.1.1].countP Option.isSome := first.fresh
    rw [world] at more later
    rw [fresh] at more
    refine ⟨?_, first.cons later⟩
    show one :: _ = (number env.fresh (said.1.1 :: _)).map ([·])
    rw [number_cons, List.map_append, more]
    change one = _ at outcomes
    rw [outcomes]
    rcases said.1.1 with - | value <;> rfl

/-! ### Shared modules -/

/-- The modules of a batch have the numbers that were given out during the batch. -/
theorem id_of_mem_resolve {resolver : Resolver Options Cache} {names : List String} {file : String}
    {env : Env σ Options} {module : Shared Module}
    (mem : module ∈ modulesOf ((resolver.resolve finder host names file).run env).1.1) :
    env.fresh ≤ module.id ∧
      module.id < ((resolver.resolve finder host names file).run env).2.fresh := by
  obtain ⟨outcomes, found⟩ := resolve_found finder host resolver names file env
  rw [outcomes, mem_modulesOf] at mem
  rw [found.fresh]
  exact id_of_mem_number (Batch.mem_of_mem_spread mem)

/-- A batch that begins after another has ended gives its modules greater numbers. -/
theorem id_lt_of_before {Cache' : Type} {earlier : Resolver Options Cache}
    {later : Resolver Options Cache'} {finder' : Finder σ Options Module Cache'} {host' : Host σ}
    {names names' : List String} {file file' : String} {env start : Env σ Options}
    {module module' : Shared Module}
    (between : ((earlier.resolve finder host names file).run env).2.Before start)
    (mem : module ∈ modulesOf ((earlier.resolve finder host names file).run env).1.1)
    (mem' : module' ∈ modulesOf ((later.resolve finder' host' names' file').run start).1.1) :
    module.id < module'.id := by
  have below := (id_of_mem_resolve finder host mem).2
  have above := (id_of_mem_resolve finder' host' mem').1
  exact Nat.lt_of_lt_of_le (Nat.lt_of_lt_of_le below between.fresh_le) above

/-- Modules that were found one after the other have different numbers. -/
theorem eq_of_number_id_eq {n : Nat} {found : List (Option Module)} {i j : Nat}
    {module module' : Shared Module} (at_i : (number n found)[i]? = some (.resolved module))
    (at_j : (number n found)[j]? = some (.resolved module')) (same : module.id = module'.id) :
    i = j := by
  obtain ⟨i_lt, at_i⟩ := List.getElem?_eq_some_iff.1 at_i
  obtain ⟨j_lt, at_j⟩ := List.getElem?_eq_some_iff.1 at_j
  have increasing := List.pairwise_iff_getElem.1 (pairwise_number n found)
  rcases Nat.lt_trichotomy i j with before | rfl | after
  · have less := increasing i j i_lt j_lt before _ _ at_i at_j
    omega
  · rfl
  · have less := increasing j i j_lt i_lt after _ _ at_j at_i
    omega

/-! ### One by one -/

/-- What a batch comes to, beside what its distinct names come to one at a time, and what the finder
has found for them. -/
structure OneByOne (resolver : Resolver Options Cache) (names : List String) (file : String)
    (env : Env σ Options) (found : List (Option Module))
    (singly : (List (List (Resolution Module)) × Resolver Options Cache) × Env σ Options)
    (done : (List (Resolution Module) × Resolver Options Cache) × Env σ Options) : Prop where
  /-- The finder is called once for every distinct name, in order of first occurrence. -/
  calls : done.2.searches
    = env.searches ++ names.eraseDups.map fun name => (name, file, resolver.options)
  /-- One at a time, the calls are the same. -/
  searches : done.2.searches = singly.2.searches
  /-- The resolver is left with the same cache. -/
  next : done.1.2 = singly.1.2
  /-- The collaborators are left in the same world. -/
  world : done.2.world = singly.2.world
  /-- There is one outcome for every name. -/
  length : done.1.1.length = names.length
  /-- Every position holds the outcome of its own name: the one of the name's own batch, with the
  finder's answer to the name's own call as its content. -/
  outcomes : ∀ (i : Nat) (name : String), names[i]? = some name →
    ∃ outcome, done.1.1[i]? = some outcome ∧
      singly.1.1[Batch.rank names name]? = some [outcome] ∧
      found[Batch.rank names name]? = some outcome.module?
  /-- Two positions hold the very same module if and only if they have the same name. -/
  shared : ∀ (i j : Nat) (name name' : String) (module module' : Shared Module),
    names[i]? = some name → names[j]? = some name' →
    done.1.1[i]? = some (.resolved module) → done.1.1[j]? = some (.resolved module') →
    (module.id = module'.id ↔ name = name')

theorem oneByOne (resolver : Resolver Options Cache) (names : List String) (file : String)
    (env : Env σ Options) :
    OneByOne resolver names file env
      (((names.eraseDups.mapM (finder.call host resolver.options file)).run resolver.cache).run
        env.world).1.1
      (((resolveSingly finder host names.eraseDups file).run resolver).run env)
      ((resolver.resolve finder host names file).run env) := by
  obtain ⟨whole, batch⟩ := resolve_found finder host resolver names file env
  obtain ⟨each, singly⟩ := resolveSingly_found finder host names.eraseDups file resolver env
  have count := finder.length_mapM_call host resolver.options names.eraseDups file resolver.cache
    env.world
  generalize ((names.eraseDups.mapM (finder.call host resolver.options file)).run
    resolver.cache).run env.world = found at whole batch each singly count ⊢
  have full : (number env.fresh found.1.1).length = names.eraseDups.length := by
    rw [length_number, count]
  -- the outcome at a position is the numbered one at the rank of its name
  have taken {i : Nat} {name : String} (here : names[i]? = some name) :
      ∃ outcome, ((resolver.resolve finder host names file).run env).1.1[i]? = some outcome ∧
        (number env.fresh found.1.1)[Batch.rank names name]? = some outcome := by
    rw [whole]
    exact Batch.getElem?_spread full here
  refine ⟨batch.searches, batch.searches.trans singly.searches.symm,
    batch.next.trans singly.next.symm, batch.world.trans singly.world.symm, ?_, ?_, ?_⟩
  · rw [whole]
    exact Batch.length_spread full
  · intro i name here
    obtain ⟨outcome, at_i, at_rank⟩ := taken here
    refine ⟨outcome, at_i, ?_, ?_⟩
    · rw [each, List.getElem?_map, at_rank, Option.map_some]
    · have contents := map_module?_number env.fresh found.1.1
      rw [← contents, List.getElem?_map, at_rank, Option.map_some]
  · intro i j name name' module module' here here' at_i at_j
    obtain ⟨outcome, at_i', at_rank⟩ := taken here
    obtain ⟨outcome', at_j', at_rank'⟩ := taken here'
    obtain rfl := Option.some.inj (at_i.symm.trans at_i')
    obtain rfl := Option.some.inj (at_j.symm.trans at_j')
    constructor
    · intro same
      exact Batch.eq_of_rank_eq (List.mem_of_getElem? here) (List.mem_of_getElem? here')
        (eq_of_number_id_eq at_rank at_rank' same)
    · rintro rfl
      rw [at_rank] at at_rank'
      cases at_rank'
      rfl

/-- **A batch is its distinct names, one at a time**, and its modules are its own: no batch that is
over when this one begins, and none that begins when this one is over, has one of them, whichever
resolver it belongs to. -/
theorem resolve_one_by_one (resolver : Resolver Options Cache) (names : List String)
    (file : String) (env : Env σ Options) :
    let done := (resolver.resolve finder host names file).run env
    OneByOne resolver names file env
        (((names.eraseDups.mapM (finder.call host resolver.options file)).run resolver.cache).run
          env.world).1.1
        (((resolveSingly finder host names.eraseDups file).run resolver).run env) done ∧
      ∀ {Cache' : Type} (other : Resolver Options Cache') (finder' : Finder σ Options Module Cache')
        (host' : Host σ) (names' : List String) (file' : String) (start : Env σ Options),
        let elsewhere := (other.resolve finder' host' names' file').run start
        done.2.Before start ∨ elsewhere.2.Before env →
        ∀ module ∈ modulesOf done.1.1, ∀ module' ∈ modulesOf elsewhere.1.1,
          module.id ≠ module'.id := by
  refine ⟨oneByOne finder host resolver names file env, ?_⟩
  intro Cache' other finder' host' names' file' start elsewhere apart module mem module' mem'
  rcases apart with before | after
  · exact Nat.ne_of_lt (id_lt_of_before finder host before mem mem')
  · exact Nat.ne_of_gt (id_lt_of_before finder' host' after mem' mem)

end Resolver

end ScopedImports
