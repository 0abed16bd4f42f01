import ScopedImports.Proofs.Resolution.Distinct
import ScopedImports.Resolution.Resolver

/-!
What a resolver does to its cache is what the finder alone does to it.

A resolver keeps a journal, counts its calls, and gives every module that it finds an identity.  All
this can be forgotten: the contents of the outcomes, the cache and the collaborators' world are
those of a bare batch, which is nothing but one call of the finder for each distinct name,

    answer names file  =  Batch.spread names <$> names.eraseDups.mapM (find · file).

`resolve_run` is the specification of a resolver; later modules do not open its definition.
-/

namespace ScopedImports

variable {σ Options Module Cache : Type}

/-- Call the finder for one name, from one cache to the next. -/
def Finder.call (finder : Finder σ Options Module Cache) (host : Host σ) (options : Options)
    (file name : String) : StateT Cache (StateM σ) (Option Module) :=
  finder.find name file options host

/-- A batch on a bare cache: the finder is called once for each distinct name, in order of first
occurrence, and every position takes the answer for its name. -/
def Finder.answer (finder : Finder σ Options Module Cache) (host : Host σ) (options : Options)
    (names : List String) (file : String) : StateT Cache (StateM σ) (List (Option Module)) :=
  Batch.spread names <$> names.eraseDups.mapM (finder.call host options file)

section Bare

variable (finder : Finder σ Options Module Cache) (host : Host σ) (options : Options)

theorem Finder.mapM_call_cons (name : String) (names : List String) (file : String) (cache : Cache)
    (world : σ) :
    (((name :: names).mapM (finder.call host options file)).run cache).run world
      = let first := (finder.find name file options host cache).run world
        let rest := ((names.mapM (finder.call host options file)).run first.1.2).run first.2
        ((first.1.1 :: rest.1.1, rest.1.2), rest.2) := by
  rw [List.mapM_cons, StateT.run_bind, StateT.run_bind]
  rfl

theorem Finder.answer_run (names : List String) (file : String) (cache : Cache) (world : σ) :
    ((finder.answer host options names file).run cache).run world
      = let found := ((names.eraseDups.mapM (finder.call host options file)).run cache).run world
        ((Batch.spread names found.1.1, found.1.2), found.2) := rfl

end Bare

theorem Batch.map_spread {α β : Type} (f : α → β) (names : List String) (values : List α) :
    (Batch.spread names values).map f = Batch.spread names (values.map f) := by
  simp [Batch.spread, List.map_filterMap]

namespace Resolver

variable (finder : Finder σ Options Module Cache) (host : Host σ) (options : Options)

/-! ### One name -/

/-- Going on record that the finder was called, with the world in which it left its answer. -/
def searched (name file : String) (options : Options) (world : σ) (env : Env σ Options) :
    Env σ Options :=
  { env with world, journal := env.journal ++ [.searched name file options] }

variable {finder host options} {name file : String} {progress : Progress Cache}
variable {env : Env σ Options} {value : Module} {cache : Cache} {world : σ}

theorem search_run_of_none
    (h : ((finder.call host options file name).run progress.cache).run env.world
      = ((none, cache), world)) :
    ((search finder host options name file).run progress).run env
      = ((.unresolved, ⟨cache, progress.loads + 1⟩), searched name file options world env) := by
  change (finder.find name file options host progress.cache).run env.world = _ at h
  show (Act.record _ >>= fun _ => Act.ask _ >>= _ : Act σ Options _).run env = _
  rw [StateT.run_bind, Act.run_record, pure_bind, StateT.run_bind, Act.run_ask, pure_bind]
  dsimp only
  rw [h]
  rfl

/-- A module that is found gets the next identity. -/
theorem search_run_of_some
    (h : ((finder.call host options file name).run progress.cache).run env.world
      = ((some value, cache), world)) :
    ((search finder host options name file).run progress).run env
      = ((.resolved ⟨env.fresh, value⟩, ⟨cache, progress.loads + 1⟩),
          { searched name file options world env with fresh := env.fresh + 1 }) := by
  change (finder.find name file options host progress.cache).run env.world = _ at h
  show (Act.record _ >>= fun _ => Act.ask _ >>= _ : Act σ Options _).run env = _
  rw [StateT.run_bind, Act.run_record, pure_bind, StateT.run_bind, Act.run_ask, pure_bind]
  dsimp only
  rw [h]
  rfl

/-! ### Many names -/

/-- What is left when `calls` have gone on record, and what the bare calls leave. -/
structure Mirrors (env : Env σ Options) (calls : List (Event Options)) (loads : Nat)
    (bare : (List (Option Module) × Cache) × σ)
    (done : (List (Resolution Module) × Progress Cache) × Env σ Options) : Prop where
  contents : done.1.1.map Resolution.module? = bare.1.1
  progress : done.1.2 = ⟨bare.1.2, loads⟩
  world : done.2.world = bare.2
  journal : done.2.journal = env.journal ++ calls
  fresh : env.fresh ≤ done.2.fresh

/-- One more call in front. -/
theorem Mirrors.cons {env env' : Env σ Options} {call : Event Options}
    {calls : List (Event Options)} {loads : Nat} {bare : (List (Option Module) × Cache) × σ}
    {done : (List (Resolution Module) × Progress Cache) × Env σ Options}
    (h : Mirrors env' calls loads bare done) (outcome : Resolution Module)
    (journal : env'.journal = env.journal ++ [call]) (fresh : env.fresh ≤ env'.fresh) :
    Mirrors env (call :: calls) loads ((outcome.module? :: bare.1.1, bare.1.2), bare.2)
      ((outcome :: done.1.1, done.1.2), done.2) where
  contents := by rw [List.map_cons, h.contents]
  progress := h.progress
  world := h.world
  journal := by rw [h.journal, journal, List.append_assoc, List.singleton_append]
  fresh := Nat.le_trans fresh h.fresh

variable (finder host options)

/-- Searching names one after the other mirrors the bare calls. -/
theorem mapM_search_mirrors (names : List String) (file : String) (progress : Progress Cache)
    (env : Env σ Options) :
    Mirrors env (names.map fun name => .searched name file options)
      (progress.loads + names.length)
      (((names.mapM (finder.call host options file)).run progress.cache).run env.world)
      (((names.mapM fun name => search finder host options name file).run progress).run env) := by
  induction names generalizing progress env with
  | nil => exact ⟨rfl, rfl, rfl, (List.append_nil _).symm, Nat.le_refl _⟩
  | cons name names ih =>
    have count : progress.loads + (name :: names).length = progress.loads + 1 + names.length := by
      rw [List.length_cons]
      omega
    rw [List.mapM_cons, List.mapM_cons, StateT.run_bind, StateT.run_bind, StateT.run_bind,
      StateT.run_bind, count]
    -- what the finder says now decides the step on both sides
    rcases h : ((finder.call host options file name).run progress.cache).run env.world
      with ⟨⟨- | value, cache⟩, world⟩
    · rw [search_run_of_none h]
      have rest := ih ⟨cache, progress.loads + 1⟩ (searched name file options world env)
      exact rest.cons .unresolved rfl (Nat.le_refl _)
    · rw [search_run_of_some h]
      have rest := ih ⟨cache, progress.loads + 1⟩
        { searched name file options world env with fresh := env.fresh + 1 }
      exact rest.cons (.resolved ⟨env.fresh, value⟩) rfl (Nat.le_succ _)

/-! ### A batch of a resolver -/

/-- A resolver searches the distinct names, spreads the outcomes, and leaves a line. -/
theorem resolve_eq (resolver : Resolver Options Cache) (names : List String) (file : String)
    (env : Env σ Options) :
    (resolver.resolve finder host names file).run env
      = let done := ((names.eraseDups.mapM fun name =>
          search finder host resolver.options name file).run ⟨resolver.cache, 0⟩).run env
        ((Batch.spread names done.1.1, { resolver with cache := done.1.2.cache }),
          { done.2 with journal := done.2.journal
              ++ [.noted (.resolvedBatch resolver.scope file names.length done.1.2.loads)] }) := by
  rw [resolve, Batch.load_eq]
  rfl

/-- What a resolver leaves after a batch: the contents, the cache and the world of a bare batch, one
call on record for each distinct name, and a line for the log. -/
structure Resolved (resolver : Resolver Options Cache) (names : List String) (file : String)
    (env : Env σ Options) (bare : (List (Option Module) × Cache) × σ)
    (done : (List (Resolution Module) × Resolver Options Cache) × Env σ Options) : Prop where
  contents : done.1.1.map Resolution.module? = bare.1.1
  next : done.1.2 = { resolver with cache := bare.1.2 }
  world : done.2.world = bare.2
  journal : done.2.journal = env.journal
    ++ names.eraseDups.map (fun name => .searched name file resolver.options)
    ++ [.noted (.resolvedBatch resolver.scope file names.length names.eraseDups.length)]
  fresh : env.fresh ≤ done.2.fresh

/-- **A resolver does to its cache what the finder alone does to it.** -/
theorem resolve_run (resolver : Resolver Options Cache) (names : List String) (file : String)
    (env : Env σ Options) :
    Resolved resolver names file env
      (((finder.answer host resolver.options names file).run resolver.cache).run env.world)
      ((resolver.resolve finder host names file).run env) := by
  obtain ⟨contents, progress, world, journal, fresh⟩ := mapM_search_mirrors finder host
    resolver.options names.eraseDups file ⟨resolver.cache, 0⟩ env
  rw [Finder.answer_run, resolve_eq]
  constructor
  -- spreading does not look at the outcomes, so it commutes with taking their contents
  · rw [Batch.map_spread, contents]
  · dsimp only
    rw [progress]
  · exact world
  · dsimp only
    rw [progress, journal, Nat.zero_add]
  · exact fresh

end Resolver

end ScopedImports
