import ScopedImports.Proofs.Lookup.Walk
import ScopedImports.Proofs.Resolution.BareBatch
import ScopedImports.Session.Request

/-!
What a session does, step by step.

Every request is made of three steps, each of which may be missing: the scope that governs a file is
located, the resolver of a scope is obtained, and a resolver resolves a batch,

    locate file            locate
    resolverFor scope               obtain
    resolveIn scope ..              obtain   batch
    resolve, strict, hook  locate   obtain   batch      (no batch where no resolver is obtained).

Each step has its specification here: `locate_spec`, `obtains`, `batched`.  `asks` says for which
scope, and when, a request asks for a resolver, and `serve_of_asks` what the request then comes to.
Later modules use these and do not open the definitions.
-/

namespace ScopedImports

namespace Session

/-- A session between two steps: what it remembers, and what is on record. -/
structure State (σ Options Cache : Type) where
  memory : Memory Options Cache
  env : Env σ Options

variable {σ Options Module Cache α β : Type}

namespace State

/-- Let the session act: the answer, and the session afterwards. -/
def run (state : State σ Options Cache) (action : SessionM σ Options Cache α) :
    α × State σ Options Cache :=
  let done := (action.run state.memory).run state.env
  (done.1.1, ⟨done.1.2, done.2⟩)

theorem run_bind (state : State σ Options Cache) (action : SessionM σ Options Cache α)
    (next : α → SessionM σ Options Cache β) :
    state.run (action >>= next) = (state.run action).2.run (next (state.run action).1) := rfl

theorem run_map (state : State σ Options Cache) (action : SessionM σ Options Cache α) (f : α → β) :
    state.run (f <$> action) = (f (state.run action).1, (state.run action).2) := rfl

/-- An action that cannot fail, in front of one that can. -/
theorem run_lift_bind (state : State σ Options Cache) (action : SessionM σ Options Cache α)
    (next : α → ExceptT Failure (SessionM σ Options Cache) β) :
    state.run (liftM action >>= next : ExceptT Failure (SessionM σ Options Cache) β).run
      = (state.run action).2.run (next (state.run action).1).run := rfl

/-- A failure ends what it is part of. -/
theorem run_except_bind (state : State σ Options Cache)
    (action : ExceptT Failure (SessionM σ Options Cache) α)
    (next : α → ExceptT Failure (SessionM σ Options Cache) β) :
    state.run (action >>= next).run
      = match state.run action.run with
        | (.error failure, state) => (.error failure, state)
        | (.ok a, state) => state.run (next a).run := by
  rw [ExceptT.run_bind, run_bind]
  rcases state.run action.run with ⟨failure | a, state⟩
  · rfl
  · rfl

theorem run_onPresence (state : State σ Options Cache)
    (action : StateT Presence (Act σ Options) α) :
    state.run (onPresence action)
      = let done := (action.run state.memory.presence).run state.env
        (done.1.1, ⟨{ state.memory with presence := done.1.2 }, done.2⟩) := rfl

theorem run_onResolvers (state : State σ Options Cache)
    (action : StateT (Registry (Resolver Options Cache)) (Act σ Options) α) :
    state.run (onResolvers action)
      = let done := (action.run state.memory.resolvers).run state.env
        (done.1.1, ⟨{ state.memory with resolvers := done.1.2 }, done.2⟩) := rfl

/-- The resolver that the session keeps for a scope. -/
def resolver? (state : State σ Options Cache) (scope : Scope) : Option (Resolver Options Cache) :=
  state.memory.resolvers.find? scope

/-- A new resolver is kept under its own scope, and the other scopes keep theirs. -/
theorem resolver?_push {memory : Memory Options Cache} {env : Env σ Options} {scope : Scope}
    {resolver : Resolver Options Cache} (new : memory.resolvers.find? scope = none)
    (other : Scope) :
    (⟨{ memory with resolvers := memory.resolvers.push scope resolver new }, env⟩ :
        State σ Options Cache).resolver? other
      = if scope = other then some resolver else memory.resolvers.find? other := by
  show (memory.resolvers.push scope resolver new).find? other = _
  simp only [Memo.find?_push, Scope.bytes_inj]

/-- A resolver is the one that was kept just now, or it was there before. -/
theorem of_resolver?_push {memory : Memory Options Cache} {env : Env σ Options} {scope : Scope}
    {resolver : Resolver Options Cache} (new : memory.resolvers.find? scope = none)
    {other : Scope} {kept : Resolver Options Cache}
    (h : (⟨{ memory with resolvers := memory.resolvers.push scope resolver new }, env⟩ :
        State σ Options Cache).resolver? other = some kept) :
    scope = other ∧ resolver = kept ∨ memory.resolvers.find? other = some kept := by
  change (memory.resolvers.push scope resolver new).find? other = some kept at h
  rw [← Scope.bytes_inj]
  exact Memo.of_find?_push new h

/-- A batch moves the resolver of its own scope, and the other scopes keep theirs. -/
theorem resolver?_update (memory : Memory Options Cache) (env : Env σ Options) (scope : Scope)
    (advance : Resolver Options Cache → Resolver Options Cache) (other : Scope) :
    (⟨{ memory with resolvers := memory.resolvers.update scope advance }, env⟩ :
        State σ Options Cache).resolver? other
      = if scope = other then (memory.resolvers.find? other).map advance
        else memory.resolvers.find? other := by
  show (memory.resolvers.update scope advance).find? other = _
  simp only [Memo.find?_update, Scope.bytes_inj]

end State

variable (session : Session σ Options Module Cache) (state : State σ Options Cache)

/-! ### Locating -/

/-- The walk that locates a file. -/
def walk (file : String) : (Option Path × Presence) × Env σ Options :=
  (((Locator.reentrant session.host).firstPresent (session.locator.places
    (session.host.workingDirectory state.env.world).1 file)).run state.memory.presence).run
      ((Locator.reentrant session.host).entered state.env)

/-- Locating a file changes what is known about files, and nothing else is remembered. -/
theorem locate_spec (file : String) :
    state.run (session.locate file)
      = let walk := session.walk state file
        (session.locator.scopeOf walk.1.1,
          ⟨{ state.memory with presence := walk.1.2 },
            { walk.2 with
              journal := walk.2.journal ++ [.noted (session.locator.noteOf file walk.1.1)] }⟩) := by
  rw [locate, State.run_onPresence, Locator.locate_run, walk]

/-! ### Obtaining a resolver -/

/-- Ask for the resolver of a scope. -/
def obtain (scope : Scope) : Except Failure (Resolver Options Cache) × State σ Options Cache :=
  state.run (session.resolverFor scope).run

/-- What the loader says about a scope when it is asked now, and the world in which it leaves. -/
def load (scope : Scope) : Except Failure Options × σ :=
  session.loader scope.path state.env.world

/-- The cache that the finder makes in a world, the directory it is made for, and the world in which
it is made. -/
def freshCache (world : σ) : (Path × Cache) × σ :=
  let asked := session.host.workingDirectory world
  let made := session.finder.newCache asked.1 session.host asked.2
  ((asked.1, made.1), made.2)

/-- The resolver that is built for a scope now, given its options. -/
def newResolver (scope : Scope) (options : Options) : Resolver Options Cache :=
  ⟨state.env.fresh, scope, options, (session.freshCache (session.load state scope).2).1.2⟩

/-- What obtaining the resolver of a scope comes to. -/
inductive Obtains (scope : Scope) :
    Except Failure (Resolver Options Cache) × State σ Options Cache → Prop
  /-- The scope has a resolver, and nothing happens. -/
  | stored {resolver : Resolver Options Cache} :
      state.resolver? scope = some resolver → Obtains scope (.ok resolver, state)
  /-- The loader rejects the scope's configuration, and nothing is kept. -/
  | rejected {failure : Failure} :
      state.resolver? scope = none → (session.load state scope).1 = .error failure →
      Obtains scope (.error failure,
        ⟨state.memory, { state.env with
          world := (session.load state scope).2
          journal := state.env.journal
            ++ [.parsed scope.path, .noted (.loadFailed scope failure)] }⟩)
  /-- The options are known now, and a new resolver is built and kept. -/
  | built {options : Options} (new : state.memory.resolvers.find? scope = none) :
      (session.load state scope).1 = .ok options →
      Obtains scope (.ok (session.newResolver state scope options),
        ⟨{ state.memory with resolvers :=
            state.memory.resolvers.push scope (session.newResolver state scope options) new },
          { world := (session.freshCache (session.load state scope).2).2
            fresh := state.env.fresh + 1
            journal := state.env.journal ++ [.parsed scope.path, .noted (.building scope),
              .madeCache (session.freshCache (session.load state scope).2).1.1] }⟩)

theorem build_run_of_error {scope : Scope} {failure : Failure}
    (h : (session.load state scope).1 = .error failure) :
    (session.build scope).run state.env
      = (.error failure, { state.env with
          world := (session.load state scope).2
          journal := state.env.journal
            ++ [.parsed scope.path, .noted (.loadFailed scope failure)] }) := by
  have journal (first second : Event Options) :
      state.env.journal ++ [first] ++ [second] = state.env.journal ++ [first, second] :=
    List.append_assoc _ _ _
  change ((session.loader scope.path).run state.env.world).1 = _ at h
  rw [build, StateT.run_bind, Act.run_record, pure_bind, StateT.run_bind, Act.run_ask, pure_bind, h]
  dsimp only
  rw [StateT.run_bind, Act.run_note, pure_bind, journal]
  rfl

theorem build_run_of_ok {scope : Scope} {options : Options}
    (h : (session.load state scope).1 = .ok options) :
    (session.build scope).run state.env
      = (.ok (session.newResolver state scope options),
          { world := (session.freshCache (session.load state scope).2).2
            fresh := state.env.fresh + 1
            journal := state.env.journal ++ [.parsed scope.path, .noted (.building scope),
              .madeCache (session.freshCache (session.load state scope).2).1.1] }) := by
  have journal (first second third : Event Options) :
      state.env.journal ++ [first] ++ [second] ++ [third]
        = state.env.journal ++ [first, second, third] := by
    rw [List.append_assoc, List.append_assoc]
    rfl
  change ((session.loader scope.path).run state.env.world).1 = _ at h
  rw [build, StateT.run_bind, Act.run_record, pure_bind, StateT.run_bind, Act.run_ask, pure_bind, h]
  dsimp only
  -- the note, and then the new resolver with its cache
  rw [StateT.run_bind, Act.run_note, pure_bind, StateT.run_map, Resolver.build_run, map_pure,
    journal]
  rfl

/-- The way in which a session builds a resolver, as the registry runs it. -/
def builder (scope : Scope) :
    ExceptT Failure (StateT (Registry (Resolver Options Cache)) (Act σ Options))
      (Resolver Options Cache) :=
  ExceptT.mk (liftM (session.build scope))

/-- Obtaining a resolver is asking the registry, with the session's way to build one. -/
theorem obtain_run (scope : Scope) :
    session.obtain state scope
      = let done := ((Registry.obtain scope session.builder).run.run state.memory.resolvers).run
          state.env
        (done.1.1, ⟨{ state.memory with resolvers := done.1.2 }, done.2⟩) :=
  state.run_onResolvers (Registry.obtain scope session.builder).run

theorem builder_run (scope : Scope) (registry : Registry (Resolver Options Cache))
    (env : Env σ Options) :
    ((session.builder scope).run.run registry).run env
      = ((((session.build scope).run env).1, registry), ((session.build scope).run env).2) := rfl

theorem obtain_of_some {scope : Scope} {resolver : Resolver Options Cache}
    (h : state.resolver? scope = some resolver) :
    session.obtain state scope = (.ok resolver, state) := by
  rw [obtain_run, Registry.obtain, Memo.consult_except_of_some h]
  rfl

/-- Without a resolver for the scope, one is built, and what is built is kept. -/
theorem obtain_of_none {scope : Scope} (new : state.memory.resolvers.find? scope = none) :
    session.obtain state scope
      = match (session.build scope).run state.env with
        | (.error failure, env) => (.error failure, ⟨state.memory, env⟩)
        | (.ok resolver, env) =>
          (.ok resolver,
            ⟨{ state.memory with resolvers := state.memory.resolvers.push scope resolver new },
              env⟩) := by
  rw [obtain_run, Registry.obtain, Memo.consult_except_of_none new, StateT.run_bind, builder_run]
  -- building does not use the registry, so the look-up that settles finds the scope still free
  rcases (session.build scope).run state.env with ⟨failure | resolver, env⟩
  · rfl
  · show (Except.ok (state.memory.resolvers.settle scope resolver).1,
      (⟨{ state.memory with resolvers := (state.memory.resolvers.settle scope resolver).2 }, env⟩ :
        State σ Options Cache)) = _
    rw [Memo.settle_of_none new]

theorem obtain_of_error {scope : Scope} {failure : Failure}
    (new : state.memory.resolvers.find? scope = none)
    (h : (session.load state scope).1 = .error failure) :
    session.obtain state scope
      = (.error failure, ⟨state.memory, { state.env with
          world := (session.load state scope).2
          journal := state.env.journal
            ++ [.parsed scope.path, .noted (.loadFailed scope failure)] }⟩) := by
  rw [obtain_of_none session state new, build_run_of_error session state h]

theorem obtain_of_ok {scope : Scope} {options : Options}
    (new : state.memory.resolvers.find? scope = none)
    (h : (session.load state scope).1 = .ok options) :
    session.obtain state scope
      = (.ok (session.newResolver state scope options),
          ⟨{ state.memory with resolvers :=
              state.memory.resolvers.push scope (session.newResolver state scope options) new },
            { world := (session.freshCache (session.load state scope).2).2
              fresh := state.env.fresh + 1
              journal := state.env.journal ++ [.parsed scope.path, .noted (.building scope),
                .madeCache (session.freshCache (session.load state scope).2).1.1] }⟩) := by
  rw [obtain_of_none session state new, build_run_of_ok session state h]

theorem obtains (scope : Scope) : Obtains session state scope (session.obtain state scope) := by
  rcases new : state.memory.resolvers.find? scope with - | resolver
  · rcases h : (session.load state scope).1 with failure | options
    · rw [obtain_of_error session state new h]
      exact .rejected new h
    · rw [obtain_of_ok session state new h]
      exact .built new h
  · rw [obtain_of_some session state new]
    exact .stored new

/-! ### Resolving a batch -/

/-- Have a resolver resolve a batch. -/
def batch (resolver : Resolver Options Cache) (names : List String) (file : String) :
    List (Resolution Module) × State σ Options Cache :=
  state.run (session.resolveWith resolver names file)

/-- What a resolver makes of a batch: the answers of the finder alone, on the resolver's own cache
and with its own options. -/
def bareBatch (resolver : Resolver Options Cache) (names : List String) (file : String) :
    (List (Option Module) × Cache) × σ :=
  ((session.finder.answer session.host resolver.options names file).run resolver.cache).run
    state.env.world

/-- What a batch comes to. -/
structure Batched (resolver : Resolver Options Cache) (names : List String) (file : String)
    (outcomes : List (Resolution Module)) (after : State σ Options Cache) : Prop where
  contents : outcomes.map Resolution.module? = (session.bareBatch state resolver names file).1.1
  memory : after.memory = { state.memory with
    resolvers := state.memory.resolvers.update resolver.scope fun _ =>
      { resolver with cache := (session.bareBatch state resolver names file).1.2 } }
  world : after.env.world = (session.bareBatch state resolver names file).2
  journal : after.env.journal = state.env.journal
    ++ names.eraseDups.map (fun name => .searched name file resolver.options)
    ++ [.noted (.resolvedBatch resolver.scope file names.length names.eraseDups.length)]
  fresh : state.env.fresh ≤ after.env.fresh

theorem batch_run (resolver : Resolver Options Cache) (names : List String) (file : String) :
    session.batch state resolver names file
      = let done := (resolver.resolve session.finder session.host names file).run state.env
        (done.1.1, ⟨{ state.memory with
          resolvers := state.memory.resolvers.update resolver.scope fun _ => done.1.2 },
          done.2⟩) := rfl

theorem batched (resolver : Resolver Options Cache) (names : List String) (file : String) :
    Batched session state resolver names file (session.batch state resolver names file).1
      (session.batch state resolver names file).2 := by
  obtain ⟨contents, next, world, journal, fresh⟩ :=
    Resolver.resolve_run session.finder session.host resolver names file state.env
  rw [batch_run]
  refine ⟨contents, ?_, world, journal, fresh⟩
  dsimp only
  rw [next]
  rfl

/-! ### Serving a request -/

/-- The scope whose resolver a request asks for, and the session at that moment. -/
def asks : Request → Option (Scope × State σ Options Cache)
  | .locate _ => none
  | .resolverFor scope | .resolveIn scope _ _ => some (scope, state)
  | .resolve _ file | .resolveStrict _ file | .hook _ file => some (state.run (session.locate file))

/-- The names that a request wants resolved, and the file in which they occur. -/
def Request.batch? : Request → Option (List String × String)
  | .locate _ | .resolverFor _ => none
  | .resolve names file | .resolveStrict names file | .hook names file
  | .resolveIn _ names file => some (names, file)

/-- The response to a request whose scope's resolver could not be had. -/
def Request.refusal (failure : Failure) : Request → Response Options Module Cache
  | .locate _ | .resolverFor _ => .resolver (.error failure)
  | .resolveStrict _ _ => .modules (.error failure)
  | .resolve _ _ | .hook _ _ | .resolveIn _ _ _ => .outcomes (.error failure)

/-- The response to a request whose batch came to `outcomes`. -/
def Request.conclusion (outcomes : List (Resolution Module)) :
    Request → Response Options Module Cache
  | .resolveStrict names file => .modules (Resolution.demand file names outcomes)
  | _ => .outcomes (.ok outcomes)

/-- What a request comes to once its scope's resolver is had, or cannot be had. -/
def conclude (request : Request) :
    Except Failure (Resolver Options Cache) × State σ Options Cache →
      Response Options Module Cache × State σ Options Cache
  | (.error failure, state) => (request.refusal failure, state)
  | (.ok resolver, state) =>
    match request.batch? with
    | none => (.resolver (.ok resolver), state)
    | some (names, file) =>
      (request.conclusion (session.batch state resolver names file).1,
        (session.batch state resolver names file).2)

section Conclude

variable {session} {request : Request}
variable {had : Except Failure (Resolver Options Cache) × State σ Options Cache}

theorem conclude_of_error {failure : Failure} (h : had.1 = .error failure) :
    session.conclude request had = (request.refusal failure, had.2) := by
  obtain ⟨result, later⟩ := had
  cases h
  rfl

theorem conclude_of_ok {resolver : Resolver Options Cache} (h : had.1 = .ok resolver) :
    session.conclude request had
      = match request.batch? with
        | none => (.resolver (.ok resolver), had.2)
        | some (names, file) => (request.conclusion (session.batch had.2 resolver names file).1,
            (session.batch had.2 resolver names file).2) := by
  obtain ⟨result, later⟩ := had
  cases h
  rfl

end Conclude

/-- Have the resolver of a scope, if it can be had, resolve a batch. -/
theorem resolveIn_run (scope : Scope) (names : List String) (file : String) :
    state.run (session.resolveIn scope names file).run
      = match session.obtain state scope with
        | (.error failure, state) => (.error failure, state)
        | (.ok resolver, state) =>
          (.ok (session.batch state resolver names file).1,
            (session.batch state resolver names file).2) := by
  rw [resolveIn, State.run_except_bind, obtain]
  rcases state.run (session.resolverFor scope).run with ⟨failure | resolver, state⟩
  · rfl
  · rfl

/-- Resolving is locating the file, and then having its scope's resolver resolve the batch. -/
theorem resolve_run (names : List String) (file : String) :
    state.run (session.resolve names file).run
      = (state.run (session.locate file)).2.run
          (session.resolveIn (state.run (session.locate file)).1 names file).run :=
  state.run_lift_bind (session.locate file) fun scope => session.resolveIn scope names file

theorem resolveStrict_run (names : List String) (file : String) :
    state.run (session.resolveStrict names file).run
      = match state.run (session.resolve names file).run with
        | (.error failure, state) => (.error failure, state)
        | (.ok outcomes, state) => (Resolution.demand file names outcomes, state) := by
  rw [resolveStrict, State.run_except_bind]
  rcases state.run (session.resolve names file).run with ⟨failure | outcomes, state⟩
  · rfl
  · rfl

theorem serve_locate (file : String) :
    state.run (session.serve (.locate file))
      = (.located (state.run (session.locate file)).1, (state.run (session.locate file)).2) := by
  rw [serve, State.run_map]

/-- A request that asks for no resolver is a bare look-up. -/
theorem eq_locate_of_asks {request : Request} (h : session.asks state request = none) :
    ∃ file, request = .locate file := by
  cases request with
  | locate file => exact ⟨file, rfl⟩
  | resolverFor _ | resolveIn _ _ _ => exact absurd h (Option.some_ne_none _)
  | resolve _ _ | resolveStrict _ _ | hook _ _ => exact absurd h (Option.some_ne_none _)

/-- **What a request comes to** is decided by the resolver that it is given when it asks. -/
theorem serve_of_asks {request : Request} {place : Scope × State σ Options Cache}
    (h : session.asks state request = some place) :
    state.run (session.serve request)
      = session.conclude request (session.obtain place.2 place.1) := by
  cases request with
  | locate file => cases h
  | resolverFor scope =>
    cases h
    rw [serve, State.run_map, ← obtain]
    rcases session.obtain state scope with ⟨failure | resolver, later⟩
    · rfl
    · rfl
  | resolveIn scope names file =>
    cases h
    rw [serve, State.run_map, resolveIn_run]
    rcases session.obtain state scope with ⟨failure | resolver, later⟩
    · rfl
    · rfl
  | resolve names file =>
    obtain rfl := Option.some.inj h
    rw [serve, State.run_map, resolve_run, resolveIn_run]
    rcases session.obtain _ _ with ⟨failure | resolver, later⟩
    · rfl
    · rfl
  | hook names file =>
    obtain rfl := Option.some.inj h
    rw [serve, State.run_map, hook, resolve_run, resolveIn_run]
    rcases session.obtain _ _ with ⟨failure | resolver, later⟩
    · rfl
    · rfl
  | resolveStrict names file =>
    obtain rfl := Option.some.inj h
    rw [serve, State.run_map, resolveStrict_run, resolve_run, resolveIn_run]
    rcases session.obtain _ _ with ⟨failure | resolver, later⟩
    · rfl
    · rfl

end Session

end ScopedImports
