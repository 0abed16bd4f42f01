import ScopedImports.Proofs.InMemory.Steady
import ScopedImports.Proofs.Session.Resolvers

/-!
Every scope has its finder's cache to itself.

Take away from a run everything but the batches that were run on the resolver of one scope, and let
the finder work through these alone, from a new cache:

    run       locate · batch on s · batch on t · failed load of u · batch on s · ...
    replay             batch on s                                 · batch on s

The cache that the scope's resolver has in the end and the contents of all those batches are the
same in both (`isolated`).  The loader may answer as it likes; the finder must keep what it knows in
its cache, and always make the same new cache.

A batch has been run on a resolver as soon as there was a resolver to run it on.  A strict request
whose names do not all resolve fails only after that, so it leaves its trace
(`strict_leaves_trace`).
-/

namespace ScopedImports.Session

variable {σ Options Module Cache : Type}

/-- A batch that was run on the resolver of a scope. -/
structure Ran (Module : Type) where
  scope : Scope
  names : List String
  file : String
  outcomes : List (Resolution Module)

/-- What was asked. -/
def Ran.batch (ran : Ran Module) : List String × String := (ran.names, ran.file)

/-- What came of it. -/
def Ran.contents (ran : Ran Module) : List (Option Module) := ran.outcomes.map Resolution.module?

variable (session : Session σ Options Module Cache)

/-- The batch that is run in a turn, on the resolver that the turn is given. -/
def ran? (turn : Turn σ Options Module Cache) : Option (Ran Module) := do
  let (scope, asked) ← session.asks turn.before turn.request
  match session.obtain asked scope with
  | (.error _, _) => none
  | (.ok resolver, later) =>
    turn.request.batch?.map fun (names, file) =>
      ⟨scope, names, file, (session.batch later resolver names file).1⟩

/-- Those of the batches that were run on the resolver of `scope`. -/
def on (scope : Scope) (batches : List (Ran Module)) : List (Ran Module) :=
  batches.filter fun ran => ran.scope = scope

/-- The host, the finder and the loader leave the world stable.  The finder keeps what it knows in
its cache, and makes new caches that are all the same. -/
structure Confined (Stable : σ → Prop) : Prop where
  workingDirectory : ∃ directory, Answers Stable session.host.workingDirectory directory
  isFile : ∀ path, Keeps Stable (session.host.isFile path)
  loader : ∀ path, Keeps Stable (session.loader path)
  newCache : ∀ directory,
    ∃ cache, Answers Stable (session.finder.newCache directory session.host) cache
  finder : session.finder.Forgetful session.host Stable

/-- Collaborators in memory are confined, as long as the files stay the same. -/
theorem confined_inMemory (files : List Path) (directory : Path) (matching : InMemory.Matching)
    (fold : Bool) (prepared : InMemory.Prepared) (locator : Locator) :
    Confined (InMemory.sessionOver (InMemory.setHost directory matching fold) prepared locator)
      (InMemory.FilesAre files) where
  workingDirectory := ⟨_, InMemory.workingDirectory_answers directory matching fold⟩
  isFile path := (InMemory.isFile_answers directory matching fold path).keeps
  loader := InMemory.preparedLoader_keeps prepared
  newCache asked := ⟨_, InMemory.newCache_answers asked fun name =>
    ⟨_, InMemory.canonicalName_answers directory matching fold name⟩⟩
  finder := InMemory.composingFinder_forgetful
    (fun path => ⟨_, InMemory.isFile_answers directory matching fold path⟩)
    (fun name => ⟨_, InMemory.canonicalName_answers directory matching fold name⟩)

variable {session} {Stable : σ → Prop} {state : State σ Options Cache}
variable {past : List (Ran Module)}

/-! ### The batches of a run -/

theorem ran?_of_asks_none {request : Request} (asks : session.asks state request = none) :
    session.ran? (session.turn state request) = none := by
  rw [ran?, turn, asks]
  rfl

section Given

variable {request : Request} {scope : Scope} {asked later : State σ Options Cache}
variable (asks : session.asks state request = some (scope, asked))

include asks

theorem ran?_of_error {failure : Failure}
    (had : session.obtain asked scope = (.error failure, later)) :
    session.ran? (session.turn state request) = none := by
  rw [ran?, turn, asks]
  dsimp only [Option.bind_eq_bind, Option.bind_some]
  rw [had]

theorem ran?_of_ok {resolver : Resolver Options Cache}
    (had : session.obtain asked scope = (.ok resolver, later)) :
    session.ran? (session.turn state request) = request.batch?.map fun batch =>
      ⟨scope, batch.1, batch.2, (session.batch later resolver batch.1 batch.2).1⟩ := by
  rw [ran?, turn, asks]
  dsimp only [Option.bind_eq_bind, Option.bind_some]
  rw [had]

end Given

/-- The outcomes of a batch are what the response reports. -/
theorem response_of_ran? {request : Request} {ran : Ran Module}
    (h : session.ran? (session.turn state request) = some ran) :
    (session.turn state request).response = request.conclusion ran.outcomes := by
  rcases asks : session.asks state request with - | ⟨scope, asked⟩
  · rw [ran?_of_asks_none asks] at h
    cases h
  · rcases had : session.obtain asked scope with ⟨failure | resolver, later⟩
    · rw [ran?_of_error asks had] at h
      cases h
    · rw [ran?_of_ok asks had] at h
      rw [turn_of_asks asks, had, conclude]
      rcases wants : request.batch? with - | ⟨names, file⟩
      · rw [wants] at h
        cases h
      · rw [wants] at h
        cases h
        rfl

theorem on_concat_self (past : List (Ran Module)) (ran : Ran Module) :
    on ran.scope (past ++ [ran]) = on ran.scope past ++ [ran] := by
  rw [on, List.filter_append, List.filter_cons_of_pos (by simp), List.filter_nil, on]

theorem on_concat_of_ne {ran : Ran Module} {scope : Scope} (h : ran.scope ≠ scope) :
    on scope (past ++ [ran]) = on scope past := by
  rw [on, List.filter_append, List.filter_cons_of_neg (by simpa using h), List.filter_nil,
    List.append_nil, on]

/-! ### The invariant -/

/-- At every point of a run, a scope's cache is that of the replay of the scope's own batches. -/
structure Isolated (session : Session σ Options Module Cache) (Stable : σ → Prop)
    (past : List (Ran Module)) (state : State σ Options Cache) : Prop where
  sound : state.Sound
  stable : Stable state.env.world
  unasked : ∀ ⦃scope⦄, state.resolver? scope = none → on scope past = []
  replays : ∀ ⦃scope resolver⦄, state.resolver? scope = some resolver →
    Answers Stable
      (session.finder.replay session.host resolver.options ((on scope past).map Ran.batch))
      ((on scope past).map Ran.contents, resolver.cache)

namespace Isolated

variable (confined : session.Confined Stable)

theorem of_empty (env : Env σ Options) (stable : Stable env.world) :
    Isolated session Stable [] (⟨.empty, env⟩ : State σ Options Cache) where
  sound := State.sound_of_empty env
  stable := stable
  unasked _ _ := rfl
  replays _ _ kept := nomatch kept

/-- The invariant is about the resolvers and the world. -/
theorem congr {later : State σ Options Cache} (h : Isolated session Stable past state)
    (sound : later.Sound) (stable : Stable later.env.world)
    (same : ∀ scope, later.resolver? scope = state.resolver? scope) :
    Isolated session Stable past later where
  sound := sound
  stable := stable
  unasked scope none := h.unasked (same scope ▸ none)
  replays scope _ kept := h.replays (same scope ▸ kept)

include confined

theorem locate (h : Isolated session Stable past state) (file : String) :
    Isolated session Stable past (state.run (session.locate file)).2 := by
  have stable : Stable (state.run (session.locate file)).2.env.world := by
    refine session.env_locate (P := fun env => Stable env.world) state file ?_ ?_ ?_ h.stable
    · intro env path stable
      exact confined.isFile path _ stable
    · intro env stable
      obtain ⟨directory, answers⟩ := confined.workingDirectory
      exact answers.keeps _ stable
    · intro env note stable
      exact stable
  exact h.congr (sound_preserved.locate file h.sound) stable (session.resolver?_locate state file)

/-- A new cache is what an empty replay leaves. -/
theorem freshCache {world : σ} (stable : Stable world) :
    Stable (session.freshCache world).2 ∧ ∀ options,
      Answers Stable (session.finder.replay session.host options [])
        ([], (session.freshCache world).1.2) := by
  obtain ⟨directory, here⟩ := confined.workingDirectory
  obtain ⟨cache, made⟩ := confined.newCache directory
  obtain ⟨entered, steady, fresh⟩ := session.freshCache_of_answers here stable
  obtain ⟨answer, later⟩ := made entered steady
  rw [fresh, answer]
  refine ⟨later, fun options => ?_⟩
  rw [Finder.replay_nil]
  exact here.bind (made.map _)

theorem obtain (h : Isolated session Stable past state) (scope : Scope) :
    Isolated session Stable past (session.obtain state scope).2 := by
  have sound : (session.obtain state scope).2.Sound := sound_preserved.obtain scope h.sound
  have loaded : Stable (session.load state scope).2 := confined.loader scope.path _ h.stable
  have obtains := session.obtains state scope
  generalize session.obtain state scope = done at sound obtains ⊢
  cases obtains with
  | stored kept => exact h
  | rejected new failed => exact h.congr sound loaded fun _ => rfl
  | @built options new ready =>
    obtain ⟨stable, empty⟩ := freshCache confined loaded
    refine ⟨sound, stable, ?_, ?_⟩
    -- a scope that has no resolver even now has not had one before
    · intro other none
      rw [State.resolver?_push] at none
      by_cases same : scope = other
      · rw [if_pos same] at none
        cases none
      · rw [if_neg same] at none
        exact h.unasked none
    · intro other resolver kept
      rcases State.of_resolver?_push new kept with ⟨rfl, rfl⟩ | before
      · -- no batch has been run on the scope before its resolver was there
        rw [h.unasked new]
        exact empty options
      · exact h.replays before

theorem batch (h : Isolated session Stable past state) {scope : Scope}
    {resolver : Resolver Options Cache} (kept : state.resolver? scope = some resolver)
    (names : List String) (file : String) :
    Isolated session Stable
      (past ++ [⟨scope, names, file, (session.batch state resolver names file).1⟩])
      (session.batch state resolver names file).2 := by
  have batched := session.batched state resolver names file
  have after : ∀ other, (session.batch state resolver names file).2.resolver? other = _ :=
    resolver?_batch kept (h.sound.scope_eq kept) names file
  obtain ⟨last, answers⟩ := confined.finder.answer resolver.options names file resolver.cache
  obtain ⟨bare, stable⟩ := answers state.env.world h.stable
  change (session.bareBatch state resolver names file).1 = last at bare
  -- a batch of another scope drops out of the filter, and leaves the resolver alone
  refine ⟨sound_preserved.batch names file kept h.sound, ?_, ?_, ?_⟩
  · rw [batched.world]
    exact stable
  · intro other none
    rw [after] at none
    by_cases same : scope = other
    · rw [if_pos same] at none
      cases none
    · rw [if_neg same] at none
      rw [on_concat_of_ne same]
      exact h.unasked none
  · intro other resolver' kept'
    rcases of_resolver?_batch kept (h.sound.scope_eq kept) kept' with ⟨rfl, rfl⟩ | ⟨same, before⟩
    · -- the batch acts on the cache that the replay so far has left
      have replayed := (h.replays kept).replay_concat answers
      have contents := batched.contents
      rw [bare] at contents
      rw [on_concat_self past ⟨scope, names, file, _⟩, List.map_append, List.map_append, bare]
      show Answers Stable _ (_ ++ [Ran.contents ⟨scope, names, file, _⟩], last.2)
      rw [Ran.contents, contents]
      exact replayed
    · rw [on_concat_of_ne same]
      exact h.replays before

/-- A turn adds to the batches the one that it runs, if it runs one. -/
theorem turn (h : Isolated session Stable past state) (request : Request) :
    Isolated session Stable (past ++ (session.ran? (session.turn state request)).toList)
      (session.turn state request).after := by
  rcases asks : session.asks state request with - | ⟨scope, asked⟩
  -- a bare look-up runs no batch
  · obtain ⟨file, rfl⟩ := session.eq_locate_of_asks state asks
    rw [ran?_of_asks_none asks, Option.toList_none, List.append_nil, Session.turn, serve_locate]
    exact h.locate confined file
  · have located : Isolated session Stable past asked :=
      asks_keeps asks h fun file => h.locate confined file
    have given := located.obtain confined scope
    rcases had : session.obtain asked scope with ⟨failure | resolver, later⟩
    -- without a resolver no batch is run
    · rw [had] at given
      rw [ran?_of_error asks had, Option.toList_none, List.append_nil, turn_of_asks asks, had]
      exact given
    · have kept := session.resolver?_of_obtain asked (congrArg Prod.fst had)
      rw [had] at given kept
      rw [ran?_of_ok asks had, turn_of_asks asks, had, conclude]
      rcases request.batch? with - | ⟨names, file⟩
      · rw [Option.map_none, Option.toList_none, List.append_nil]
        exact given
      · exact given.batch confined kept names file

end Isolated

/-- The invariant holds at every point of a run. -/
theorem isolated_final (confined : session.Confined Stable) (env : Env σ Options)
    (stable : Stable env.world) (requests : List Request) :
    Isolated session Stable ((session.turns ⟨.empty, env⟩ requests).filterMap session.ran?)
      (session.final ⟨.empty, env⟩ requests) := by
  induction requests using List.reverseRecOn with
  | nil => exact .of_empty env stable
  | append_singleton requests request ih =>
    have last (turn : Turn σ Options Module Cache) :
        [turn].filterMap session.ran? = (session.ran? turn).toList := by
      rcases ran : session.ran? turn with - | ran <;> simp [ran]
    rw [turns_concat, final_concat, List.filterMap_append, last]
    exact ih.turn confined request

/-- **Every scope has its finder's cache to itself.**  Take a run, a scope with a resolver at its
end, and any stable world.  From there the finder alone, with the resolver's options and a new
cache, works through the batches that were run on the scope's resolver.  It comes to the contents
that were reported in the run, and leaves the cache that the resolver has. -/
theorem isolated (confined : session.Confined Stable) (env : Env σ Options)
    (stable : Stable env.world) (requests : List Request) {scope : Scope}
    {resolver : Resolver Options Cache}
    (kept : (session.final ⟨.empty, env⟩ requests).resolver? scope = some resolver)
    {world : σ} (elsewhere : Stable world) :
    let run := session.turns ⟨.empty, env⟩ requests
    let batches := on scope (run.filterMap session.ran?)
    ((session.finder.replay session.host resolver.options (batches.map Ran.batch)).run world).1
        = (batches.map Ran.contents, resolver.cache) ∧
      ∀ turn ∈ run, ∀ ran, session.ran? turn = some ran →
        turn.response = turn.request.conclusion ran.outcomes := by
  refine ⟨((isolated_final confined env stable requests).replays kept world elsewhere).1, ?_⟩
  intro turn mem ran h
  rw [session.eq_turn_of_mem mem] at h ⊢
  exact response_of_ran? h

/-! ### In memory -/

/-- A session for two configurations, one of which governs the root. -/
def twoConfigs : Session InMemory.World String String InMemory.Modules :=
  InMemory.sessionOver (InMemory.setHost (Path.ofText "/") .byComponents false)
    [(Path.ofText "/c", [.ok "o"]), (Path.ofText "/d", [.ok "p"])]
    ⟨"c", Scope.ofPath (Path.ofText "/c")⟩

/-- The root has its configuration, and nothing is on record. -/
def oneFile : Env InMemory.World String := ⟨.ofFiles [Path.ofText "/c"], 0, []⟩

/-- Batches of two scopes take turns, and only those of the one are replayed. -/
theorem isolated_twoConfigs :
    let requests := [.resolve ["foo", "b"] "x.ts",
      .resolveIn (Scope.ofPath (Path.ofText "/d")) ["foo"] "x.ts", .locate "y.ts",
      .hook ["b", "foo", "b"] "y.ts"]
    let run := twoConfigs.turns ⟨.empty, oneFile⟩ requests
    let batches := on twoConfigs.defaultScope (run.filterMap twoConfigs.ran?)
    batches.length = 2 ∧
      ∃ resolver, (twoConfigs.final ⟨.empty, oneFile⟩ requests).resolver? twoConfigs.defaultScope
          = some resolver ∧
        ((twoConfigs.finder.replay twoConfigs.host resolver.options (batches.map Ran.batch)).run
          oneFile.world).1 = (batches.map Ran.contents, resolver.cache) := by
  intro requests run batches
  have some : ((twoConfigs.final ⟨.empty, oneFile⟩ requests).resolver?
      twoConfigs.defaultScope).isSome = true := by decide +kernel
  obtain ⟨resolver, kept⟩ := Option.isSome_iff_exists.1 some
  have files : InMemory.FilesAre oneFile.world.files oneFile.world := rfl
  exact ⟨by decide +kernel, resolver, kept,
    (isolated (confined_inMemory _ _ _ _ _ _) oneFile files requests kept files).1⟩

/-- The request failed. -/
def Response.failed : Response Options Module Cache → Bool
  | .located _ => false
  | .resolver result => !result.isOk
  | .outcomes result => !result.isOk
  | .modules result => !result.isOk

/-- A strict request that fails leaves its trace: without its batch, a replay does not come to the
cache that the resolver has. -/
theorem strict_leaves_trace :
    let requests := [.resolveStrict ["foo", "missing"] "x.ts"]
    let run := twoConfigs.turns ⟨.empty, oneFile⟩ requests
    let succeeded := run.filter fun turn => !turn.response.failed
    let batches := on twoConfigs.defaultScope (succeeded.filterMap twoConfigs.ran?)
    (run.map fun turn => turn.response.failed) = [true] ∧
      ∃ resolver ∈ (twoConfigs.final ⟨.empty, oneFile⟩ requests).resolver? twoConfigs.defaultScope,
        ((twoConfigs.finder.replay twoConfigs.host resolver.options (batches.map Ran.batch)).run
          oneFile.world).1.2.known.keys ≠ resolver.cache.known.keys := by
  decide +kernel

end ScopedImports.Session
