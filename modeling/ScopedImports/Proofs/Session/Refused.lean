import ScopedImports.Proofs.InMemory.Steady
import ScopedImports.Proofs.Session.Events
import ScopedImports.Proofs.Session.FirstSuccess
import ScopedImports.Proofs.Session.Twins

/-!
A request that fails is no more than a look-up.

A request locates the file before it can fail, and what it has learnt about files stays learnt.
Where the loader rejects the configuration of the file's scope, this is all that stays: the session
is left as if the file had only been located, and the loader has been asked once more,

    resolve names file  (rejected)    =    locate file  ·  parsed  noted (load failed).

The session that has failed and the one that has only located are twins but for the rejected scope,
and so later requests for other scopes are answered alike (`failed_request_only_locates`).  This is
for as long as nobody asks for the rejected scope again: the loader may accept its configuration by
then in the one session, and reject it in the other.  A resolver that only one of them has calls the
finder, and a finder may remember that (`retry_shows_elsewhere`).
-/

namespace ScopedImports.Session

variable {σ Options Module Cache : Type}
variable (session : Session σ Options Module Cache)

/-- The scope has no resolver, and the loader rejects its configuration when asked now. -/
def Rejects (state : State σ Options Cache) (scope : Scope) (failure : Failure) : Prop :=
  state.resolver? scope = none ∧ (session.load state scope).1 = .error failure

/-- The request fails with the loader's failure, and is otherwise no more than a look-up. -/
structure OnlyLocates (state : State σ Options Cache) (request : Request) (file : String)
    (failure : Failure) : Prop where
  response : (session.turn state request).response = request.refusal failure
  /-- All that is remembered, and the numbers given out, are as after the look-up.  The record and
  the world differ by the loader's answer. -/
  after :
    let scope := (state.run (session.locate file)).1
    let located := (session.turn state (.locate file)).after
    (session.turn state request).after = ⟨located.memory, { located.env with
      world := (session.load located scope).2
      journal := located.env.journal ++ [.parsed scope.path, .noted (.loadFailed scope failure)] }⟩
  /-- The loader was asked exactly once. -/
  parses : (session.turn state request).parses = [(state.run (session.locate file)).1.path]
  /-- The finder was not asked for anything. -/
  idle : ∀ event ∈ (session.turn state request).events,
    (∀ directory, event ≠ .madeCache directory) ∧
      ∀ name file options, event ≠ .searched name file options

/-- After the requests in `later`, the one session answers `next` as the other does. -/
structure AnswersAlike (scope : Scope) (Alike : σ → σ → Prop) (one other : State σ Options Cache)
    (later : List Request) (next : Request) : Prop where
  /-- If nobody has asked for the scope, the responses are the same. -/
  same : (∀ turn ∈ session.turns other later,
      (session.asks turn.before turn.request).map Prod.fst ≠ some scope) →
    (session.turn (session.final one later) next).response
      = (session.turn (session.final other later) next).response
  /-- If collaborators leave no trace, they are the same but for the numbers, whatever was asked. -/
  sameBut : session.Traceless Alike →
    SameBut Response.shift False (session.turn (session.final one later) next).response
      (session.turn (session.final other later) next).response

variable {session} {state : State σ Options Cache} {names : List String} {file : String}
variable {request : Request} {failure : Failure} {scope : Scope} {Alike : σ → σ → Prop}

/-! ### The request that fails -/

theorem turn_importing (mem : request ∈ importing names file) :
    session.turn state request = ⟨state, request,
      (session.conclude request (session.obtain (session.turn state (.locate file)).after
        (state.run (session.locate file)).1)).1,
      (session.conclude request (session.obtain (session.turn state (.locate file)).after
        (state.run (session.locate file)).1)).2⟩ := by
  rw [turn_of_asks (asks_importing mem), turn_locate]

/-- A rejected request ends where the loader has left it. -/
theorem onlyLocates (mem : request ∈ importing names file)
    (rejects : session.Rejects (session.turn state (.locate file)).after
      (state.run (session.locate file)).1 failure) :
    session.OnlyLocates state request file failure := by
  obtain ⟨new, loaded⟩ := rejects
  -- the loader is asked after the look-up, and the batch is not reached
  have refused := session.obtain_of_error _ new loaded
  have ends : session.turn state request = _ := turn_importing mem
  rw [conclude_of_error (congrArg Prod.fst refused), refused] at ends
  obtain ⟨probes, note, -, walked, -⟩ := session.locate_records state file
  have parses : (session.turn state (.locate file)).after.parses = state.parses := by
    rw [turn_locate, parses_locate]
  constructor
  · rw [ends]
  · rw [ends]
  · apply Turn.parses_eq
    rw [ends, State.parses, List.filterMap_append]
    exact congrArg (· ++ [(state.run (session.locate file)).1.path]) parses
  · have events : (session.turn state request).events = probes.map .probed ++ [.noted note]
        ++ [.parsed (state.run (session.locate file)).1.path,
          .noted (.loadFailed (state.run (session.locate file)).1 failure)] := by
      apply Turn.events_eq
      rw [ends, turn_locate, walked]
      exact List.append_assoc _ _ _
    intro event mem
    simp only [events, List.mem_append, List.mem_map, List.mem_cons, List.not_mem_nil,
      or_false] at mem
    rcases mem with (⟨path, -, rfl⟩ | rfl) | rfl | rfl <;> simp

/-- A request fails as its scope's configuration is rejected, and in no other way. -/
theorem rejects_iff (names : List String) (file : String) (failure : Failure) :
    (session.turn state (.resolve names file)).response = .outcomes (.error failure) ↔
      session.Rejects (session.turn state (.locate file)).after
        (state.run (session.locate file)).1 failure := by
  have mem : Request.resolve names file ∈ importing names file := List.mem_cons_self
  refine ⟨fun failed => ?_, fun rejects => (onlyLocates mem rejects).response⟩
  rw [turn_importing mem] at failed
  have obtains := session.obtains (session.turn state (.locate file)).after
    (state.run (session.locate file)).1
  generalize session.obtain (session.turn state (.locate file)).after
    (state.run (session.locate file)).1 = done at failed obtains
  cases obtains with
  | stored kept | built new loaded => cases failed
  | rejected new loaded =>
    cases failed
    exact ⟨new, loaded⟩

/-! ### The requests after it -/

/-- The session that has failed and the one that has only located are twins. -/
theorem OnlyLocates.twins {verbatim : Prop} (h : session.OnlyLocates state request file failure)
    (sound : state.Sound)
    (unaware : session.Unaware (state.run (session.locate file)).1.path Alike) :
    Twins (state.run (session.locate file)).1 Alike verbatim (session.turn state request).after
      (session.turn state (.locate file)).after := by
  have failed : (session.turn state request).after.Sound := sound_preserved.turn request sound
  have located : (session.turn state (.locate file)).after.Sound :=
    sound_preserved.turn (.locate file) sound
  have same : ∀ place, (session.turn state request).after.resolver? place
      = (session.turn state (.locate file)).after.resolver? place := by
    intro place
    rw [h.after, State.resolver?, State.resolver?]
  refine ⟨failed, located, ?_, fun place _ => ?_, fun _ => ?_, ?_⟩
  · rw [h.after]
  · rw [same place]
    exact SameBut.refl Resolver.map_shift_zero _
  · rw [h.after]
  · rw [h.after]
    exact unaware.asked _

/-- Twins answer alike whatever does not ask for the scope. -/
theorem answersAlike {one other : State σ Options Cache} {next : Request} {later : List Request}
    (unaware : session.Unaware scope.path Alike)
    (twins : ∀ {verbatim : Prop}, Twins scope Alike verbatim one other)
    (elsewhere : (session.asks (session.final other later) next).map Prod.fst ≠ some scope) :
    session.AnswersAlike scope Alike one other later next where
  same apart := by
    -- nothing is built out of step, so the numbers agree as well
    have start : Twins scope Alike True one other := twins
    have still := start.final unaware later (.inl apart)
    exact (still.turn unaware elsewhere).1.eq
  sameBut traceless := by
    have start : Twins scope Alike False one other := twins
    have still := start.final unaware later (.inr ⟨id, traceless⟩)
    exact (still.turn unaware elsewhere).1

/-- **A request that fails is no more than a look-up.**  This holds at every point of every run. -/
theorem failed_request_only_locates (session : Session σ Options Module Cache)
    (env : Env σ Options) (earlier : List Request) (names : List String) (file : String) :
    let state : State σ Options Cache := session.final ⟨.empty, env⟩ earlier
    let scope := (state.run (session.locate file)).1
    let located := (session.turn state (.locate file)).after
    (∀ failure, (session.turn state (.resolve names file)).response = .outcomes (.error failure) ↔
      session.Rejects located scope failure) ∧
    ∀ request ∈ importing names file, ∀ failure, session.Rejects located scope failure →
      session.OnlyLocates state request file failure ∧
      ∀ Alike, session.Unaware scope.path Alike → ∀ later next,
        (session.asks (session.final located later) next).map Prod.fst ≠ some scope →
        session.AnswersAlike scope Alike (session.turn state request).after located later next := by
  intro state scope located
  have sound : state.Sound := sound_preserved.final earlier (State.sound_of_empty env)
  refine ⟨rejects_iff names file, fun request mem failure rejects => ?_⟩
  have only := onlyLocates mem rejects
  refine ⟨only, fun Alike unaware later next elsewhere => ?_⟩
  exact answersAlike unaware (only.twins sound unaware) elsewhere

/-! ### A retry in between -/

/-- How often a loader was asked for the configuration it rejects at first, and how often a finder
was asked for a module. -/
structure Tally where
  loads : Nat
  finds : Nat

/-- A session whose finder answers with the number of its call.  The configuration that governs the
root is rejected at first. -/
def counting : Session Tally String Nat Unit where
  host :=
    { workingDirectory := pure (Path.ofText "/")
      canonicalName := pure
      isFile := fun _ => pure false }
  loader path := fun tally =>
    if path = Path.ofText "/c" then
      (if tally.loads = 0 then .error (.malformed path "broken") else .ok "o",
        { tally with loads := tally.loads + 1 })
    else (.ok "p", tally)
  finder :=
    { newCache := fun _ _ => pure ()
      find := fun _ _ _ _ _ tally =>
        ((some tally.finds, ()), { tally with finds := tally.finds + 1 }) }
  locator := ⟨"c", Scope.ofPath (Path.ofText "/c")⟩

theorem unaware_counting :
    Unaware counting (Path.ofText "/c") fun one other => one.finds = other.finds where
  asked tally := by
    show ((counting.loader (Path.ofText "/c")) tally).2.finds = tally.finds
    rfl
  loader other ne := by
    intro tally tally' alike
    show (counting.loader other tally).1 = (counting.loader other tally').1 ∧
      (counting.loader other tally).2.finds = (counting.loader other tally').2.finds
    rw [counting]
    dsimp only
    rw [if_neg ne, if_neg ne]
    exact ⟨rfl, alike⟩
  workingDirectory := .pure _
  isFile _ := .pure _
  newCache _ := .pure _
  find name file options cache := by
    intro tally tally' alike
    show (some tally.finds, ()) = (some tally'.finds, ()) ∧ tally.finds + 1 = tally'.finds + 1
    rw [alike]
    exact ⟨rfl, rfl⟩

/-- Let the rejected scope be asked for again.  After the failed request this is the second time,
and a module is looked for; after the look-up it is the first, and none is.  The next module has
another number then, in another scope too. -/
theorem retry_shows_elsewhere :
    let state := counting.final ⟨.empty, ⟨⟨0, 0⟩, 0, []⟩⟩ []
    let scope := (state.run (counting.locate "x.ts")).1
    let request := Request.resolve ["a"] "x.ts"
    let failed := (counting.turn state request).after
    let located := (counting.turn state (.locate "x.ts")).after
    let next := Request.resolveIn (Scope.ofPath (Path.ofText "/d")) ["a"] "x.ts"
    counting.Rejects located scope (.malformed (Path.ofText "/c") "broken") ∧
      counting.Unaware scope.path (fun one other => one.finds = other.finds) ∧
      (counting.asks (counting.final located [request]) next).map Prod.fst ≠ some scope ∧
      (counting.turn (counting.final failed [request]) next).response
        = .outcomes (.ok [.resolved ⟨3, 1⟩]) ∧
      (counting.turn (counting.final located [request]) next).response
        = .outcomes (.ok [.resolved ⟨1, 0⟩]) := by
  intro state scope request failed located next
  exact ⟨⟨by rfl, by rfl⟩, unaware_counting, by decide +kernel, by rfl, by rfl⟩

/-! ### In memory -/

/-- The worlds have the same files, and the loader has been asked as often for every configuration
file but `path`. -/
def AlikeBut (path : Path) (world world' : InMemory.World) : Prop :=
  world.files = world'.files ∧
    ∀ other, other ≠ path → world.parses.count other = world'.parses.count other

section InMemory

variable (directory : Path) (matching : InMemory.Matching) (fold : Bool)
variable (prepared : InMemory.Prepared) (locator : Locator) (path : Path)

theorem AlikeBut.symm {path : Path} {world world' : InMemory.World}
    (h : AlikeBut path world world') : AlikeBut path world' world :=
  ⟨h.1.symm, fun other ne => (h.2 other ne).symm⟩

theorem AlikeBut.trans {path : Path} {first second third : InMemory.World}
    (h : AlikeBut path first second) (h' : AlikeBut path second third) :
    AlikeBut path first third :=
  ⟨h.1.trans h'.1, fun other ne => (h.2 other ne).trans (h'.2 other ne)⟩

/-- In all worlds that are alike the finder answers alike, and it leaves them so. -/
theorem find_answers_alikeBut (world : InMemory.World) :
    InMemory.composingFinder.Forgetful (InMemory.setHost directory matching fold)
      fun later => AlikeBut path later world := by
  refine InMemory.composingFinder_forgetful (fun place => ?_) fun name => ⟨_, .pure _⟩
  refine ⟨world.files.any (matching.agrees place), ?_⟩
  rintro later ⟨files, parses⟩
  exact ⟨congrArg (·.any (matching.agrees place)) files, files, parses⟩

/-- A prepared loader counts the requests for each configuration file, and nobody else sees them. -/
theorem unaware_inMemory :
    Unaware (InMemory.sessionOver (InMemory.setHost directory matching fold) prepared locator) path
      (AlikeBut path) where
  asked world := by
    refine ⟨rfl, fun other ne => ?_⟩
    show (world.parses ++ [path]).count other = world.parses.count other
    rw [List.count_append, List.count_singleton, beq_false_of_ne ne.symm]
    rfl
  loader other ne := by
    rintro world world' ⟨files, parses⟩
    refine ⟨congrArg (prepared.result other) (parses other ne), files, fun third ne => ?_⟩
    show (world.parses ++ [other]).count third = (world'.parses ++ [other]).count third
    rw [List.count_append, List.count_append, parses third ne]
  workingDirectory := .pure directory
  isFile place := by
    rintro world world' ⟨files, parses⟩
    exact ⟨congrArg (·.any (matching.agrees place)) files, files, parses⟩
  newCache asked := by
    rintro world world' ⟨files, parses⟩
    exact ⟨rfl, files, parses⟩
  find name file options cache := by
    intro world world' alike
    -- both worlds are alike to the second, and in all such worlds there is one answer
    obtain ⟨found, answers⟩ :=
      find_answers_alikeBut directory matching fold path world' name file options cache
    obtain ⟨answer, later⟩ := answers world alike
    obtain ⟨answer', later'⟩ := answers world' ⟨rfl, fun _ _ => rfl⟩
    exact ⟨answer.trans answer'.symm, later.trans later'.symm⟩

theorem traceless_inMemory :
    Traceless (InMemory.sessionOver (InMemory.setHost directory matching fold) prepared locator)
      (AlikeBut path) where
  symm _ _ := AlikeBut.symm
  trans _ _ _ := AlikeBut.trans
  workingDirectory world := ⟨rfl, fun _ _ => rfl⟩
  newCache asked world := ⟨rfl, fun _ _ => rfl⟩
  find name file options cache world := by
    obtain ⟨found, answers⟩ :=
      find_answers_alikeBut directory matching fold path world name file options cache
    exact (answers world ⟨rfl, fun _ _ => rfl⟩).2

end InMemory

/-- A session for two configurations.  The one that governs the root is rejected at first. -/
def brokenAtFirst : Session InMemory.World String String InMemory.Modules :=
  InMemory.sessionOver (InMemory.setHost (Path.ofText "/") .byComponents false)
    [(Path.ofText "/c", [.error (.malformed (Path.ofText "/c") "broken"), .ok "o"]),
      (Path.ofText "/d", [.ok "p"])]
    ⟨"c", Scope.ofPath (Path.ofText "/c")⟩

/-- The request fails, and another scope is served alike, whether or not the configuration that was
rejected is asked for again in between. -/
theorem failed_request_only_locates_brokenAtFirst :
    let state := brokenAtFirst.final ⟨.empty, ⟨.ofFiles [Path.ofText "/c"], 0, []⟩⟩ [.locate "x.ts"]
    let request := Request.resolve ["foo"] "y.ts"
    let failure := Failure.malformed (Path.ofText "/c") "broken"
    let failed := (brokenAtFirst.turn state request).after
    let located := (brokenAtFirst.turn state (.locate "y.ts")).after
    let next := Request.resolveIn (Scope.ofPath (Path.ofText "/d")) ["b"] "x.ts"
    brokenAtFirst.Rejects located (state.run (brokenAtFirst.locate "y.ts")).1 failure ∧
      brokenAtFirst.OnlyLocates state request "y.ts" failure ∧
      (brokenAtFirst.turn (brokenAtFirst.final failed [.locate "x.ts"]) next).response
        = (brokenAtFirst.turn (brokenAtFirst.final located [.locate "x.ts"]) next).response ∧
      SameBut Response.shift False
        (brokenAtFirst.turn (brokenAtFirst.final failed [request]) next).response
        (brokenAtFirst.turn (brokenAtFirst.final located [request]) next).response := by
  intro state request failure failed located next
  have rejects : brokenAtFirst.Rejects located (state.run (brokenAtFirst.locate "y.ts")).1
      failure := ⟨by rfl, by rfl⟩
  obtain ⟨only, alike⟩ := (failed_request_only_locates brokenAtFirst _ [.locate "x.ts"] ["foo"]
    "y.ts").2 request List.mem_cons_self failure rejects
  have unaware := alike _ (unaware_inMemory _ _ _ _ _ _)
  refine ⟨rejects, only, ?_, ?_⟩
  · exact (unaware [.locate "x.ts"] next (by decide +kernel)).same (by decide +kernel)
  · exact (unaware [request] next (by decide +kernel)).sameBut (traceless_inMemory _ _ _ _ _ _)

end ScopedImports.Session
