import ScopedImports.Proofs.Session.Turns

/-!
What a turn puts on record.

The journal is only ever extended, so the events of a turn are those by which it has grown, and the
three steps of a request contribute in their order:

    locate     probed ..  probed  noted (located or fell back)
    obtain     nothing  |  parsed  noted (load failed)  |  parsed  noted (building)  made a cache
    batch      searched ..  searched  noted (resolved a batch)

With every probe on record one more path is known, and only then.
-/

namespace ScopedImports

variable {σ Options Module Cache : Type}

/-- The line tells which scope governs the file. -/
def Note.Locates (note : Note) (file : String) (scope : Scope) : Prop :=
  note = .located file scope ∨ note = .fellBack file scope

namespace Locator

/-- A walk records its probes and nothing else, and one more path is known with every probe. -/
theorem firstPresent_records (host : Host σ) (places : List Path) (known : Presence)
    (env : Env σ Options) :
    let walk := (((reentrant host).firstPresent places).run known).run env
    ∃ probes : List Path, walk.2.journal = env.journal ++ probes.map .probed ∧
      walk.1.2.size = known.size + probes.length := by
  let P (later : Presence) (env' : Env σ Options) : Prop :=
    ∃ probes : List Path, env'.journal = env.journal ++ probes.map .probed ∧
      later.size = known.size + probes.length
  have survives : SurvivesProbes host P := by
    rintro later env' path new ⟨probes, journal, size⟩
    refine ⟨probes ++ [path], ?_, ?_⟩
    · rw [probed, journal, List.map_append, List.append_assoc]
      rfl
    · rw [Memo.size_push, size, List.length_append, Nat.add_assoc]
      rfl
  have start : P known env := ⟨[], (List.append_nil _).symm, rfl⟩
  exact firstPresent_keeps survives places start

theorem noteOf_locates (locator : Locator) (file : String) (found : Option Path) :
    (locator.noteOf file found).Locates file (locator.scopeOf found) := by
  rcases found with - | path
  · exact .inr rfl
  · exact .inl rfl

end Locator

namespace Session

variable (session : Session σ Options Module Cache) (state : State σ Options Cache)

/-! ### The events of a step -/

/-- Locating a file records the probes and one line. -/
theorem locate_records (file : String) :
    ∃ (probes : List Path) (note : Note),
      note.Locates file (state.run (session.locate file)).1 ∧
      (state.run (session.locate file)).2.env.journal
        = state.env.journal ++ (probes.map .probed ++ [.noted note]) ∧
      (state.run (session.locate file)).2.memory.presence.size
        = state.memory.presence.size + probes.length := by
  obtain ⟨probes, journal, size⟩ := Locator.firstPresent_records session.host
    (session.locator.places (session.host.workingDirectory state.env.world).1 file)
    state.memory.presence ((Locator.reentrant session.host).entered state.env)
  rw [locate_spec]
  refine ⟨probes, _, session.locator.noteOf_locates file _, ?_, size⟩
  rw [← List.append_assoc]
  exact congrArg (· ++ [_]) journal

/-- The events of obtaining the resolver of a scope. -/
def obtainEvents (scope : Scope) : List (Event Options) :=
  match state.resolver? scope with
  | some _ => []
  | none =>
    match (session.load state scope).1 with
    | .error failure => [.parsed scope.path, .noted (.loadFailed scope failure)]
    | .ok _ => [.parsed scope.path, .noted (.building scope),
        .madeCache (session.freshCache (session.load state scope).2).1.1]

theorem obtain_journal (scope : Scope) :
    (session.obtain state scope).2.env.journal
      = state.env.journal ++ session.obtainEvents state scope := by
  have obtains := session.obtains state scope
  generalize session.obtain state scope = done at obtains ⊢
  -- a resolver that is stored leaves nothing on record
  cases obtains with
  | stored kept => rw [obtainEvents, kept, List.append_nil]
  | rejected new loaded =>
    rw [obtainEvents, new]
    dsimp only
    rw [loaded]
  | built new loaded =>
    have absent : state.resolver? scope = none := new
    rw [obtainEvents, absent]
    dsimp only
    rw [loaded]

/-- The events of a batch. -/
def batchEvents (resolver : Resolver Options Cache) (names : List String) (file : String) :
    List (Event Options) :=
  names.eraseDups.map (fun name => .searched name file resolver.options)
    ++ [.noted (.resolvedBatch resolver.scope file names.length names.eraseDups.length)]

theorem batch_journal (resolver : Resolver Options Cache) (names : List String) (file : String) :
    (session.batch state resolver names file).2.env.journal
      = state.env.journal ++ batchEvents resolver names file := by
  rw [(session.batched state resolver names file).journal, List.append_assoc, batchEvents]

/-! ### The events of a turn -/

/-- The journal is only ever extended. -/
theorem journal_preserved (earlier : List (Event Options)) :
    Preserves session fun state => earlier <+: state.env.journal where
  locate state file h := by
    obtain ⟨probes, note, -, journal, -⟩ := session.locate_records state file
    rw [journal]
    exact h.trans (List.prefix_append _ _)
  obtain state scope h := by
    rw [obtain_journal]
    exact h.trans (List.prefix_append _ _)
  batch state _ resolver names file _ h := by
    rw [batch_journal]
    exact h.trans (List.prefix_append _ _)

/-- The events by which the journal has grown in the turn. -/
def Turn.events (turn : Turn σ Options Module Cache) : List (Event Options) :=
  turn.after.env.journal.drop turn.before.env.journal.length

theorem Turn.events_eq {turn : Turn σ Options Module Cache} {more : List (Event Options)}
    (h : turn.after.env.journal = turn.before.env.journal ++ more) : turn.events = more := by
  rw [Turn.events, h, List.drop_left]

theorem journal_turn (request : Request) :
    (session.turn state request).after.env.journal
      = state.env.journal ++ (session.turn state request).events := by
  have grown : state.env.journal <+: (session.turn state request).after.env.journal :=
    (session.journal_preserved state.env.journal).turn request (List.prefix_refl _)
  exact (List.prefix_iff_eq_append.1 grown).symm

/-- A turn that only locates a file records the probes and one line. -/
theorem events_locate (file : String) :
    ∃ (probes : List Path) (note : Note),
      note.Locates file (state.run (session.locate file)).1 ∧
      (session.turn state (.locate file)).events = probes.map .probed ++ [.noted note] := by
  obtain ⟨probes, note, locates, journal, -⟩ := session.locate_records state file
  refine ⟨probes, note, locates, Turn.events_eq ?_⟩
  rw [turn_locate]
  exact journal

/-- The events of a request once its scope's resolver is had, or cannot be had. -/
def Request.concluding (request : Request) :
    Except Failure (Resolver Options Cache) → List (Event Options)
  | .error _ => []
  | .ok resolver =>
    match request.batch? with
    | none => []
    | some (names, file) => batchEvents resolver names file

theorem conclude_journal (request : Request)
    (had : Except Failure (Resolver Options Cache) × State σ Options Cache) :
    (session.conclude request had).2.env.journal
      = had.2.env.journal ++ request.concluding had.1 := by
  rcases had with ⟨failure | resolver, later⟩
  · exact (List.append_nil _).symm
  · rw [Session.conclude, Request.concluding]
    rcases request.batch? with - | ⟨names, file⟩
    · exact (List.append_nil _).symm
    · exact session.batch_journal later resolver names file

variable {session state} {request : Request}

/-- A turn that asks for a resolver records what led to the question, the obtaining, and the
batch. -/
theorem events_of_asks {scope : Scope} {asked : State σ Options Cache}
    {located : List (Event Options)} (asks : session.asks state request = some (scope, asked))
    (journal : asked.env.journal = state.env.journal ++ located) :
    (session.turn state request).events
      = located ++ (session.obtainEvents asked scope
          ++ request.concluding (session.obtain asked scope).1) := by
  apply Turn.events_eq
  rw [turn_of_asks asks]
  show (session.conclude request (session.obtain asked scope)).2.env.journal = _
  rw [conclude_journal, obtain_journal, journal, List.append_assoc, List.append_assoc]

end Session

end ScopedImports
