import Mathlib.Algebra.GroupWithZero.Nat
import ScopedImports.Proofs.Session.Events
import ScopedImports.Proofs.Session.Resolvers

/-!
The books of a session balance.

Five things happen side by side: files are looked for, options are loaded, caches are made, the
finder searches, and lines are left for the log.  Every step enters its share of each,

                       probes  loads  debug  warn  caches  searches   known paths  resolvers
    locate               n                                                 + n
    obtain (stored)
    obtain (rejected)           1             1
    obtain (built)              1      1              1                                + 1
    batch                                                     k

with a line that reports `k` in the last row.  What balances in every row balances in the sum
(`Balances.append`), and so at every point of every run (`accounts_balance`).  What the finder looks
for at its own host is in none of the columns.
-/

namespace ScopedImports

variable {σ Options Module Cache : Type}

/-! ### Columns -/

namespace Event

/-- The line that was left for the log. -/
def note? : Event Options → Option Note
  | .noted note => some note
  | _ => none

/-- A file was looked for while locating. -/
def isProbe : Event Options → Bool
  | .probed _ => true
  | _ => false

/-- A new cache was made. -/
def isNewCache : Event Options → Bool
  | .madeCache _ => true
  | _ => false

/-- The finder was called. -/
def isSearch : Event Options → Bool
  | .searched .. => true
  | _ => false

/-- Options were asked for. -/
def isParse : Event Options → Bool
  | .parsed _ => true
  | _ => false

end Event

namespace Note

/-- The calls of the finder that the line reports. -/
def loads : Note → Nat
  | .resolvedBatch _ _ _ loads => loads
  | _ => 0

/-- The line is about the scope of a file. -/
def isLocation : Note → Bool
  | .located .. | .fellBack .. => true
  | _ => false

theorem Locates.isLocation {note : Note} {file : String} {scope : Scope}
    (h : note.Locates file scope) : note.isLocation = true := by
  rcases h with rfl | rfl
  · rfl
  · rfl

end Note

namespace Session

/-- The lines that were left for the log. -/
def notesOf (journal : List (Event Options)) : List Note := journal.filterMap Event.note?

/-- The number of lines of this importance. -/
def countAt (level : Level) (journal : List (Event Options)) : Nat :=
  (notesOf journal).countP fun note => note.level = level

/-- What is on record accounts for what is remembered. -/
structure Balances (journal : List (Event Options)) (stats : Stats) : Prop where
  debug : stats.scopes = countAt .debug journal
  caches : stats.scopes = journal.countP Event.isNewCache
  parses : journal.countP Event.isParse = countAt .debug journal + countAt .warn journal
  probes : stats.paths = journal.countP Event.isProbe
  searches : ((notesOf journal).map Note.loads).sum = journal.countP Event.isSearch

theorem notesOf_append (first second : List (Event Options)) :
    notesOf (first ++ second) = notesOf first ++ notesOf second := List.filterMap_append

theorem countAt_append (level : Level) (first second : List (Event Options)) :
    countAt level (first ++ second) = countAt level first + countAt level second := by
  rw [countAt, notesOf_append, List.countP_append, countAt, countAt]

/-- What balances in parts balances in the sum. -/
theorem Balances.append {first second : List (Event Options)} {scopes paths scopes' paths' : Nat}
    (h : Balances first ⟨scopes, paths⟩) (h' : Balances second ⟨scopes', paths'⟩) :
    Balances (first ++ second) ⟨scopes + scopes', paths + paths'⟩ where
  debug := by rw [countAt_append, ← h.debug, ← h'.debug]
  caches := by rw [List.countP_append, ← h.caches, ← h'.caches]
  parses := by
    rw [List.countP_append, h.parses, h'.parses, countAt_append, countAt_append]
    exact Nat.add_add_add_comm _ _ _ _
  probes := by rw [List.countP_append, ← h.probes, ← h'.probes]
  searches := by
    rw [notesOf_append, List.map_append, List.sum_append, h.searches, h'.searches,
      List.countP_append]

/-! ### Rows -/

theorem balances_nil : Balances ([] : List (Event Options)) ⟨0, 0⟩ := ⟨rfl, rfl, rfl, rfl, rfl⟩

theorem balances_probes (probes : List Path) :
    Balances (probes.map (Event.probed : Path → Event Options)) ⟨0, probes.length⟩ := by
  induction probes with
  | nil => exact balances_nil
  | cons path probes ih =>
    have one : Balances [(Event.probed path : Event Options)] ⟨0, 1⟩ := ⟨rfl, rfl, rfl, rfl, rfl⟩
    have both := one.append ih
    rw [Nat.add_comm 1] at both
    exact both

theorem balances_located {note : Note} {file : String} {scope : Scope}
    (locates : note.Locates file scope) (probes : List Path) :
    Balances (probes.map (Event.probed : Path → Event Options) ++ [.noted note])
      ⟨0, probes.length⟩ := by
  have line : Balances [(Event.noted note : Event Options)] ⟨0, 0⟩ := by
    rcases locates with rfl | rfl <;> exact ⟨rfl, rfl, rfl, rfl, rfl⟩
  exact (balances_probes probes).append line

theorem balances_rejected (scope : Scope) (failure : Failure) :
    Balances [(Event.parsed scope.path : Event Options), .noted (.loadFailed scope failure)]
      ⟨0, 0⟩ := ⟨rfl, rfl, rfl, rfl, rfl⟩

theorem balances_built (scope : Scope) (directory : Path) :
    Balances [(Event.parsed scope.path : Event Options), .noted (.building scope),
      .madeCache directory] ⟨1, 0⟩ := ⟨rfl, rfl, rfl, rfl, rfl⟩

theorem notesOf_batchEvents (resolver : Resolver Options Cache) (names : List String)
    (file : String) :
    notesOf (batchEvents resolver names file)
      = [.resolvedBatch resolver.scope file names.length names.eraseDups.length] := by
  have silent : notesOf (names.eraseDups.map fun name =>
      Event.searched name file resolver.options) = [] := by
    rw [notesOf, List.filterMap_map]
    exact List.filterMap_eq_nil_iff.2 fun _ _ => rfl
  rw [batchEvents, notesOf_append, silent]
  rfl

/-- An empty batch leaves its line, too. -/
example (resolver : Resolver Options Cache) (file : String) :
    notesOf (batchEvents resolver [] file) = [.resolvedBatch resolver.scope file 0 0] := rfl

/-- A batch reports as many calls as it makes. -/
theorem balances_batch (resolver : Resolver Options Cache) (names : List String) (file : String) :
    Balances (batchEvents resolver names file) ⟨0, 0⟩ := by
  have lines := notesOf_batchEvents resolver names file
  constructor
  · rw [countAt, lines]
    rfl
  · simp [batchEvents, List.countP_map, Function.comp_def, Event.isNewCache]
  · rw [countAt, countAt, lines]
    simp [batchEvents, List.countP_map, Function.comp_def, Event.isParse, Note.level]
  · simp [batchEvents, List.countP_map, Function.comp_def, Event.isProbe]
  · rw [lines]
    simp [batchEvents, List.countP_map, Function.comp_def, Event.isSearch, Note.loads]

variable {session : Session σ Options Module Cache}

/-- **The books balance** after every step. -/
theorem balances_preserved : Preserves session fun state =>
    Balances state.env.journal state.memory.stats where
  locate state file h := by
    obtain ⟨probes, note, locates, journal, size⟩ := session.locate_records state file
    have resolvers : (state.run (session.locate file)).2.memory.resolvers
        = state.memory.resolvers := by
      rw [locate_spec]
    rw [journal, Memory.stats, resolvers, size]
    exact h.append (balances_located locates probes)
  obtain state scope h := by
    have obtains := session.obtains state scope
    generalize session.obtain state scope = done at obtains ⊢
    cases obtains with
    | stored kept => exact h
    | rejected new loaded =>
      exact h.append (balances_rejected scope _)
    | built new loaded =>
      rw [Memory.stats, Memo.size_push]
      exact h.append (balances_built scope _)
  batch state _ resolver names file _ h := by
    rw [batch_journal, (session.batched state resolver names file).memory, Memory.stats,
      Memo.size_update]
    exact h.append (balances_batch resolver names file)

/-! ### The lines of a turn -/

section Lines

variable (session) (state : State σ Options Cache)

/-- The lines that obtaining the resolver of a scope leaves: none if there is one, else a warning or
the news that one is built. -/
def obtainNotes (scope : Scope) : List Note :=
  match state.resolver? scope with
  | some _ => []
  | none =>
    match (session.load state scope).1 with
    | .error failure => [.loadFailed scope failure]
    | .ok _ => [.building scope]

/-- The lines that a batch on the resolver of a scope leaves: one, if the resolver can be had. -/
def batchNotes (scope : Scope) (names : List String) (file : String) : List Note :=
  match (session.obtain state scope).1 with
  | .error _ => []
  | .ok _ => [.resolvedBatch scope file names.length names.eraseDups.length]

/-- The lines that were left in the turn. -/
def Turn.notes (turn : Turn σ Options Module Cache) : List Note := notesOf turn.events

/-- The lines of a turn are those of its steps, in order. -/
def Reported (turn : Turn σ Options Module Cache) : Prop :=
  match turn.request with
  | .locate file => ∃ scope note, turn.response = .located scope ∧ note.Locates file scope ∧
      turn.notes = [note]
  | .resolverFor scope => turn.notes = session.obtainNotes turn.before scope
  | .resolveIn scope names file => turn.notes = session.obtainNotes turn.before scope
      ++ session.batchNotes turn.before scope names file
  | .resolve names file | .resolveStrict names file | .hook names file =>
      let located := turn.before.run (session.locate file)
      ∃ note, note.Locates file located.1 ∧
        turn.notes = note :: (session.obtainNotes located.2 located.1
          ++ session.batchNotes located.2 located.1 names file)

end Lines

variable {state asked : State σ Options Cache} {request : Request} {scope : Scope}

theorem notesOf_obtainEvents (scope : Scope) :
    notesOf (session.obtainEvents state scope) = session.obtainNotes state scope := by
  rw [obtainEvents, obtainNotes]
  rcases state.resolver? scope with - | resolver
  · rcases (session.load state scope).1 with failure | options
    · rfl
    · rfl
  · rfl

theorem notesOf_concluding {names : List String} {file : String} (sound : asked.Sound)
    (wants : request.batch? = some (names, file)) :
    notesOf (request.concluding (session.obtain asked scope).1)
      = session.batchNotes asked scope names file := by
  rcases had : (session.obtain asked scope).1 with failure | resolver
  · rw [batchNotes, had]
    rfl
  · -- the line names the resolver's scope, which is the one that was asked for
    have kept := session.resolver?_of_obtain asked had
    have serves := (sound_preserved.obtain scope sound).scope_eq kept
    rw [batchNotes, had, Request.concluding, wants]
    dsimp only
    rw [notesOf_batchEvents, serves]

theorem notesOf_located (probes : List Path) (note : Note) :
    notesOf (probes.map (Event.probed : Path → Event Options) ++ [.noted note]) = [note] := by
  have silent : notesOf (probes.map (Event.probed : Path → Event Options)) = [] := by
    rw [notesOf, List.filterMap_map]
    exact List.filterMap_eq_nil_iff.2 fun _ _ => rfl
  rw [notesOf_append, silent]
  rfl

theorem notes_of_asks {located : List (Event Options)}
    (asks : session.asks state request = some (scope, asked))
    (journal : asked.env.journal = state.env.journal ++ located) :
    (session.turn state request).notes
      = notesOf located ++ (session.obtainNotes asked scope
          ++ notesOf (request.concluding (session.obtain asked scope).1)) := by
  rw [Turn.notes, events_of_asks asks journal, notesOf_append, notesOf_append,
    notesOf_obtainEvents]

/-- Locating, obtaining and the batch leave their lines one after the other. -/
theorem reported_importing {names : List String} {file : String} (sound : state.Sound)
    (mem : request ∈ importing names file) :
    let located := state.run (session.locate file)
    ∃ note, note.Locates file located.1 ∧ (session.turn state request).notes
      = note :: (session.obtainNotes located.2 located.1
          ++ session.batchNotes located.2 located.1 names file) := by
  obtain ⟨probes, note, locates, journal, -⟩ := session.locate_records state file
  have located : (state.run (session.locate file)).2.Sound := sound_preserved.locate file sound
  refine ⟨note, locates, ?_⟩
  rw [notes_of_asks (asks_importing mem) journal, notesOf_located,
    notesOf_concluding located (batch?_importing mem), List.singleton_append]

/-- Every turn leaves the lines of its steps. -/
theorem reported (sound : state.Sound) (request : Request) :
    session.Reported (session.turn state request) := by
  have begins : state.env.journal = state.env.journal ++ [] := (List.append_nil _).symm
  cases request with
  | locate file =>
    obtain ⟨probes, note, locates, events⟩ := session.events_locate state file
    have served : (session.turn state (.locate file)).response
        = .located (state.run (session.locate file)).1 := by
      rw [turn_locate]
    refine ⟨_, note, served, locates, ?_⟩
    rw [Turn.notes, events, notesOf_located]
  | resolverFor scope =>
    have asks : session.asks state (.resolverFor scope) = some (scope, state) := rfl
    have quiet : notesOf (Request.concluding (.resolverFor scope) (session.obtain state scope).1)
        = [] := by
      rcases (session.obtain state scope).1 with failure | resolver <;> rfl
    have lines := notes_of_asks asks begins
    rw [quiet, List.append_nil] at lines
    exact lines
  | resolveIn scope names file =>
    have asks : session.asks state (.resolveIn scope names file) = some (scope, state) := rfl
    have lines := notes_of_asks asks begins
    rw [notesOf_concluding sound rfl] at lines
    exact lines
  | resolve names file | resolveStrict names file | hook names file =>
    exact reported_importing sound (by simp [importing])

/-! ### The totals of a run -/

/-- The request locates a file. -/
def Request.locates : Request → Bool
  | .locate _ | .resolve _ _ | .resolveStrict _ _ | .hook _ _ => true
  | .resolverFor _ | .resolveIn _ _ _ => false

/-- The answer of the loader, if it was called in the turn. -/
def loaded? (session : Session σ Options Module Cache) (turn : Turn σ Options Module Cache) :
    Option (Except Failure Options) := do
  let (scope, asked) ← session.asks turn.before turn.request
  if turn.events.countP Event.isParse = 0 then none else some (session.load asked scope).1

/-- The loader was called in the turn, with success. -/
def succeeds (session : Session σ Options Module Cache) (turn : Turn σ Options Module Cache) :
    Bool :=
  match session.loaded? turn with
  | some (.ok _) => true
  | _ => false

/-- A turn is on record, and what the finder does at its own host is not. -/
structure Accounted (session : Session σ Options Module Cache)
    (turn : Turn σ Options Module Cache) : Prop where
  reported : session.Reported turn
  /-- After locating, nothing is looked for on record, and nothing is learnt about files. -/
  finder : ∀ scope asked, session.asks turn.before turn.request = some (scope, asked) →
    turn.after.memory.presence = asked.memory.presence ∧
      turn.after.env.journal.countP Event.isProbe = asked.env.journal.countP Event.isProbe

/-- When a request asks for a resolver, only probes and lines have gone on record. -/
theorem asks_records (asks : session.asks state request = some (scope, asked)) :
    ∃ located, asked.env.journal = state.env.journal ++ located ∧
      ∀ event ∈ located, (∃ path, event = .probed path) ∨ ∃ note, event = .noted note := by
  refine asks_keeps (P := fun asked => ∃ located, asked.env.journal = state.env.journal ++ located ∧
    ∀ event ∈ located, (∃ path, event = .probed path) ∨ ∃ note, event = .noted note) asks
    ⟨[], (List.append_nil _).symm, nofun⟩ fun file => ?_
  obtain ⟨probes, note, -, journal, -⟩ := session.locate_records state file
  refine ⟨_, journal, fun event mem => ?_⟩
  simp only [List.mem_append, List.mem_map, List.mem_singleton] at mem
  rcases mem with ⟨path, -, rfl⟩ | rfl
  · exact .inl ⟨path, rfl⟩
  · exact .inr ⟨note, rfl⟩

/-- Loads and new caches go on record when a resolver is obtained, and at no other time. -/
theorem countP_turn (asks : session.asks state request = some (scope, asked))
    {p : Event Options → Bool} (probed : ∀ path, p (.probed path) = false)
    (noted : ∀ note, p (.noted note) = false)
    (searched : ∀ name file options, p (.searched name file options) = false) :
    (session.turn state request).events.countP p
      = (session.obtainEvents asked scope).countP p := by
  obtain ⟨located, journal, walking⟩ := asks_records asks
  -- neither the walk before nor the batch after has a share
  have before : located.countP p = 0 := by
    rw [List.countP_eq_zero]
    intro event mem
    rcases walking event mem with ⟨path, rfl⟩ | ⟨note, rfl⟩
    · rw [probed]
      exact Bool.false_ne_true
    · rw [noted]
      exact Bool.false_ne_true
  have after : (request.concluding (session.obtain asked scope).1).countP p = 0 := by
    rcases (session.obtain asked scope).1 with failure | resolver
    · rfl
    · rw [Request.concluding]
      rcases request.batch? with - | ⟨names, file⟩
      · rfl
      · simp [batchEvents, List.countP_map, Function.comp_def, noted, searched]
  rw [events_of_asks asks journal, List.countP_append, List.countP_append, before, after,
    Nat.zero_add, Nat.add_zero]

/-- A new cache is made exactly where the loader was called with success. -/
theorem countP_isNewCache_turn (state : State σ Options Cache) (request : Request) :
    (session.turn state request).events.countP Event.isNewCache
      = if session.succeeds (session.turn state request) then 1 else 0 := by
  rcases asks : session.asks state request with - | ⟨scope, asked⟩
  · -- a look-up asks for no resolver: neither side counts anything
    obtain ⟨file, rfl⟩ := session.eq_locate_of_asks state asks
    obtain ⟨probes, note, locates, events⟩ := session.events_locate state file
    have idle : session.succeeds (session.turn state (.locate file)) = false := rfl
    rw [events, ← (balances_located locates probes).caches, idle]
    rfl
  · have caches := countP_turn asks (p := Event.isNewCache) (fun _ => rfl) (fun _ => rfl)
      fun _ _ _ => rfl
    have parses := countP_turn asks (p := Event.isParse) (fun _ => rfl) (fun _ => rfl)
      fun _ _ _ => rfl
    have loaded : session.loaded? (session.turn state request)
        = if (session.obtainEvents asked scope).countP Event.isParse = 0 then none
          else some (session.load asked scope).1 := by
      rw [← parses, loaded?]
      show (session.asks state request >>= _) = _
      rw [asks]
      rfl
    -- stored, rejected and built: only the last row has both a load and a cache
    rw [caches, succeeds, loaded, obtainEvents]
    rcases asked.resolver? scope with - | resolver
    · rcases (session.load asked scope).1 with failure | options
      · rfl
      · rfl
    · rfl

theorem countP_isLocation_obtainNotes (session : Session σ Options Module Cache)
    (state : State σ Options Cache) (scope : Scope) :
    (session.obtainNotes state scope).countP Note.isLocation = 0 := by
  rw [obtainNotes]
  rcases state.resolver? scope with - | resolver
  · rcases (session.load state scope).1 with failure | options
    · rfl
    · rfl
  · rfl

theorem countP_isLocation_batchNotes (session : Session σ Options Module Cache)
    (state : State σ Options Cache) (scope : Scope) (names : List String) (file : String) :
    (session.batchNotes state scope names file).countP Note.isLocation = 0 := by
  rw [batchNotes]
  rcases (session.obtain state scope).1 with failure | resolver
  · rfl
  · rfl

/-- A turn leaves one line about the scope of a file if it locates one, and else none. -/
theorem countP_isLocation_turn (sound : state.Sound) (request : Request) :
    (session.turn state request).notes.countP Note.isLocation
      = if request.locates then 1 else 0 := by
  have lines : session.Reported (session.turn state request) := reported sound request
  cases request with
  | locate file =>
    obtain ⟨scope, note, -, locates, lines⟩ := lines
    rw [lines, List.countP_cons_of_pos locates.isLocation]
    rfl
  | resolverFor scope =>
    exact (congrArg _ lines).trans (countP_isLocation_obtainNotes session state scope)
  | resolveIn scope names file =>
    refine (congrArg _ lines).trans ?_
    rw [List.countP_append, countP_isLocation_obtainNotes, countP_isLocation_batchNotes]
    rfl
  | resolve names file | resolveStrict names file | hook names file =>
    obtain ⟨note, locates, lines⟩ := lines
    rw [lines, List.countP_cons_of_pos locates.isLocation, List.countP_append,
      countP_isLocation_obtainNotes, countP_isLocation_batchNotes]
    rfl

/-- Once a request has asked for a resolver, it learns nothing about files. -/
theorem finder_learns_nothing (request : Request) (asked : State σ Options Cache) (scope : Scope) :
    let later := (session.conclude request (session.obtain asked scope)).2
    later.memory.presence = asked.memory.presence ∧
      later.env.journal.countP Event.isProbe = asked.env.journal.countP Event.isProbe := by
  intro later
  have given : (session.obtain asked scope).2.memory.presence = asked.memory.presence ∧
      (session.obtain asked scope).2.env.journal.countP Event.isProbe
        = asked.env.journal.countP Event.isProbe := by
    have obtains := session.obtains asked scope
    generalize session.obtain asked scope = done at obtains ⊢
    cases obtains with
    | stored kept => exact ⟨rfl, rfl⟩
    | rejected new loaded | built new loaded =>
      refine ⟨rfl, ?_⟩
      rw [List.countP_append]
      rfl
  refine conclude_keeps (P := fun later => later.memory.presence = asked.memory.presence ∧
    later.env.journal.countP Event.isProbe = asked.env.journal.countP Event.isProbe)
    request scope given fun resolver names file _ => ?_
  have silent := (balances_batch resolver names file).probes
  -- what the finder looks for at the host is not on record, so the batch adds nothing
  rw [(session.batched _ resolver names file).memory, batch_journal, List.countP_append, ← silent]
  exact given

/-- Everything that a turn does is accounted for. -/
theorem accounted (sound : state.Sound) (request : Request) :
    session.Accounted (session.turn state request) where
  reported := reported sound request
  finder := by
    intro scope asked asks
    change session.asks state request = some (scope, asked) at asks
    rw [turn_of_asks asks]
    exact finder_learns_nothing request asked scope

/-- A run makes as many new caches as there are turns in which the loader succeeds. -/
theorem countP_isNewCache_final (state : State σ Options Cache) (requests : List Request) :
    (session.final state requests).env.journal.countP Event.isNewCache
      = state.env.journal.countP Event.isNewCache
        + (session.turns state requests).countP session.succeeds := by
  induction requests generalizing state with
  | nil => rfl
  | cons request requests ih =>
    rw [final_cons, ih, journal_turn, List.countP_append, countP_isNewCache_turn, turns,
      List.countP_cons, Nat.add_assoc, Nat.add_comm (ite _ _ _)]

/-- A run leaves as many lines about the scopes of files as it has files to locate. -/
theorem countP_isLocation_final {state : State σ Options Cache} (sound : state.Sound)
    (requests : List Request) :
    (notesOf (session.final state requests).env.journal).countP Note.isLocation
      = (notesOf state.env.journal).countP Note.isLocation
        + (session.turns state requests).countP (·.request.locates) := by
  induction requests generalizing state with
  | nil => rfl
  | cons request requests ih =>
    have lines : (session.turn state request).notes.countP Note.isLocation = _ :=
      countP_isLocation_turn sound request
    rw [final_cons, ih (sound_preserved.turn request sound), journal_turn, notesOf_append,
      List.countP_append, ← Turn.notes, lines, turns, List.countP_cons, Nat.add_assoc,
      Nat.add_comm (ite _ _ _)]
    rfl

/-- **The books of a session balance** at every point of every run. -/
theorem accounts_balance (session : Session σ Options Module Cache) (world : σ) (fresh : Nat)
    (requests : List Request) :
    let start : State σ Options Cache := ⟨.empty, ⟨world, fresh, []⟩⟩
    let run := session.turns start requests
    let final := session.final start requests
    (∀ turn ∈ run, session.Accounted turn) ∧
      Balances final.env.journal final.memory.stats ∧
      run.countP session.succeeds = final.memory.stats.scopes ∧
      (notesOf final.env.journal).countP Note.isLocation = run.countP (·.request.locates) := by
  intro start run final
  have sound : start.Sound := State.sound_of_empty ⟨world, fresh, []⟩
  have books : Balances final.env.journal final.memory.stats :=
    balances_preserved.final requests balances_nil
  refine ⟨fun turn mem => ?_, books, ?_, ?_⟩
  · have before := sound_preserved.before mem sound
    rw [session.eq_turn_of_mem mem]
    exact accounted before turn.request
  · rw [books.caches, countP_isNewCache_final]
    exact (Nat.zero_add _).symm
  · rw [countP_isLocation_final sound]
    exact Nat.zero_add _

end Session

end ScopedImports
