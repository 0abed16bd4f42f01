import ScopedImports.Proofs.InMemory.Steady
import ScopedImports.Proofs.Lookup.Neighbours
import ScopedImports.Proofs.Session.FirstSuccess

/-!
Files of one directory are served alike.

A session locates many files with what it knows about all of them.  What is known only grows, from
step to step and from turn to turn (`presence_preserved`), and resolvers stay.  So a request for a
file of a directory leaves behind all that a later request for its neighbour needs,

    locate file   ...   locate file'       no call about files, the same branch
    resolver      ...   resolver           the same, where the directory is spelt alike.
-/

namespace ScopedImports.Session

open Locator (ReentrantHost Later SharedLookup reentrant)

variable {σ Options Module Cache : Type}
variable {session : Session σ Options Module Cache} {state : State σ Options Cache}
variable {names : List String} {file file' : String} {request : Request} {scope : Scope}

/-! ### What stays -/

/-- Locating a file is looking it up with what is known. -/
theorem locate_scope (session : Session σ Options Module Cache) (state : State σ Options Cache)
    (file : String) :
    (state.run (session.locate file)).1 = (((session.locator.locateBy (reentrant session.host)
      file).run state.memory.presence).run state.env).1.1 := by
  rw [locate, State.run_onPresence]
  rfl

theorem locate_presence (session : Session σ Options Module Cache) (state : State σ Options Cache)
    (file : String) :
    (state.run (session.locate file)).2.memory.presence
      = (((session.locator.locateBy (reentrant session.host) file).run
          state.memory.presence).run state.env).1.2 := by
  rw [locate, State.run_onPresence]
  rfl

/-- What a session knows about files changes only when files are looked up. -/
theorem presence_preserved (session : Session σ Options Module Cache) (known : Presence) :
    Preserves session fun state => Later σ Options known state.memory.presence where
  locate state file h := by
    rw [locate_presence]
    exact .locate session.locator (reentrant session.host) file state.env h
  obtain state scope h := by
    have obtains := session.obtains state scope
    generalize session.obtain state scope = done at obtains ⊢
    cases obtains with
    | stored | rejected | built => exact h
  batch state scope resolver names file _ h := by
    rw [(session.batched state resolver names file).memory]
    exact h

/-- The same from the moment at which a turn has located its file. -/
theorem located_later (session : Session σ Options Module Cache) (state : State σ Options Cache)
    (mem : request ∈ importing names file) (requests : List Request) :
    Later σ Options (state.run (session.locate file)).2.memory.presence
      (session.final (session.turn state request).after requests).memory.presence :=
  have preserved := presence_preserved session (state.run (session.locate file)).2.memory.presence
  preserved.final requests (preserved.turn_of_asks (asks_importing mem) (.now _))

/-! ### The same scope and the same resolver -/

/-- A session that has located a file, locates a neighbour alike. -/
theorem locate_neighbour {directory : Path}
    (constant : ∀ world, (session.host.workingDirectory world).1 = directory)
    (same : session.locator.places directory file' = session.locator.places directory file)
    {later : State σ Options Cache}
    (after : Later σ Options (state.run (session.locate file)).2.memory.presence
      later.memory.presence) :
    (later.run (session.locate file')).1 = (state.run (session.locate file)).1 := by
  have spelt : List.Forall₂ Path.Same (session.locator.places directory file)
      (session.locator.places directory file') := by
    rw [same]
    exact List.forall₂_same.2 fun _ _ => rfl
  obtain ⟨found, found', shared⟩ := session.locator.locate_neighbour (reentrant session.host)
    constant spelt state.memory.presence state.env
  rw [locate_presence] at after
  rw [locate_scope, locate_scope, shared.again _ after, shared.scope,
    shared.eq_of_same_places same]

/-- A request for the names in a file asks for the resolver of the scope in which the file is
located. -/
theorem reaches_importing (session : Session σ Options Module Cache) (state : State σ Options Cache)
    (mem : request ∈ importing names file) :
    session.Reaches (session.turn state request) (state.run (session.locate file)).1
      (session.obtain (state.run (session.locate file)).2
        (state.run (session.locate file)).1).1 :=
  ⟨_, asks_importing mem, rfl⟩

theorem Reaches.scope_eq (mem : request ∈ importing names file)
    {given : Except Failure (Resolver Options Cache)}
    (h : session.Reaches (session.turn state request) scope given) :
    scope = (state.run (session.locate file)).1 := by
  obtain ⟨asked, asks, -⟩ := h
  change session.asks state request = _ at asks
  rw [asks_importing mem] at asks
  obtain ⟨here, -⟩ := Prod.mk.inj (Option.some.inj asks)
  exact here.symm

/-- After a turn was given the resolver of a scope, every later turn that asks for it is given
the same. -/
theorem Recorded.again {past : List (Turn σ Options Module Cache)} (h : Recorded session past state)
    {turn : Turn σ Options Module Cache} (mem : turn ∈ past) {resolver : Resolver Options Cache}
    (reached : session.Reaches turn scope (.ok resolver))
    {given : Except Failure (Resolver Options Cache)}
    (reaches : session.Reaches (session.turn state request) scope given) :
    ∃ resolver', given = .ok resolver' ∧ resolver'.id = resolver.id := by
  have kept := h.given turn mem reached
  cases reaches.course h.sound with
  | failed absent | built absent =>
    have clash := absent.symm.trans kept
    cases clash
  | @reused resolver' present =>
    have same : cardOf resolver' = cardOf resolver := Option.some.inj (present.symm.trans kept)
    exact ⟨resolver', rfl, congrArg Card.id same⟩

/-- Whatever resolver the one turn is given, the other is given the same, for the same scope. -/
def SameResolver (session : Session σ Options Module Cache)
    (turn turn' : Turn σ Options Module Cache) : Prop :=
  ∀ ⦃scope resolver⦄, session.Reaches turn scope (.ok resolver) →
    ∀ ⦃scope' given⦄, session.Reaches turn' scope' given →
      scope' = scope ∧ ∃ resolver', given = .ok resolver' ∧ resolver'.id = resolver.id

/-- Requests for neighbours are given the same resolver. -/
theorem sameResolver_of_same_places {directory : Path}
    (constant : ∀ world, (session.host.workingDirectory world).1 = directory)
    (same : session.locator.places directory file' = session.locator.places directory file)
    {names' : List String} {first second : Request} (mem : first ∈ importing names file)
    (mem' : second ∈ importing names' file') (env : Env σ Options)
    (earlier between : List Request) :
    let turn := session.turn (session.final ⟨.empty, env⟩ earlier) first
    session.SameResolver turn (session.turn (session.final turn.after between) second) := by
  intro turn scope resolver reached scope' given reaches
  have after := located_later session (session.final ⟨.empty, env⟩ earlier) mem between
  have scopes : scope' = scope := by
    rw [reached.scope_eq mem, reaches.scope_eq mem']
    exact locate_neighbour constant same after
  subst scopes
  -- the first turn is on record when the second one asks
  have past : turn ∈ session.turns ⟨.empty, env⟩ (earlier ++ first :: between) := by
    rw [turns_append, turns]
    exact List.mem_append_right _ List.mem_cons_self
  have now : session.final ⟨.empty, env⟩ (earlier ++ first :: between)
      = session.final turn.after between := by
    rw [final_append, final_cons]
  have record : Recorded session (session.turns ⟨.empty, env⟩ (earlier ++ first :: between))
      (session.final turn.after between) := by
    rw [← now]
    exact recorded env _
  exact ⟨rfl, record.again past reached reaches⟩

/-- **Files of one directory share their lookup.**  Let the directories of two files be one path, in
two spellings, and let the one file be looked up, whatever is known before.  Any time later,
whatever was looked up in between, the look-up of the other goes the same way: it takes the same
branch, finds the same path at the same distance, calls the host for its working directory only, and
learns nothing.

Where the directories are spelt alike, the very same place is found, and in a session both files are
served by the same resolver. -/
theorem neighbours_share (locator : Locator) {directory above above' : Path} {file file' : String}
    (parent : ((Path.ofText file).anchor directory).parent = some above)
    (parent' : ((Path.ofText file').anchor directory).parent = some above')
    (same : above.Same above') :
    (∀ host : ReentrantHost σ Options, (∀ world, (host.workingDirectory world).1 = directory) →
      ∀ (known : Presence) (env : Env σ Options),
      ∃ found found', SharedLookup locator host directory file file'
          (((locator.locateBy host file).run known).run env) found found' ∧
        (above = above' → found = found')) ∧
    (above = above' → ∀ session : Session σ Options Module Cache, session.locator = locator →
      (∀ world, (session.host.workingDirectory world).1 = directory) →
      ∀ (env : Env σ Options) (earlier between : List Request) (names names' : List String),
      ∀ first ∈ importing names file, ∀ second ∈ importing names' file',
        let turn := session.turn (session.final ⟨.empty, env⟩ earlier) first
        session.SameResolver turn (session.turn (session.final turn.after between) second)) := by
  have alike (spelt : above = above') :
      locator.places directory file' = locator.places directory file :=
    Path.candidates_congr (parent'.trans (spelt ▸ parent.symm)) locator.configName
  constructor
  · intro host constant known env
    have places : List.Forall₂ Path.Same (locator.places directory file)
        (locator.places directory file') :=
      Path.same_candidates parent parent' same locator.configName
    obtain ⟨found, found', shared⟩ := locator.locate_neighbour host constant places known env
    exact ⟨found, found', shared, fun spelt => shared.eq_of_same_places (alike spelt)⟩
  · rintro spelt session rfl constant env earlier between names names' first mem second mem'
    exact sameResolver_of_same_places constant (alike spelt) mem mem' env earlier between

/-! ### In memory -/

/-- A session for one configuration, two directories below the root. -/
def twoBelow : Session InMemory.World String String InMemory.Modules :=
  InMemory.sessionOver (InMemory.setHost (Path.ofText "/") .byComponents false)
    [(Path.ofText "/a/b/c", [.ok "o"])] ⟨"c", Scope.ofPath (Path.ofText "/c")⟩

/-- One directory in two spellings, and then two files under one spelling of it. -/
theorem neighbours_share_twoBelow :
    let locator := twoBelow.locator
    let host := reentrant twoBelow.host
    let env : Env InMemory.World String := ⟨.ofFiles [Path.ofText "/a/b/c"], 0, []⟩
    let first := ((locator.locateBy host "a/b/x.ts").run (∅ : Presence)).run env
    (first.1.1 = Scope.ofPath (Path.ofText "/a/b/c") ∧
      ∃ found', locator.scopeOf found' = Scope.ofPath (Path.ofText "/a//b/c") ∧
        ∀ later, Later InMemory.World String first.1.2 later →
          ∀ env' : Env InMemory.World String,
            ((locator.locateBy host "a//b/y.ts").run later).run env'
              = ((locator.scopeOf found', later),
                  { env' with
                    journal := env'.journal
                      ++ [.noted (locator.noteOf "a//b/y.ts" found')] })) ∧
    (let state := twoBelow.final ⟨.empty, env⟩ [.locate "x.ts"]
      let turn := twoBelow.turn state (.resolve ["foo"] "a/b/x.ts")
      let turn' := twoBelow.turn (twoBelow.final turn.after [.locate "z.ts"])
        (.hook ["d"] "a/b/y.ts")
      ∃ scope resolver resolver', twoBelow.Reaches turn scope (.ok resolver) ∧
        twoBelow.Reaches turn' scope (.ok resolver') ∧ resolver'.id = resolver.id) := by
  intro locator host env first
  have parent : ((Path.ofText "a/b/x.ts").anchor (Path.ofText "/")).parent
      = some (Path.ofText "/a/b") := by decide +kernel
  constructor
  · have respelt : ((Path.ofText "a//b/y.ts").anchor (Path.ofText "/")).parent
        = some (Path.ofText "/a//b") := by decide +kernel
    obtain ⟨lookups, -⟩ := @neighbours_share _ _ String InMemory.Modules locator _ _ _ _ _ parent
      respelt (by decide +kernel)
    obtain ⟨found, found', shared, -⟩ := lookups host (fun _ => rfl) ∅ env
    refine ⟨by decide +kernel, found', ?_, shared.again⟩
    have again := shared.again _ (.now _) first.2
    refine (congrArg (fun done => done.1.1) again).symm.trans ?_
    decide +kernel
  · intro state turn turn'
    have alike : ((Path.ofText "a/b/y.ts").anchor (Path.ofText "/")).parent
        = some (Path.ofText "/a/b") := by decide +kernel
    have mem : Request.resolve ["foo"] "a/b/x.ts" ∈ importing ["foo"] "a/b/x.ts" := by
      simp [importing]
    have mem' : Request.hook ["d"] "a/b/y.ts" ∈ importing ["d"] "a/b/y.ts" := by simp [importing]
    have reached := reaches_importing twoBelow state mem
    have reaches := reaches_importing twoBelow (twoBelow.final turn.after [.locate "z.ts"]) mem'
    have had : (twoBelow.obtain (state.run (twoBelow.locate "a/b/x.ts")).2
        (state.run (twoBelow.locate "a/b/x.ts")).1).1.isOk = true := by decide +kernel
    rcases given : (twoBelow.obtain (state.run (twoBelow.locate "a/b/x.ts")).2
        (state.run (twoBelow.locate "a/b/x.ts")).1).1 with failure | resolver
    · rw [given] at had
      cases had
    rw [given] at reached
    obtain ⟨-, sessions⟩ := @neighbours_share _ _ String InMemory.Modules locator _ _ _ _ _ parent
      alike rfl
    obtain ⟨same, resolver', had', id⟩ := sessions rfl twoBelow rfl (fun _ => rfl) env
      [.locate "x.ts"] [.locate "z.ts"] ["foo"] ["d"] _ mem _ mem' reached reaches
    rw [had', same] at reaches
    exact ⟨_, resolver, resolver', reached, reaches, id⟩

end ScopedImports.Session
