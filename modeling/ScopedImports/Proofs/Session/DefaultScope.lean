import ScopedImports.Proofs.InMemory.Steady
import ScopedImports.Proofs.Lookup.Trace
import ScopedImports.Proofs.Path.Spelling
import ScopedImports.Proofs.Session.FirstSuccess

/-!
The default scope, and the scope in which a file beside it is located.

A session is started for the project configuration `folder ++ name`, and looks for configurations
called `name`.  A file of the same folder has its nearest place where the project configuration is:

    default scope    the project configuration, anchored         front ++ name
    nearest place    the directory of the file, joined to name   front ++ name, but perhaps respelt

The two are one path.  Scopes go by bytes, though, so whether they are one scope is decided by
`front`, which is the anchored folder (`Path.Tidy`).  If they are, they share a resolver; if not,
the configuration is loaded twice, and no request for the one scope moves the cache of the other.
-/

namespace ScopedImports.Session

open ScopedImports.Path (IsName IsFolder Tidy)

variable {σ Options Module Cache : Type}
variable {session : Session σ Options Module Cache} {state : State σ Options Cache}

/-! ### The nearest place in a look-up -/

theorem walk_traced (session : Session σ Options Module Cache) (state : State σ Options Cache)
    (file : String) :
    Locator.Traced session.host
      (session.locator.places (session.host.workingDirectory state.env.world).1 file)
      state.memory.presence ((Locator.reentrant session.host).entered state.env)
      (session.walk state file) :=
  Locator.firstPresent_traced _ _ _ _

section Nearest

variable {file : String} {nearest : Path} {farther : List Path}
variable (places : session.locator.places (session.host.workingDirectory state.env.world).1 file
  = nearest :: farther)

include places

/-- The nearest place is the first that the host is asked about, if nothing is known of it. -/
theorem probes_nearest (new : state.memory.presence.find? nearest = none) :
    ∃ more, (state.run (session.locate file)).2.env.journal
      = state.env.journal ++ .probed nearest :: more := by
  have traced := walk_traced session state file
  rw [places] at traced
  have first : ∃ more, Locator.asked state.memory.presence (session.walk state file).1.2
      (nearest :: farther) = nearest :: more := Locator.asked_cons_of_none new farther
  obtain ⟨more, first⟩ := first
  rw [locate_spec]
  dsimp only
  rw [traced.probes, first, List.map_cons, List.append_assoc, List.cons_append]
  exact ⟨_, rfl⟩

/-- The nearest place governs the file, if it is known to be a file when the look-up ends. -/
theorem located_nearest
    (there : (state.run (session.locate file)).2.memory.presence.find? nearest = some true) :
    (state.run (session.locate file)).1 = Scope.ofPath nearest := by
  have traced := walk_traced session state file
  rw [places] at traced
  rw [locate_spec] at there ⊢
  show session.locator.scopeOf (session.walk state file).1.1 = _
  rw [traced.found, List.find?_cons_of_pos (Locator.confirmed_of_true there)]
  rfl

end Nearest

/-! ### Requests for one scope leave the others alone -/

theorem resolver?_obtain_of_ne {scope other : Scope} (apart : scope ≠ other) :
    (session.obtain state scope).2.resolver? other = state.resolver? other := by
  have obtains := session.obtains state scope
  generalize session.obtain state scope = done at obtains ⊢
  cases obtains with
  | stored kept => rfl
  | rejected new loaded => rfl
  | built new loaded =>
    rw [State.resolver?_push, if_neg apart]
    rfl

/-- **A turn moves no resolver but that of the scope it asks for.** -/
theorem resolver?_turn_of_ne (sound : state.Sound) {request : Request} {other : Scope}
    (apart : ∀ scope asked, session.asks state request = some (scope, asked) → scope ≠ other) :
    (session.turn state request).after.resolver? other = state.resolver? other := by
  rcases asks : session.asks state request with - | ⟨scope, asked⟩
  · obtain ⟨file, rfl⟩ := session.eq_locate_of_asks state asks
    rw [turn_locate]
    exact session.resolver?_locate state file other
  · have located : asked.resolver? other = state.resolver? other :=
      asks_keeps (P := fun asked => asked.resolver? other = state.resolver? other) asks rfl
        fun file => session.resolver?_locate state file other
    have obtained : (session.obtain asked scope).2.resolver? other = state.resolver? other := by
      rw [resolver?_obtain_of_ne (apart scope asked asks), located]
    have still : ((session.obtain asked scope).2).Sound :=
      sound_preserved.obtain scope (sound_preserved.asks asks sound)
    rw [turn_of_asks asks]
    -- a batch moves the resolver that it is resolved with
    refine conclude_keeps (P := fun later => later.resolver? other = state.resolver? other) request
      scope obtained ?_
    intro resolver names file had
    have kept := session.resolver?_of_obtain asked had
    rw [resolver?_batch kept (still.scope_eq kept), if_neg (apart scope asked asks), obtained]

/-! ### Two scopes in a run -/

/-- One of the turns was given this resolver for the scope. -/
def Given (session : Session σ Options Module Cache) (past : List (Turn σ Options Module Cache))
    (scope : Scope) (resolver : Resolver Options Cache) : Prop :=
  ∃ turn ∈ past, session.Reaches turn scope (.ok resolver)

section Past

variable {past : List (Turn σ Options Module Cache)} {scope scope' : Scope}
variable {resolver resolver' : Resolver Options Cache}

theorem Given.card? (given : session.Given past scope resolver)
    (record : Recorded session past state) : state.card? scope = some (cardOf resolver) := by
  obtain ⟨turn, mem, reached⟩ := given
  exact record.given turn mem reached

/-- Of two scopes, the resolvers are the same where the scopes are. -/
theorem Given.id_eq_iff (given : session.Given past scope resolver)
    (given' : session.Given past scope' resolver') (record : Recorded session past state) :
    resolver.id = resolver'.id ↔ scope = scope' := by
  have kept := given.card? record
  have kept' := given'.card? record
  constructor
  · exact record.sound.apart kept kept'
  · rintro rfl
    have same : cardOf resolver = cardOf resolver' := Option.some.inj (kept.symm.trans kept')
    exact congrArg Card.id same

/-- The options of two scopes are loaded in two turns, one for each. -/
theorem Given.exists_loads (given : session.Given past scope resolver)
    (given' : session.Given past scope' resolver') (record : Recorded session past state)
    (apart : scope ≠ scope') :
    ∃ first ∈ past, ∃ first' ∈ past, first ≠ first' ∧
      session.Loads first scope (.ok resolver.options) ∧
      session.Loads first' scope' (.ok resolver'.options) := by
  obtain ⟨first, mem, loads⟩ := record.made (given.card? record)
  obtain ⟨first', mem', loads'⟩ := record.made (given'.card? record)
  refine ⟨first, mem, first', mem', ?_, loads, loads'⟩
  rintro rfl
  exact apart (loads.unique loads').1

end Past

/-! ### The default scope -/

/-- How the default scope of a session and the nearest place for a file compare, where `front` is
what is written in front of their names. -/
structure BesideDefault (session : Session σ Options Module Cache) (directory : Path)
    (file : String) (front : List UInt8) (nearest : Path) : Prop where
  /-- It is the nearest place for the file. -/
  place : ∃ farther, session.locator.places directory file = nearest :: farther
  /-- A look-up of the file asks the host about it first, if nothing is known of it. -/
  probed : ∀ state : State σ Options Cache, state.memory.presence.find? nearest = none →
    ∃ more, (state.run (session.locate file)).2.env.journal
      = state.env.journal ++ .probed nearest :: more
  /-- It governs the file, if it is known to be a file when the look-up ends. -/
  governs : ∀ state : State σ Options Cache,
    (state.run (session.locate file)).2.memory.presence.find? nearest = some true →
    (state.run (session.locate file)).1 = Scope.ofPath nearest
  /-- By components, it is the configuration of the default scope. -/
  same : nearest.Same session.defaultScope.path
  /-- Its scope is the default scope if and only if `front` is tidy. -/
  scope : Scope.ofPath nearest = session.defaultScope ↔ Tidy front
  /-- In every run the two scopes have one resolver if and only if `front` is tidy. -/
  resolver : ∀ (env : Env σ Options) (requests : List Request),
    let past := session.turns ⟨.empty, env⟩ requests
    ∀ resolver resolver', session.Given past (Scope.ofPath nearest) resolver →
      session.Given past session.defaultScope resolver' →
      (resolver.id = resolver'.id ↔ Tidy front)
  /-- Otherwise each of the two resolvers has options that were loaded for its own scope, in a turn
  of its own. -/
  loads : ¬ Tidy front → ∀ (env : Env σ Options) (requests : List Request),
    let past := session.turns ⟨.empty, env⟩ requests
    ∀ resolver resolver', session.Given past (Scope.ofPath nearest) resolver →
      session.Given past session.defaultScope resolver' →
      ∃ first ∈ past, ∃ first' ∈ past, first ≠ first' ∧
        session.Loads first (Scope.ofPath nearest) (.ok resolver.options) ∧
        session.Loads first' session.defaultScope (.ok resolver'.options)
  /-- Otherwise, too, a turn that asks for the one scope leaves the resolver of the other as it is,
  with its cache. -/
  cache : ¬ Tidy front → ∀ (env : Env σ Options) (requests : List Request) (request : Request),
    let state := session.final ⟨.empty, env⟩ requests
    let turn := session.turn state request
    (∀ asked, session.asks state request = some (Scope.ofPath nearest, asked) →
      turn.after.resolver? session.defaultScope = state.resolver? session.defaultScope) ∧
    (∀ asked, session.asks state request = some (session.defaultScope, asked) →
      turn.after.resolver? (Scope.ofPath nearest) = state.resolver? (Scope.ofPath nearest))

/-- What is known of the paths settles what becomes of the scopes. -/
theorem besideDefault {directory nearest : Path} {file : String} {front : List UInt8}
    (constant : ∀ world, (session.host.workingDirectory world).1 = directory)
    {farther : List Path} (places : session.locator.places directory file = nearest :: farther)
    (same : nearest.Same session.defaultScope.path)
    (scope : Scope.ofPath nearest = session.defaultScope ↔ Tidy front) :
    BesideDefault session directory file front nearest where
  place := ⟨farther, places⟩
  probed state new := by
    have here := constant state.env.world ▸ places
    exact probes_nearest here new
  governs state there := by
    have here := constant state.env.world ▸ places
    exact located_nearest here there
  same := same
  scope := scope
  resolver := by
    intro env requests past resolver resolver' given given'
    rw [given.id_eq_iff given' (recorded env requests), scope]
  loads := by
    intro untidy env requests past resolver resolver' given given'
    exact given.exists_loads given' (recorded env requests) (mt scope.1 untidy)
  cache := by
    intro untidy env requests request state turn
    have sound : state.Sound := (recorded env requests).sound
    have apart : Scope.ofPath nearest ≠ session.defaultScope := mt scope.1 untidy
    constructor
    · intro asked asks
      apply resolver?_turn_of_ne sound
      intro wanted asked' asks'
      obtain ⟨rfl, -⟩ := Prod.mk.inj (Option.some.inj (asks.symm.trans asks'))
      exact apart
    · intro asked asks
      apply resolver?_turn_of_ne sound
      intro wanted asked' asks'
      obtain ⟨rfl, -⟩ := Prod.mk.inj (Option.some.inj (asks.symm.trans asks'))
      exact apart.symm

/-- **When the default scope is the scope in which a file is located.**  Let the project
configuration and the file be in one folder.  Then the default scope and the nearest place for the
file are one path, and one scope if and only if what is written in front of them is tidy. -/
theorem default_beside {folder name file : String} (isFolder : IsFolder folder)
    (isName : IsName name) (isFile : IsName file) (caseSensitive : Bool) (host : Host σ)
    (loader : Loader σ Options) (finder : Finder σ Options Module Cache) {directory : Path}
    (constant : ∀ world, (host.workingDirectory world).1 = directory) (world : σ) :
    let settings : Settings := ⟨Path.ofText (folder ++ name), name, caseSensitive⟩
    let session := ((Session.start settings host loader finder).run world).1
    ∃ front nearest,
      ((Path.ofText (folder ++ name)).anchor directory).bytes
        = front ++ (Path.ofText name).bytes ∧
      BesideDefault session directory (folder ++ file) front nearest := by
  intro settings session
  obtain ⟨nearest, farther, places, same, spelt⟩ :=
    Path.candidates_beside (isFolder.anchor_ends directory) isFile isName
  have anchored {text : String} (text_isName : IsName text) :
      (⟨((Path.ofText folder).anchor directory).bytes ++ (Path.ofText text).bytes⟩ : Path)
        = (Path.ofText (folder ++ text)).anchor directory := by
    rw [← isFolder.anchor_append text_isName directory]
  rw [anchored isFile] at places
  rw [anchored isName] at same spelt
  have default : session.defaultScope.path = (Path.ofText (folder ++ name)).anchor directory := by
    show (Path.ofText (folder ++ name)).anchor (host.workingDirectory world).1 = _
    rw [constant]
  refine ⟨((Path.ofText folder).anchor directory).bytes, nearest,
    isFolder.anchor_append isName directory, besideDefault constant places ?_ ?_⟩
  · rw [default]
    exact same
  · rw [← spelt, ← default]
    constructor
    · exact congrArg Scope.path
    · exact congrArg Scope.ofPath

/-! ### In memory -/

/-- A session in `/r` for the project configuration `c` of a folder.  Two spellings of `/r/c` are
loaded with different options. -/
def startedIn (folder : String) : Session InMemory.World String String InMemory.Modules :=
  ((Session.start ⟨Path.ofText (folder ++ "c"), "c", true⟩
      (InMemory.setHost (Path.ofText "/r") .byComponents false)
      (InMemory.preparedLoader
        [(Path.ofText "/r/c", [.ok "o"]), (Path.ofText "/r/./c", [.ok "p"])])
      InMemory.composingFinder).run (.ofFiles [Path.ofText "/r/c"])).1

/-- In `/r` itself the default scope is the located one; spelt `./` it is another, and both are
given resolvers. -/
theorem default_beside_startedIn :
    let nearest := Path.ofText "/r/c"
    (∃ front, BesideDefault (startedIn "") (Path.ofText "/r") ("" ++ "x") front nearest ∧
      Tidy front) ∧
    ∃ front, BesideDefault (startedIn "./") (Path.ofText "/r") ("./" ++ "x") front nearest ∧
      ¬ Tidy front ∧
      (let env : Env InMemory.World String := ⟨.ofFiles [nearest], 0, []⟩
        let other := (startedIn "./").defaultScope
        let past := (startedIn "./").turns ⟨.empty, env⟩
          [.resolverFor (Scope.ofPath nearest), .resolverFor other]
        ∃ resolver resolver', (startedIn "./").Given past (Scope.ofPath nearest) resolver ∧
          (startedIn "./").Given past other resolver' ∧ resolver.id ≠ resolver'.id) := by
  intro nearest
  have c : IsName "c" := ⟨by decide, by decide, by decide, by decide⟩
  have x : IsName "x" := ⟨by decide, by decide, by decide, by decide⟩
  have started {folder : String} (isFolder : IsFolder folder)
      (first : ((startedIn folder).locator.places (Path.ofText "/r") (folder ++ "x")).head?
        = some nearest) :
      ∃ front,
        BesideDefault (startedIn folder) (Path.ofText "/r") (folder ++ "x") front nearest := by
    obtain ⟨front, place, -, beside⟩ :=
      default_beside isFolder c x true (InMemory.setHost (Path.ofText "/r") .byComponents false)
        (InMemory.preparedLoader
          [(Path.ofText "/r/c", [.ok "o"]), (Path.ofText "/r/./c", [.ok "p"])])
        InMemory.composingFinder (fun _ => rfl) (.ofFiles [Path.ofText "/r/c"])
    obtain ⟨farther, places⟩ := beside.place
    have same : (place :: farther).head? = some nearest := places ▸ first
    obtain rfl := Option.some.inj same
    exact ⟨front, beside⟩
  constructor
  · have plain : IsFolder "" := .inl rfl
    obtain ⟨front, beside⟩ := started plain (by decide +kernel)
    exact ⟨front, beside, beside.scope.1 (by decide +kernel)⟩
  · have dotted : IsFolder "./" := .inr (by decide)
    obtain ⟨front, beside⟩ := started dotted (by decide +kernel)
    have untidy : ¬ Tidy front := mt beside.scope.2 (by decide +kernel)
    refine ⟨front, beside, untidy, ?_⟩
    intro env other past
    have given {before : State InMemory.World String InMemory.Modules} {scope : Scope}
        (mem : (startedIn "./").turn before (.resolverFor scope) ∈ past)
        (had : ((startedIn "./").obtain before scope).1.isOk = true) :
        ∃ resolver, (startedIn "./").Given past scope resolver := by
      rcases result : ((startedIn "./").obtain before scope).1 with failure | resolver
      · rw [result] at had
        cases had
      · exact ⟨resolver, _, mem, before, rfl, result⟩
    obtain ⟨resolver, first⟩ := given List.mem_cons_self (by decide +kernel)
    obtain ⟨resolver', second⟩ := given (List.mem_cons_of_mem _ List.mem_cons_self)
      (by decide +kernel)
    exact ⟨resolver, resolver', first, second,
      mt (beside.resolver env _ resolver resolver' first second).1 untidy⟩

end ScopedImports.Session
