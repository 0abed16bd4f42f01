import ScopedImports.Proofs.Session.Resolvers

/-!
A scope's configuration is loaded until the first success, and then never again.

The loader may answer differently every time.  A turn that asks for the resolver of a scope goes one
of three ways (`Course`):

    no resolver yet, the loader fails       one load, the failure is the response, nothing is kept
    no resolver yet, the loader succeeds    one load, the resolver given has a new card
    a resolver is there                     no load, the resolver given has the card that is kept

Hence the cards that a session keeps are those that were made out in its past (`Recorded`), and
what the next turn does to a scope depends on that scope's own past alone.  Scopes are told apart by
their bytes.
-/

namespace ScopedImports

/-- The configuration file whose options are asked for. -/
def Event.parsed? {Options : Type} : Event Options → Option Path
  | .parsed path => some path
  | _ => none

namespace Session

variable {σ Options Module Cache : Type}
variable (session : Session σ Options Module Cache)

/-- The configuration files whose options have been asked for, in order. -/
def State.parses (state : State σ Options Cache) : List Path :=
  state.env.journal.filterMap Event.parsed?

/-- The configuration files whose options are asked for in the turn. -/
def Turn.parses (turn : Turn σ Options Module Cache) : List Path :=
  turn.after.parses.drop turn.before.parses.length

/-- The turn asks for the resolver of `scope`, and this is what it is given. -/
def Reaches (turn : Turn σ Options Module Cache) (scope : Scope)
    (given : Except Failure (Resolver Options Cache)) : Prop :=
  ∃ asked, session.asks turn.before turn.request = some (scope, asked) ∧
    (session.obtain asked scope).1 = given

/-- The turn asks for the resolver of `scope`, and for this the loader is called exactly once, with
the exact bytes of the scope and this result. -/
def Loads (turn : Turn σ Options Module Cache) (scope : Scope) (result : Except Failure Options) :
    Prop :=
  ∃ asked, session.asks turn.before turn.request = some (scope, asked) ∧
    turn.parses = [scope.path] ∧ (session.load asked scope).1 = result

variable {session} {state : State σ Options Cache} {scope : Scope} {asked : State σ Options Cache}

/-! ### The loads of a step -/

theorem parses_locate (file : String) :
    (state.run (session.locate file)).2.parses = state.parses := by
  refine session.env_locate (P := fun env => env.journal.filterMap Event.parsed? = state.parses)
    state file ?_ (fun _ h => h) ?_ rfl
  · intro env path h
    rw [← h, Locator.probed, List.filterMap_append]
    exact List.append_nil _
  · intro env note h
    rw [← h, List.filterMap_append]
    exact List.append_nil _

theorem parses_batch (resolver : Resolver Options Cache) (names : List String) (file : String) :
    (session.batch state resolver names file).2.parses = state.parses := by
  have silent : (names.eraseDups.map fun name =>
      Event.searched name file resolver.options).filterMap Event.parsed? = [] := by
    rw [List.filterMap_map]
    exact List.filterMap_eq_nil_iff.2 fun _ _ => rfl
  rw [State.parses, (session.batched state resolver names file).journal, List.filterMap_append,
    List.filterMap_append, silent, List.append_nil]
  exact List.append_nil _

/-- What was loaded before stays on record. -/
theorem parses_preserved (earlier : List Path) :
    Preserves session fun state => earlier <+: state.parses where
  locate _ file h := by
    rw [parses_locate]
    exact h
  obtain state scope h := by
    have obtains := session.obtains state scope
    generalize session.obtain state scope = done at obtains ⊢
    cases obtains with
    | stored kept => exact h
    | rejected new loaded | built new loaded =>
      rw [State.parses, List.filterMap_append]
      exact h.trans (List.prefix_append _ _)
  batch _ _ _ names file _ h := by
    rw [parses_batch]
    exact h

theorem parses_turn (state : State σ Options Cache) (request : Request) :
    (session.turn state request).after.parses
      = state.parses ++ (session.turn state request).parses := by
  have grown : state.parses <+: (session.turn state request).after.parses :=
    (parses_preserved state.parses).turn request (List.prefix_refl _)
  exact (List.prefix_iff_eq_append.1 grown).symm

/-! ### The course of a turn -/

/-- The ways in which a turn that asks for the resolver of a scope goes. -/
inductive Course (session : Session σ Options Module Cache) (turn : Turn σ Options Module Cache)
    (scope : Scope) : Except Failure (Resolver Options Cache) → Prop
  | failed {failure : Failure} :
      turn.before.card? scope = none → session.Loads turn scope (.error failure) →
      turn.response = turn.request.refusal failure →
      (∀ other, turn.after.card? other = turn.before.card? other) →
      Course session turn scope (.error failure)
  | built {resolver : Resolver Options Cache} :
      turn.before.card? scope = none → session.Loads turn scope (.ok resolver.options) →
      (∀ other, turn.after.card? other
        = if scope = other then some (cardOf resolver) else turn.before.card? other) →
      Course session turn scope (.ok resolver)
  | reused {resolver : Resolver Options Cache} :
      turn.before.card? scope = some (cardOf resolver) → turn.parses = [] →
      (∀ other, turn.after.card? other = turn.before.card? other) →
      Course session turn scope (.ok resolver)

theorem Turn.parses_eq {turn : Turn σ Options Module Cache} {more : List Path}
    (h : turn.after.parses = turn.before.parses ++ more) : turn.parses = more := by
  rw [Turn.parses, h, List.drop_left]

/-- Loads and cards of a turn are those of obtaining its resolver; a batch adds nothing to them. -/
theorem turn_after {request : Request} (sound : state.Sound)
    (asks : session.asks state request = some (scope, asked)) :
    (session.turn state request).after.parses = (session.obtain asked scope).2.parses ∧
      ∀ other, (session.turn state request).after.card? other
        = (session.obtain asked scope).2.card? other := by
  have ends : (session.turn state request).after
      = (session.conclude request (session.obtain asked scope)).2 := by
    rw [turn_of_asks asks]
  have still : ((session.obtain asked scope).2).Sound :=
    sound_preserved.obtain scope (sound_preserved.asks asks sound)
  rw [ends]
  -- what a batch leaves as it is
  let P (later : State σ Options Cache) : Prop :=
    later.parses = (session.obtain asked scope).2.parses ∧
      ∀ other, later.card? other = (session.obtain asked scope).2.card? other
  show P (session.conclude request (session.obtain asked scope)).2
  refine conclude_keeps request scope ⟨rfl, fun _ => rfl⟩ ?_
  intro resolver names file had
  have kept := session.resolver?_of_obtain asked had
  exact ⟨parses_batch resolver names file, card?_batch kept (still.scope_eq kept) names file⟩

/-- **A turn that asks for a resolver goes one of three ways.** -/
theorem course {request : Request} (sound : state.Sound)
    (asks : session.asks state request = some (scope, asked)) :
    Course session (session.turn state request) scope (session.obtain asked scope).1 := by
  have cards : ∀ other, asked.card? other = state.card? other :=
    asks_keeps (P := fun asked => ∀ other, asked.card? other = state.card? other) asks
      (fun _ => rfl) card?_locate
  have parses : asked.parses = state.parses :=
    asks_keeps (P := fun asked => asked.parses = state.parses) asks rfl parses_locate
  have served : (session.turn state request).response
      = (session.conclude request (session.obtain asked scope)).1 := by
    rw [turn_of_asks asks]
  obtain ⟨loads, after⟩ := turn_after sound asks
  -- neither locating nor the batch counts, so the turn goes as obtaining does
  have obtains := session.obtains asked scope
  generalize session.obtain asked scope = done at served loads after obtains ⊢
  cases obtains with
  | @stored resolver kept =>
    have present : state.card? scope = some (cardOf resolver) := by
      rw [← cards, State.card?, kept, Option.map_some]
    refine .reused present (Turn.parses_eq ?_) ?_
    · rw [loads, List.append_nil]
      exact parses
    · intro other
      rw [after]
      exact cards other
  | rejected new loaded =>
    have absent : state.card? scope = none := by
      rw [← cards, State.card?, new, Option.map_none]
    refine .failed absent ⟨asked, asks, Turn.parses_eq ?_, loaded⟩ served ?_
    · rw [loads, State.parses, List.filterMap_append]
      exact congrArg (· ++ [scope.path]) parses
    · intro other
      rw [after]
      exact cards other
  | built new loaded =>
    have absent : state.card? scope = none := by
      rw [← cards, State.card?, State.resolver?, new, Option.map_none]
    refine .built absent ⟨asked, asks, Turn.parses_eq ?_, loaded⟩ ?_
    · rw [loads, State.parses, List.filterMap_append]
      exact congrArg (· ++ [scope.path]) parses
    · intro other
      rw [after, card?_push new]
      exact congrArg (ite (scope = other) _) (cards other)

theorem conclude_of_asks {request : Request}
    (asks : session.asks state request = some (scope, asked)) :
    session.conclude request ((session.obtain asked scope).1, (session.obtain asked scope).2)
      = ((session.turn state request).response, (session.turn state request).after) := by
  rw [turn_of_asks asks, Prod.eta, Prod.eta]

theorem exists_course {request : Request} (sound : state.Sound)
    (asks : session.asks state request = some (scope, asked)) :
    ∃ given, Course session (session.turn state request) scope given :=
  ⟨_, course sound asks⟩

/-- A turn that asks for no resolver loads nothing and leaves the cards alone. -/
theorem idle {request : Request} (asks : session.asks state request = none) :
    (session.turn state request).parses = [] ∧
      ∀ other, (session.turn state request).after.card? other = state.card? other := by
  obtain ⟨file, rfl⟩ := session.eq_locate_of_asks state asks
  have after : (session.turn state (.locate file)).after = (state.run (session.locate file)).2 := by
    rw [turn, serve_locate]
  constructor
  · apply Turn.parses_eq
    rw [after, parses_locate, List.append_nil]
    rfl
  · intro other
    rw [after, card?_locate]

/-! ### What a turn asks for is determined -/

theorem Loads.unique {turn : Turn σ Options Module Cache} {scope scope' : Scope}
    {result result' : Except Failure Options} (h : session.Loads turn scope result)
    (h' : session.Loads turn scope' result') : scope = scope' ∧ result = result' := by
  obtain ⟨asked, asks, -, rfl⟩ := h
  obtain ⟨asked', asks', -, rfl⟩ := h'
  rw [asks] at asks'
  cases asks'
  exact ⟨rfl, rfl⟩

theorem Reaches.course {request : Request} {given : Except Failure (Resolver Options Cache)}
    (h : session.Reaches (session.turn state request) scope given) (sound : state.Sound) :
    Course session (session.turn state request) scope given := by
  obtain ⟨asked, asks, rfl⟩ := h
  exact Session.course sound asks

/-! ### Cards and turns -/

section Cards

variable {request : Request} {card : Card Options} {resolver : Resolver Options Cache}
variable (sound : state.Sound)

include sound

/-- A card once made out stays. -/
theorem card?_turn_of_some (kept : state.card? scope = some card) :
    (session.turn state request).after.card? scope = some card := by
  rcases asks : session.asks state request with - | ⟨wanted, asked⟩
  · rw [(idle asks).2, kept]
  · obtain ⟨given, course⟩ := exists_course sound asks
    cases course with
    | failed absent loads response same | reused present quiet same =>
      rw [same]
      exact kept
    | built absent loads cards =>
      have other : wanted ≠ scope := by
        rintro rfl
        have clash := absent.symm.trans kept
        cases clash
      rw [cards, if_neg other]
      exact kept

/-- A card is made out only in a turn that loads its scope with success. -/
theorem loads_of_card?_turn (kept : (session.turn state request).after.card? scope = some card) :
    state.card? scope = some card ∨
      session.Loads (session.turn state request) scope (.ok card.options) := by
  rcases asks : session.asks state request with - | ⟨wanted, asked⟩
  · rw [(idle asks).2] at kept
    exact .inl kept
  · obtain ⟨given, course⟩ := exists_course sound asks
    cases course with
    | failed absent loads response same | reused present quiet same =>
      rw [same] at kept
      exact .inl kept
    | built absent loads cards =>
      rw [cards] at kept
      by_cases same : wanted = scope
      · subst same
        rw [if_pos rfl] at kept
        cases kept
        exact .inr loads
      · rw [if_neg same] at kept
        exact .inl kept

/-- The card of the resolver that a turn is given is kept. -/
theorem card?_of_reaches (h : session.Reaches (session.turn state request) scope (.ok resolver)) :
    (session.turn state request).after.card? scope = some (cardOf resolver) := by
  cases h.course sound with
  | built absent loads cards => rw [cards, if_pos rfl]
  | reused present quiet same =>
    rw [same]
    exact present

/-- A turn that loads a scope with success is given a resolver with these options. -/
theorem reaches_of_loads {options : Options}
    (h : session.Loads (session.turn state request) scope (.ok options)) :
    ∃ resolver, session.Reaches (session.turn state request) scope (.ok resolver) ∧
      resolver.options = options := by
  obtain ⟨asked, asks, called, loaded⟩ := h
  have course : Course session (session.turn state request) scope (session.obtain asked scope).1 :=
    Session.course sound asks
  rcases given : (session.obtain asked scope).1 with failure | resolver
  · rw [given] at course
    cases course with
    | failed absent loads response same =>
      have clash := (loads.unique ⟨asked, asks, called, loaded⟩).2
      cases clash
  · rw [given] at course
    refine ⟨resolver, ⟨asked, asks, given⟩, ?_⟩
    cases course with
    | built absent loads cards =>
      have same := (loads.unique ⟨asked, asks, called, loaded⟩).2
      cases same
      rfl
    | reused present quiet same =>
      rw [quiet] at called
      cases called

end Cards

/-! ### The past of a run -/

/-- The cards that a session keeps are those that were made out in its past. -/
structure Recorded (session : Session σ Options Module Cache)
    (past : List (Turn σ Options Module Cache)) (state : State σ Options Cache) : Prop where
  sound : state.Sound
  made : ∀ ⦃scope card⦄, state.card? scope = some card →
    ∃ first ∈ past, session.Loads first scope (.ok card.options)
  given : ∀ turn ∈ past, ∀ ⦃scope resolver⦄, session.Reaches turn scope (.ok resolver) →
    state.card? scope = some (cardOf resolver)
  loaded : ∀ turn ∈ past, ∀ ⦃scope options⦄, session.Loads turn scope (.ok options) →
    ∃ resolver, session.Reaches turn scope (.ok resolver) ∧ resolver.options = options

theorem Recorded.of_empty (env : Env σ Options) :
    Recorded session [] (⟨.empty, env⟩ : State σ Options Cache) where
  sound := State.sound_of_empty env
  made _ _ kept := nomatch kept
  given _ mem := absurd mem List.not_mem_nil
  loaded _ mem := absurd mem List.not_mem_nil

theorem Recorded.turn {past : List (Turn σ Options Module Cache)} (h : Recorded session past state)
    (request : Request) :
    Recorded session (past ++ [session.turn state request])
      (session.turn state request).after where
  sound := sound_preserved.turn request h.sound
  made := by
    intro scope card kept
    rcases loads_of_card?_turn h.sound kept with before | now
    · obtain ⟨first, mem, loads⟩ := h.made before
      exact ⟨first, List.mem_append_left _ mem, loads⟩
    · exact ⟨_, List.mem_append_right _ (List.mem_singleton_self _), now⟩
  given := by
    intro turn mem scope resolver reaches
    rcases List.mem_append.1 mem with before | now
    · exact card?_turn_of_some h.sound (h.given turn before reaches)
    · obtain rfl := List.mem_singleton.1 now
      exact card?_of_reaches h.sound reaches
  loaded := by
    intro turn mem scope options loads
    rcases List.mem_append.1 mem with before | now
    · exact h.loaded turn before loads
    · obtain rfl := List.mem_singleton.1 now
      exact reaches_of_loads h.sound loads

/-- The record holds at every point of a run. -/
theorem recorded (env : Env σ Options) (requests : List Request) :
    Recorded session (session.turns ⟨.empty, env⟩ requests)
      (session.final ⟨.empty, env⟩ requests) := by
  induction requests using List.reverseRecOn with
  | nil => exact .of_empty env
  | append_singleton requests request ih =>
    rw [turns_concat, final_concat]
    exact ih.turn request

/-! ### Until the first success -/

/-- What a run that went through the turns in `past` does in its next turn. -/
structure LoadsUntilSuccess (session : Session σ Options Module Cache)
    (past : List (Turn σ Options Module Cache)) (turn : Turn σ Options Module Cache) : Prop where
  /-- The record of loads is only extended. -/
  extended : turn.after.parses = turn.before.parses ++ turn.parses
  /-- A turn that asks for no resolver loads nothing. -/
  idle : session.asks turn.before turn.request = none → turn.parses = []
  /-- The response follows from the resolver or the failure that the turn is given. -/
  response : ∀ scope given, session.Reaches turn scope given →
    ∃ later, session.conclude turn.request (given, later) = (turn.response, turn.after)
  /-- As long as no load of the scope has succeeded, a turn that asks for it loads it exactly once.
  It is given the loader's failure, or a resolver for the scope with the loader's options. -/
  retries : ∀ scope given, session.Reaches turn scope given →
    (∀ earlier ∈ past, ∀ options, ¬ session.Loads earlier scope (.ok options)) →
    ∃ result, session.Loads turn scope result ∧ match result with
      | .error failure => given = .error failure
      | .ok options => ∃ resolver, given = .ok resolver ∧
          resolver.scope = scope ∧ resolver.options = options
  /-- After a load of the scope has succeeded, no turn loads it again, whatever it asks for. -/
  quiet : ∀ first ∈ past, ∀ scope options, session.Loads first scope (.ok options) →
    scope.path ∉ turn.parses
  /-- After a load of the scope has succeeded, a turn that asks for it is given the resolver that
  was given then, for the scope and with the options of that load. -/
  stands : ∀ first ∈ past, ∀ scope options given, session.Loads first scope (.ok options) →
    session.Reaches turn scope given →
    ∃ original resolver, session.Reaches first scope (.ok original) ∧ given = .ok resolver ∧
      resolver.id = original.id ∧ resolver.scope = scope ∧ resolver.options = options
  /-- Scopes with different bytes have different resolvers. -/
  apart : ∀ earlier ∈ past, ∀ scope scope' resolver resolver',
    session.Reaches earlier scope (.ok resolver) → session.Reaches turn scope' (.ok resolver') →
    resolver.id = resolver'.id → scope = scope'

/-- Before the first success no card is kept. -/
theorem Recorded.card?_eq_none {past : List (Turn σ Options Module Cache)}
    (h : Recorded session past state)
    (never : ∀ earlier ∈ past, ∀ options, ¬ session.Loads earlier scope (.ok options)) :
    state.card? scope = none := by
  rcases kept : state.card? scope with - | card
  · rfl
  · obtain ⟨first, mem, loads⟩ := h.made kept
    exact absurd loads (never first mem card.options)

/-- After the first success its card is kept. -/
theorem Recorded.card?_eq_some {past : List (Turn σ Options Module Cache)}
    (h : Recorded session past state) {first : Turn σ Options Module Cache} (mem : first ∈ past)
    {options : Options} (loads : session.Loads first scope (.ok options)) :
    ∃ original, session.Reaches first scope (.ok original) ∧ original.options = options ∧
      state.card? scope = some (cardOf original) := by
  obtain ⟨original, reaches, same⟩ := h.loaded first mem loads
  exact ⟨original, reaches, same, h.given first mem reaches⟩

theorem Recorded.next {past : List (Turn σ Options Module Cache)} (h : Recorded session past state)
    (request : Request) : LoadsUntilSuccess session past (session.turn state request) where
  extended := parses_turn state request
  idle asks := (Session.idle asks).1
  response := by
    rintro scope given ⟨asked, asks, rfl⟩
    exact ⟨(session.obtain asked scope).2, conclude_of_asks asks⟩
  retries := by
    intro scope given reaches never
    have none := h.card?_eq_none never
    -- a resolver that is there would have its card
    cases reaches.course h.sound with
    | failed absent loads response same => exact ⟨_, loads, rfl⟩
    | @built resolver absent loads cards =>
      have kept := card?_of_reaches h.sound reaches
      have serves := (sound_preserved.turn request h.sound).serves kept
      exact ⟨_, loads, resolver, rfl, serves, rfl⟩
    | reused present quiet same =>
      have clash := none.symm.trans present
      cases clash
  quiet := by
    intro first mem scope options loads called
    obtain ⟨original, reaches, same, kept⟩ := h.card?_eq_some mem loads
    rcases asks : session.asks state request with - | ⟨wanted, asked⟩
    · rw [(Session.idle asks).1] at called
      cases called
    · -- what is loaded has no card yet, so it is another scope
      have other (absent : state.card? wanted = none)
          (parses : (session.turn state request).parses = [wanted.path]) : False := by
        rw [parses, List.mem_singleton] at called
        have eq : scope = wanted := congrArg Scope.ofPath called
        rw [eq, absent] at kept
        cases kept
      obtain ⟨given, course⟩ := exists_course h.sound asks
      cases course with
      | failed absent loads | built absent loads =>
        obtain ⟨-, -, parses, -⟩ := loads
        exact other absent parses
      | reused present quiet same =>
        rw [quiet] at called
        cases called
  stands := by
    intro first mem scope options given loads reaches
    obtain ⟨original, reached, rfl, kept⟩ := h.card?_eq_some mem loads
    cases reaches.course h.sound with
    | failed absent loads | built absent loads =>
      have clash := absent.symm.trans kept
      cases clash
    | @reused resolver present quiet same =>
      have eq : cardOf resolver = cardOf original := Option.some.inj (present.symm.trans kept)
      have serves := h.sound.serves present
      exact ⟨original, resolver, reached, rfl, congrArg Card.id eq, serves,
        congrArg Card.options eq⟩
  apart := by
    intro earlier mem scope scope' resolver resolver' reached reaches same
    have before : (session.turn state request).after.card? scope = some (cardOf resolver) :=
      card?_turn_of_some h.sound (h.given earlier mem reached)
    have now : (session.turn state request).after.card? scope' = some (cardOf resolver') :=
      card?_of_reaches h.sound reaches
    exact (sound_preserved.turn request h.sound).apart before now same

/-- **A scope is loaded until the first success, and then never again.**  This holds for the next
turn at any point of any run, whatever the loader answers. -/
theorem loads_until_first_success (session : Session σ Options Module Cache) (env : Env σ Options)
    (earlier : List Request) (request : Request) :
    let start : State σ Options Cache := ⟨.empty, env⟩
    LoadsUntilSuccess session (session.turns start earlier)
      (session.turn (session.final start earlier) request) :=
  (recorded env earlier).next request

end Session

end ScopedImports
