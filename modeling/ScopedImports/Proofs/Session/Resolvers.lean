import ScopedImports.Proofs.Resolution.Replay
import ScopedImports.Proofs.Session.Turns

/-!
The resolvers that a session keeps.

Locating leaves them alone, obtaining may add one, and a batch moves the cache of one.  What never
changes about a resolver is on its card, and so

    card?  after locating   =  card?  before
    card?  after obtaining  =  card?  before, and perhaps one more
    card?  after a batch    =  card?  before.

Three facts hold at every point of a run (`State.Sound`): a resolver is kept under the scope that it
serves, its number has been given out, and no two scopes share a number.
-/

namespace ScopedImports.Session

variable {σ Options Module Cache : Type}
variable (session : Session σ Options Module Cache) (state : State σ Options Cache)

/-! ### What the steps do to the resolvers -/

/-- Whatever of the record no probe and no line for the log can change survives locating. -/
theorem env_locate {P : Env σ Options → Prop} (file : String)
    (probes : ∀ env path, P env → P (Locator.probed session.host path env))
    (entering : ∀ env, P env → P ((Locator.reentrant session.host).entered env))
    (notes : ∀ (env : Env σ Options) note,
      P env → P { env with journal := env.journal ++ [.noted note] })
    (holds : P state.env) : P (state.run (session.locate file)).2.env := by
  have survives : Locator.SurvivesProbes session.host fun _ env => P env :=
    fun _ _ _ _ h => probes _ _ h
  rw [locate_spec]
  exact notes _ _ (Locator.firstPresent_keeps survives _ (entering _ holds))

theorem resolver?_locate (file : String) (scope : Scope) :
    (state.run (session.locate file)).2.resolver? scope = state.resolver? scope := by
  rw [locate_spec]
  rfl

theorem fresh_locate (file : String) :
    (state.run (session.locate file)).2.env.fresh = state.env.fresh :=
  session.env_locate (P := fun env => env.fresh = state.env.fresh) state file
    (fun _ _ h => h) (fun _ h => h) (fun _ _ h => h) rfl

/-- Where the working directory is always the same, new caches are made for it. -/
theorem freshCache_of_answers {Stable : σ → Prop} {directory : Path}
    (here : Answers Stable session.host.workingDirectory directory) {world : σ}
    (stable : Stable world) :
    ∃ entered, Stable entered ∧ session.freshCache world
      = ((directory, ((session.finder.newCache directory session.host).run entered).1),
          ((session.finder.newCache directory session.host).run entered).2) := by
  obtain ⟨asked, entered⟩ := here world stable
  refine ⟨_, entered, ?_⟩
  rw [← asked]
  rfl

variable {session state}

/-- A batch moves the cache of its own resolver and leaves the other resolvers as they are. -/
theorem resolver?_batch {scope : Scope} {resolver : Resolver Options Cache}
    (kept : state.resolver? scope = some resolver) (serves : resolver.scope = scope)
    (names : List String) (file : String) (other : Scope) :
    (session.batch state resolver names file).2.resolver? other
      = if scope = other
        then some { resolver with cache := (session.bareBatch state resolver names file).1.2 }
        else state.resolver? other := by
  have moved := (session.batched state resolver names file).memory
  have after : (session.batch state resolver names file).2.resolver? other
      = if scope = other
        then (state.resolver? other).map fun _ =>
          { resolver with cache := (session.bareBatch state resolver names file).1.2 }
        else state.resolver? other := by
    rw [← serves, State.resolver?, moved]
    exact State.resolver?_update state.memory state.env _ _ other
  rw [after]
  by_cases same : scope = other
  · subst same
    rw [if_pos rfl, if_pos rfl, kept, Option.map_some]
  · rw [if_neg same, if_neg same]

/-- After a batch, a resolver is the one that the batch has moved, or it was there before. -/
theorem of_resolver?_batch {scope : Scope} {resolver : Resolver Options Cache}
    (kept : state.resolver? scope = some resolver) (serves : resolver.scope = scope)
    {names : List String} {file : String} {other : Scope} {resolver' : Resolver Options Cache}
    (kept' : (session.batch state resolver names file).2.resolver? other = some resolver') :
    scope = other ∧
        { resolver with cache := (session.bareBatch state resolver names file).1.2 } = resolver' ∨
      scope ≠ other ∧ state.resolver? other = some resolver' := by
  rw [resolver?_batch kept serves] at kept'
  by_cases same : scope = other
  · rw [if_pos same] at kept'
    exact .inl ⟨same, Option.some.inj kept'⟩
  · rw [if_neg same] at kept'
    exact .inr ⟨same, kept'⟩

/-! ### Cards -/

/-- What never changes about a resolver. -/
structure Card (Options : Type) where
  id : Nat
  scope : Scope
  options : Options

/-- The card of a resolver. -/
def cardOf (resolver : Resolver Options Cache) : Card Options :=
  ⟨resolver.id, resolver.scope, resolver.options⟩

/-- The card of the resolver that the session keeps for a scope. -/
def State.card? (state : State σ Options Cache) (scope : Scope) : Option (Card Options) :=
  (state.resolver? scope).map cardOf

/-- What holds of the resolvers that a session keeps. -/
structure State.Sound (state : State σ Options Cache) : Prop where
  serves : ∀ ⦃scope card⦄, state.card? scope = some card → card.scope = scope
  numbered : ∀ ⦃scope card⦄, state.card? scope = some card → card.id < state.env.fresh
  apart : ∀ ⦃scope card other card'⦄, state.card? scope = some card →
    state.card? other = some card' → card.id = card'.id → scope = other

theorem State.sound_of_empty (env : Env σ Options) :
    (⟨.empty, env⟩ : State σ Options Cache).Sound where
  serves _ _ kept := nomatch kept
  numbered _ _ kept := nomatch kept
  apart _ _ _ _ kept := nomatch kept

/-- Soundness is about the cards alone. -/
theorem State.Sound.congr {later : State σ Options Cache} (sound : state.Sound)
    (same : ∀ scope, later.card? scope = state.card? scope)
    (fresh : state.env.fresh ≤ later.env.fresh) : later.Sound where
  serves scope _ kept := sound.serves (same scope ▸ kept)
  numbered scope _ kept := Nat.lt_of_lt_of_le (sound.numbered (same scope ▸ kept)) fresh
  apart scope _ other _ kept kept' := sound.apart (same scope ▸ kept) (same other ▸ kept')

theorem card?_locate (file : String) (scope : Scope) :
    (state.run (session.locate file)).2.card? scope = state.card? scope := by
  rw [State.card?, resolver?_locate, State.card?]

theorem card?_batch {scope : Scope} {resolver : Resolver Options Cache}
    (kept : state.resolver? scope = some resolver) (serves : resolver.scope = scope)
    (names : List String) (file : String) (other : Scope) :
    (session.batch state resolver names file).2.card? other = state.card? other := by
  rw [State.card?, resolver?_batch kept serves, State.card?]
  by_cases same : scope = other
  · subst same
    rw [if_pos rfl, kept]
    rfl
  · rw [if_neg same]

/-- A new resolver is on a card of its own. -/
theorem card?_push {memory : Memory Options Cache} {env : Env σ Options} {scope : Scope}
    {resolver : Resolver Options Cache} (new : memory.resolvers.find? scope = none)
    (other : Scope) :
    (⟨{ memory with resolvers := memory.resolvers.push scope resolver new }, env⟩ :
        State σ Options Cache).card? other
      = if scope = other then some (cardOf resolver)
        else (memory.resolvers.find? other).map cardOf := by
  rw [State.card?, State.resolver?_push new other]
  by_cases same : scope = other
  · rw [if_pos same, if_pos same, Option.map_some]
  · rw [if_neg same, if_neg same]

/-- A card was made out just now, or it was there before. -/
theorem of_card?_push {env : Env σ Options} {scope : Scope} {resolver : Resolver Options Cache}
    (new : state.memory.resolvers.find? scope = none) {other : Scope} {card : Card Options}
    (kept : (⟨{ state.memory with resolvers := state.memory.resolvers.push scope resolver new },
        env⟩ : State σ Options Cache).card? other = some card) :
    scope = other ∧ cardOf resolver = card ∨ state.card? other = some card := by
  obtain ⟨found, there, eq⟩ := Option.map_eq_some_iff.1 kept
  rcases State.of_resolver?_push new there with ⟨same, rfl⟩ | before
  · exact .inl ⟨same, eq⟩
  · exact .inr (Option.map_eq_some_iff.2 ⟨found, before, eq⟩)

/-- A new resolver takes a number that no other has. -/
theorem State.Sound.push {scope : Scope} {resolver : Resolver Options Cache} {env : Env σ Options}
    (sound : state.Sound) (new : state.memory.resolvers.find? scope = none)
    (serves : resolver.scope = scope) (number : resolver.id = state.env.fresh)
    (fresh : state.env.fresh < env.fresh) :
    (⟨{ state.memory with resolvers := state.memory.resolvers.push scope resolver new }, env⟩ :
      State σ Options Cache).Sound := by
  refine ⟨?_, ?_, ?_⟩
  · intro other card kept
    rcases of_card?_push new kept with ⟨rfl, rfl⟩ | before
    · exact serves
    · exact sound.serves before
  · intro other card kept
    rcases of_card?_push new kept with ⟨rfl, rfl⟩ | before
    · show resolver.id < env.fresh
      rw [number]
      exact fresh
    · exact Nat.lt_trans (sound.numbered before) fresh
  · intro one card other card' kept kept' same
    rcases of_card?_push new kept with ⟨rfl, rfl⟩ | kept
      <;> rcases of_card?_push new kept' with ⟨rfl, rfl⟩ | kept'
    · rfl
    · -- a number that has been given out is not the next one
      have below := sound.numbered kept'
      rw [← same, cardOf, number] at below
      exact absurd below (Nat.lt_irrefl _)
    · have below := sound.numbered kept
      rw [same, cardOf, number] at below
      exact absurd below (Nat.lt_irrefl _)
    · exact sound.apart kept kept' same

theorem State.Sound.scope_eq (sound : state.Sound) {scope : Scope}
    {resolver : Resolver Options Cache} (kept : state.resolver? scope = some resolver) :
    resolver.scope = scope :=
  sound.serves (by rw [State.card?, kept]; rfl : state.card? scope = some (cardOf resolver))

/-- **The resolvers that a session keeps are sound** at every point of a run. -/
theorem sound_preserved : Preserves session State.Sound where
  locate _ file sound :=
    sound.congr (card?_locate file) (Nat.le_of_eq (session.fresh_locate _ file).symm)
  obtain state scope sound := by
    have obtains := session.obtains state scope
    generalize session.obtain state scope = done at obtains ⊢
    cases obtains with
    | stored kept => exact sound
    | rejected new loaded => exact sound.congr (fun _ => rfl) (Nat.le_refl _)
    | built new loaded => exact sound.push new rfl rfl (Nat.lt_succ_self _)
  batch state _ resolver names file kept sound :=
    sound.congr (card?_batch kept (sound.scope_eq kept) names file)
      (session.batched state resolver names file).fresh

end ScopedImports.Session
