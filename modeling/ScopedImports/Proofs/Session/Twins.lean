import ScopedImports.Proofs.Resolution.Numbering
import ScopedImports.Proofs.Session.Resolvers

/-!
Two sessions that differ in nothing but one scope.

Twins know the same about files, and have the same resolvers for all scopes but one, which is set
apart; the worlds of their collaborators are alike.  What "alike" means is left open.  As long as
the collaborators cannot tell one such world from the other (`Unaware`), twins answer alike, and
stay twins:

    requests that do not ask for the scope     same responses, and twins afterwards
    requests that ask for it                   twins afterwards, if collaborators leave no trace

In the second case one twin may build and search where the other does not.  Then the two count
identities differently from there on, and answers are the same but for the numbers (`SameBut`).
-/

namespace ScopedImports

variable {σ Options Module Cache α β : Type}

/-! ### Worlds that are alike -/

/-- In worlds that are alike the action answers alike, and leaves worlds that are alike. -/
def Respects (Alike : σ → σ → Prop) (action : StateM σ α) : Prop :=
  ∀ ⦃world world'⦄, Alike world world' →
    (action.run world).1 = (action.run world').1 ∧ Alike (action.run world).2 (action.run world').2

section Respects

variable {Alike : σ → σ → Prop}

theorem Respects.pure (a : α) : Respects Alike (Pure.pure a) := fun _ _ alike => ⟨rfl, alike⟩

theorem Respects.bind {action : StateM σ α} {next : α → StateM σ β}
    (first : Respects Alike action) (second : ∀ a, Respects Alike (next a)) :
    Respects Alike (action >>= next) := by
  intro world world' alike
  obtain ⟨answer, later⟩ := first alike
  have step (world : σ) : (action >>= next).run world
      = (next (action.run world).1).run (action.run world).2 := rfl
  rw [step, step, answer]
  exact second _ later

/-- Where the finder does not see a difference, a batch does not. -/
theorem Finder.respects_mapM_call {finder : Finder σ Options Module Cache} {host : Host σ}
    (respects : ∀ name file options cache,
      Respects Alike (finder.find name file options host cache))
    (options : Options) (names : List String) (file : String) (cache : Cache) :
    Respects Alike ((names.mapM (finder.call host options file)).run cache) := by
  induction names generalizing cache with
  | nil => exact .pure _
  | cons name names ih =>
    rw [List.mapM_cons, StateT.run_bind]
    refine (respects name file options cache).bind fun found => ?_
    rw [StateT.run_bind]
    exact (ih found.2).bind fun rest => .pure _

/-- Where the host does not show a difference, a walk does not see one. -/
theorem Locator.firstPresent_respects {host : Host σ}
    (respects : ∀ path, Respects Alike (host.isFile path)) (places : List Path) (known : Presence)
    {env env' : Env σ Options} (alike : Alike env.world env'.world) :
    let walk := (((reentrant host).firstPresent places).run known).run env
    let walk' := (((reentrant host).firstPresent places).run known).run env'
    walk.1 = walk'.1 ∧ Alike walk.2.world walk'.2.world := by
  induction places generalizing known env env' with
  | nil => exact ⟨rfl, alike⟩
  | cons path rest ih =>
    rw [ReentrantHost.firstPresent_cons, ReentrantHost.firstPresent_cons]
    rcases h : known.find? path with - | found
    · obtain ⟨same, later⟩ := respects path alike
      change (host.isFile path env.world).1 = (host.isFile path env'.world).1 at same
      rw [look_of_none h, look_of_none h, same]
      rcases (host.isFile path env'.world).1 with - | -
      · exact ih _ later
      · exact ⟨rfl, later⟩
    · rw [ReentrantHost.look_of_some _ h, ReentrantHost.look_of_some _ h]
      rcases found with - | -
      · exact ih known alike
      · exact ⟨rfl, alike⟩

end Respects

/-! ### The same but for the numbers -/

/-- One is the other with all numbers shifted alike.  If `verbatim`, they are the same. -/
def SameBut (shift : Nat → α → α) (verbatim : Prop) (a b : α) : Prop :=
  ∃ plain n n', (verbatim → n = n') ∧ a = shift n plain ∧ b = shift n' plain

namespace SameBut

variable {shift : Nat → α → α} {shift' : Nat → β → β} {verbatim : Prop} {a b : α}

theorem eq (h : SameBut shift True a b) : a = b := by
  obtain ⟨plain, n, n', same, rfl, rfl⟩ := h
  rw [same trivial]

theorem refl (zero : ∀ a, shift 0 a = a) (a : α) : SameBut shift verbatim a a :=
  ⟨a, 0, 0, fun _ => rfl, (zero a).symm, (zero a).symm⟩

theorem map {f : α → β} (commutes : ∀ n a, f (shift n a) = shift' n (f a))
    (h : SameBut shift verbatim a b) : SameBut shift' verbatim (f a) (f b) := by
  obtain ⟨plain, n, n', same, rfl, rfl⟩ := h
  exact ⟨f plain, n, n', same, commutes n plain, commutes n' plain⟩

end SameBut

/-- The same resolver under a number that is greater by `n`. -/
def Resolver.shift (n : Nat) (resolver : Resolver Options Cache) : Resolver Options Cache :=
  { resolver with id := resolver.id + n }

theorem Resolver.map_shift_zero (resolver : Option (Resolver Options Cache)) :
    resolver.map (Resolver.shift 0) = resolver := by
  cases resolver <;> rfl

namespace Session

/-- The same response with all numbers greater by `n`. -/
def Response.shift (n : Nat) : Response Options Module Cache → Response Options Module Cache
  | .located scope => .located scope
  | .resolver result => .resolver (Resolver.shift n <$> result)
  | .outcomes result => .outcomes (List.map (Resolution.shift n) <$> result)
  | .modules result => .modules (List.map (Shared.shift n) <$> result)

theorem Response.shift_refusal (request : Request) (failure : Failure) (n : Nat) :
    Response.shift n (request.refusal failure : Response Options Module Cache)
      = request.refusal failure := by
  cases request <;> rfl

theorem Response.shift_conclusion (request : Request) (outcomes : List (Resolution Module))
    (n : Nat) :
    Response.shift n (request.conclusion outcomes : Response Options Module Cache)
      = request.conclusion (outcomes.map (Resolution.shift n)) := by
  cases request with
  | resolveStrict names file =>
    rw [Request.conclusion, Request.conclusion, Resolution.demand_map_shift]
    rfl
  | locate _ | resolverFor _ | resolve _ _ | hook _ _ | resolveIn _ _ _ => rfl

/-! ### A batch in numbers -/

section Batch

variable (session : Session σ Options Module Cache) (state : State σ Options Cache)
variable (resolver : Resolver Options Cache) (names : List String) (file : String)

/-- What the finder finds for the distinct names of a batch. -/
def found : (List (Option Module) × Cache) × σ :=
  ((names.eraseDups.mapM (session.finder.call session.host resolver.options file)).run
    resolver.cache).run state.env.world

theorem cache_bareBatch :
    (session.bareBatch state resolver names file).1.2
      = (session.found state resolver names file).1.2 := by
  rw [bareBatch, Finder.answer_run, found]

/-- A batch comes to what is found for the distinct names, numbered from the next number on. -/
theorem batch_numbered :
    (session.batch state resolver names file).1
        = (Batch.spread names (number 0 (session.found state resolver names file).1.1)).map
            (Resolution.shift state.env.fresh) ∧
      (session.batch state resolver names file).2.env.fresh
        = state.env.fresh
          + (session.found state resolver names file).1.1.countP Option.isSome := by
  rw [Batch.map_spread, ← number_eq_map, batch_run]
  exact Resolver.resolve_numbered session.finder session.host resolver names file state.env

theorem batch_world :
    (session.batch state resolver names file).2.env.world
      = (session.found state resolver names file).2 := by
  rw [(session.batched state resolver names file).world, bareBatch, Finder.answer_run, found]

end Batch

/-! ### Twins -/

/-- Whether the loader has been asked about `path`, only the loader can tell, and only when it is
asked about `path` again.  Worlds are alike if they differ in nothing else. -/
structure Unaware (session : Session σ Options Module Cache) (path : Path)
    (Alike : σ → σ → Prop) : Prop where
  asked : ∀ world, Alike ((session.loader path).run world).2 world
  loader : ∀ other, other ≠ path → Respects Alike (session.loader other)
  workingDirectory : Respects Alike session.host.workingDirectory
  isFile : ∀ place, Respects Alike (session.host.isFile place)
  newCache : ∀ directory, Respects Alike (session.finder.newCache directory session.host)
  find : ∀ name file options cache,
    Respects Alike (session.finder.find name file options session.host cache)

/-- Sessions that differ in nothing but `scope`, and in numbers unless `verbatim`. -/
structure Twins (scope : Scope) (Alike : σ → σ → Prop) (verbatim : Prop)
    (one other : State σ Options Cache) : Prop where
  sound : one.Sound
  sound' : other.Sound
  presence : one.memory.presence = other.memory.presence
  resolvers : ∀ ⦃place⦄, place ≠ scope →
    SameBut (fun n => Option.map (Resolver.shift n)) verbatim (one.resolver? place)
      (other.resolver? place)
  fresh : verbatim → one.env.fresh = other.env.fresh
  worlds : Alike one.env.world other.env.world

variable {session : Session σ Options Module Cache} {scope : Scope} {Alike : σ → σ → Prop}
variable {verbatim : Prop} {one other : State σ Options Cache}

/-- New caches are made alike. -/
theorem Unaware.freshCache {path : Path} (unaware : session.Unaware path Alike) {world world' : σ}
    (alike : Alike world world') :
    (session.freshCache world).1 = (session.freshCache world').1 ∧
      Alike (session.freshCache world).2 (session.freshCache world').2 := by
  obtain ⟨directory, entered⟩ := unaware.workingDirectory alike
  change (session.host.workingDirectory world).1
    = (session.host.workingDirectory world').1 at directory
  -- the directory is asked for first, and it is the same in both
  obtain ⟨cache, made⟩ := unaware.newCache (session.host.workingDirectory world').1 entered
  rw [Session.freshCache, Session.freshCache, directory]
  exact ⟨congrArg (Prod.mk _) cache, made⟩

namespace Twins

section Alike

variable (unaware : session.Unaware scope.path Alike)
variable (twins : Twins scope Alike verbatim one other)

include unaware twins

/-- Twins walk alike. -/
theorem walk (file : String) :
    (session.walk one file).1 = (session.walk other file).1 ∧
      Alike (session.walk one file).2.world (session.walk other file).2.world := by
  obtain ⟨directory, entered⟩ := unaware.workingDirectory twins.worlds
  change (session.host.workingDirectory one.env.world).1
    = (session.host.workingDirectory other.env.world).1 at directory
  rw [Session.walk, Session.walk, directory, twins.presence]
  exact Locator.firstPresent_respects unaware.isFile _ _ entered

/-- Twins locate a file alike. -/
theorem locate (file : String) :
    (one.run (session.locate file)).1 = (other.run (session.locate file)).1 ∧
      Twins scope Alike verbatim (one.run (session.locate file)).2
        (other.run (session.locate file)).2 := by
  obtain ⟨found, worlds⟩ := twins.walk unaware file
  have presence : (one.run (session.locate file)).2.memory.presence
      = (other.run (session.locate file)).2.memory.presence := by
    rw [locate_spec, locate_spec]
    exact congrArg Prod.snd found
  constructor
  · rw [locate_spec, locate_spec]
    exact congrArg (session.locator.scopeOf ·.1) found
  · refine ⟨sound_preserved.locate file twins.sound, sound_preserved.locate file twins.sound',
      presence, fun place ne => ?_, fun same => ?_, ?_⟩
    · rw [resolver?_locate, resolver?_locate]
      exact twins.resolvers ne
    · rw [fresh_locate, fresh_locate]
      exact twins.fresh same
    · rw [locate_spec, locate_spec]
      exact worlds

/-- Twins build a resolver alike, each under its own next number. -/
theorem newResolver {place : Scope}
    (loaded : Alike (session.load one place).2 (session.load other place).2) (options : Options) :
    SameBut Resolver.shift verbatim (session.newResolver one place options)
      (session.newResolver other place options) := by
  obtain ⟨made, -⟩ := unaware.freshCache loaded
  refine ⟨⟨0, place, options, (session.freshCache (session.load other place).2).1.2⟩,
    one.env.fresh, other.env.fresh, twins.fresh, ?_, ?_⟩
  · rw [Session.newResolver, made, Resolver.shift, Nat.zero_add]
  · rw [Session.newResolver, Resolver.shift, Nat.zero_add]

/-- Twins obtain the resolver of another scope alike. -/
theorem obtain {place : Scope} (ne : place ≠ scope) :
    SameBut (fun n => Functor.map (Resolver.shift n)) verbatim (session.obtain one place).1
        (session.obtain other place).1 ∧
      Twins scope Alike verbatim (session.obtain one place).2 (session.obtain other place).2 := by
  have sound : (session.obtain one place).2.Sound := sound_preserved.obtain place twins.sound
  have sound' : (session.obtain other place).2.Sound := sound_preserved.obtain place twins.sound'
  obtain ⟨plain, n, n', same, kept, kept'⟩ := twins.resolvers ne
  -- either both have a resolver for the place or neither has
  rcases plain with - | resolver
  · -- the loader is asked about another path, and does not know the difference
    have elsewhere : place.path ≠ scope.path := fun eq => ne (congrArg Scope.ofPath eq)
    obtain ⟨answer, later⟩ := unaware.loader place.path elsewhere twins.worlds
    change (session.load one place).1 = (session.load other place).1 at answer
    change Alike (session.load one place).2 (session.load other place).2 at later
    rcases loaded : (session.load other place).1 with failure | options
    · rw [session.obtain_of_error one kept (answer.trans loaded)] at sound ⊢
      rw [session.obtain_of_error other kept' loaded] at sound' ⊢
      exact ⟨⟨.error failure, 0, 0, fun _ => rfl, rfl, rfl⟩,
        sound, sound', twins.presence, twins.resolvers, twins.fresh, later⟩
    · rw [session.obtain_of_ok one kept (answer.trans loaded)] at sound ⊢
      rw [session.obtain_of_ok other kept' loaded] at sound' ⊢
      have built := twins.newResolver unaware later options
      refine ⟨built.map (f := Except.ok) fun _ _ => rfl, sound, sound', twins.presence,
        fun third ne => ?_, fun same => congrArg (· + 1) (twins.fresh same),
        (unaware.freshCache later).2⟩
      rw [State.resolver?_push kept, State.resolver?_push kept']
      by_cases this : place = third
      · rw [if_pos this, if_pos this]
        exact built.map (f := some) fun _ _ => rfl
      · rw [if_neg this, if_neg this]
        exact twins.resolvers ne
  · rw [obtain_of_some session one kept, obtain_of_some session other kept']
    exact ⟨⟨.ok resolver, n, n', same, rfl, rfl⟩, twins⟩

/-- Twins resolve a batch alike on resolvers that are the same but for their numbers. -/
theorem batch {place : Scope} {resolver resolver' : Resolver Options Cache}
    (same : SameBut Resolver.shift verbatim resolver resolver')
    (kept : one.resolver? place = some resolver) (kept' : other.resolver? place = some resolver')
    (names : List String) (file : String) :
    SameBut (fun n => List.map (Resolution.shift n)) verbatim
        (session.batch one resolver names file).1 (session.batch other resolver' names file).1 ∧
      Twins scope Alike verbatim (session.batch one resolver names file).2
        (session.batch other resolver' names file).2 := by
  obtain ⟨plain, n, n', numbers, rfl, rfl⟩ := same
  obtain ⟨found, worlds⟩ := Finder.respects_mapM_call unaware.find plain.options names.eraseDups
    file plain.cache twins.worlds
  change (session.found one (plain.shift n) names file).1
    = (session.found other (plain.shift n') names file).1 at found
  obtain ⟨outcomes, fresh⟩ := session.batch_numbered one (plain.shift n) names file
  obtain ⟨outcomes', fresh'⟩ := session.batch_numbered other (plain.shift n') names file
  -- both are the same plain outcomes, each numbered from its own next number on
  constructor
  · rw [found] at outcomes
    exact ⟨_, one.env.fresh, other.env.fresh, twins.fresh, outcomes, outcomes'⟩
  · refine ⟨sound_preserved.batch names file kept twins.sound,
      sound_preserved.batch names file kept' twins.sound', ?_, fun third ne => ?_,
      fun same => ?_, ?_⟩
    · rw [(session.batched _ _ names file).memory, (session.batched _ _ names file).memory]
      exact twins.presence
    · rw [resolver?_batch kept (twins.sound.scope_eq kept),
        resolver?_batch kept' (twins.sound'.scope_eq kept'), cache_bareBatch, cache_bareBatch,
        found]
      by_cases this : place = third
      · rw [if_pos this, if_pos this]
        exact ⟨some { plain with cache := (session.found other (plain.shift n') names file).1.2 },
          n, n', numbers, rfl, rfl⟩
      · rw [if_neg this, if_neg this]
        exact twins.resolvers ne
    · rw [fresh, fresh', found, twins.fresh same]
    · rw [batch_world, batch_world]
      exact worlds

/-- Twins ask for the resolver of the same scope, and are still twins when they do. -/
theorem asks {request : Request} {place : Scope} {asked' : State σ Options Cache}
    (asks' : session.asks other request = some (place, asked')) :
    ∃ asked, session.asks one request = some (place, asked) ∧
      Twins scope Alike verbatim asked asked' := by
  cases request with
  | locate _ => cases asks'
  | resolverFor _ | resolveIn _ _ _ =>
    cases asks'
    exact ⟨one, rfl, twins⟩
  | resolve _ file | resolveStrict _ file | hook _ file =>
    obtain ⟨found, later⟩ := twins.locate unaware file
    rw [show other.run (session.locate file) = (place, asked') from Option.some.inj asks']
      at found later
    exact ⟨(one.run (session.locate file)).2, congrArg some (Prod.ext found rfl), later⟩

/-- Twins conclude a request for another scope alike. -/
theorem conclude {place : Scope} (ne : place ≠ scope) (request : Request) :
    SameBut Response.shift verbatim (session.conclude request (session.obtain one place)).1
        (session.conclude request (session.obtain other place)).1 ∧
      Twins scope Alike verbatim (session.conclude request (session.obtain one place)).2
        (session.conclude request (session.obtain other place)).2 := by
  -- both succeed or both fail, since a shift leaves failures as they are
  obtain ⟨⟨plain, n, n', numbers, had, had'⟩, later⟩ := twins.obtain unaware ne
  rcases plain with failure | resolver
  · rw [conclude_of_error had, conclude_of_error had']
    refine ⟨⟨request.refusal failure, n, n', numbers, ?_, ?_⟩, later⟩
    · exact (Response.shift_refusal request failure n).symm
    · exact (Response.shift_refusal request failure n').symm
  · have same : SameBut Resolver.shift verbatim (resolver.shift n) (resolver.shift n') :=
      ⟨resolver, n, n', numbers, rfl, rfl⟩
    have kept := session.resolver?_of_obtain one had
    have kept' := session.resolver?_of_obtain other had'
    rw [conclude_of_ok had, conclude_of_ok had']
    rcases request.batch? with - | ⟨names, file⟩
    · exact ⟨same.map (f := fun resolver => Response.resolver (.ok resolver)) fun _ _ => rfl, later⟩
    · obtain ⟨outcomes, last⟩ := later.batch unaware same kept kept' names file
      refine ⟨outcomes.map (f := request.conclusion) fun n outcomes => ?_, last⟩
      exact (Response.shift_conclusion request outcomes n).symm

/-- **Twins serve a request for another scope alike.** -/
theorem turn {request : Request}
    (ne : (session.asks other request).map Prod.fst ≠ some scope) :
    SameBut Response.shift verbatim (session.turn one request).response
        (session.turn other request).response ∧
      Twins scope Alike verbatim (session.turn one request).after
        (session.turn other request).after := by
  rcases asks' : session.asks other request with - | ⟨place, asked'⟩
  · obtain ⟨file, rfl⟩ := session.eq_locate_of_asks other asks'
    obtain ⟨found, later⟩ := twins.locate unaware file
    rw [Session.turn, Session.turn, serve_locate, serve_locate, found]
    exact ⟨⟨.located _, 0, 0, fun _ => rfl, rfl, rfl⟩, later⟩
  · obtain ⟨asked, asks, still⟩ := twins.asks unaware asks'
    rw [asks', Option.map_some] at ne
    rw [turn_of_asks asks, turn_of_asks asks']
    exact still.conclude unaware (fun same => ne (congrArg some same)) request

end Alike

end Twins

/-! ### Requests for the scope that is set apart -/

/-- The collaborators that are not the loader leave no trace that anyone would see. -/
structure Traceless (session : Session σ Options Module Cache) (Alike : σ → σ → Prop) : Prop where
  symm : ∀ ⦃world world'⦄, Alike world world' → Alike world' world
  trans : ∀ ⦃first second third⦄, Alike first second → Alike second third → Alike first third
  workingDirectory : ∀ world, Alike (session.host.workingDirectory.run world).2 world
  newCache : ∀ directory world,
    Alike ((session.finder.newCache directory session.host).run world).2 world
  find : ∀ name file options cache world,
    Alike ((session.finder.find name file options session.host cache).run world).2 world

namespace Traceless

variable (traceless : session.Traceless Alike)

include traceless

theorem refl (world : σ) : Alike world world :=
  traceless.trans (traceless.symm (traceless.workingDirectory world))
    (traceless.workingDirectory world)

theorem freshCache (world : σ) : Alike (session.freshCache world).2 world :=
  traceless.trans (traceless.newCache _ _) (traceless.workingDirectory world)

theorem mapM_call (options : Options) (names : List String) (file : String) (cache : Cache)
    (world : σ) :
    Alike (((names.mapM (session.finder.call session.host options file)).run cache).run world).2
      world := by
  induction names generalizing cache world with
  | nil => exact traceless.refl world
  | cons name names ih =>
    rw [Finder.mapM_call_cons]
    exact traceless.trans (ih _ _) (traceless.find name file options cache world)

end Traceless

/-- Nothing has changed but the resolver of `scope`, as far as anyone would see. -/
structure Within (scope : Scope) (Alike : σ → σ → Prop) (before after : State σ Options Cache) :
    Prop where
  sound : after.Sound
  presence : after.memory.presence = before.memory.presence
  resolvers : ∀ ⦃place⦄, place ≠ scope → after.resolver? place = before.resolver? place
  world : Alike after.env.world before.env.world

namespace Within

variable {state : State σ Options Cache} (traceless : session.Traceless Alike)

include traceless

theorem obtain (unaware : session.Unaware scope.path Alike) (sound : state.Sound) :
    Within scope Alike state (session.obtain state scope).2 := by
  have later : (session.obtain state scope).2.Sound := sound_preserved.obtain scope sound
  have asked : Alike (session.load state scope).2 state.env.world := unaware.asked state.env.world
  have obtains := session.obtains state scope
  generalize session.obtain state scope = done at later obtains ⊢
  cases obtains with
  | stored kept => exact ⟨later, rfl, fun _ _ => rfl, traceless.refl _⟩
  | rejected new loaded => exact ⟨later, rfl, fun _ _ => rfl, asked⟩
  | built new loaded =>
    refine ⟨later, rfl, fun place ne => ?_, traceless.trans (traceless.freshCache _) asked⟩
    rw [State.resolver?_push, if_neg ne.symm]
    rfl

theorem batch {before : State σ Options Cache} (within : Within scope Alike before state)
    {resolver : Resolver Options Cache} (kept : state.resolver? scope = some resolver)
    (names : List String) (file : String) :
    Within scope Alike before (session.batch state resolver names file).2 := by
  refine ⟨sound_preserved.batch names file kept within.sound, ?_, fun place ne => ?_, ?_⟩
  · rw [(session.batched state resolver names file).memory]
    exact within.presence
  · rw [resolver?_batch kept (within.sound.scope_eq kept), if_neg ne.symm, within.resolvers ne]
  · rw [batch_world]
    exact traceless.trans (traceless.mapM_call _ _ _ _ _) within.world

/-- What a request does once it asks for the scope stays within the scope. -/
theorem conclude (unaware : session.Unaware scope.path Alike) (sound : state.Sound)
    (request : Request) :
    Within scope Alike state (session.conclude request (session.obtain state scope)).2 := by
  have within := Within.obtain traceless unaware sound
  refine conclude_keeps request scope within fun resolver names file had => ?_
  exact within.batch traceless (session.resolver?_of_obtain state had) names file

end Within

namespace Twins

/-- Twins whose resolvers of the scope go their own ways are twins still. -/
theorem within (traceless : session.Traceless Alike) {one' other' : State σ Options Cache}
    (twins : Twins scope Alike False one other) (h : Within scope Alike one one')
    (h' : Within scope Alike other other') : Twins scope Alike False one' other' := by
  refine ⟨h.sound, h'.sound, ?_, fun place ne => ?_, False.elim, ?_⟩
  · rw [h.presence, h'.presence]
    exact twins.presence
  · rw [h.resolvers ne, h'.resolvers ne]
    exact twins.resolvers ne
  · exact traceless.trans h.world (traceless.trans twins.worlds (traceless.symm h'.world))

/-- A request for the scope itself leaves twins. -/
theorem turn_of_asks_scope (unaware : session.Unaware scope.path Alike)
    (traceless : session.Traceless Alike) (twins : Twins scope Alike False one other)
    {request : Request} (same : (session.asks other request).map Prod.fst = some scope) :
    Twins scope Alike False (session.turn one request).after
      (session.turn other request).after := by
  obtain ⟨⟨place, asked'⟩, asks', rfl⟩ := Option.map_eq_some_iff.1 same
  obtain ⟨asked, asks, still⟩ := twins.asks unaware asks'
  rw [turn_of_asks asks, turn_of_asks asks']
  exact still.within traceless (.conclude traceless unaware still.sound request)
    (.conclude traceless unaware still.sound' request)

/-- **Twins stay twins**, through requests that do not ask for the scope, or through any if
collaborators leave no trace. -/
theorem final (unaware : session.Unaware scope.path Alike)
    (twins : Twins scope Alike verbatim one other) (requests : List Request)
    (apart : (∀ turn ∈ session.turns other requests,
        (session.asks turn.before turn.request).map Prod.fst ≠ some scope) ∨
      ¬verbatim ∧ session.Traceless Alike) :
    Twins scope Alike verbatim (session.final one requests) (session.final other requests) := by
  induction requests generalizing one other with
  | nil => exact twins
  | cons request requests ih =>
    rw [final_cons, final_cons]
    by_cases same : (session.asks other request).map Prod.fst = some scope
    · -- only the second alternative is left
      have ⟨loose, traceless⟩ : ¬verbatim ∧ session.Traceless Alike :=
        apart.resolve_left fun elsewhere => elsewhere _ List.mem_cons_self same
      obtain rfl : verbatim = False := eq_false loose
      exact ih (twins.turn_of_asks_scope unaware traceless same) (.inr ⟨loose, traceless⟩)
    · refine ih (twins.turn unaware same).2 (apart.imp_left fun elsewhere => ?_)
      exact fun turn later => elsewhere turn (List.mem_cons_of_mem _ later)

end Twins

end Session

end ScopedImports
