import ScopedImports.Proofs.Memo.Chronicle
import ScopedImports.Proofs.Resolution.BareBatch
import ScopedImports.Resolution.Registry

/-!
Builds that use the registry.

A request for the resolver of a scope looks first and stores last, and in between its build may use
the registry in any way, to any depth; it may ask for the very scope that is being built:

    obtain s     look s · (uses of the build) · fail, or make a resolver and settle s

The uses are a run of nested calls (`takeAll_runs`).  A use that ends may move the cache of a
resolver on, and may store a resolver for a scope that has none; nothing else changes
(`remembers`).  Hence the resolver that is stored first is the only one that anyone is ever given
for its scope (`first_stored_stands`).  A build that fails stores nothing itself, but what its steps
have stored stays.

Which resolver it is can be told by its number, since every resolver that is built takes the next
one (`Numbered.closes`).  Scopes are compared by their bytes.
-/

namespace ScopedImports

variable {σ Options Module Cache : Type}

/-- The resolver apart from its cache, which moves on with every batch. -/
def Resolver.bare (resolver : Resolver Options Cache) : Resolver Options Unit :=
  { resolver with cache := () }

namespace Registry

open Call (chronicle)

/-! ### The calls of a run -/

/-- One use of a registry: what there was when it began, the step, and what came of it. -/
structure Use (σ Options Module Cache : Type) where
  before : After σ Options Cache
  step : Step Options
  outcome : Outcome σ Options Module Cache

namespace Use

variable (use : Use σ Options Module Cache)

/-- What there was when the use ended. -/
def after : After σ Options Cache := use.outcome.after

/-- The scope whose resolver was obtained, and the resolver. -/
def obtained? : Option (Scope × Resolver Options Cache) :=
  match use.step, use.outcome with
  | .obtain scope _ _ _, .obtained (.ok resolver) _ _ => some (scope, resolver)
  | _, _ => none

/-- The resolver that the use was given, and for which scope. -/
def given? : Option (Scope × Resolver Options Cache) :=
  match use.step, use.outcome with
  | .obtain scope _ _ _, .obtained (.ok resolver) _ _ => some (scope, resolver)
  | .find scope, .found (some resolver) _ => some (scope, resolver)
  | .resolve scope _ _, .resolved (some (_, resolver)) _ => some (scope, resolver)
  | _, _ => none

end Use

mutual

/-- The uses that the build of a step has made, by the step's outcome. -/
def Step.inner : Step Options → After σ Options Cache → Outcome σ Options Module Cache →
    List (Call (Use σ Options Module Cache))
  | .obtain _ _ _ nested, there, .obtained _ (some (_, outcomes)) _ => uses nested there outcomes
  | _, _, _ => []

/-- The uses that steps and their builds have made, by the outcomes of the steps. -/
def uses : List (Step Options) → After σ Options Cache → List (Outcome σ Options Module Cache) →
    List (Call (Use σ Options Module Cache))
  | step :: steps, there, outcome :: outcomes =>
    .mk ⟨there, step, outcome⟩ (step.inner there outcome) :: uses steps outcome.after outcomes
  | _, _, _ => []

end

/-! ### Performing steps -/

variable (finder : Finder σ Options Module Cache) (host : Host σ)

/-- Perform a step: what comes of it, and what there is afterwards. -/
def Step.take (step : Step Options) (there : After σ Options Cache) :
    Outcome σ Options Module Cache × After σ Options Cache :=
  let done := ((step.perform finder host).run there.registry).run there.env
  (done.1.1, ⟨done.1.2, done.2⟩)

/-- Perform steps one after the other. -/
def takeAll (steps : List (Step Options)) (there : After σ Options Cache) :
    List (Outcome σ Options Module Cache) × After σ Options Cache :=
  let done := ((performAll finder host steps).run there.registry).run there.env
  (done.1.1, ⟨done.1.2, done.2⟩)

theorem takeAll_cons (step : Step Options) (steps : List (Step Options))
    (there : After σ Options Cache) :
    takeAll finder host (step :: steps) there
      = let first := step.take finder host there
        let rest := takeAll finder host steps first.2
        (first.1 :: rest.1, rest.2) := by
  rw [takeAll, performAll, StateT.run_bind, StateT.run_bind]
  rfl

/-- Fail, or make a resolver. -/
def make (owned : Scope) (options : Except Failure Options) :
    Act σ Options (Except Failure (Resolver Options Cache)) :=
  match options with
  | .error failure => pure (.error failure)
  | .ok options => .ok <$> Resolver.build finder host owned options

/-- The build of a step, which leaves on record that it ran. -/
def Step.builder (owned : Scope) (options : Except Failure Options) (nested : List (Step Options))
    (given : Scope) : ExceptT Failure (StateT (Registry (Resolver Options Cache))
      (StateT (Option (Scope × List (Outcome σ Options Module Cache))) (Act σ Options)))
      (Resolver Options Cache) := ExceptT.mk fun registry _ env =>
  let inner := takeAll finder host nested ⟨registry, env⟩
  let made := (make finder host owned options).run inner.2.env
  (((made.1, inner.2.registry), some (given, inner.1)), made.2)

variable {finder host} {there : After σ Options Cache} {scope : Scope}

theorem take_obtain (scope owned : Scope) (options : Except Failure Options)
    (nested : List (Step Options)) (there : After σ Options Cache) :
    (Step.obtain scope owned options nested).take finder host there
      = let done := (((obtain scope (Step.builder finder host owned options nested)).run.run
            there.registry).run none).run there.env
        (.obtained done.1.1.1 done.1.2 ⟨done.1.1.2, done.2⟩, ⟨done.1.1.2, done.2⟩) := by
  rw [Step.take, Step.perform.eq_def]
  rfl

theorem take_obtain_of_some {resolver : Resolver Options Cache}
    (h : there.registry.find? scope = some resolver) (owned : Scope)
    (options : Except Failure Options) (nested : List (Step Options)) :
    (Step.obtain scope owned options nested).take finder host there
      = (.obtained (.ok resolver) none there, there) := by
  rw [take_obtain, obtain, Memo.consult_except_of_some h]
  rfl

/-- A build that fails leaves what its steps have left. -/
theorem take_obtain_of_error (h : there.registry.find? scope = none) (owned : Scope)
    (failure : Failure) (nested : List (Step Options)) :
    (Step.obtain scope owned (.error failure) nested).take finder host there
      = let inner := takeAll finder host nested there
        (.obtained (.error failure) (some (scope, inner.1)) inner.2, inner.2) := by
  rw [take_obtain, obtain, Memo.consult_except_of_none h]
  rfl

/-- A resolver is built when the steps of the build are done, and is offered to the registry. -/
theorem take_obtain_of_ok (h : there.registry.find? scope = none) (owned : Scope)
    (options : Options) (nested : List (Step Options)) :
    (Step.obtain scope owned (.ok options) nested).take finder host there
      = let inner := takeAll finder host nested there
        let built := (Resolver.build finder host owned options).run inner.2.env
        let settled := inner.2.registry.settle scope built.1
        (.obtained (.ok settled.1) (some (scope, inner.1)) ⟨settled.2, built.2⟩,
          ⟨settled.2, built.2⟩) := by
  rw [take_obtain, obtain, Memo.consult_except_of_none h]
  rfl

theorem take_resolve (scope : Scope) (names : List String) (file : String)
    (there : After σ Options Cache) :
    (Step.resolve scope names file).take finder host there
      = let done := ((resolve finder host scope names file).run there.registry).run there.env
        (.resolved done.1.1 ⟨done.1.2, done.2⟩, ⟨done.1.2, done.2⟩) := by
  rw [Step.take, Step.perform.eq_def]
  rfl

theorem take_resolve_of_none (h : there.registry.find? scope = none) (names : List String)
    (file : String) :
    (Step.resolve scope names file).take finder host there = (.resolved none there, there) := by
  have look : ((resolve finder host scope names file).run there.registry).run there.env
      = ((none, there.registry), there.env) := by
    rw [resolve, StateT.run_bind, StateT.run_get, pure_bind, h]
    rfl
  rw [take_resolve, look]

/-- A batch moves the resolver of its scope on. -/
theorem take_resolve_of_some {resolver : Resolver Options Cache}
    (h : there.registry.find? scope = some resolver) (names : List String) (file : String) :
    (Step.resolve scope names file).take finder host there
      = let done := (resolver.resolve finder host names file).run there.env
        let moved := there.registry.update scope fun _ => done.1.2
        (.resolved (some done.1) ⟨moved, done.2⟩, ⟨moved, done.2⟩) := by
  have look : ((resolve finder host scope names file).run there.registry).run there.env
      = let done := (resolver.resolve finder host names file).run there.env
        ((some done.1, there.registry.update scope fun _ => done.1.2), done.2) := by
    rw [resolve, StateT.run_bind, StateT.run_get, pure_bind, h]
    rfl
  rw [take_resolve, look]

section Closes

variable (finder host)

/-- How a use may end, by what there is when it does. -/
inductive Closes : After σ Options Cache → Call (Use σ Options Module Cache) → Prop
  | kept {there : After σ Options Cache} {scope owned : Scope} {options : Except Failure Options}
      {nested : List (Step Options)} {resolver : Resolver Options Cache} :
      there.registry.find? scope = some resolver →
      Closes there (.mk ⟨there, .obtain scope owned options nested,
        .obtained (.ok resolver) none there⟩ [])
  | failed {before : After σ Options Cache} (left : After σ Options Cache) {scope owned : Scope}
      {failure : Failure} {nested : List (Step Options)}
      {outcomes : List (Outcome σ Options Module Cache)} :
      before.registry.find? scope = none → outcomes = (takeAll finder host nested before).1 →
      Closes left (.mk ⟨before, .obtain scope owned (.error failure) nested,
        .obtained (.error failure) (some (scope, outcomes)) left⟩ (uses nested before outcomes))
  | built {before : After σ Options Cache} (left : After σ Options Cache) {scope owned : Scope}
      {options : Options} {nested : List (Step Options)}
      {outcomes : List (Outcome σ Options Module Cache)} {built : Resolver Options Cache}
      {env : Env σ Options} :
      before.registry.find? scope = none → outcomes = (takeAll finder host nested before).1 →
      (Resolver.build finder host owned options).run left.env = (built, env) →
      Closes left (.mk ⟨before, .obtain scope owned (.ok options) nested,
        .obtained (.ok (left.registry.settle scope built).1) (some (scope, outcomes))
          ⟨(left.registry.settle scope built).2, env⟩⟩ (uses nested before outcomes))
  | found (there : After σ Options Cache) (scope : Scope) :
      Closes there (.mk ⟨there, .find scope, .found (there.registry.find? scope) there⟩ [])
  | listed (there : After σ Options Cache) :
      Closes there (.mk ⟨there, .scopes, .listed there.registry.scopes there⟩ [])
  | unknown {there : After σ Options Cache} {scope : Scope} {names : List String} {file : String} :
      there.registry.find? scope = none →
      Closes there (.mk ⟨there, .resolve scope names file, .resolved none there⟩ [])
  | resolved {there : After σ Options Cache} {scope : Scope} {names : List String} {file : String}
      {resolver next : Resolver Options Cache} {outcomes : List (Resolution Module)}
      {env : Env σ Options} : there.registry.find? scope = some resolver →
      (resolver.resolve finder host names file).run there.env = ((outcomes, next), env) →
      Closes there (.mk ⟨there, .resolve scope names file, .resolved (some (outcomes, next))
        ⟨there.registry.update scope fun _ => next, env⟩⟩ [])

/-- Uses as nested calls. -/
def calling : Calling (Use σ Options Module Cache) (After σ Options Cache) :=
  ⟨Use.before, Use.after, Closes finder host⟩

mutual

/-- A step ends as it may after the uses that its build has made. -/
theorem Step.take_closes (step : Step Options) (there : After σ Options Cache) :
    let done := step.take finder host there
    done.1.after = done.2 ∧ ∃ left,
      (calling finder host).Runs there (step.inner there done.1) left ∧
        Closes finder host left (.mk ⟨there, step, done.1⟩ (step.inner there done.1)) := by
  cases step with
  | obtain scope owned options nested =>
    rcases h : there.registry.find? scope with - | resolver
    · -- the steps of the build come first, whether it then fails or not
      have inner := takeAll_runs nested there
      rcases options with failure | options
      · rw [take_obtain_of_error h]
        exact ⟨rfl, _, inner, .failed _ h rfl⟩
      · rw [take_obtain_of_ok h]
        exact ⟨rfl, _, inner, .built _ h rfl rfl⟩
    · rw [take_obtain_of_some h]
      exact ⟨rfl, there, .nil there, .kept h⟩
  | find scope => exact ⟨rfl, there, .nil there, .found there scope⟩
  | scopes => exact ⟨rfl, there, .nil there, .listed there⟩
  | resolve scope names file =>
    rcases h : there.registry.find? scope with - | resolver
    · rw [take_resolve_of_none h]
      exact ⟨rfl, there, .nil there, .unknown h⟩
    · rw [take_resolve_of_some h]
      exact ⟨rfl, there, .nil there, .resolved h rfl⟩

/-- **Steps are a run of nested calls.** -/
theorem takeAll_runs (steps : List (Step Options)) (there : After σ Options Cache) :
    let done := takeAll finder host steps there
    (calling finder host).Runs there (uses steps there done.1) done.2 := by
  cases steps with
  | nil => exact .nil there
  | cons step steps =>
    obtain ⟨after, left, inner, closes⟩ := step.take_closes there
    have rest := takeAll_runs steps (step.take finder host there).2
    rw [takeAll_cons]
    dsimp only
    rw [← after] at rest ⊢
    exact .cons (Use.mk there step (step.take finder host there).1) inner closes rest

end

/-- The calls of a run are its steps, each with its outcome. -/
theorem uses_eq (steps : List (Step Options)) (there : After σ Options Cache) :
    let outcomes := (takeAll finder host steps there).1
    ((uses steps there outcomes).map fun call => call.about.step) = steps ∧
      ((uses steps there outcomes).map fun call => call.about.outcome) = outcomes := by
  induction steps generalizing there with
  | nil => exact ⟨rfl, rfl⟩
  | cons step steps ih =>
    obtain ⟨after, -⟩ := step.take_closes finder host there
    obtain ⟨same, results⟩ := ih (step.take finder host there).2
    rw [takeAll_cons]
    dsimp only
    rw [← after] at same results ⊢
    constructor
    · rw [uses, List.map_cons, same]
      rfl
    · rw [uses, List.map_cons, results]
      rfl

end Closes

/-! ### What is stored -/

theorem bare_resolve {resolver next : Resolver Options Cache} {names : List String}
    {file : String} {env later : Env σ Options} {outcomes : List (Resolution Module)}
    (batch : (resolver.resolve finder host names file).run env = ((outcomes, next), later)) :
    next.bare = resolver.bare := by
  have moved := (Resolver.resolve_run finder host resolver names file env).next
  rw [batch] at moved
  change next = _ at moved
  rw [moved]
  rfl

/-- The resolver that is stored for a scope, apart from its cache. -/
def After.bare? (there : After σ Options Cache) (scope : Scope) : Option (Resolver Options Unit) :=
  (there.registry.find? scope).map Resolver.bare

theorem After.bare?_of_some {resolver : Resolver Options Cache}
    (h : there.registry.find? scope = some resolver) :
    there.bare? scope = some resolver.bare := by
  rw [After.bare?, h, Option.map_some]

/-- A resolver was stored before another was offered, or it is the one offered, and stands. -/
theorem of_bare?_settle {owner : Scope} {built : Resolver Options Cache} {env : Env σ Options}
    {bare : Resolver Options Unit}
    (stored : After.bare? ⟨(there.registry.settle owner built).2, env⟩ scope = some bare) :
    there.bare? scope = some bare ∨
      owner = scope ∧ (there.registry.settle owner built).1 = built ∧ built.bare = bare := by
  rcases new : there.registry.find? owner with - | first
  · rw [Memo.settle_of_none new] at stored ⊢
    obtain ⟨resolver, found, rfl⟩ := Option.map_eq_some_iff.1 stored
    rcases Memo.of_find?_push new found with ⟨same, rfl⟩ | before
    · exact .inr ⟨Scope.bytes_inj.1 same, rfl, rfl⟩
    · exact .inl (After.bare?_of_some before)
  · rw [Memo.settle_of_some new] at stored
    exact .inl stored

/-- A batch leaves nothing to be seen but a cache. -/
theorem bare?_update {resolver next : Resolver Options Cache} {owner : Scope}
    (kept : there.registry.find? owner = some resolver) (same : next.bare = resolver.bare)
    (env : Env σ Options) (scope : Scope) :
    After.bare? ⟨there.registry.update owner fun _ => next, env⟩ scope = there.bare? scope := by
  rw [After.bare?, Memo.find?_update, After.bare?]
  by_cases this : owner.bytes = scope.bytes
  · rw [if_pos this, ← Memo.find?_congr this, kept, Option.map_some, Option.map_some, same]
    rfl
  · rw [if_neg this]

/-- The resolver of this scope was obtained. -/
def Use.Answers (use : Use σ Options Module Cache) (scope : Scope)
    (bare : Resolver Options Unit) : Prop :=
  ∃ resolver, use.obtained? = some (scope, resolver) ∧ resolver.bare = bare

/-- Nothing changes but that resolvers are added, and that batches move their caches on. -/
theorem remembers : Calling.Remembers (calling finder host)
    (fun there scope => After.bare? there scope) Use.Answers where
  grows := by
    intro there call scope bare closes stored
    cases closes with
    | kept | failed | found | listed | unknown => exact stored
    | built there new ran made =>
      obtain ⟨resolver, before, rfl⟩ := Option.map_eq_some_iff.1 stored
      exact After.bare?_of_some (Memo.find?_settle_of_some before _ _)
    | resolved kept batch =>
      exact (bare?_update kept (bare_resolve batch) _ _).trans stored
  records := by
    rintro there call scope bare closes ⟨resolver, obtained, rfl⟩
    cases closes with
    | kept stored =>
      cases obtained
      exact After.bare?_of_some stored
    | built there new ran made =>
      cases obtained
      exact After.bare?_of_some (Memo.find?_settle_self _ _ _)
    | failed | found | listed | unknown | resolved => cases obtained
  only := by
    intro there call scope bare closes stored
    cases closes with
    | kept | failed | found | listed | unknown => exact .inl stored
    | built there new ran made =>
      rcases of_bare?_settle stored with before | ⟨rfl, stands, rfl⟩
      · exact .inl before
      · exact .inr ⟨_, rfl, congrArg Resolver.bare stands⟩
    | resolved kept batch =>
      exact .inl ((bare?_update kept (bare_resolve batch) _ _).symm.trans stored)

/-- The resolver that a use is given is the one that is stored when the use has ended. -/
theorem Closes.find?_of_given {call : Call (Use σ Options Module Cache)}
    {resolver : Resolver Options Cache} (closes : Closes finder host there call)
    (given : call.about.given? = some (scope, resolver)) :
    call.about.after.registry.find? scope = some resolver := by
  cases closes with
  | kept stored =>
    cases given
    exact stored
  | built there new ran made =>
    cases given
    exact Memo.find?_settle_self _ _ _
  | found there asked =>
    rcases stored : there.registry.find? asked with - | resolver
    · rw [Call.about, Use.given?, stored] at given
      cases given
    · rw [Call.about, Use.given?, stored] at given
      cases given
      exact stored
  | resolved kept batch =>
    cases given
    -- the one case in which what is stored afterwards is not what was looked up
    show (there.registry.update scope fun _ => resolver).find? scope = some resolver
    rw [Memo.find?_update, if_pos rfl, kept, Option.map_some]
  | failed | listed | unknown => cases given

theorem Closes.outcome_of_find {call : Call (Use σ Options Module Cache)}
    (closes : Closes finder host there call) (step : call.about.step = .find scope) :
    call.about.outcome = .found (call.about.before.registry.find? scope) call.about.before := by
  cases closes with
  | kept | failed | built | listed | unknown | resolved => cases step
  | found there asked =>
    cases step
    rfl

theorem Closes.outcome_of_scopes {call : Call (Use σ Options Module Cache)}
    (closes : Closes finder host there call) (step : call.about.step = .scopes) :
    call.about.outcome = .listed call.about.before.registry.scopes call.about.before := by
  cases closes with
  | kept | failed | built | found | unknown | resolved => cases step
  | listed => rfl

/-! ### Which is which -/

/-- Resolvers are numbered, and no two scopes share a number. -/
structure Numbered (there : After σ Options Cache) : Prop where
  below : ∀ ⦃scope bare⦄, there.bare? scope = some bare → bare.id < there.env.fresh
  apart : ∀ ⦃scope bare other bare'⦄, there.bare? scope = some bare →
    there.bare? other = some bare' → bare.id = bare'.id → scope = other

theorem Numbered.of_empty (env : Env σ Options) :
    Numbered (⟨∅, env⟩ : After σ Options Cache) where
  below _ _ stored := nomatch stored
  apart _ _ _ _ stored := nomatch stored

/-- A resolver that is built has the next number. -/
theorem Numbered.closes {call : Call (Use σ Options Module Cache)}
    (closes : Closes finder host there call) (numbered : Numbered there) :
    Numbered call.about.after := by
  cases closes with
  | kept | failed | found | listed | unknown => exact numbered
  | built there new ran made =>
    rw [Resolver.build_run] at made
    cases made
    refine ⟨fun scope bare stored => ?_, fun scope bare other bare' stored stored' same => ?_⟩
    · rcases of_bare?_settle stored with before | ⟨rfl, -, rfl⟩
      · exact Nat.lt_succ_of_lt (numbered.below before)
      · exact Nat.lt_succ_self _
    · rcases of_bare?_settle stored with before | ⟨rfl, -, rfl⟩
        <;> rcases of_bare?_settle stored' with before' | ⟨rfl, -, rfl⟩
      · exact numbered.apart before before' same
      · -- a number that has been given out is not the next one
        exact absurd same (Nat.ne_of_lt (numbered.below before))
      · exact absurd same.symm (Nat.ne_of_lt (numbered.below before'))
      · rfl
  | @resolved _ owner names file resolver next outcomes env kept batch =>
    have fresh := (Resolver.resolve_run finder host resolver names file there.env).fresh
    rw [batch] at fresh
    have same := bare?_update kept (bare_resolve batch) env
    refine ⟨fun scope bare stored => ?_, fun scope bare other bare' stored stored' => ?_⟩
    · exact Nat.lt_of_lt_of_le (numbered.below ((same scope).symm.trans stored)) fresh
    · exact numbered.apart ((same scope).symm.trans stored) ((same other).symm.trans stored')

/-! ### The scopes in order -/

section Scopes

variable {α : Type} (registry : Registry α)

theorem length_scopes : registry.scopes.length = registry.size := by
  rw [scopes, Scope.sort, List.length_mergeSort, Memo.keys, List.length_map, Memo.size]

theorem mem_scopes {scope : Scope} :
    scope ∈ registry.scopes ↔ ∃ a, registry.find? scope = some a := by
  rw [scopes, Scope.sort, List.mem_mergeSort, Memo.exists_find?_iff]
  simp only [Scope.bytes_inj, exists_eq_right]

/-- Scopes are listed in strictly increasing order of their bytes. -/
theorem pairwise_scopes : registry.scopes.Pairwise fun a b => a.bytes < b.bytes := by
  have trans (a b c : Scope) : a ≤ b → b ≤ c → a ≤ c := List.le_trans
  have total (a b : Scope) : a ≤ b ∨ b ≤ a := List.le_total a.bytes b.bytes
  have sorted : registry.scopes.Pairwise fun a b => decide (a ≤ b) = true :=
    List.pairwise_mergeSort (by simpa using trans) (by simpa using total) registry.keys
  have distinct : registry.scopes.Pairwise fun a b => a.bytes ≠ b.bytes :=
    (List.mergeSort_perm _ _).symm.pairwise (List.pairwise_map.2 registry.distinct) fun h => h.symm
  refine sorted.imp₂ (fun a b le ne => ?_) distinct
  exact Std.lt_of_le_of_ne (of_decide_eq_true le) ne

end Scopes

/-- After steps that started with an empty registry, the scopes are those for which a resolver has
been obtained. -/
theorem mem_scopes_of_leads {env : Env σ Options} {last : After σ Options Cache}
    {moments : List (Moment (Use σ Options Module Cache))}
    (leads : (calling finder host).Leads ⟨∅, env⟩ moments last) :
    scope ∈ last.registry.scopes ↔
      ∃ call resolver, .ends call ∈ moments ∧ call.about.obtained? = some (scope, resolver) := by
  have stored := remembers.known_iff leads scope
  rw [mem_scopes]
  constructor
  · rintro ⟨resolver, there⟩
    rcases (stored resolver.bare).1 (After.bare?_of_some there) with before | obtained
    · cases before
    · obtain ⟨call, ended, resolver, obtained, -⟩ := obtained
      exact ⟨call, resolver, ended, obtained⟩
  · rintro ⟨call, resolver, ended, obtained⟩
    obtain ⟨kept, there, -⟩ := Option.map_eq_some_iff.1
      ((stored resolver.bare).2 (.inr ⟨call, ended, resolver, obtained, rfl⟩))
    exact ⟨kept, there⟩

/-! ### Any run -/

section Run

variable (finder host)

/-- What the steps of a build have left when it fails or makes its resolver. -/
def leftBy (call : Call (Use σ Options Module Cache)) : After σ Options Cache :=
  (calling finder host).left call.about.before call.nested

/-- How the request for a scope's resolver goes that has ended with `result`. -/
structure BuildsOnDemand (call : Call (Use σ Options Module Cache)) (scope owned : Scope)
    (options : Except Failure Options) (nested : List (Step Options))
    (result : Except Failure (Resolver Options Cache))
    (build : Option (Scope × List (Outcome σ Options Module Cache))) : Prop where
  /-- The build runs exactly when nothing is stored for the scope as the call begins. -/
  runs : build.isSome ↔ call.about.before.registry.find? scope = none
  /-- The build is given the very scope, and the uses that it makes are its own steps. -/
  given : ∀ asked outcomes, build = some (asked, outcomes) → asked = scope ∧
    (call.nested.map fun inner => inner.about.step) = nested ∧
    (call.nested.map fun inner => inner.about.outcome) = outcomes
  /-- Without a build, the result is the resolver that is stored, and nothing changes. -/
  kept : build = none → ∃ resolver, call.about.before.registry.find? scope = some resolver ∧
    result = .ok resolver ∧ call.about.after = call.about.before
  /-- A build that fails is the result, whatever its steps have stored, and changes nothing. -/
  fails : build.isSome → ∀ failure, options = .error failure →
    result = .error failure ∧ call.about.after = leftBy finder host call
  /-- The resolver that was built is discarded if the steps of the build have stored another. -/
  discards : build.isSome → ∀ own, options = .ok own →
    ∀ first, (leftBy finder host call).registry.find? scope = some first →
      result = .ok first ∧ call.about.after.registry = (leftBy finder host call).registry ∧
        first.id ≠ ((Resolver.build finder host owned own).run (leftBy finder host call).env).1.id
  /-- Otherwise it is stored, and nothing else changes. -/
  stores : build.isSome → ∀ own, options = .ok own →
    (leftBy finder host call).registry.find? scope = none →
      let built := (Resolver.build finder host owned own).run (leftBy finder host call).env
      result = .ok built.1 ∧ call.about.after.registry.find? scope = some built.1 ∧
        ∀ other, other ≠ scope → call.about.after.registry.find? other
          = (leftBy finder host call).registry.find? other

/-- What holds of a run of uses, at whatever depth they are made. -/
structure FirstStoredStands (run : List (Call (Use σ Options Module Cache))) : Prop where
  /-- All resolvers that are given for one scope are one and the same. -/
  same : ∀ call call' scope resolver resolver', .ends call ∈ chronicle run →
    .ends call' ∈ chronicle run → call.about.given? = some (scope, resolver) →
    call'.about.given? = some (scope, resolver') → resolver.bare = resolver'.bare
  /-- It is the one that is stored at any moment, and so the first one. -/
  first : ∀ call scope resolver, .ends call ∈ chronicle run →
    call.about.given? = some (scope, resolver) → ∀ moment ∈ chronicle run, ∀ stored,
      ((calling finder host).stateAt moment).registry.find? scope = some stored →
      stored.bare = resolver.bare
  /-- What is given is what is stored from then on. -/
  given : ∀ call scope resolver, .ends call ∈ chronicle run →
    call.about.given? = some (scope, resolver) →
    call.about.after.registry.find? scope = some resolver
  permanent : ∀ past moment future, chronicle run = past ++ moment :: future →
    ∀ later ∈ future, ∀ scope bare, ((calling finder host).stateAt moment).bare? scope = some bare →
      ((calling finder host).stateAt later).bare? scope = some bare
  /-- No two scopes share a resolver. -/
  apart : ∀ call call' scope scope' resolver resolver', .ends call ∈ chronicle run →
    .ends call' ∈ chronicle run → call.about.given? = some (scope, resolver) →
    call'.about.given? = some (scope', resolver') → resolver.id = resolver'.id → scope = scope'
  obtains : ∀ call scope owned options nested result build after, .ends call ∈ chronicle run →
    call.about.step = .obtain scope owned options nested →
    call.about.outcome = .obtained result build after →
    BuildsOnDemand finder host call scope owned options nested result build
  finds : ∀ call scope, .ends call ∈ chronicle run → call.about.step = .find scope →
    call.about.outcome
      = .found (call.about.before.registry.find? scope) call.about.before
  lists : ∀ call, .ends call ∈ chronicle run → call.about.step = .scopes →
    call.about.outcome = .listed call.about.before.registry.scopes call.about.before
  /-- At every moment the scopes are listed in strictly increasing order of their bytes, as many as
  there are resolvers.  They are those for which a resolver has been obtained by then. -/
  listing : ∀ past moment future, chronicle run = past ++ moment :: future →
    let registry := ((calling finder host).stateAt moment).registry
    (registry.scopes.Pairwise fun a b => a.bytes < b.bytes) ∧
      registry.scopes.length = registry.size ∧
      ∀ scope, scope ∈ registry.scopes ↔ ∃ call resolver, .ends call ∈ past ++ [moment] ∧
        call.about.obtained? = some (scope, resolver)

variable {finder host}

/-- A request that ends as it may has run its build on demand. -/
theorem buildsOnDemand {call : Call (Use σ Options Module Cache)} {owned : Scope}
    {options : Except Failure Options} {nested : List (Step Options)}
    {result : Except Failure (Resolver Options Cache)}
    {build : Option (Scope × List (Outcome σ Options Module Cache))} {after : After σ Options Cache}
    (numbered : Numbered (leftBy finder host call))
    (closes : Closes finder host (leftBy finder host call) call)
    (step : call.about.step = .obtain scope owned options nested)
    (outcome : call.about.outcome = .obtained result build after) :
    BuildsOnDemand finder host call scope owned options nested result build := by
  obtain ⟨use, within⟩ := call
  generalize leftIs : leftBy finder host (.mk use within) = left at numbered closes
  cases closes with
  | kept stored =>
    cases step
    cases outcome
    exact ⟨by simp [Call.about, stored], by simp, fun _ => ⟨_, stored, rfl, rfl⟩, by simp, by simp,
      by simp⟩
  | @failed before _ _ _ failure _ outcomes new ran =>
    cases step
    cases outcome
    refine ⟨⟨fun _ => new, fun _ => rfl⟩, ?_, by simp, ?_, by simp, by simp⟩
    · rintro asked _ ⟨rfl, rfl⟩
      rw [ran]
      exact ⟨rfl, uses_eq finder host nested before⟩
    · rintro _ _ ⟨rfl⟩
      exact ⟨rfl, leftIs.symm⟩
  | @built before _ _ _ own _ outcomes built env new ran made =>
    cases step
    cases outcome
    constructor
    · exact ⟨fun _ => new, fun _ => rfl⟩
    · rintro asked _ ⟨rfl, rfl⟩
      rw [ran]
      exact ⟨rfl, uses_eq finder host nested before⟩
    · simp
    · simp
    · rintro _ _ ⟨rfl⟩ first stored
      rw [leftIs] at stored ⊢
      -- the steps have stored a resolver before this one is built
      have earlier : first.id < left.env.fresh := numbered.below (After.bare?_of_some stored)
      rw [Call.about, Use.after, Outcome.after, Memo.settle_of_some stored, Resolver.build_run]
      exact ⟨rfl, rfl, Nat.ne_of_lt earlier⟩
    · rintro _ _ ⟨rfl⟩ absent
      rw [leftIs] at absent ⊢
      rw [Call.about, Use.after, Outcome.after, Memo.settle_of_none absent, made]
      refine ⟨rfl, by rw [Memo.find?_push, if_pos rfl], fun other ne => ?_⟩
      rw [Memo.find?_push, if_neg (mt Scope.bytes_inj.1 ne.symm)]
  | found | listed | unknown | resolved => cases step

variable (finder host)

/-- **The first resolver that is stored stands**, however deep the uses are nested in one another.
This holds of any steps that start with an empty registry. -/
theorem first_stored_stands (env : Env σ Options) (steps : List (Step Options)) :
    let done := takeAll finder host steps ⟨∅, env⟩
    let run := uses steps ⟨∅, env⟩ done.1
    (run.map fun call => call.about.step) = steps ∧
      (run.map fun call => call.about.outcome) = done.1 ∧ FirstStoredStands finder host run := by
  intro done run
  have runs : (calling finder host).Runs ⟨∅, env⟩ run done.2 := takeAll_runs finder host steps _
  obtain ⟨taken, results⟩ := uses_eq finder host steps (⟨∅, env⟩ : After σ Options Cache)
  have stands {call : Call (Use σ Options Module Cache)} {scope : Scope}
      {resolver : Resolver Options Cache} (ended : .ends call ∈ chronicle run)
      (given : call.about.given? = some (scope, resolver)) :
      done.2.bare? scope = some resolver.bare := by
    have there : call.about.after.bare? scope = some resolver.bare :=
      After.bare?_of_some ((runs.closes ended).2.find?_of_given given)
    exact remembers.of_moment runs.leads ended there
  refine ⟨taken, results, ?_⟩
  constructor
  case given =>
    intro call scope resolver ended given
    exact (runs.closes ended).2.find?_of_given given
  case same =>
    intro call call' scope resolver resolver' ended ended' given given'
    exact Option.some.inj ((stands ended given).symm.trans (stands ended' given'))
  case first =>
    intro call scope resolver ended given moment mem stored there
    -- what is stored at the moment stays, and in the end it is what the call was given
    have final := remembers.of_moment runs.leads mem (After.bare?_of_some there)
    exact Option.some.inj (final.symm.trans (stands ended given))
  case permanent =>
    intro past moment future split later mem scope bare there
    exact remembers.throughout (runs.divide split).2 mem there
  case apart =>
    intro call call' scope scope' resolver resolver' ended ended' given given' same
    have numbered : Numbered done.2 :=
      runs.leads.keeps (fun _ _ closes h => h.closes closes) (.of_empty env)
    exact numbered.apart (stands ended given) (stands ended' given') same
  case obtains =>
    intro call scope owned options nested result build after ended step outcome
    have numbered : Numbered (leftBy finder host call) :=
      runs.keeps (fun _ _ closes h => h.closes closes) (.of_empty env) ended
    exact buildsOnDemand numbered (runs.closes ended).2 step outcome
  case finds =>
    intro call scope ended step
    exact (runs.closes ended).2.outcome_of_find step
  case lists =>
    intro call ended step
    exact (runs.closes ended).2.outcome_of_scopes step
  case listing =>
    intro past moment future split registry
    refine ⟨pairwise_scopes registry, length_scopes registry, fun scope => ?_⟩
    exact mem_scopes_of_leads (runs.divide split).1

end Run

end Registry

end ScopedImports
