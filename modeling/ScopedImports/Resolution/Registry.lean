import ScopedImports.Memo
import ScopedImports.Resolution.Resolver
import ScopedImports.Text.Quoted

/-!
The registry: the resolver of every scope that has one.

A resolver is built when its scope is first asked for, and stays.  A build that fails stores
nothing, so the next request for the scope tries again.  A build may itself use the registry; a
resolver that it stores for the scope being built stands, and the one built is discarded.  A `Step`
describes such a use to any depth.
-/

namespace ScopedImports

/-- What is kept for every scope, by the exact bytes of the scope. -/
abbrev Registry (α : Type) := Memo Scope.bytes α

namespace Registry

/-- What is kept for `scope`, built on first use. -/
def obtain {α : Type} {m : Type → Type} [Monad m] [MonadStateOf (Registry α) m] (scope : Scope)
    (build : Scope → m α) : m α :=
  Memo.consult Scope.bytes scope build

/-- The scopes with an entry, in order. -/
def scopes {α : Type} (registry : Registry α) : List Scope := Scope.sort registry.keys

/-- The scope by name and bytes. -/
def describeScope (scope : Scope) : String :=
  "ConfigScope(" ++ Quoted.ofBytes scope.bytes ++ ")"

/-- The registry by name and scopes. -/
def describe {α : Type} (registry : Registry α) : String :=
  "ResolverRegistry \x7b scopes: [" ++ ", ".intercalate (registry.scopes.map describeScope)
    ++ "] \x7d"

/-! ### Re-entrant use -/

variable {σ Options Module Cache : Type}

/-- One use of a registry. -/
inductive Step (Options : Type)
  /-- Obtain the resolver of a scope with a build that performs further steps and then fails or
  makes a resolver for the scope `owned`. -/
  | obtain (scope owned : Scope) (options : Except Failure Options) (nested : List (Step Options))
  | find (scope : Scope)
  | scopes
  /-- Resolve a batch with the resolver of a scope. -/
  | resolve (scope : Scope) (names : List String) (file : String)

/-- What is left after a step: the registry, and all that the step went through is on record. -/
structure After (σ Options Cache : Type) where
  registry : Registry (Resolver Options Cache)
  env : Env σ Options

/-- What came of a step, and what was left after it. -/
inductive Outcome (σ Options Module Cache : Type)
  /-- The resolver or the failure; if the build ran, the scope it was given and its own steps'
  outcomes. -/
  | obtained (result : Except Failure (Resolver Options Cache))
      (build : Option (Scope × List (Outcome σ Options Module Cache)))
      (after : After σ Options Cache)
  | found (resolver : Option (Resolver Options Cache)) (after : After σ Options Cache)
  | listed (scopes : List Scope) (after : After σ Options Cache)
  /-- The outcomes of a batch and the resolver after it, if the scope has a resolver. -/
  | resolved (batch : Option (List (Resolution Module) × Resolver Options Cache))
      (after : After σ Options Cache)

/-- What was left after the step. -/
def Outcome.after : Outcome σ Options Module Cache → After σ Options Cache
  | obtained _ _ after | found _ after | listed _ after | resolved _ after => after

/-- Resolve a batch with the resolver of a scope, if it has one. -/
def resolve (finder : Finder σ Options Module Cache) (host : Host σ) (scope : Scope)
    (names : List String) (file : String) :
    StateT (Registry (Resolver Options Cache)) (Act σ Options)
      (Option (List (Resolution Module) × Resolver Options Cache)) := do
  match (← get).find? scope with
  | none => pure none
  | some resolver =>
    let (outcomes, resolver) ← liftM (resolver.resolve finder host names file)
    modify fun registry => registry.update scope fun _ => resolver
    pure (some (outcomes, resolver))

mutual

/-- Perform a step. -/
def Step.perform (finder : Finder σ Options Module Cache) (host : Host σ) :
    Step Options → StateT (Registry (Resolver Options Cache)) (Act σ Options)
      (Outcome σ Options Module Cache)
  | .obtain scope owned options nested => fun registry env =>
    let build (given : Scope) : ExceptT Failure (StateT (Registry (Resolver Options Cache))
        (StateT (Option (Scope × List (Outcome σ Options Module Cache))) (Act σ Options)))
        (Resolver Options Cache) := ExceptT.mk fun registry _ env =>
      let ((outcomes, registry), env) := (performAll finder host nested).run registry |>.run env
      let made : Act σ Options (Except Failure (Resolver Options Cache)) :=
        match options with
        | .error failure => pure (.error failure)
        | .ok options => .ok <$> Resolver.build finder host owned options
      let (result, env) := made.run env
      (((result, registry), some (given, outcomes)), env)
    let (((result, registry), built), env) :=
      (obtain scope build).run.run registry |>.run none |>.run env
    ((.obtained result built ⟨registry, env⟩, registry), env)
  | .find scope => fun registry env =>
    ((.found (registry.find? scope) ⟨registry, env⟩, registry), env)
  | .scopes => fun registry env => ((.listed registry.scopes ⟨registry, env⟩, registry), env)
  | .resolve scope names file => fun registry env =>
    let ((batch, registry), env) := (resolve finder host scope names file).run registry |>.run env
    ((.resolved batch ⟨registry, env⟩, registry), env)

/-- Perform steps one after the other. -/
def performAll (finder : Finder σ Options Module Cache) (host : Host σ) :
    List (Step Options) → StateT (Registry (Resolver Options Cache)) (Act σ Options)
      (List (Outcome σ Options Module Cache))
  | [] => pure []
  | step :: rest => do
    let outcome ← step.perform finder host
    let outcomes ← performAll finder host rest
    pure (outcome :: outcomes)

end

end Registry

namespace Resolver

/-- The resolver by name and scope. -/
def describe {Options Cache : Type} (resolver : Resolver Options Cache) : String :=
  "ScopedResolver \x7b scope: " ++ Registry.describeScope resolver.scope ++ ", .. \x7d"

end Resolver

end ScopedImports
