import ScopedImports.Journal
import ScopedImports.Resolution.Basic
import ScopedImports.Resolution.Batch

/-!
A resolver serves one scope: it holds the scope's options and the finder's cache for that scope.

The cache lives as long as the resolver, so every batch builds on what earlier batches have put into
it.  Resolving a batch therefore returns the resolver in its next state; its identity, scope and
options never change.
-/

namespace ScopedImports

/-- A resolver: which one it is, the scope it serves, and the finder's cache at the moment. -/
structure Resolver (Options Cache : Type) where
  id : Nat
  scope : Scope
  options : Options
  cache : Cache
  deriving DecidableEq, Repr

namespace Resolver

variable {σ Options Module Cache : Type}

/-- Build a resolver with an empty cache. -/
def build (finder : Finder σ Options Module Cache) (host : Host σ) (scope : Scope)
    (options : Options) : Act σ Options (Resolver Options Cache) := do
  let directory ← Act.ask host.workingDirectory
  Act.record (.madeCache directory)
  let cache ← Act.ask (finder.newCache directory host)
  pure { id := ← Act.newIdentity, scope, options, cache }

theorem build_run (finder : Finder σ Options Module Cache) (host : Host σ) (scope : Scope)
    (options : Options) (env : Env σ Options) :
    (Resolver.build finder host scope options).run env
      = let asked := host.workingDirectory env.world
        let made := finder.newCache asked.1 host asked.2
        pure ({ id := env.fresh, scope, options, cache := made.1 },
          { world := made.2, fresh := env.fresh + 1,
            journal := env.journal ++ [.madeCache asked.1] }) := rfl

/-- The state of a batch under way: the finder's cache, and how often the finder was called. -/
structure Progress (Cache : Type) where
  cache : Cache
  loads : Nat

/-- Resolve one name.  A module that is found gets an identity of its own. -/
def search (finder : Finder σ Options Module Cache) (host : Host σ) (options : Options)
    (name file : String) : StateT (Progress Cache) (Act σ Options) (Resolution Module) :=
  fun progress => do
    Act.record (.searched name file options)
    let (found, cache) ← Act.ask (finder.find name file options host progress.cache)
    let progress := { cache, loads := progress.loads + 1 }
    match found with
    | none => pure (.unresolved, progress)
    | some value => pure (.resolved { id := ← Act.newIdentity, value }, progress)

/-- Resolve a batch of names as they occur in `file`: one outcome for each name, in order. -/
def resolve (resolver : Resolver Options Cache) (finder : Finder σ Options Module Cache)
    (host : Host σ) (names : List String) (file : String) :
    Act σ Options (List (Resolution Module) × Resolver Options Cache) := do
  let (outcomes, progress) ←
    (Batch.load names file (search finder host resolver.options)).run ⟨resolver.cache, 0⟩
  Act.note (.resolvedBatch resolver.scope file names.length progress.loads)
  pure (outcomes, { resolver with cache := progress.cache })

end Resolver

end ScopedImports
