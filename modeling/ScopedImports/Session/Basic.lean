import ScopedImports.Lookup.Locator
import ScopedImports.Resolution.Registry
import ScopedImports.Settings.Basic

/-!
A session resolves module names for one project.

For every request it finds the scope that governs the importing file, obtains that scope's resolver,
and lets it resolve the batch.  All that it remembers is what it knows about the presence of files
and the registry of resolvers; both start empty and only grow.

Design.  `Session` holds the collaborators and the locator and never changes; `Session.Memory` is
what changes.  A request is an action on the memory (`SessionM`), with a failure as one of its
results, so what a failing request has learnt about files stays learnt.

    resolve names file  =  locate file, then resolverFor that scope, then its resolver on the names
-/

namespace ScopedImports

/-- The collaborators of a session and where it looks for configurations. -/
structure Session (σ Options Module Cache : Type) where
  host : Host σ
  loader : Loader σ Options
  finder : Finder σ Options Module Cache
  locator : Locator

/-- What a session remembers. -/
structure Session.Memory (Options Cache : Type) where
  presence : Presence
  resolvers : Registry (Resolver Options Cache)

/-- What a session has at hand while it serves a request. -/
abbrev SessionM (σ Options Cache : Type) := StateT (Session.Memory Options Cache) (Act σ Options)

namespace Session

variable {σ Options Module Cache α : Type}

/-- A session for the given settings.  A relative project configuration is anchored at the working
directory, as files are. -/
def start (settings : Settings) (host : Host σ) (loader : Loader σ Options)
    (finder : Finder σ Options Module Cache) : StateM σ (Session σ Options Module Cache) := do
  let directory ← host.workingDirectory
  let defaultScope := Scope.ofPath (settings.projectConfig.anchor directory)
  pure { host, loader, finder, locator := ⟨settings.configName, defaultScope⟩ }

/-- The memory of a session that has not served a request. -/
def Memory.empty : Memory Options Cache := ⟨∅, ∅⟩

/-- Use what is known about files. -/
def onPresence (action : StateT Presence (Act σ Options) α) : SessionM σ Options Cache α :=
  fun memory => do
    let (answer, presence) ← action memory.presence
    pure (answer, { memory with presence })

/-- Use the registry. -/
def onResolvers (action : StateT (Registry (Resolver Options Cache)) (Act σ Options) α) :
    SessionM σ Options Cache α :=
  fun memory => do
    let (answer, resolvers) ← action memory.resolvers
    pure (answer, { memory with resolvers })

variable (session : Session σ Options Module Cache)

/-- The scope of files that no configuration encloses. -/
def defaultScope : Scope := session.locator.defaultScope

/-- The scope that governs `file`. -/
def locate (file : String) : SessionM σ Options Cache Scope :=
  onPresence (session.locator.locate session.host file)

/-- Load the options of a scope and build its resolver. -/
def build (scope : Scope) : Act σ Options (Except Failure (Resolver Options Cache)) := do
  Act.record (.parsed scope.path)
  match ← Act.ask (session.loader scope.path) with
  | .error failure =>
    Act.note (.loadFailed scope failure)
    pure (.error failure)
  | .ok options =>
    Act.note (.building scope)
    .ok <$> Resolver.build session.finder session.host scope options

/-- The resolver of a scope, built on first use; fails as the loader does. -/
def resolverFor (scope : Scope) : ExceptT Failure (SessionM σ Options Cache)
    (Resolver Options Cache) :=
  ExceptT.mk (onResolvers (ExceptT.run
    (Registry.obtain scope fun scope => ExceptT.mk (liftM (session.build scope)))))

/-- Resolve a batch with the given resolver, and keep the resolver's next state. -/
def resolveWith (resolver : Resolver Options Cache) (names : List String) (file : String) :
    SessionM σ Options Cache (List (Resolution Module)) :=
  onResolvers do
    let (outcomes, next) ← liftM (resolver.resolve session.finder session.host names file)
    modify fun registry => registry.update resolver.scope fun _ => next
    pure outcomes

/-- Resolve the names that occur in `file`: one outcome for each name, in order.  Fails only if the
configuration that governs the file cannot be loaded. -/
def resolve (names : List String) (file : String) :
    ExceptT Failure (SessionM σ Options Cache) (List (Resolution Module)) := do
  let scope ← liftM (session.locate file)
  let resolver ← session.resolverFor scope
  liftM (session.resolveWith resolver names file)

/-- Resolve the names that occur in `file`, all of which must resolve. -/
def resolveStrict (names : List String) (file : String) :
    ExceptT Failure (SessionM σ Options Cache) (List (Shared Module)) := do
  let outcomes ← session.resolve names file
  ExceptT.mk (pure (Resolution.demand file names outcomes))

/-- The session as a compiler's hook: names and a file in, outcomes out. -/
def hook : List String → String → ExceptT Failure (SessionM σ Options Cache)
    (List (Resolution Module)) :=
  session.resolve

/-- How much a session remembers. -/
structure Stats where
  /-- Scopes that have a resolver. -/
  scopes : Nat
  /-- Paths known to be a file or known not to be one. -/
  paths : Nat
  deriving DecidableEq, Repr

/-- How much is remembered. -/
def Memory.stats (memory : Memory Options Cache) : Stats :=
  ⟨memory.resolvers.size, memory.presence.size⟩

end Session

end ScopedImports
