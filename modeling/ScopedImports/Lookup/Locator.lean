import ScopedImports.Journal
import ScopedImports.Lookup.Presence
import ScopedImports.Path.Ancestors

/-!
Which configuration governs a file.

The file is anchored at the working directory, and the directories above it are searched upwards
for a configuration file of the agreed name.  The nearest one found governs the file; where there is
none, the default scope does.  Probes go through what is already known, so a walk asks the host only
about paths that no earlier walk has asked about, and nothing beyond the first hit.

A host may be given a share in what is known, and use it while it is asked (`ReentrantHost`).  The
walk is the same for such a host and for one that does not (`reentrant`).
-/

namespace ScopedImports

/-- Where to look for configurations, and what to fall back on. -/
structure Locator where
  /-- The name of a configuration file. -/
  configName : String
  /-- The scope of files that no configuration encloses. -/
  defaultScope : Scope
  deriving DecidableEq, Repr

namespace Locator

variable {σ Options : Type}

/-! ### Hosts that use what is known -/

/-- A host that may itself use what is known while it is asked about a file.  Its use is to look up
answers and to record them, so what is known only grows. -/
structure ReentrantHost (σ Options : Type) where
  workingDirectory : StateM σ Path
  isFile : Path → StateT Presence (Act σ Options) Bool
  grows : ∀ (path : Path) (known : Presence) (env : Env σ Options),
    known.Grows (((isFile path).run known).run env).1.2

/-- A host that does not use what is known. -/
def reentrant (host : Host σ) : ReentrantHost σ Options where
  workingDirectory := host.workingDirectory
  isFile path := liftM (Act.ask (host.isFile path) : Act σ Options Bool)
  grows _ known _ := Memo.Grows.refl known

namespace ReentrantHost

variable (host : ReentrantHost σ Options)

/-- Ask the host for a file, on record. -/
def probe (path : Path) : StateT Presence (Act σ Options) Bool := do
  liftM (Act.record (.probed path) : Act σ Options Unit)
  host.isFile path

/-- Ask what is known about a path, and the host if nothing is. -/
def look (path : Path) : StateT Presence (Act σ Options) Bool := Presence.check path host.probe

/-- The first of the paths at which there is a file. -/
def firstPresent : List Path → StateT Presence (Act σ Options) (Option Path)
  | [] => pure none
  | path :: rest => do
    if ← host.look path then
      pure (some path)
    else
      firstPresent rest

end ReentrantHost

/-! ### From the file to its scope -/

/-- The places where a configuration may govern `file`, for a caller who works in `directory`. -/
def places (locator : Locator) (directory : Path) (file : String) : List Path :=
  ((Path.ofText file).anchor directory).candidates locator.configName

/-- The scope of the place that was found. -/
def scopeOf (locator : Locator) : Option Path → Scope
  | some path => Scope.ofPath path
  | none => locator.defaultScope

/-- The line that a walk leaves for the log. -/
def noteOf (locator : Locator) (file : String) : Option Path → Note
  | some path => .located file (Scope.ofPath path)
  | none => .fellBack file locator.defaultScope

/-- The scope that governs `file`, where the host may itself use what is known. -/
def locateBy (locator : Locator) (host : ReentrantHost σ Options) (file : String) :
    StateT Presence (Act σ Options) Scope := do
  let directory ← liftM (Act.ask host.workingDirectory : Act σ Options Path)
  let found ← host.firstPresent (locator.places directory file)
  liftM (Act.note (locator.noteOf file found) : Act σ Options Unit)
  pure (locator.scopeOf found)

/-- The scope that governs `file`. -/
def locate (locator : Locator) (host : Host σ) (file : String) :
    StateT Presence (Act σ Options) Scope := locator.locateBy (reentrant host) file

end Locator

end ScopedImports
