import ScopedImports.Path.Basic

/-!
A scope is what one configuration file governs, and it is known by that file's path, byte for byte.

Scopes are deliberately finer than paths: `/a/b` and `/a//b` are the same path but two scopes, so
each spelling has its own options and its own resolver.  Scopes are ordered by their bytes.
-/

namespace ScopedImports

/-- The identity of a configuration scope: the exact bytes of the configuration file's path. -/
structure Scope where
  bytes : List UInt8
  deriving DecidableEq, Repr, Inhabited

namespace Scope

theorem bytes_inj {a b : Scope} : a.bytes = b.bytes ↔ a = b := by
  cases a
  cases b
  simp

/-- The scope of the configuration file at `p`. -/
def ofPath (p : Path) : Scope := ⟨p.bytes⟩

/-- The configuration file of the scope, exactly as it was given. -/
def path (s : Scope) : Path := ⟨s.bytes⟩

/-- The scope for a reader. -/
def display (s : Scope) : String := s.path.display

instance : LE Scope := ⟨fun a b => a.bytes ≤ b.bytes⟩

instance (a b : Scope) : Decidable (a ≤ b) := inferInstanceAs (Decidable (a.bytes ≤ b.bytes))

instance : Ord Scope := ⟨fun a b => if a = b then .eq else if a ≤ b then .lt else .gt⟩

/-- Scopes in the order of their bytes. -/
def sort (scopes : List Scope) : List Scope := scopes.mergeSort fun a b => decide (a ≤ b)

end Scope

end ScopedImports
