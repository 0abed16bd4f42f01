import ScopedImports.Failure

/-!
What a name of a batch resolved to.

Resolved modules are shared: every position of a batch that has the same name holds one and the same
module.  Sharing is made visible by an identity that nothing else carries, so "the very same module"
means equal identities, while two different modules may still have equal content.
-/

namespace ScopedImports

/-- A value with an identity of its own. -/
structure Shared (α : Type) where
  id : Nat
  value : α
  deriving DecidableEq, Repr

/-- The outcome of resolving one name. -/
inductive Resolution (Module : Type)
  | resolved (module : Shared Module)
  | unresolved
  deriving DecidableEq, Repr

namespace Resolution

variable {Module : Type}

/-- The shared module, if the name resolved. -/
def shared? : Resolution Module → Option (Shared Module)
  | resolved module => some module
  | unresolved => none

/-- The module's content, if the name resolved. -/
def module? (resolution : Resolution Module) : Option Module := resolution.shared?.map Shared.value

/-- The name resolved. -/
def isResolved (resolution : Resolution Module) : Bool := resolution.shared?.isSome

/-- The outcome in one word. -/
def status (resolution : Resolution Module) : String :=
  if resolution.isResolved then "resolved" else "unresolved"

/-- The shared modules, if every name resolved; otherwise the first name that did not.  Names and
outcomes are paired by position, and what has no partner is left out. -/
def demand (file : String) :
    List String → List (Resolution Module) → Except Failure (List (Shared Module))
  | name :: names, outcome :: outcomes =>
    match outcome with
    | unresolved => .error (.unresolved name file)
    | resolved module => (module :: ·) <$> demand file names outcomes
  | _, _ => .ok []

end Resolution

end ScopedImports
