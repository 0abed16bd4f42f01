import ScopedImports.Path.Basic

/-!
What can go wrong: a configuration that cannot be read, one that cannot be understood, and a name
that does not resolve where every name must.  Nothing else fails; looking for a configuration
always has an answer.
-/

namespace ScopedImports

/-- The causes of failure.  A configuration may be malformed because of another failure, for
instance that of a configuration it extends. -/
inductive Failure
  | unreadable (path : Path) (reason : String)
  | malformed (path : Path) (reason : String)
  | malformedBy (path : Path) (cause : Failure)
  | unresolved (specifier file : String)
  deriving DecidableEq, Repr, Inhabited

namespace Failure

/-- The configuration file at fault. -/
def path? : Failure → Option Path
  | unreadable path _ | malformed path _ | malformedBy path _ => some path
  | unresolved _ _ => none

/-- The failure in words, ending with its cause in words. -/
def message : Failure → String
  | unreadable path reason => "Failed to read config at " ++ path.display ++ ": " ++ reason
  | malformed path reason => "Failed to parse config at " ++ path.display ++ ": " ++ reason
  | malformedBy path cause => "Failed to parse config at " ++ path.display ++ ": " ++ cause.message
  | unresolved specifier file =>
    "Cannot resolve module '" ++ specifier ++ "' imported from " ++ file

/-- The cause in words. -/
def cause? : Failure → Option String
  | unreadable _ reason | malformed _ reason => some reason
  | malformedBy _ cause => some cause.message
  | unresolved _ _ => none

end Failure

end ScopedImports
