import ScopedImports.Session.Basic

/-!
A session in words, for a reader who debugs it.
-/

namespace ScopedImports.Session

/-- What is known about files, in the order in which it was learnt. -/
def describePresence (presence : Presence) : String :=
  let entries := presence.entries.map fun e =>
    Quoted.ofBytes e.1.bytes ++ ": " ++ (if e.2 then "true" else "false")
  "ExistenceCache \x7b entries: RwLock \x7b data: \x7b" ++ ", ".intercalate entries
    ++ "\x7d, poisoned: false, .. \x7d \x7d"

/-- Where configurations are looked for. -/
def describeLocator (locator : Locator) : String :=
  "ConfigLocator \x7b config_file_name: " ++ Quoted.ofText locator.configName
    ++ ", default_scope: " ++ Registry.describeScope locator.defaultScope ++ " \x7d"

/-- A session and what it remembers. -/
def describe {σ Options Module Cache : Type} (session : Session σ Options Module Cache)
    (memory : Memory Options Cache) : String :=
  "ResolveSession \x7b locator: " ++ describeLocator session.locator
    ++ ", existence: " ++ describePresence memory.presence
    ++ ", registry: " ++ memory.resolvers.describe ++ ", .. \x7d"

end ScopedImports.Session
