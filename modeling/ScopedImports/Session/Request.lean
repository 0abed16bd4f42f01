import ScopedImports.Session.Basic

/-!
Requests to a session as data, so that one can speak of every sequence of requests.
-/

namespace ScopedImports.Session

/-- What a session can be asked for. -/
inductive Request
  | locate (file : String)
  | resolverFor (scope : Scope)
  | resolve (names : List String) (file : String)
  | resolveStrict (names : List String) (file : String)
  | hook (names : List String) (file : String)
  /-- Obtain the resolver of a scope and have it resolve a batch, whatever governs the file. -/
  | resolveIn (scope : Scope) (names : List String) (file : String)
  deriving DecidableEq, Repr

/-- What a session answers. -/
inductive Response (Options Module Cache : Type)
  | located (scope : Scope)
  | resolver (result : Except Failure (Resolver Options Cache))
  | outcomes (result : Except Failure (List (Resolution Module)))
  | modules (result : Except Failure (List (Shared Module)))

variable {σ Options Module Cache : Type} (session : Session σ Options Module Cache)

/-- Obtain the resolver of a scope and have it resolve a batch. -/
def resolveIn (scope : Scope) (names : List String) (file : String) :
    ExceptT Failure (SessionM σ Options Cache) (List (Resolution Module)) := do
  let resolver ← session.resolverFor scope
  liftM (session.resolveWith resolver names file)

/-- Serve a request. -/
def serve : Request → SessionM σ Options Cache (Response Options Module Cache)
  | .locate file => .located <$> session.locate file
  | .resolverFor scope => .resolver <$> (session.resolverFor scope).run
  | .resolve names file => .outcomes <$> (session.resolve names file).run
  | .resolveStrict names file => .modules <$> (session.resolveStrict names file).run
  | .hook names file => .outcomes <$> (session.hook names file).run
  | .resolveIn scope names file => .outcomes <$> (session.resolveIn scope names file).run

/-- Serve requests one after the other. -/
def serveAll (requests : List Request) :
    SessionM σ Options Cache (List (Response Options Module Cache)) :=
  requests.mapM session.serve

end ScopedImports.Session
