import Mathlib.Data.List.Induction
import ScopedImports.Proofs.Session.Steps

/-!
A run of a session, turn by turn.

A turn is one request with the session before it, the response, and the session after it.  The turns
of a run are those of the requests in order, each beginning where the one before it ended:

    turns state (requests ++ [request])
      =  turns state requests ++ [turn (final state requests) request].

What every step preserves, every run preserves (`final_keeps`).  Statements about the past of a run
go by induction from its end, with the equation above.
-/

namespace ScopedImports.Session

/-- One request of a run. -/
structure Turn (σ Options Module Cache : Type) where
  before : State σ Options Cache
  request : Request
  response : Response Options Module Cache
  after : State σ Options Cache

variable {σ Options Module Cache : Type}
variable (session : Session σ Options Module Cache) (state : State σ Options Cache)

/-- Serve a request. -/
def turn (request : Request) : Turn σ Options Module Cache :=
  ⟨state, request, (state.run (session.serve request)).1, (state.run (session.serve request)).2⟩

/-- The turns of a run. -/
def turns (state : State σ Options Cache) : List Request → List (Turn σ Options Module Cache)
  | [] => []
  | request :: requests =>
    session.turn state request :: turns (session.turn state request).after requests

/-- The session after a run. -/
def final (requests : List Request) : State σ Options Cache :=
  (state.run (session.serveAll requests)).2

/-! ### Runs in parts -/

theorem serveAll_cons (request : Request) (requests : List Request) :
    state.run (session.serveAll (request :: requests))
      = let first := session.turn state request
        let rest := first.after.run (session.serveAll requests)
        (first.response :: rest.1, rest.2) := by
  rw [serveAll, List.mapM_cons, State.run_bind, State.run_bind]
  rfl

theorem final_cons (request : Request) (requests : List Request) :
    session.final state (request :: requests)
      = session.final (session.turn state request).after requests := by
  rw [final, serveAll_cons, final]

theorem final_append (requests more : List Request) :
    session.final state (requests ++ more)
      = session.final (session.final state requests) more := by
  induction requests generalizing state with
  | nil => rfl
  | cons request requests ih =>
    rw [List.cons_append, final_cons, ih, ← final_cons]

theorem turns_append (requests more : List Request) :
    session.turns state (requests ++ more)
      = session.turns state requests ++ session.turns (session.final state requests) more := by
  induction requests generalizing state with
  | nil => rfl
  | cons request requests ih =>
    rw [List.cons_append, turns, turns, ih, ← final_cons, List.cons_append]

theorem final_concat (requests : List Request) (request : Request) :
    session.final state (requests ++ [request])
      = (session.turn (session.final state requests) request).after := by
  rw [final_append, final_cons]
  rfl

theorem turns_concat (requests : List Request) (request : Request) :
    session.turns state (requests ++ [request])
      = session.turns state requests ++ [session.turn (session.final state requests) request] :=
  session.turns_append state requests [request]

/-- Every turn of a run is the turn of its request. -/
theorem eq_turn_of_mem {state : State σ Options Cache} {requests : List Request}
    {turn : Turn σ Options Module Cache} (mem : turn ∈ session.turns state requests) :
    turn = session.turn turn.before turn.request := by
  induction requests generalizing state with
  | nil => cases mem
  | cons request requests ih =>
    rcases List.mem_cons.1 mem with rfl | later
    · rfl
    · exact ih later

/-! ### What a run preserves -/

/-- The resolver that a request is given is the one that the session keeps. -/
theorem resolver?_of_obtain {scope : Scope} {resolver : Resolver Options Cache}
    (had : (session.obtain state scope).1 = .ok resolver) :
    (session.obtain state scope).2.resolver? scope = some resolver := by
  have obtains := session.obtains state scope
  generalize session.obtain state scope = done at had obtains ⊢
  cases obtains with
  | stored kept =>
    cases had
    exact kept
  | rejected => cases had
  | built new loaded =>
    cases had
    rw [State.resolver?_push, if_pos rfl]

variable {session state}

/-- When a request asks for a resolver, nothing has happened yet, or a file has been located. -/
theorem asks_keeps {P : State σ Options Cache → Prop} {request : Request} {scope : Scope}
    {asked : State σ Options Cache} (asks : session.asks state request = some (scope, asked))
    (holds : P state) (locate : ∀ file, P (state.run (session.locate file)).2) : P asked := by
  cases request with
  | locate file => cases asks
  | resolverFor scope | resolveIn scope names file =>
    cases asks
    exact holds
  | resolve names file | resolveStrict names file | hook names file =>
    have same : (state.run (session.locate file)).2 = asked :=
      congrArg Prod.snd (Option.some.inj asks)
    rw [← same]
    exact locate file

/-- After a resolver was obtained, a request ends, or that resolver resolves a batch. -/
theorem conclude_keeps {P : State σ Options Cache → Prop} (request : Request) (scope : Scope)
    (holds : P (session.obtain state scope).2)
    (batch : ∀ resolver names file, (session.obtain state scope).1 = .ok resolver →
      P (session.batch (session.obtain state scope).2 resolver names file).2) :
    P (session.conclude request (session.obtain state scope)).2 := by
  rcases had : session.obtain state scope with ⟨failure | resolver, later⟩
  · rw [had] at holds
    exact holds
  · rw [had] at holds batch
    rw [Session.conclude]
    rcases request.batch? with - | ⟨names, file⟩
    · exact holds
    · exact batch resolver names file rfl

theorem turn_of_asks {request : Request} {scope : Scope} {asked : State σ Options Cache}
    (asks : session.asks state request = some (scope, asked)) :
    session.turn state request
      = ⟨state, request, (session.conclude request (session.obtain asked scope)).1,
          (session.conclude request (session.obtain asked scope)).2⟩ := by
  rw [turn, session.serve_of_asks state asks]

theorem turn_locate (file : String) :
    session.turn state (.locate file)
      = ⟨state, .locate file, .located (state.run (session.locate file)).1,
          (state.run (session.locate file)).2⟩ := by
  rw [turn, serve_locate]

/-- The requests for the names in a file, in the scope that governs the file. -/
def importing (names : List String) (file : String) : List Request :=
  [.resolve names file, .resolveStrict names file, .hook names file]

theorem batch?_importing {names : List String} {file : String} {request : Request}
    (mem : request ∈ importing names file) : request.batch? = some (names, file) := by
  simp only [importing, List.mem_cons, List.not_mem_nil, or_false] at mem
  rcases mem with rfl | rfl | rfl <;> rfl

theorem asks_importing {names : List String} {file : String} {request : Request}
    (mem : request ∈ importing names file) :
    session.asks state request
      = some ((state.run (session.locate file)).1, (state.run (session.locate file)).2) := by
  simp only [importing, List.mem_cons, List.not_mem_nil, or_false] at mem
  rcases mem with rfl | rfl | rfl <;> rw [asks, Prod.eta]

/-- A property that every step of a session preserves. -/
structure Preserves (session : Session σ Options Module Cache)
    (P : State σ Options Cache → Prop) : Prop where
  locate : ∀ ⦃state⦄ file, P state → P (state.run (session.locate file)).2
  obtain : ∀ ⦃state⦄ scope, P state → P (session.obtain state scope).2
  batch : ∀ ⦃state scope resolver⦄ names file, state.resolver? scope = some resolver →
    P state → P (session.batch state resolver names file).2

namespace Preserves

variable {P : State σ Options Cache → Prop} (preserves : Preserves session P)

include preserves

theorem asks {request : Request} {scope : Scope} {asked : State σ Options Cache}
    (asks : session.asks state request = some (scope, asked)) (holds : P state) : P asked :=
  asks_keeps asks holds fun file => preserves.locate file holds

/-- What holds when a request asks for a resolver, holds when its turn ends. -/
theorem turn_of_asks {request : Request} {scope : Scope} {asked : State σ Options Cache}
    (asks : session.asks state request = some (scope, asked)) (holds : P asked) :
    P (session.turn state request).after := by
  rw [Session.turn, session.serve_of_asks state asks]
  have later := preserves.obtain scope holds
  refine conclude_keeps request scope later ?_
  intro resolver names file had
  exact preserves.batch names file (session.resolver?_of_obtain asked had) later

/-- What every step preserves, every turn preserves. -/
theorem turn (request : Request) (holds : P state) : P (session.turn state request).after := by
  rcases asks : session.asks state request with - | ⟨scope, asked⟩
  · obtain ⟨file, rfl⟩ := session.eq_locate_of_asks state asks
    rw [Session.turn, serve_locate]
    exact preserves.locate file holds
  · exact preserves.turn_of_asks asks (preserves.asks asks holds)

/-- **What every step preserves, every run preserves.** -/
theorem final (requests : List Request) (holds : P state) : P (session.final state requests) := by
  induction requests generalizing state with
  | nil => exact holds
  | cons request requests ih =>
    rw [final_cons]
    exact ih (preserves.turn request holds)

/-- What every step preserves, holds before every turn of a run. -/
theorem before {requests : List Request} {turn : Turn σ Options Module Cache}
    (mem : turn ∈ session.turns state requests) (holds : P state) : P turn.before := by
  induction requests generalizing state with
  | nil => cases mem
  | cons request requests ih =>
    rcases List.mem_cons.1 mem with rfl | later
    · exact holds
    · exact ih later (preserves.turn request holds)

end Preserves

end ScopedImports.Session
