import ScopedImports.Proofs.Resolution.Demand
import ScopedImports.Proofs.Resolution.Singly
import ScopedImports.Proofs.Session.Events
import ScopedImports.Proofs.Session.Resolvers

/-!
A strict request is a plain one with another answer.

`resolveStrict` resolves the batch first and makes its demand afterwards, so it asks the same of the
collaborators, leaves the same lines and ends in the same state, also where the demand fails.  Only
the answers differ:

    plain                 strict
    failure               the same failure
    x   y   z             the very same modules  x  y  z
    x   -   z   -         the name of the first missing outcome is unresolved

What the batch has taught the finder is kept in the third case as it is in the second.
-/

namespace ScopedImports.Session

variable {σ Options Module Cache : Type}
variable (session : Session σ Options Module Cache) (state : State σ Options Cache)
variable (names : List String) (file : String)

/-- The strict answer to a batch goes with the plain one. -/
inductive Hardened (names : List String) (file : String) :
    Response Options Module Cache → Response Options Module Cache → Prop
  /-- There is no resolver for the batch, and both fail alike. -/
  | refused (failure : Failure) :
      Hardened names file (.outcomes (.error failure)) (.modules (.error failure))
  /-- Every position has a module, and these are the modules, in the same order. -/
  | complete (modules : List (Shared Module)) : modules.length = names.length →
      Hardened names file (.outcomes (.ok (modules.map .resolved))) (.modules (.ok modules))
  /-- Some position has no module, and the name at the first of them is reported. -/
  | missing (outcomes : List (Resolution Module)) (i : Nat) (name : String) :
      outcomes.length = names.length → Resolution.FirstMissing names outcomes i name →
      Hardened names file (.outcomes (.ok outcomes))
        (.modules (.error (.unresolved name file)))

/-- A plain turn and a strict one that begin in the same state. -/
structure StrictTurn (plain strict : Turn σ Options Module Cache) : Prop where
  /-- All that is remembered is the same, and so are the world of the collaborators, the numbers
  given out and the journal. -/
  after : strict.after = plain.after
  /-- The same is asked of the collaborators and noted, in the same order. -/
  events : strict.events = plain.events
  answers : Hardened names file plain.response strict.response
  /-- If the resolver is had, its cache is the one in which the finder's calls for the whole batch
  end, and what they have found is what the plain turn reports, position by position. -/
  kept : ∀ resolver given,
    session.obtain (state.run (session.locate file)).2 (state.run (session.locate file)).1
      = (.ok resolver, given) →
    strict.after.resolver? (state.run (session.locate file)).1
      = some { resolver with cache := (session.bareBatch given resolver names file).1.2 } ∧
    ∃ outcomes, plain.response = .outcomes (.ok outcomes) ∧
      outcomes.map Resolution.module? = (session.bareBatch given resolver names file).1.1

/-! ### The two turns -/

theorem turn_resolve :
    session.turn state (.resolve names file)
      = ⟨state, .resolve names file, .outcomes (state.run (session.resolve names file).run).1,
          (state.run (session.resolve names file).run).2⟩ := by
  rw [turn, serve, State.run_map]

/-- The demand is made of the outcomes when everything else is done. -/
theorem turn_resolveStrict :
    session.turn state (.resolveStrict names file)
      = ⟨state, .resolveStrict names file,
          .modules ((state.run (session.resolve names file).run).1 >>=
            Resolution.demand file names),
          (state.run (session.resolve names file).run).2⟩ := by
  rw [turn, serve, State.run_map, resolveStrict_run]
  rcases state.run (session.resolve names file).run with ⟨failure | outcomes, later⟩
  · rfl
  · rfl

/-- A batch has one outcome for each name. -/
theorem length_batch (resolver : Resolver Options Cache) :
    (session.batch state resolver names file).1.length = names.length :=
  (Resolver.oneByOne session.finder session.host resolver names file state.env).length

/-- Where there is an outcome for each name, the strict answer follows from the demand. -/
theorem hardened_of_length {outcomes : List (Resolution Module)}
    (each : outcomes.length = names.length) :
    Hardened names file (.outcomes (.ok outcomes) : Response Options Module Cache)
      (.modules (Resolution.demand file names outcomes)) := by
  have demanded := Resolution.demand_demanded file names outcomes
  rcases answer : Resolution.demand file names outcomes with failure | modules
  · obtain ⟨i, name, first, rfl⟩ := (demanded.error_iff failure).1 answer
    exact .missing outcomes i name each first
  · have all : outcomes.take names.length = modules.map .resolved :=
      (demanded.ok_iff modules).1 answer
    rw [← each, List.take_length] at all
    subst all
    rw [List.length_map] at each
    exact .complete modules each

theorem hardened :
    Hardened names file (session.turn state (.resolve names file)).response
      (session.turn state (.resolveStrict names file)).response := by
  rw [turn_resolve, turn_resolveStrict, resolve_run, resolveIn_run]
  rcases session.obtain (state.run (session.locate file)).2
    (state.run (session.locate file)).1 with ⟨failure | resolver, given⟩
  · exact .refused failure
  · exact hardened_of_length names file (session.length_batch given names file resolver)

variable {session state}

/-- The batch is kept, whatever is demanded of its outcomes. -/
theorem batch_kept (sound : state.Sound) {resolver : Resolver Options Cache}
    {given : State σ Options Cache}
    (obtained : session.obtain (state.run (session.locate file)).2
      (state.run (session.locate file)).1 = (.ok resolver, given)) :
    (state.run (session.resolve names file).run).2.resolver? (state.run (session.locate file)).1
        = some { resolver with cache := (session.bareBatch given resolver names file).1.2 } ∧
      ∃ outcomes, (state.run (session.resolve names file).run).1 = .ok outcomes ∧
        outcomes.map Resolution.module? = (session.bareBatch given resolver names file).1.1 := by
  have there := session.resolver?_of_obtain (state.run (session.locate file)).2
    (congrArg Prod.fst obtained)
  have still : given.Sound := by
    have preserved : Preserves session State.Sound := sound_preserved
    have obtaining := preserved.obtain (state.run (session.locate file)).1
      (preserved.locate file sound)
    rw [obtained] at obtaining
    exact obtaining
  rw [obtained] at there
  rw [resolve_run, resolveIn_run, obtained]
  constructor
  · show (session.batch given resolver names file).2.resolver? _ = _
    rw [resolver?_batch there (still.scope_eq there), if_pos rfl]
  · exact ⟨_, rfl, (session.batched given resolver names file).contents⟩

/-- **A strict request differs from a plain one only in its answer**, at every point of every run.
The demand behind it is decided, for lists of any two lengths, by the positions that both have. -/
theorem strict_differs_in_answer (session : Session σ Options Module Cache) (env : Env σ Options)
    (earlier : List Request) (names : List String) (file : String) :
    let state : State σ Options Cache := session.final ⟨.empty, env⟩ earlier
    session.StrictTurn state names file (session.turn state (.resolve names file))
        (session.turn state (.resolveStrict names file)) ∧
      ∀ (file : String) (names : List String) (outcomes : List (Resolution Module)),
        Resolution.Demanded file names outcomes (Resolution.demand file names outcomes) := by
  intro state
  have sound : state.Sound := sound_preserved.final earlier (State.sound_of_empty env)
  have after : (session.turn state (.resolveStrict names file)).after
      = (session.turn state (.resolve names file)).after := by
    rw [turn_resolve, turn_resolveStrict]
  refine ⟨⟨after, ?_, session.hardened state names file, ?_⟩, Resolution.demand_demanded⟩
  · rw [Turn.events, after]
    rfl
  · intro resolver given obtained
    obtain ⟨cache, outcomes, reported, contents⟩ := batch_kept names file sound obtained
    rw [after, turn_resolve]
    exact ⟨cache, outcomes, congrArg Response.outcomes reported, contents⟩

end ScopedImports.Session
