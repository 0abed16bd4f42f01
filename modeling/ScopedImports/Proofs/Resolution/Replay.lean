import ScopedImports.Proofs.Resolution.BareBatch

/-!
Collaborators that always answer alike, and the run of a finder by itself.

A collaborator acts on a world and may change its mind.  `Answers Stable action a` says that it does
not: as long as the world is `Stable` the answer is `a`, and the world stays stable.  What is stable
is left open; for a host that knows a set of files it is that the set stays the same, whatever else
is written into the world.

    replay host options batches  =  a new cache, and one batch after the other on it

Under collaborators that always answer alike, a replay has one result, and one more batch acts on
the cache that the replay has left (`Answers.replay_concat`).
-/

namespace ScopedImports

variable {σ Options Module Cache α β : Type}

/-- In every stable world the action leaves a stable world. -/
def Keeps (Stable : σ → Prop) (action : StateM σ α) : Prop :=
  ∀ world, Stable world → Stable (action.run world).2

/-- In every stable world the action answers `a`, and leaves a stable world. -/
def Answers (Stable : σ → Prop) (action : StateM σ α) (a : α) : Prop :=
  ∀ world, Stable world → (action.run world).1 = a ∧ Stable (action.run world).2

namespace Answers

variable {Stable : σ → Prop} {action : StateM σ α} {a : α} {b : β}

theorem keeps (h : Answers Stable action a) : Keeps Stable action :=
  fun world stable => (h world stable).2

theorem pure (a : α) : Answers Stable (Pure.pure a) a := fun _ stable => ⟨rfl, stable⟩

theorem bind {next : α → StateM σ β} (first : Answers Stable action a)
    (second : Answers Stable (next a) b) : Answers Stable (action >>= next) b := by
  intro world stable
  obtain ⟨answer, later⟩ := first world stable
  have step : (action >>= next).run world
      = (next (action.run world).1).run (action.run world).2 := rfl
  rw [step, answer]
  exact second _ later

theorem map (f : α → β) (h : Answers Stable action a) : Answers Stable (f <$> action) (f a) := by
  intro world stable
  obtain ⟨answer, later⟩ := h world stable
  exact ⟨congrArg f answer, later⟩

end Answers

/-! ### Batches -/

variable (finder : Finder σ Options Module Cache) (host : Host σ) (options : Options)

/-- A run of the finder alone: a new cache, and one batch after the other on it. -/
def Finder.replay (batches : List (List String × String)) :
    StateM σ (List (List (Option Module)) × Cache) := do
  let directory ← host.workingDirectory
  let cache ← finder.newCache directory host
  (batches.mapM fun batch => finder.answer host options batch.1 batch.2).run cache

/-- The finder keeps what it knows in its cache: on the same cache it always answers alike. -/
def Finder.Forgetful (Stable : σ → Prop) : Prop :=
  ∀ name file options cache,
    ∃ found, Answers Stable (finder.find name file options host cache) found

variable {finder host options} {Stable : σ → Prop}

theorem Finder.Forgetful.mapM (forgetful : finder.Forgetful host Stable) (names : List String)
    (file : String) (cache : Cache) :
    ∃ found, Answers Stable ((names.mapM (finder.call host options file)).run cache) found := by
  induction names generalizing cache with
  | nil => exact ⟨_, .pure ([], cache)⟩
  | cons name names ih =>
    obtain ⟨first, answers⟩ := forgetful name file options cache
    obtain ⟨rest, others⟩ := ih first.2
    refine ⟨(first.1 :: rest.1, rest.2), ?_⟩
    rw [List.mapM_cons, StateT.run_bind]
    refine Answers.bind answers ?_
    rw [StateT.run_bind]
    exact Answers.bind others (.pure _)

/-- On the same cache a batch always comes to the same. -/
theorem Finder.Forgetful.answer (forgetful : finder.Forgetful host Stable) (options : Options)
    (names : List String) (file : String) (cache : Cache) :
    ∃ found, Answers Stable ((finder.answer host options names file).run cache) found := by
  obtain ⟨found, answers⟩ := forgetful.mapM names.eraseDups file cache
  refine ⟨(Batch.spread names found.1, found.2), ?_⟩
  rw [Finder.answer, StateT.run_map]
  exact answers.map fun found => (Batch.spread names found.1, found.2)

theorem Finder.replay_nil : finder.replay host options []
    = host.workingDirectory >>= fun directory =>
        (fun cache => ([], cache)) <$> finder.newCache directory host := rfl

/-- One more batch acts on the cache that the replay has left. -/
theorem Finder.replay_concat (batches : List (List String × String))
    (batch : List String × String) :
    finder.replay host options (batches ++ [batch])
      = finder.replay host options batches >>= fun done =>
          (fun last => (done.1 ++ [last.1], last.2))
            <$> (finder.answer host options batch.1 batch.2).run done.2 := by
  simp only [Finder.replay, List.mapM_append, List.mapM_cons, List.mapM_nil, StateT.run_bind,
    bind_assoc, StateT.run_pure, pure_bind, map_eq_pure_bind]

theorem Answers.replay_concat {batches : List (List String × String)}
    {contents : List (List (Option Module))} {cache : Cache} {names : List String} {file : String}
    {last : List (Option Module) × Cache}
    (h : Answers Stable (finder.replay host options batches) (contents, cache))
    (answers : Answers Stable ((finder.answer host options names file).run cache) last) :
    Answers Stable (finder.replay host options (batches ++ [(names, file)]))
      (contents ++ [last.1], last.2) := by
  rw [Finder.replay_concat]
  exact h.bind (answers.map _)

end ScopedImports
