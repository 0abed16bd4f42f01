import ScopedImports.InMemory.Host
import ScopedImports.Proofs.Lookup.Walk

/-!
One snapshot explains every lookup.

Files are looked up one after the other, and all lookups share what is known.  The host may answer
the same question differently the next time, it may itself use what is known, and two files may
reach one directory by different spellings.  Even so, what is known when the last lookup has ended
accounts for every answer that was given on the way:

    answer to `file`  =  the first of the file's places that is known to be a file in the end,
                         every nearer one being known not to be a file in the end

An answer is decided by what is known when its own walk ends, and what is known only grows.
-/

namespace ScopedImports.Locator

variable {σ Options : Type}

/-- Locate the files one after the other. -/
def locateAll (locator : Locator) (host : ReentrantHost σ Options) (files : List String) :
    StateT Presence (Act σ Options) (List Scope) :=
  files.mapM (locator.locateBy host)

variable (locator : Locator) (host : ReentrantHost σ Options)
variable (known : Presence) (env : Env σ Options)

/-! ### A run of lookups -/

theorem locateAll_cons (file : String) (files : List String) :
    ((locator.locateAll host (file :: files)).run known).run env
      = let first := ((locator.locateBy host file).run known).run env
        let rest := ((locator.locateAll host files).run first.1.2).run first.2
        ((first.1.1 :: rest.1.1, rest.1.2), rest.2) := by
  rw [locateAll, List.mapM_cons, StateT.run_bind, StateT.run_bind]
  rfl

theorem locateAll_append (files more : List String) :
    ((locator.locateAll host (files ++ more)).run known).run env
      = let first := ((locator.locateAll host files).run known).run env
        let rest := ((locator.locateAll host more).run first.1.2).run first.2
        ((first.1.1 ++ rest.1.1, rest.1.2), rest.2) := by
  induction files generalizing known env with
  | nil => rfl
  | cons file files ih =>
    rw [List.cons_append, locateAll_cons, locateAll_cons]
    dsimp only
    rw [ih]
    rfl

theorem length_locateAll (files : List String) :
    (((locator.locateAll host files).run known).run env).1.1.length = files.length := by
  induction files generalizing known env with
  | nil => rfl
  | cons file files ih =>
    rw [locateAll_cons, List.length_cons, List.length_cons, ih]

theorem locateAll_grows (files : List String) :
    known.Grows (((locator.locateAll host files).run known).run env).1.2 := by
  induction files generalizing known env with
  | nil => exact Memo.Grows.refl known
  | cons file files ih =>
    rw [locateAll_cons]
    exact (locateBy_grows locator host file known env).trans (ih _ _)

/-! ### The snapshot -/

/-- **One snapshot explains every lookup.**  Take any host, also one that uses what is known, and
any point of a run of lookups that starts with nothing known: `earlier` files have been looked up,
`file` comes next, and `later` ones follow.  The answer to `file` is the scope of the place that the
final snapshot decides on, in that place's own bytes; where the snapshot knows of no file at any
place, it is the default scope. -/
theorem snapshot_explains_lookup (earlier : List String) (file : String) (later : List String) :
    let run (files : List String) := ((locator.locateAll host files).run (∅ : Presence)).run env
    let asked := (run earlier).2
    let final := (run (earlier ++ file :: later)).1.2
    ∃ scope found, (run (earlier ++ file :: later)).1.1[earlier.length]? = some scope ∧
      scope = locator.scopeOf found ∧
      Decided final (locator.places (host.workingDirectory asked.world).1 file) found := by
  intro run asked final
  have whole : run (earlier ++ file :: later)
      = let first := ((locator.locateBy host file).run (run earlier).1.2).run asked
        let rest := ((locator.locateAll host later).run first.1.2).run first.2
        (((run earlier).1.1 ++ first.1.1 :: rest.1.1, rest.1.2), rest.2) := by
    show ((locator.locateAll host (earlier ++ file :: later)).run ∅).run env = _
    rw [locateAll_append]
    dsimp only
    rw [locateAll_cons]
  obtain ⟨found, answer, -, decided⟩ := locateBy_decided locator host file (run earlier).1.2 asked
  refine ⟨_, found, ?_, answer, ?_⟩
  · have before : (run earlier).1.1.length = earlier.length :=
      length_locateAll locator host ∅ env earlier
    rw [whole, ← before]
    simp
  -- the walk decided when it ended, and what is known has only grown since
  · show Decided (run (earlier ++ file :: later)).1.2 _ _
    rw [whole]
    exact decided.mono (locateAll_grows locator host _ _ later)

-- a host that shows `/w/n` as `/v/n`, and looks it up through what is known while it is asked
example :
    let locator : Locator := ⟨"n", Scope.ofPath (Path.ofText "/d/n")⟩
    let original (path : Path) := if path = Path.ofText "/v/n" then Path.ofText "/w/n" else path
    let host := (reentrant (InMemory.setHost (Path.ofText "/") .bySpelling false)).mirror original
    let env : Env InMemory.World String := ⟨.ofFiles [Path.ofText "/w/n"], 0, []⟩
    let done := ((locator.locateAll host ["/v/x", "/w/y"]).run ∅).run env
    done.1.1 = [Scope.ofPath (Path.ofText "/v/n"), Scope.ofPath (Path.ofText "/w/n")] ∧
      done.1.2.entries = [(Path.ofText "/w/n", true), (Path.ofText "/v/n", true)] := by
  decide +kernel

end ScopedImports.Locator
