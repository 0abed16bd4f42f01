import Mathlib.Data.List.Dedup
import ScopedImports.Lookup.Presence
import ScopedImports.Proofs.Memo.Chronicle

/-!
Probes that use what is known.

A check looks first and records last, and in between its probe may use what is known in any way, to
any depth, the path that is being probed included:

    check p     look p · (uses of the probe) · settle p

A probe may choose its next use by what it has learnt; in the end it has performed some list of
steps, and the trees of steps are those lists for all probes.  Every use goes on record with what
was known before and after it (`uses`), and the uses are a run of nested calls
(`performAll_runs`).  A use that ends can only add the answer of a check (`remembers`), hence the
first answer for a path is the only one that anyone is ever told (`first_answer_stands`).

Paths are compared by their components throughout: what is said of `/a/b` is said of `/a//b/.`.
-/

namespace ScopedImports.Presence

open Call (chronicle)

/-! ### The calls of a run -/

/-- One use of what is known: what was known when it began, the step, and what came of it. -/
structure Use where
  before : Presence
  step : Step
  outcome : Outcome

namespace Use

/-- What was known when the use ended. -/
def after (use : Use) : Presence := use.outcome.after

/-- The path that was checked, and the answer. -/
def checked? (use : Use) : Option (Path × Bool) :=
  match use.step, use.outcome with
  | .check path _ _, .checked found _ _ => some (path, found)
  | _, _ => none

/-- What the use has told about a path. -/
def told? (use : Use) : Option (Path × Bool) :=
  match use.step, use.outcome with
  | .check path _ _, .checked found _ _ => some (path, found)
  | .recall path, .recalled (some found) _ => some (path, found)
  | _, _ => none

end Use

mutual

/-- The uses that the probe of a step has made, by the step's outcome. -/
def Step.inner : Step → Presence → Outcome → List (Call Use)
  | .check _ _ nested, known, .checked _ (some (_, outcomes)) _ => uses nested known outcomes
  | _, _, _ => []

/-- The uses that steps and their probes have made, by the outcomes of the steps. -/
def uses : List Step → Presence → List Outcome → List (Call Use)
  | step :: steps, known, outcome :: outcomes =>
    .mk ⟨known, step, outcome⟩ (step.inner known outcome) :: uses steps outcome.after outcomes
  | _, _, _ => []

end

/-! ### Performing steps -/

variable {known : Presence} {path : Path}

/-- The probe of a step, which leaves on record that it ran. -/
def Step.probe (answer : Bool) (nested : List Step) (asked : Path) :
    StateT Presence (StateM (Option (Path × List Outcome))) Bool := fun known _ =>
  let inner := (performAll nested).run known
  ((answer, inner.2), some (asked, inner.1))

theorem perform_check (path : Path) (answer : Bool) (nested : List Step) (known : Presence) :
    (Step.check path answer nested).perform.run known
      = let done := ((check path (Step.probe answer nested)).run known).run none
        (.checked done.1.1 done.2 done.1.2, done.1.2) := by
  rw [Step.perform]
  rfl

theorem perform_check_of_some {found : Bool} (h : known.find? path = some found) (answer : Bool)
    (nested : List Step) :
    (Step.check path answer nested).perform.run known = (.checked found none known, known) := by
  rw [perform_check, check, Memo.consult_of_some h]
  rfl

theorem perform_check_of_none (h : known.find? path = none) (answer : Bool) (nested : List Step) :
    (Step.check path answer nested).perform.run known
      = let inner := (performAll nested).run known
        let settled := inner.2.settle path answer
        (.checked settled.1 (some (path, inner.1)) settled.2, settled.2) := by
  rw [perform_check, check, Memo.consult_of_none h]
  rfl

theorem performAll_cons (step : Step) (steps : List Step) (known : Presence) :
    (performAll (step :: steps)).run known
      = let first := step.perform.run known
        let rest := (performAll steps).run first.2
        (first.1 :: rest.1, rest.2) := by
  rw [performAll, StateT.run_bind]
  rfl

/-- How a use may end, by what is known when it does. -/
inductive Closes : Presence → Call Use → Prop
  | known {known : Presence} {path : Path} {answer found : Bool} {nested : List Step} :
      known.find? path = some found →
      Closes known (.mk ⟨known, .check path answer nested, .checked found none known⟩ [])
  | probed {before : Presence} (known : Presence) {path : Path} {answer : Bool}
      {nested : List Step} {outcomes : List Outcome} : before.find? path = none →
      outcomes = ((performAll nested).run before).1 →
      Closes known (.mk ⟨before, .check path answer nested,
        .checked (known.settle path answer).1 (some (path, outcomes)) (known.settle path answer).2⟩
        (uses nested before outcomes))
  | recalled (known : Presence) (path : Path) :
      Closes known (.mk ⟨known, .recall path, .recalled (known.find? path) known⟩ [])
  | counted (known : Presence) : Closes known (.mk ⟨known, .count, .counted known⟩ [])

/-- Uses as nested calls. -/
def calling : Calling Use Presence := ⟨Use.before, Use.after, Closes⟩

mutual

/-- A step ends as it may after the uses that its probe has made. -/
theorem Step.perform_closes (step : Step) (known : Presence) :
    let done := step.perform.run known
    done.1.after = done.2 ∧ ∃ left, calling.Runs known (step.inner known done.1) left ∧
      Closes left (.mk ⟨known, step, done.1⟩ (step.inner known done.1)) := by
  match step with
  | .check path answer nested =>
    rcases h : known.find? path with - | found
    · rw [perform_check_of_none h]
      exact ⟨rfl, _, performAll_runs nested known, .probed _ h rfl⟩
    · rw [perform_check_of_some h]
      exact ⟨rfl, known, .nil known, .known h⟩
  | .recall path => exact ⟨rfl, known, .nil known, .recalled known path⟩
  | .count => exact ⟨rfl, known, .nil known, .counted known⟩

/-- **Steps are a run of nested calls.** -/
theorem performAll_runs (steps : List Step) (known : Presence) :
    let done := (performAll steps).run known
    calling.Runs known (uses steps known done.1) done.2 := by
  cases steps with
  | nil => exact .nil known
  | cons step steps =>
    obtain ⟨after, left, inner, closes⟩ := step.perform_closes known
    have rest := performAll_runs steps (step.perform.run known).2
    rw [performAll_cons]
    dsimp only
    rw [← after] at rest ⊢
    exact .cons (Use.mk known step (step.perform.run known).1) inner closes rest

end

/-- The calls of a run are its steps, each with its outcome. -/
theorem uses_eq (steps : List Step) (known : Presence) :
    let outcomes := ((performAll steps).run known).1
    ((uses steps known outcomes).map fun call => call.about.step) = steps ∧
      ((uses steps known outcomes).map fun call => call.about.outcome) = outcomes := by
  induction steps generalizing known with
  | nil => exact ⟨rfl, rfl⟩
  | cons step steps ih =>
    obtain ⟨after, -⟩ := step.perform_closes known
    obtain ⟨same, results⟩ := ih (step.perform.run known).2
    rw [performAll_cons]
    dsimp only
    rw [← after] at same results ⊢
    constructor
    · rw [uses, List.map_cons, same]
      rfl
    · rw [uses, List.map_cons, results]
      rfl

/-! ### What is known -/

/-- The check has ended with this answer, for this path in some spelling. -/
def Use.Answers (use : Use) (path : Path) (found : Bool) : Prop :=
  ∃ asked, use.checked? = some (asked, found) ∧ asked.Same path

/-- Nothing changes but that checks add answers. -/
theorem remembers : Calling.Remembers calling (fun known path => known.find? path) Use.Answers where
  grows := by
    intro known call path found closes there
    cases closes with
    | known stored => exact there
    | probed known new ran => exact Memo.find?_settle_of_some there _ _
    | recalled | counted => exact there
  records := by
    rintro known call path found closes ⟨asked, checked, same⟩
    cases closes with
    | known stored =>
      cases checked
      exact (Memo.find?_congr same).symm.trans stored
    | probed known new ran =>
      cases checked
      exact (Memo.find?_congr same).symm.trans (Memo.find?_settle_self _ _ _)
    | recalled | counted => cases checked
  only := by
    intro known call path found closes there
    cases closes with
    | known stored => exact .inl there
    | @probed before known asked answer nested outcomes new ran =>
      change (known.settle asked answer).2.find? path = some found at there
      -- the probe's own steps may have answered for the path
      rcases stored : known.find? asked with - | kept
      · rw [Memo.settle_of_none stored] at there
        rcases Memo.of_find?_push stored there with ⟨same, rfl⟩ | earlier
        · refine .inr ⟨asked, ?_, same⟩
          show some (asked, (known.settle asked answer).1) = some (asked, answer)
          rw [Memo.settle_of_none stored]
        · exact .inl earlier
      · rw [Memo.settle_of_some stored] at there
        exact .inl there
    | recalled | counted => exact .inl there

theorem Closes.outcome_of_recall {call : Call Use} (closes : Closes known call)
    (step : call.about.step = .recall path) :
    call.about.outcome = .recalled (call.about.before.find? path) call.about.before := by
  cases closes with
  | known | probed | counted => cases step
  | recalled known asked =>
    cases step
    rfl

theorem Closes.outcome_of_count {call : Call Use} (closes : Closes known call)
    (step : call.about.step = .count) : call.about.outcome = .counted call.about.before := by
  cases closes with
  | known | probed | recalled => cases step
  | counted => rfl

/-- What is told is what is known when the use has ended. -/
theorem Closes.find?_of_told {call : Call Use} {found : Bool} (closes : Closes known call)
    (told : call.about.told? = some (path, found)) :
    call.about.after.find? path = some found := by
  cases closes with
  | known stored =>
    cases told
    exact stored
  | probed known new ran =>
    cases told
    exact Memo.find?_settle_self _ _ _
  | counted => cases told
  | recalled known asked =>
    rcases stored : known.find? asked with - | kept
    · rw [Call.about, Use.told?, stored] at told
      cases told
    · rw [Call.about, Use.told?, stored] at told
      cases told
      exact stored

/-! ### How much is known -/

/-- The paths of the checks that have ended. -/
def checkedPaths (moments : List (Moment Use)) : List Path :=
  moments.filterMap fun
    | .begins _ => none
    | .ends call => call.about.checked?.map Prod.fst

theorem mem_checkedPaths {moments : List (Moment Use)} :
    path ∈ checkedPaths moments ↔
      ∃ call found, .ends call ∈ moments ∧ call.about.checked? = some (path, found) := by
  simp only [checkedPaths, List.mem_filterMap]
  constructor
  · rintro ⟨moment | call, mem, checked⟩
    · cases checked
    · obtain ⟨⟨asked, found⟩, answer, rfl⟩ := Option.map_eq_some_iff.1 checked
      exact ⟨call, found, mem, answer⟩
  · rintro ⟨call, found, mem, answer⟩
    refine ⟨.ends call, mem, ?_⟩
    dsimp only
    rw [answer, Option.map_some]

/-- Paths are counted once, under however many spellings they were checked. -/
theorem size_eq {paths : List Path}
    (h : ∀ path, (∃ found, known.find? path = some found) ↔ ∃ p ∈ paths, p.Same path) :
    known.size = (paths.map Path.components).dedup.length := by
  have distinct : (known.keys.map Path.components).Nodup := by
    rw [Memo.keys, List.map_map]
    exact List.pairwise_map.2 known.distinct
  have same (components : List Path.Component) :
      components ∈ known.keys.map Path.components ↔
        components ∈ (paths.map Path.components).dedup := by
    rw [List.mem_dedup, List.mem_map, List.mem_map]
    constructor
    · rintro ⟨path, mem, rfl⟩
      exact (h path).1 (Memo.exists_find?_iff.2 ⟨path, mem, rfl⟩)
    · rintro ⟨path, mem, rfl⟩
      exact Memo.exists_find?_iff.1 ((h path).2 ⟨path, mem, rfl⟩)
  -- two lists without repetitions that have the same members are equally long
  have perm := (List.perm_ext_iff_of_nodup distinct (List.nodup_dedup _)).2 same
  rw [← perm.length_eq, List.length_map, Memo.keys, List.length_map, Memo.size]

/-- At the end of a run as many paths are known as in the beginning and by the checks that ended. -/
theorem size_of_leads {moments : List (Moment Use)} {last : Presence}
    (leads : calling.Leads known moments last) :
    last.size = ((known.keys ++ checkedPaths moments).map Path.components).dedup.length := by
  apply size_eq
  intro path
  have answered : (∃ found call, .ends call ∈ moments ∧ Use.Answers call.about path found) ↔
      ∃ asked ∈ checkedPaths moments, asked.Same path := by
    constructor
    · rintro ⟨found, call, mem, asked, checked, same⟩
      exact ⟨asked, mem_checkedPaths.2 ⟨call, found, mem, checked⟩, same⟩
    · rintro ⟨asked, mem, same⟩
      obtain ⟨call, found, ended, checked⟩ := mem_checkedPaths.1 mem
      exact ⟨found, call, ended, asked, checked, same⟩
  simp only [remembers.known_iff leads path, exists_or, Memo.exists_find?_iff, answered,
    List.mem_append, or_and_right]
  rfl

/-! ### Any run -/

/-- What was known when the probe of a check had run, whatever it did. -/
def leftBy (call : Call Use) : Presence := calling.left call.about.before call.nested

/-- How a check goes that has ended with `found`. -/
structure ProbesOnDemand (call : Call Use) (path : Path) (answer : Bool) (nested : List Step)
    (found : Bool) (probe : Option (Path × List Outcome)) : Prop where
  /-- The probe runs exactly when nothing is known about the path as the check begins. -/
  runs : probe.isSome ↔ call.about.before.find? path = none
  /-- The probe is given the very path, and the uses that it makes are its own steps. -/
  given : ∀ asked outcomes, probe = some (asked, outcomes) → asked = path ∧
    (call.nested.map fun inner => inner.about.step) = nested ∧
    (call.nested.map fun inner => inner.about.outcome) = outcomes
  /-- Without a probe, the answer is what is known, and nothing changes. -/
  known : probe = none →
    call.about.before.find? path = some found ∧ call.about.after = call.about.before
  /-- The probe's answer is discarded if its steps have left one for the path. -/
  discards : probe.isSome → ∀ kept, (leftBy call).find? path = some kept →
    found = kept ∧ call.about.after = leftBy call
  /-- Otherwise it is recorded. -/
  accepts : probe.isSome → (leftBy call).find? path = none →
    found = answer ∧ call.about.after.find? path = some answer
  /-- While the probe runs, what is known about the path was answered by one of its steps. -/
  unseen : probe.isSome → ∀ past moment future, chronicle call.nested = past ++ moment :: future →
    ∀ b, (calling.stateAt moment).find? path = some b →
      ∃ inner, .ends inner ∈ past ++ [moment] ∧ inner.about.Answers path b
  /-- While the probe runs, only what its steps have checked is counted in addition. -/
  uncounted : probe.isSome →
    ∀ past moment future, chronicle call.nested = past ++ moment :: future →
      (calling.stateAt moment).size
        = ((call.about.before.keys ++ checkedPaths (past ++ [moment])).map
            Path.components).dedup.length

/-- What holds of a run of uses, at whatever depth they are made. -/
structure FirstAnswerStands (run : List (Call Use)) : Prop where
  /-- What is told about one path is always the same, whichever spelling it is told under. -/
  same : ∀ call call' path path' found found', .ends call ∈ chronicle run →
    .ends call' ∈ chronicle run → call.about.told? = some (path, found) →
    call'.about.told? = some (path', found') → path.Same path' → found = found'
  /-- What is told is what is known from then on. -/
  told : ∀ call path found, .ends call ∈ chronicle run → call.about.told? = some (path, found) →
    call.about.after.find? path = some found
  /-- What is known at one moment is known at all later ones. -/
  permanent : ∀ past moment future, chronicle run = past ++ moment :: future →
    ∀ later ∈ future, (calling.stateAt moment).Grows (calling.stateAt later)
  checks : ∀ call path answer nested found probe after, .ends call ∈ chronicle run →
    call.about.step = .check path answer nested →
    call.about.outcome = .checked found probe after →
    ProbesOnDemand call path answer nested found probe
  recalls : ∀ call path, .ends call ∈ chronicle run → call.about.step = .recall path →
    call.about.outcome = .recalled (call.about.before.find? path) call.about.before
  counts : ∀ call, .ends call ∈ chronicle run → call.about.step = .count →
    call.about.outcome = .counted call.about.before
  /-- At every moment as many paths are known as have been checked by then, in any spelling. -/
  counted : ∀ past moment future, chronicle run = past ++ moment :: future →
    (calling.stateAt moment).size
      = ((checkedPaths (past ++ [moment])).map Path.components).dedup.length

/-- A check that ends as it may has run its probe on demand. -/
theorem probesOnDemand {call : Call Use} {answer : Bool} {nested : List Step} {found : Bool}
    {probe : Option (Path × List Outcome)} {after : Presence}
    (inner : calling.Runs call.about.before call.nested (leftBy call))
    (closes : Closes (leftBy call) call) (step : call.about.step = .check path answer nested)
    (outcome : call.about.outcome = .checked found probe after) :
    ProbesOnDemand call path answer nested found probe := by
  obtain ⟨use, within⟩ := call
  generalize leftIs : leftBy (.mk use within) = left at inner closes
  cases closes with
  | known stored =>
    cases step
    cases outcome
    exact ⟨by simp [Call.about, stored], by simp, fun _ => ⟨stored, rfl⟩, by simp, by simp, by simp,
      by simp⟩
  | @probed before _ _ _ _ outcomes new ran =>
    cases step
    cases outcome
    constructor
    · exact ⟨fun _ => new, fun _ => rfl⟩
    · rintro asked _ ⟨rfl, rfl⟩
      rw [ran]
      exact ⟨rfl, uses_eq nested before⟩
    · simp
    · intro _ kept stored
      rw [leftIs] at stored ⊢
      rw [Call.about, Use.after, Memo.settle_of_some stored]
      exact ⟨rfl, rfl⟩
    · intro _ absent
      rw [leftIs] at absent
      have stands := Memo.find?_settle_self left path answer
      rw [Call.about, Use.after, Outcome.after]
      rw [Memo.settle_of_none absent] at stands ⊢
      exact ⟨rfl, stands⟩
    · intro _ past moment future split b there
      -- nothing was known about the path when the probe began
      rcases (remembers.known_iff (inner.divide split).1 path b).1 there with earlier | inside
      · cases new.symm.trans earlier
      · exact inside
    · intro _ past moment future split
      exact size_of_leads (inner.divide split).1
  | recalled | counted => cases step

/-- **The first answer stands**, however deep the uses are nested in one another.  This holds of any
steps that start with nothing known. -/
theorem first_answer_stands (steps : List Step) :
    let done := (performAll steps).run ∅
    let run := uses steps ∅ done.1
    (run.map fun call => call.about.step) = steps ∧
      (run.map fun call => call.about.outcome) = done.1 ∧ FirstAnswerStands run := by
  intro done run
  have runs : calling.Runs ∅ run done.2 := performAll_runs steps ∅
  obtain ⟨taken, results⟩ := uses_eq steps ∅
  refine ⟨taken, results, ?_⟩
  constructor
  case told =>
    intro call path found ended told
    exact (runs.closes ended).2.find?_of_told told
  case same =>
    intro call call' path path' found found' ended ended' told told' same
    -- either answer is known in the end, and there is only one then
    have first := remembers.of_moment runs.leads ended ((runs.closes ended).2.find?_of_told told)
    have second :=
      remembers.of_moment runs.leads ended' ((runs.closes ended').2.find?_of_told told')
    change done.2.find? path = some found at first
    rw [Memo.find?_congr same] at first
    exact Option.some.inj (first.symm.trans second)
  case permanent =>
    intro past moment future split later mem path found there
    exact remembers.throughout (runs.divide split).2 mem there
  case checks =>
    intro call path answer nested found probe after ended step outcome
    obtain ⟨inner, closes⟩ := runs.closes ended
    exact probesOnDemand inner closes step outcome
  case recalls =>
    intro call path ended step
    exact (runs.closes ended).2.outcome_of_recall step
  case counts =>
    intro call ended step
    exact (runs.closes ended).2.outcome_of_count step
  case counted =>
    intro past moment future split
    exact size_of_leads (runs.divide split).1

end ScopedImports.Presence
