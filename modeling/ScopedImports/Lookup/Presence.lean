import ScopedImports.Memo
import ScopedImports.Path.Basic

/-!
What is known about which paths are regular files.

Knowledge is permanent: a path is probed at most once, whatever spelling it is asked under, and the
first answer recorded for it stands.  A probe may itself consult what is known, or even record an
answer for the very path that is being probed; a `Step` describes such a use to any depth.
-/

namespace ScopedImports

/-- Answers by path, where two spellings of one path share their answer. -/
abbrev Presence := Memo Path.components Bool

namespace Presence

/-- Whether there is a file at `path`.  `probe` runs only if nothing is recorded, and is given the
path as the caller spelt it. -/
def check {m : Type → Type} [Monad m] [MonadStateOf Presence m] (path : Path)
    (probe : Path → m Bool) : m Bool :=
  Memo.consult Path.components path probe

/-! ### Re-entrant use -/

/-- One use of what is known. -/
inductive Step
  /-- Check a path with a probe that performs further steps and then gives an answer. -/
  | check (path : Path) (answer : Bool) (nested : List Step)
  | recall (path : Path)
  | count

/-- What came of a step, and what was known after it. -/
inductive Outcome
  /-- The answer returned; if the probe ran, the path it was given and its own steps' outcomes. -/
  | checked (found : Bool) (probe : Option (Path × List Outcome)) (after : Presence)
  | recalled (found : Option Bool) (after : Presence)
  | counted (after : Presence)

/-- What was known after the step. -/
def Outcome.after : Outcome → Presence
  | checked _ _ known | recalled _ known | counted known => known

mutual

/-- Perform a step. -/
def Step.perform : Step → StateM Presence Outcome
  | .check path answer nested => fun known =>
    let probe : Path → StateT Presence (StateM (Option (Path × List Outcome))) Bool :=
      fun asked known _ =>
        let (outcomes, known) := performAll nested known
        ((answer, known), some (asked, outcomes))
    let ((found, known), probed) := (check path probe).run known |>.run none
    (.checked found probed known, known)
  | .recall path => fun known => (.recalled (known.find? path) known, known)
  | .count => fun known => (.counted known, known)

/-- Perform steps one after the other. -/
def performAll : List Step → StateM Presence (List Outcome)
  | [] => pure []
  | step :: rest => do
    let outcome ← step.perform
    let outcomes ← performAll rest
    pure (outcome :: outcomes)

end

end Presence

end ScopedImports
