import Mathlib.Data.List.Basic

/-!
Runs in which calls are nested in one another.

A memo is consulted with a computation that may use the memo itself, to any depth.  The calls of
such a run form a forest, but time goes straight through it: a call begins, what is nested in it
happens, and it ends.  The chronicle of a forest is the list of these moments,

    begins outer · begins inner · ends inner · ends outer · begins next · ends next.

Nothing changes when a call begins.  What may change when it ends is up to the kind of call, and
depends on the state that the nested calls have left (`Calling.Closes`).  Hence a property that
survives every ending holds at every moment (`Leads.keeps`), and where endings only ever add answers
for keys that have none, what is known at a moment is what the calls that ended before it have
answered (`Remembers.known_iff`).
-/

namespace ScopedImports

/-- A call, and the calls that were made before it ended. -/
inductive Call (α : Type)
  | mk (about : α) (nested : List (Call α))

/-- A moment of a run. -/
inductive Moment (α : Type)
  | begins (call : Call α)
  | ends (call : Call α)

namespace Call

variable {α : Type}

/-- What the call is about. -/
def about : Call α → α
  | mk about _ => about

/-- The calls that were made before this one ended. -/
def nested : Call α → List (Call α)
  | mk _ nested => nested

mutual

/-- The moments from the beginning of a call to its end. -/
def moments : Call α → List (Moment α)
  | mk about nested => .begins (mk about nested) :: (chronicle nested ++ [.ends (mk about nested)])

/-- The moments of calls that are made one after the other. -/
def chronicle : List (Call α) → List (Moment α)
  | [] => []
  | call :: calls => call.moments ++ chronicle calls

end

/-- A call that has ended was nested in the first one, or is the first one, or came after it. -/
theorem ended_cons_iff {call : Call α} {about : α} {nested calls : List (Call α)} :
    .ends call ∈ chronicle (.mk about nested :: calls) ↔
      .ends call ∈ chronicle nested ∨ call = .mk about nested ∨ .ends call ∈ chronicle calls := by
  simp only [chronicle, moments, List.cons_append, List.append_assoc, List.nil_append,
    List.mem_cons, List.mem_append, reduceCtorEq, false_or, Moment.ends.injEq]

end Call

open Call (chronicle)

/-- What calls of one kind begin with, what they leave, and how they may end. -/
structure Calling (α State : Type) where
  before : α → State
  after : α → State
  /-- The call may end in the state that is left by the calls nested in it. -/
  Closes : State → Call α → Prop

namespace Calling

variable {α State : Type} (calling : Calling α State)

/-- The state at a moment. -/
def stateAt : Moment α → State
  | .begins call => calling.before call.about
  | .ends call => calling.after call.about

/-- The state that calls leave which begin in the given one. -/
def left (state : State) (calls : List (Call α)) : State :=
  calls.foldl (fun _ call => calling.after call.about) state

/-- Calls that are made one after the other, each beginning where the one before it ended. -/
inductive Runs : State → List (Call α) → State → Prop
  | nil (state : State) : Runs state [] state
  | cons (about : α) {nested calls : List (Call α)} {state last : State} :
      Runs (calling.before about) nested state → calling.Closes state (.mk about nested) →
      Runs (calling.after about) calls last →
      Runs (calling.before about) (.mk about nested :: calls) last

/-- Moments that lead from one state to another. -/
inductive Leads : State → List (Moment α) → State → Prop
  | nil (state : State) : Leads state [] state
  | begins (call : Call α) {moments : List (Moment α)} {last : State} :
      Leads (calling.before call.about) moments last →
      Leads (calling.before call.about) (.begins call :: moments) last
  | ends (call : Call α) {moments : List (Moment α)} {state last : State} :
      calling.Closes state call → Leads (calling.after call.about) moments last →
      Leads state (.ends call :: moments) last

variable {calling} {state middle last : State} {moments more : List (Moment α)}
variable {calls : List (Call α)}

/-! ### From calls to moments -/

theorem Leads.append (first : calling.Leads state moments middle)
    (second : calling.Leads middle more last) : calling.Leads state (moments ++ more) last := by
  induction first with
  | nil => exact second
  | begins call _ ih => exact .begins call (ih second)
  | ends call closes _ ih => exact .ends call closes (ih second)

theorem Runs.leads (runs : calling.Runs state calls last) :
    calling.Leads state (chronicle calls) last := by
  induction runs with
  | nil state => exact .nil state
  | @cons about nested calls state last _ closes _ inner rest =>
    -- beginning, nested moments, ending; then the calls that come after
    have ending : calling.Leads state [.ends (.mk about nested)] (calling.after about) :=
      .ends (.mk about nested) closes (.nil _)
    have call : calling.Leads (calling.before about) (Call.mk about nested).moments
        (calling.after about) := .begins (.mk about nested) (inner.append ending)
    exact call.append rest

theorem Runs.left_eq (runs : calling.Runs state calls last) : calling.left state calls = last := by
  induction runs with
  | nil => rfl
  | cons _ _ _ _ _ ih => exact ih

/-- Every call of a run, at whatever depth, ends as it may in the state left by what is nested in
it. -/
theorem Runs.closes (runs : calling.Runs state calls last) {call : Call α}
    (ended : .ends call ∈ chronicle calls) :
    calling.Runs (calling.before call.about) call.nested
        (calling.left (calling.before call.about) call.nested) ∧
      calling.Closes (calling.left (calling.before call.about) call.nested) call := by
  induction runs with
  | nil => cases ended
  | @cons about nested calls state last runs closes _ inner rest =>
    rcases Call.ended_cons_iff.1 ended with within | rfl | later
    · exact inner within
    · obtain rfl := runs.left_eq
      exact ⟨runs, closes⟩
    · exact rest later

/-! ### What holds at every moment -/

/-- A moment of a chronicle ends the part of it that leads there. -/
theorem Leads.upTo {moment : Moment α}
    (leads : calling.Leads state (moments ++ moment :: more) last) :
    calling.Leads state (moments ++ [moment]) (calling.stateAt moment) ∧
      calling.Leads (calling.stateAt moment) more last := by
  induction moments generalizing state with
  | nil =>
    cases leads with
    | begins call rest => exact ⟨.begins call (.nil _), rest⟩
    | ends call closes rest => exact ⟨.ends call closes (.nil _), rest⟩
  | cons first moments ih =>
    cases leads with
    | begins call rest => exact ⟨.begins call (ih rest).1, (ih rest).2⟩
    | ends call closes rest => exact ⟨.ends call closes (ih rest).1, (ih rest).2⟩

/-- Every moment of a run divides it. -/
theorem Runs.divide {past future : List (Moment α)} {moment : Moment α}
    (runs : calling.Runs state calls last) (split : chronicle calls = past ++ moment :: future) :
    calling.Leads state (past ++ [moment]) (calling.stateAt moment) ∧
      calling.Leads (calling.stateAt moment) future last := by
  have leads := runs.leads
  rw [split] at leads
  exact leads.upTo

/-- What survives every ending, is kept by a run. -/
theorem Leads.keeps {P : State → Prop}
    (survives : ∀ state call, calling.Closes state call → P state →
      P (calling.after call.about))
    (leads : calling.Leads state moments last) (holds : P state) : P last := by
  induction leads with
  | nil => exact holds
  | begins _ _ ih => exact ih holds
  | ends _ closes _ ih => exact ih (survives _ _ closes holds)

/-- A call of such a run, at whatever depth, finds it when its nested calls have ended. -/
theorem Runs.keeps {P : State → Prop}
    (survives : ∀ state call, calling.Closes state call → P state →
      P (calling.after call.about))
    (runs : calling.Runs state calls last) (holds : P state) {call : Call α}
    (ended : .ends call ∈ chronicle calls) :
    P (calling.left (calling.before call.about) call.nested) := by
  -- the state in which nested calls begin is the one in which their call begins
  induction runs with
  | nil => cases ended
  | @cons about nested calls state last runs closes _ inner rest =>
    have left : P state := runs.leads.keeps survives holds
    rcases Call.ended_cons_iff.1 ended with within | rfl | later
    · exact inner holds within
    · obtain rfl := runs.left_eq
      exact left
    · exact rest (survives _ _ closes left) later

/-! ### Answers -/

/-- Calls of this kind answer for keys, and all that they change is that answers are added. -/
structure Remembers {ι β : Type} (calling : Calling α State) (known : State → ι → Option β)
    (Answers : α → ι → β → Prop) : Prop where
  /-- What is known when a call ends, is known afterwards. -/
  grows : ∀ ⦃state call key b⦄, calling.Closes state call → known state key = some b →
    known (calling.after call.about) key = some b
  /-- What a call has answered is known afterwards. -/
  records : ∀ ⦃state call key b⦄, calling.Closes state call → Answers call.about key b →
    known (calling.after call.about) key = some b
  /-- What is known after a call was known before it ended, or is what it has answered. -/
  only : ∀ ⦃state call key b⦄, calling.Closes state call →
    known (calling.after call.about) key = some b →
    known state key = some b ∨ Answers call.about key b

namespace Remembers

variable {ι β : Type} {known : State → ι → Option β} {Answers : α → ι → β → Prop}
variable (remembers : Remembers calling known Answers)

include remembers

/-- What is known stays known. -/
theorem stays (leads : calling.Leads state moments last) {key : ι} {b : β}
    (there : known state key = some b) : known last key = some b :=
  leads.keeps (P := fun state => known state key = some b)
    (fun _ _ closes there => remembers.grows closes there) there

/-- **What is known in the end** was known in the beginning, or a call has answered it and ended. -/
theorem known_iff (leads : calling.Leads state moments last) (key : ι) (b : β) :
    known last key = some b ↔ known state key = some b ∨
      ∃ call, .ends call ∈ moments ∧ Answers call.about key b := by
  induction leads with
  | nil state => simp
  | begins call _ ih =>
    rw [ih]
    simp
  | ends call closes _ ih =>
    rw [ih]
    constructor
    · rintro (there | ⟨later, mem, answers⟩)
      · rcases remembers.only closes there with before | now
        · exact .inl before
        · exact .inr ⟨call, List.mem_cons_self, now⟩
      · exact .inr ⟨later, List.mem_cons_of_mem _ mem, answers⟩
    · -- what is known survives this ending, and what this call answers survives the rest
      rintro (before | ⟨other, mem, answers⟩)
      · exact .inl (remembers.grows closes before)
      · rcases List.mem_cons.1 mem with same | later
        · cases same
          exact .inl (remembers.records closes answers)
        · exact .inr ⟨other, later, answers⟩

/-- What is known at a moment is known in the end. -/
theorem of_moment (leads : calling.Leads state moments last) {moment : Moment α}
    (mem : moment ∈ moments) {key : ι} {b : β}
    (there : known (calling.stateAt moment) key = some b) : known last key = some b := by
  obtain ⟨past, future, rfl⟩ := List.append_of_mem mem
  exact remembers.stays leads.upTo.2 there

/-- What is known in the beginning is known at every moment. -/
theorem throughout (leads : calling.Leads state moments last) {moment : Moment α}
    (mem : moment ∈ moments) {key : ι} {b : β} (there : known state key = some b) :
    known (calling.stateAt moment) key = some b := by
  obtain ⟨past, future, rfl⟩ := List.append_of_mem mem
  exact remembers.stays leads.upTo.1 there

end Remembers

end Calling

end ScopedImports
