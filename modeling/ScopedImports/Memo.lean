/-!
A memo keeps the first answer given for every key.

Each layer of the library remembers something once and for all: whether a path is a file, which
resolver serves a scope, what a name of a batch resolved to.  The three differ only in when two
keys count as the same, so `Memo key α` is parametric in `key : κ → ι`: keys `k` and `k'` are the
same when `key k = key k'`, while an entry keeps the spelling under which it was first stored.

Design.  Looking up and storing are two steps (`find?`, `settle`), and `consult` runs an arbitrary
computation between them.  That computation may itself use the memo.  Hence `settle` looks once
more: an answer stored meanwhile is kept, and is what the caller gets.

    consult key k compute  =  find? k, else compute k and then settle k
-/

namespace ScopedImports

/-- Answers by key, oldest first; no two entries have the same key. -/
structure Memo {κ ι : Type} (key : κ → ι) (α : Type) where
  entries : List (κ × α)
  distinct : entries.Pairwise fun a b => key a.1 ≠ key b.1

namespace Memo

variable {κ ι α : Type} {key : κ → ι}

/-- The memo that has not been asked anything. -/
def empty : Memo key α := ⟨[], .nil⟩

instance : EmptyCollection (Memo key α) := ⟨empty⟩

/-- Number of keys with an answer. -/
def size (memo : Memo key α) : Nat := memo.entries.length

/-- The stored keys, each in the spelling it was first stored under. -/
def keys (memo : Memo key α) : List κ := memo.entries.map Prod.fst

variable [DecidableEq ι]

/-- The answer stored for `k`, if there is one. -/
def find? (memo : Memo key α) (k : κ) : Option α :=
  (memo.entries.find? fun e => key e.1 = key k).map Prod.snd

theorem find?_eq_none_iff {memo : Memo key α} {k : κ} :
    memo.find? k = none ↔ ∀ e ∈ memo.entries, key e.1 ≠ key k := by
  simp [find?]

/-- Store an answer for a key that has none. -/
def push (memo : Memo key α) (k : κ) (a : α) (new : memo.find? k = none) : Memo key α where
  entries := memo.entries ++ [(k, a)]
  distinct := List.pairwise_append.2 ⟨memo.distinct, List.pairwise_singleton _ _, fun e he _ hf =>
    List.mem_singleton.1 hf ▸ find?_eq_none_iff.1 new e he⟩

/-- Offer an answer for `k`.  The first answer stays, and the answer that stands is returned. -/
def settle (memo : Memo key α) (k : κ) (a : α) : α × Memo key α :=
  match new : memo.find? k with
  | some kept => (kept, memo)
  | none => (a, memo.push k a new)

/-- Let the stored answer for `k` advance to a later state of itself. -/
def update (memo : Memo key α) (k : κ) (advance : α → α) : Memo key α where
  entries := memo.entries.map fun e => if key e.1 = key k then (e.1, advance e.2) else e
  distinct := by
    refine List.pairwise_map.2 (memo.distinct.imp fun {a b} h => ?_)
    split <;> split <;> exact h

/-! ### What the operations do to the answers -/

theorem find?_congr {memo : Memo key α} {k l : κ} (h : key k = key l) :
    memo.find? k = memo.find? l := by
  simp [find?, h]

@[simp] theorem find?_empty (k : κ) : (∅ : Memo key α).find? k = none := rfl

/-- A key has an answer if one is stored for it, in whichever spelling. -/
theorem exists_find?_iff {memo : Memo key α} {k : κ} :
    (∃ a, memo.find? k = some a) ↔ ∃ stored ∈ memo.keys, key stored = key k := by
  constructor
  · rintro ⟨a, there⟩
    obtain ⟨entry, hit, -⟩ := Option.map_eq_some_iff.1 there
    have same : key entry.1 = key k := by simpa using List.find?_some hit
    exact ⟨entry.1, List.mem_map_of_mem (List.mem_of_find?_eq_some hit), same⟩
  · rintro ⟨stored, mem, same⟩
    cases there : memo.find? k with
    | none =>
      obtain ⟨entry, among, rfl⟩ := List.mem_map.1 mem
      exact absurd same (find?_eq_none_iff.1 there entry among)
    | some a => exact ⟨a, rfl⟩

/-- Storing an answer answers its own key and leaves the others alone. -/
theorem find?_push {memo : Memo key α} {k : κ} {a : α} (new : memo.find? k = none) (l : κ) :
    (memo.push k a new).find? l = if key k = key l then some a else memo.find? l := by
  simp only [find?, push, List.find?_append]
  by_cases h : key k = key l
  · have : memo.entries.find? (fun e => key e.1 = key l) = none := by
      simpa [find?, h] using new
    simp [this, h]
  · simp [h]

/-- An answer was stored just now, or it was there before. -/
theorem of_find?_push {memo : Memo key α} {k l : κ} {a b : α} (new : memo.find? k = none)
    (known : (memo.push k a new).find? l = some b) :
    key k = key l ∧ a = b ∨ memo.find? l = some b := by
  rw [find?_push] at known
  by_cases same : key k = key l
  · rw [if_pos same] at known
    exact .inl ⟨same, Option.some.inj known⟩
  · rw [if_neg same] at known
    exact .inr known

@[simp] theorem size_push {memo : Memo key α} {k : κ} {a : α} (new : memo.find? k = none) :
    (memo.push k a new).size = memo.size + 1 := by
  simp [size, push]

theorem settle_of_some {memo : Memo key α} {k : κ} {kept : α} (h : memo.find? k = some kept)
    (a : α) : memo.settle k a = (kept, memo) := by
  unfold settle
  split <;> simp_all

theorem settle_of_none {memo : Memo key α} {k : κ} (h : memo.find? k = none) (a : α) :
    memo.settle k a = (a, memo.push k a h) := by
  unfold settle
  split <;> simp_all

/-- What `settle` returns is what stands afterwards. -/
theorem find?_settle_self (memo : Memo key α) (k : κ) (a : α) :
    (memo.settle k a).2.find? k = some (memo.settle k a).1 := by
  cases h : memo.find? k with
  | some kept => simp [settle_of_some h, h]
  | none => simp [settle_of_none h, find?_push]

/-- An answer once stored stays. -/
theorem find?_settle_of_some {memo : Memo key α} {l : κ} {b : α} (h : memo.find? l = some b)
    (k : κ) (a : α) : (memo.settle k a).2.find? l = some b := by
  cases hk : memo.find? k with
  | some kept => simp [settle_of_some hk, h]
  | none =>
    have : key k ≠ key l := fun same => by simp [find?_congr same, h] at hk
    simp [settle_of_none hk, find?_push, this, h]

/-- An update lets the answer for its own key advance and leaves the others alone. -/
theorem find?_update (memo : Memo key α) (k : κ) (advance : α → α) (l : κ) :
    (memo.update k advance).find? l
      = if key k = key l then (memo.find? l).map advance else memo.find? l := by
  have same (e : κ × α) : key (if key e.1 = key k then (e.1, advance e.2) else e).1 = key e.1 := by
    split <;> rfl
  simp only [find?, update, List.find?_map, Function.comp_def, same]
  rcases hf : memo.entries.find? fun e => key e.1 = key l with - | e
  · simp [hf]
  · have he : key e.1 = key l := by simpa using List.find?_some hf
    by_cases h : key k = key l
    · simp [hf, he, h]
    · have hne : key e.1 ≠ key k := fun hk => h (hk.symm.trans he)
      simp [hf, hne, h]

@[simp] theorem size_update (memo : Memo key α) (k : κ) (advance : α → α) :
    (memo.update k advance).size = memo.size := by
  simp [size, update]

/-- The answer for `k`: the stored one, else the one that `compute` gives.  `compute` runs with the
memo at hand and may store answers itself; when it stores one for `k`, that one stands. -/
def consult (key : κ → ι) {m : Type → Type} [Monad m] [MonadStateOf (Memo key α) m]
    (k : κ) (compute : κ → m α) : m α := do
  match (← getThe (Memo key α)).find? k with
  | some known => pure known
  | none =>
    let answer ← compute k
    modifyGetThe (Memo key α) fun memo => memo.settle k answer

section Consult

variable {m : Type → Type} [Monad m] [LawfulMonad m]

theorem consult_of_some {memo : Memo key α} {k : κ} {known : α} (h : memo.find? k = some known)
    (compute : κ → StateT (Memo key α) m α) :
    (consult key k compute).run memo = pure (known, memo) := by
  have look : (getThe (Memo key α) : StateT (Memo key α) m _).run memo = pure (memo, memo) := rfl
  rw [consult, StateT.run_bind, look, pure_bind]
  dsimp only
  rw [h]
  exact StateT.run_pure _ _

theorem consult_of_none {memo : Memo key α} {k : κ} (h : memo.find? k = none)
    (compute : κ → StateT (Memo key α) m α) :
    (consult key k compute).run memo
      = (compute k).run memo >>= fun p => pure (p.2.settle k p.1) := by
  have look : (getThe (Memo key α) : StateT (Memo key α) m _).run memo = pure (memo, memo) := rfl
  have keep (memo : Memo key α) (a : α) :
      (modifyGetThe (Memo key α) fun memo => memo.settle k a :
        StateT (Memo key α) m α).run memo = pure (memo.settle k a) := rfl
  rw [consult, StateT.run_bind, look, pure_bind]
  dsimp only
  rw [h]
  dsimp only
  rw [StateT.run_bind]
  simp only [keep]

variable {ε : Type}

omit [DecidableEq ι] in
theorem run_getThe (memo : Memo key α) :
    (getThe (Memo key α) : ExceptT ε (StateT (Memo key α) m) _).run.run memo
      = pure (.ok memo, memo) := by
  show (Except.ok <$> (get : StateT (Memo key α) m _)).run memo = _
  rw [StateT.run_map, StateT.run_get, map_pure]

theorem run_modifyGetThe_settle (k : κ) (a : α) (memo : Memo key α) :
    (modifyGetThe (Memo key α) fun memo => memo.settle k a :
      ExceptT ε (StateT (Memo key α) m) α).run.run memo
      = pure (.ok (memo.settle k a).1, (memo.settle k a).2) := by
  show (Except.ok <$> (modifyGet fun memo => memo.settle k a : StateT (Memo key α) m _)).run memo
    = _
  rw [StateT.run_map, StateT.run_modifyGet, map_pure]

theorem consult_except_of_some {memo : Memo key α} {k : κ} {known : α}
    (h : memo.find? k = some known) (compute : κ → ExceptT ε (StateT (Memo key α) m) α) :
    (consult key k compute).run.run memo = pure (.ok known, memo) := by
  simp only [consult, ExceptT.run_bind, StateT.run_bind, run_getThe, pure_bind, h]
  exact StateT.run_pure _ _

/-- A computation that fails stores nothing itself. -/
theorem consult_except_of_none {memo : Memo key α} {k : κ} (h : memo.find? k = none)
    (compute : κ → ExceptT ε (StateT (Memo key α) m) α) :
    (consult key k compute).run.run memo
      = (compute k).run.run memo >>= fun p => pure <| match p.1 with
        | .error failure => (.error failure, p.2)
        | .ok answer => (.ok (p.2.settle k answer).1, (p.2.settle k answer).2) := by
  simp only [consult, ExceptT.run_bind, StateT.run_bind, run_getThe, pure_bind, h]
  congr 1
  funext p
  rcases p with ⟨failure | answer, later⟩
  · show (pure (Except.error failure) : StateT (Memo key α) m (Except ε α)).run later = _
    rw [StateT.run_pure]
  · exact run_modifyGetThe_settle k answer later

end Consult

/-! ### Growth -/

/-- `later` still gives every answer that `earlier` gave. -/
def Grows (earlier later : Memo key α) : Prop :=
  ∀ ⦃k a⦄, earlier.find? k = some a → later.find? k = some a

theorem Grows.refl (memo : Memo key α) : Grows memo memo := fun _ _ h => h

theorem Grows.trans {first second third : Memo key α} (h : Grows first second)
    (h' : Grows second third) : Grows first third := fun _ _ hk => h' (h hk)

end Memo

end ScopedImports
