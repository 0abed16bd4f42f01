import ScopedImports.Lookup.Locator

/-!
The walk of a locator, one candidate after the other.

A candidate is either answered from what is known, and then nothing changes, or the host is called
with it, and then its answer is settled under the bytes of the candidate:

    known.find? path = some b     look path  =  b, nothing changes
    known.find? path = none       look path  =  the host's answer, recorded and put on record

The host of a walk may itself use what is known.  Then more may be recorded than its answers, but
what is answered is what is known afterwards (`find?_look`), and what is known only grows
(`look_grows`).  Hence a walk answers with the first candidate that is known to be a file when it
ends (`firstPresent_decides`), and a walk whose decision is known already asks nobody
(`firstPresent_of_decided`).

A host that does not use what is known can do no more than answer (`look_of_none`), so a walk
preserves whatever recording one answer preserves (`firstPresent_keeps`).
-/

namespace ScopedImports.Locator

variable {σ Options : Type}
variable {known : Presence} {path : Path} {env : Env σ Options}

/-! ### What is decided -/

/-- `found` is the first of the places that is known to be a file; where nothing is found, all of
them are known not to be files. -/
inductive Decided (known : Presence) (places : List Path) : Option Path → Prop
  | found (nearer : List Path) (place : Path) (farther : List Path) :
      places = nearer ++ place :: farther → (∀ p ∈ nearer, known.find? p = some false) →
      known.find? place = some true → Decided known places (some place)
  | missing : (∀ p ∈ places, known.find? p = some false) → Decided known places none

/-- What is learnt later does not change a decision. -/
theorem Decided.mono {later : Presence} {places : List Path} {found : Option Path}
    (h : Decided known places found) (grows : known.Grows later) : Decided later places found := by
  cases h with
  | found nearer place farther split absent present =>
    exact .found nearer place farther split (fun p hp => grows (absent p hp)) (grows present)
  | missing absent => exact .missing fun p hp => grows (absent p hp)

theorem Decided.cons {place : Path} {places : List Path} {found : Option Path}
    (h : Decided known places found) (absent : known.find? place = some false) :
    Decided known (place :: places) found := by
  cases h with
  | found nearer hit farther split before present =>
    refine .found (place :: nearer) hit farther ?_ ?_ present
    · rw [split]
      rfl
    · exact List.forall_mem_cons.2 ⟨absent, before⟩
  | missing all => exact .missing (List.forall_mem_cons.2 ⟨absent, all⟩)

/-- A decision is for the nearest place, or it is a decision among the others. -/
theorem Decided.uncons {place : Path} {places : List Path} {found : Option Path}
    (h : Decided known (place :: places) found) :
    known.find? place = some true ∧ found = some place ∨
      known.find? place = some false ∧ Decided known places found := by
  cases h with
  | found nearer hit farther split absent present =>
    rcases nearer with - | ⟨first, nearer⟩
    · cases split
      exact .inl ⟨present, rfl⟩
    · cases split
      obtain ⟨no, before⟩ := List.forall_mem_cons.1 absent
      exact .inr ⟨no, .found nearer hit farther rfl before present⟩
  | missing all =>
    obtain ⟨no, others⟩ := List.forall_mem_cons.1 all
    exact .inr ⟨no, .missing others⟩

/-- Where all that is known is true, the decision is for the first place that has a file. -/
theorem Decided.eq_find? {places : List Path} {found : Option Path} {present : Path → Bool}
    (h : Decided known places found)
    (truth : ∀ ⦃path answer⦄, known.find? path = some answer → present path = answer) :
    found = places.find? present := by
  cases h with
  | found nearer place farther split absent there =>
    have skipped : nearer.find? present = none := by
      rw [List.find?_eq_none]
      intro path mem
      rw [truth (absent path mem)]
      exact Bool.false_ne_true
    rw [split, List.find?_append, skipped, Option.none_or, List.find?_cons_of_pos (truth there)]
  | missing absent =>
    symm
    rw [List.find?_eq_none]
    intro path mem
    rw [truth (absent path mem)]
    exact Bool.false_ne_true

/-! ### The walk with any host -/

namespace ReentrantHost

variable (host : ReentrantHost σ Options)

/-- The record after the host was called with `path`, and before it does anything. -/
def called (path : Path) (env : Env σ Options) : Env σ Options :=
  { env with journal := env.journal ++ [.probed path] }

theorem look_of_some {b : Bool} (h : known.find? path = some b) :
    ((host.look path).run known).run env = ((b, known), env) :=
  congrFun (Memo.consult_of_some (m := Act σ Options) h host.probe) env

/-- What the host answers is settled with what it has recorded meanwhile. -/
theorem look_of_none (h : known.find? path = none) :
    ((host.look path).run known).run env
      = let asked := ((host.isFile path).run known).run (called path env)
        (asked.1.2.settle path asked.1.1, asked.2) := by
  have asked := Memo.consult_of_none (m := Act σ Options) h host.probe
  rw [look, Presence.check, asked]
  rfl

/-- What is answered is what is known afterwards. -/
theorem find?_look (known : Presence) (path : Path) (env : Env σ Options) :
    (((host.look path).run known).run env).1.2.find? path
      = some (((host.look path).run known).run env).1.1 := by
  rcases h : known.find? path with - | b
  · rw [look_of_none host h]
    exact Memo.find?_settle_self _ path _
  · rw [look_of_some host h]
    exact h

theorem look_grows (known : Presence) (path : Path) (env : Env σ Options) :
    known.Grows (((host.look path).run known).run env).1.2 := by
  rcases h : known.find? path with - | b
  · rw [look_of_none host h]
    exact (host.grows path known (called path env)).trans
      fun _ _ there => Memo.find?_settle_of_some there path _
  · rw [look_of_some host h]
    exact Memo.Grows.refl known

/-- A host that shows files under other paths.  Asked about a path, it looks up the original one,
through what is known. -/
def mirror (original : Path → Path) : ReentrantHost σ Options where
  workingDirectory := host.workingDirectory
  isFile path := host.look (original path)
  grows path known env := host.look_grows known (original path) env

theorem firstPresent_cons (path : Path) (rest : List Path) (known : Presence)
    (env : Env σ Options) :
    ((host.firstPresent (path :: rest)).run known).run env
      = let looked := ((host.look path).run known).run env
        if looked.1.1 then ((some path, looked.1.2), looked.2)
        else ((host.firstPresent rest).run looked.1.2).run looked.2 := by
  rw [firstPresent, StateT.run_bind, StateT.run_bind]
  rcases ((host.look path).run known).run env with ⟨⟨present, known'⟩, env'⟩
  cases present <;> rfl

/-- What is known stays known. -/
theorem firstPresent_grows (places : List Path) (known : Presence) (env : Env σ Options) :
    known.Grows (((host.firstPresent places).run known).run env).1.2 := by
  induction places generalizing known env with
  | nil => exact Memo.Grows.refl known
  | cons path rest ih =>
    have looked := host.look_grows known path env
    rw [firstPresent_cons]
    dsimp only
    split
    · exact looked
    · exact looked.trans (ih _ _)

/-- A walk decides, by what is known when it ends, which place is found. -/
theorem firstPresent_decides (places : List Path) (known : Presence) (env : Env σ Options) :
    Decided (((host.firstPresent places).run known).run env).1.2 places
      (((host.firstPresent places).run known).run env).1.1 := by
  induction places generalizing known env with
  | nil => exact .missing fun p hp => absurd hp (by simp)
  | cons path rest ih =>
    have stored := host.find?_look known path env
    rw [firstPresent_cons]
    dsimp only
    split
    case isTrue present =>
      rw [present] at stored
      exact .found [] path rest rfl (by simp) stored
    case isFalse absent =>
      rw [Bool.not_eq_true] at absent
      rw [absent] at stored
      -- the rest of the walk only adds to what was just recorded
      have grows := host.firstPresent_grows rest (((host.look path).run known).run env).1.2
        (((host.look path).run known).run env).2
      exact (ih _ _).cons (grows stored)

/-- Where a decision is known already, a walk comes to it, asks nobody and learns nothing. -/
theorem firstPresent_of_decided {places : List Path} {found : Option Path}
    (h : Decided known places found) :
    ((host.firstPresent places).run known).run env = ((found, known), env) := by
  induction places with
  | nil => cases h with
    | found nearer place farther split => simp at split
    | missing => rfl
  | cons path rest ih =>
    rw [firstPresent_cons]
    rcases h.uncons with ⟨present, rfl⟩ | ⟨absent, rest⟩
    · rw [look_of_some host present]
      rfl
    · rw [look_of_some host absent]
      exact ih rest

end ReentrantHost

/-! ### The walk with a host that does not use what is known -/

section Plain

variable {host : Host σ}

/-- The record after the host was asked about `path`. -/
def probed (host : Host σ) (path : Path) (env : Env σ Options) : Env σ Options :=
  { env with
    world := (host.isFile path env.world).2
    journal := env.journal ++ [.probed path] }

theorem look_of_none (h : known.find? path = none) :
    (((reentrant host).look path).run known).run env
      = (((host.isFile path env.world).1, known.push path (host.isFile path env.world).1 h),
          probed host path env) := by
  rw [ReentrantHost.look_of_none _ h, ← Memo.settle_of_none h]
  rfl

/-- A property of what is known and of the record that survives every probe. -/
def SurvivesProbes (host : Host σ) (P : Presence → Env σ Options → Prop) : Prop :=
  ∀ ⦃known env path⦄ (new : known.find? path = none), P known env →
    P (known.push path (host.isFile path env.world).1 new) (probed host path env)

theorem look_keeps {P : Presence → Env σ Options → Prop} (survives : SurvivesProbes host P)
    (path : Path) (h : P known env) :
    let looked := (((reentrant host).look path).run known).run env
    P looked.1.2 looked.2 := by
  rcases e : known.find? path with - | b
  · rw [look_of_none e]
    exact survives e h
  · rw [ReentrantHost.look_of_some _ e]
    exact h

/-- A walk preserves what every probe preserves. -/
theorem firstPresent_keeps {P : Presence → Env σ Options → Prop} (survives : SurvivesProbes host P)
    (places : List Path) (h : P known env) :
    let walk := (((reentrant host).firstPresent places).run known).run env
    P walk.1.2 walk.2 := by
  induction places generalizing known env with
  | nil => exact h
  | cons path rest ih =>
    have looked := look_keeps survives path h
    rw [ReentrantHost.firstPresent_cons]
    dsimp only
    split
    · exact looked
    · exact ih looked

end Plain

/-! ### From the file to its scope -/

/-- The record when the walk begins: the host was asked for its working directory. -/
def ReentrantHost.entered (host : ReentrantHost σ Options) (env : Env σ Options) : Env σ Options :=
  { env with world := (host.workingDirectory env.world).2 }

/-- A locator anchors the file, walks over its places, and leaves a line. -/
theorem locateBy_run (locator : Locator) (host : ReentrantHost σ Options) (file : String)
    (known : Presence) (env : Env σ Options) :
    ((locator.locateBy host file).run known).run env
      = let walk := ((host.firstPresent
            (locator.places (host.workingDirectory env.world).1 file)).run known).run
            (host.entered env)
        ((locator.scopeOf walk.1.1, walk.1.2),
          { walk.2 with
            journal := walk.2.journal ++ [.noted (locator.noteOf file walk.1.1)] }) := by
  rw [locateBy, StateT.run_bind, StateT.run_bind]
  rfl

theorem locate_run (locator : Locator) (host : Host σ) (file : String) (known : Presence)
    (env : Env σ Options) :
    ((locator.locate host file).run known).run env
      = let walk := (((reentrant host).firstPresent
            (locator.places (host.workingDirectory env.world).1 file)).run known).run
            ((reentrant host).entered env)
        ((locator.scopeOf walk.1.1, walk.1.2),
          { walk.2 with
            journal := walk.2.journal ++ [.noted (locator.noteOf file walk.1.1)] }) :=
  locateBy_run locator (reentrant host) file known env

/-- What is known stays known. -/
theorem locateBy_grows (locator : Locator) (host : ReentrantHost σ Options) (file : String)
    (known : Presence) (env : Env σ Options) :
    known.Grows (((locator.locateBy host file).run known).run env).1.2 := by
  rw [locateBy_run]
  exact host.firstPresent_grows _ known (host.entered env)

/-- A look-up is decided by what is known when it ends, and the record ends with the decision. -/
theorem locateBy_decided (locator : Locator) (host : ReentrantHost σ Options) (file : String)
    (known : Presence) (env : Env σ Options) :
    let done := ((locator.locateBy host file).run known).run env
    ∃ found, done.1.1 = locator.scopeOf found ∧
      done.2.journal.getLast? = some (.noted (locator.noteOf file found)) ∧
      Decided done.1.2 (locator.places (host.workingDirectory env.world).1 file) found := by
  intro done
  have ran : done = _ := locateBy_run locator host file known env
  rw [ran]
  exact ⟨_, rfl, List.getLast?_concat, host.firstPresent_decides _ known (host.entered env)⟩

end ScopedImports.Locator
