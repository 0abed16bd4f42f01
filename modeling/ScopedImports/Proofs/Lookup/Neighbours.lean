import ScopedImports.Proofs.Lookup.Walk
import ScopedImports.Proofs.Path.Components

/-!
Files of one directory share their lookup.

For two files of one directory the places where a configuration may govern them are the same, each
in two spellings.  Once the one file has been looked up, all that the look-up of the other comes to
is known, and stays known:

    places of the one     p1   p2   p3   p4       p1, p2 are no files, p3 is one
    places of the other   q1   q2   q3   q4       the same is known about q1, q2 and q3

So the other file is governed from the same distance, and nobody is asked (`locate_neighbour`).  The
host of these look-ups may itself use what is known, and in between files may be looked up by any
locator with any such host (`Later`).
-/

namespace ScopedImports.Locator

variable {σ Options : Type}

/-! ### Later look-ups -/

/-- What is known after more files were looked up, by whichever locators, hosts and worlds. -/
inductive Later (σ Options : Type) : Presence → Presence → Prop
  | now (known : Presence) : Later σ Options known known
  | locate {known later : Presence} (locator : Locator) (host : ReentrantHost σ Options)
      (file : String) (env : Env σ Options) :
      Later σ Options known later →
      Later σ Options known (((locator.locateBy host file).run later).run env).1.2

theorem Later.grows {known later : Presence} (h : Later σ Options known later) :
    known.Grows later := by
  induction h with
  | now => exact Memo.Grows.refl known
  | locate locator host file env _ ih => exact ih.trans (locateBy_grows locator host file _ env)

/-! ### Two lists of places -/

/-- What is found among the places and what is found among the others: nothing in both, or the same
path, in two spellings, at the same distance. -/
inductive Alongside (known : Presence) (places places' : List Path) :
    Option Path → Option Path → Prop
  | found (nearer nearer' : List Path) (place place' : Path) (farther farther' : List Path) :
      places = nearer ++ place :: farther → places' = nearer' ++ place' :: farther' →
      nearer.length = nearer'.length → place.Same place' →
      (∀ p ∈ nearer ++ nearer', known.find? p = some false) →
      (∀ p ∈ [place, place'], known.find? p = some true) →
      Alongside known places places' (some place) (some place')
  | missing : (∀ p ∈ places ++ places', known.find? p = some false) →
      Alongside known places places' none none

namespace Alongside

variable {known : Presence} {places places' : List Path} {found found' : Option Path}

/-- What is found among the other places, is decided for them. -/
theorem decided (h : Alongside known places places' found found') :
    Decided known places' found' := by
  cases h with
  | found nearer nearer' place place' farther farther' split split' far same absent present =>
    refine .found nearer' place' farther' split' ?_ ?_
    · exact fun p mem => absent p (List.mem_append_right nearer mem)
    · exact present place' (by simp)
  | missing all => exact .missing fun p mem => all p (List.mem_append_right places mem)

/-- What is learnt later changes nothing. -/
theorem mono {later : Presence} (h : Alongside known places places' found found')
    (grows : known.Grows later) : Alongside later places places' found found' := by
  cases h with
  | found nearer nearer' place place' farther farther' split split' far same absent present =>
    exact .found nearer nearer' place place' farther farther' split split' far same
      (fun p mem => grows (absent p mem)) (fun p mem => grows (present p mem))
  | missing all => exact .missing fun p mem => grows (all p mem)

/-- Among the very same places, the very same is found. -/
theorem eq_of_same_places (h : Alongside known places places found found') : found = found' := by
  cases h with
  | found nearer nearer' place place' farther farther' split split' far =>
    rw [split] at split'
    obtain ⟨-, rest⟩ := List.append_inj split' far
    exact congrArg some (List.cons.inj rest).1
  | missing => rfl

theorem cons {place place' : Path} (h : Alongside known places places' found found')
    (absent : known.find? place = some false) (absent' : known.find? place' = some false) :
    Alongside known (place :: places) (place' :: places') found found' := by
  cases h with
  | found nearer nearer' hit hit' farther farther' split split' far same before present =>
    refine .found (place :: nearer) (place' :: nearer') hit hit' farther farther' ?_ ?_ ?_ same ?_
      present
    · rw [split, List.cons_append]
    · rw [split', List.cons_append]
    · rw [List.length_cons, List.length_cons, far]
    · simp only [List.mem_append, List.mem_cons] at before ⊢
      rintro p ((rfl | mem) | (rfl | mem))
      · exact absent
      · exact before p (.inl mem)
      · exact absent'
      · exact before p (.inr mem)
  | missing all =>
    refine .missing ?_
    simp only [List.mem_append, List.mem_cons] at all ⊢
    rintro p ((rfl | mem) | (rfl | mem))
    · exact absent
    · exact all p (.inl mem)
    · exact absent'
    · exact all p (.inr mem)

end Alongside

/-- What is known decides alike for two spellings of the same places. -/
theorem Decided.alongside {known : Presence} {places places' : List Path} {found : Option Path}
    (h : Decided known places found) (same : List.Forall₂ Path.Same places places') :
    ∃ found', Alongside known places places' found found' := by
  induction same with
  | nil =>
    cases h with
    | found nearer place farther split => simp at split
    | missing => exact ⟨none, .missing (by simp)⟩
  | @cons place place' places places' spelt _ ih =>
    have answer : known.find? place' = known.find? place := (Memo.find?_congr spelt).symm
    rcases h.uncons with ⟨present, rfl⟩ | ⟨absent, rest⟩
    · refine ⟨some place', .found [] [] place place' places places' rfl rfl rfl spelt (by simp) ?_⟩
      simp [answer, present]
    · obtain ⟨found', others⟩ := ih rest
      exact ⟨found', others.cons absent (answer.trans absent)⟩

/-! ### The second look-up -/

/-- What the look-ups of two files with the same places have in common.  `first` is what the one
came to, and the other comes any time later, whatever was looked up in between. -/
structure SharedLookup (locator : Locator) (host : ReentrantHost σ Options) (directory : Path)
    (file file' : String) (first : (Scope × Presence) × Env σ Options)
    (found found' : Option Path) : Prop where
  /-- The one look-up answers with what was found, or with the default scope. -/
  scope : first.1.1 = locator.scopeOf found
  /-- Its line says which. -/
  line : first.2.journal.getLast? = some (.noted (locator.noteOf file found))
  /-- For the other one nothing is found either, or the same path at the same distance. -/
  alongside : ∀ later, Later σ Options first.1.2 later →
    Alongside later (locator.places directory file) (locator.places directory file') found found'
  /-- It answers so, asks for the working directory, leaves its line, and does nothing else. -/
  again : ∀ later, Later σ Options first.1.2 later → ∀ env : Env σ Options,
    ((locator.locateBy host file').run later).run env
      = ((locator.scopeOf found', later),
          { env with
            world := (host.workingDirectory env.world).2
            journal := env.journal ++ [.noted (locator.noteOf file' found')] })

section SecondLookup

variable (locator : Locator) (host : ReentrantHost σ Options)

/-- Where the decision is known already, a look-up asks for the working directory and leaves a line,
and does nothing else. -/
theorem locateBy_of_decided {file : String} {known : Presence} {env : Env σ Options}
    {found : Option Path}
    (h : Decided known (locator.places (host.workingDirectory env.world).1 file) found) :
    ((locator.locateBy host file).run known).run env
      = ((locator.scopeOf found, known),
          { env with
            world := (host.workingDirectory env.world).2
            journal := env.journal ++ [.noted (locator.noteOf file found)] }) := by
  rw [locateBy_run, host.firstPresent_of_decided h]
  rfl

/-- **What was found for one file is found for its neighbour**, and nobody is asked for it. -/
theorem locate_neighbour {directory : Path}
    (constant : ∀ world, (host.workingDirectory world).1 = directory) {file file' : String}
    (same : List.Forall₂ Path.Same (locator.places directory file)
      (locator.places directory file')) (known : Presence) (env : Env σ Options) :
    ∃ found found', SharedLookup locator host directory file file'
      (((locator.locateBy host file).run known).run env) found found' := by
  obtain ⟨found, scope, line, decided⟩ := locateBy_decided locator host file known env
  rw [constant] at decided
  -- the same is known about the other places, and will be
  obtain ⟨found', alongside⟩ := decided.alongside same
  refine ⟨found, found', scope, line, fun later after => alongside.mono after.grows, ?_⟩
  intro later after env
  have still := (alongside.mono after.grows).decided
  rw [← constant env.world] at still
  exact locateBy_of_decided locator host still

end SecondLookup

theorem SharedLookup.eq_of_same_places {locator : Locator} {host : ReentrantHost σ Options}
    {directory : Path} {file file' : String} {first : (Scope × Presence) × Env σ Options}
    {found found' : Option Path}
    (h : SharedLookup locator host directory file file' first found found')
    (same : locator.places directory file' = locator.places directory file) : found = found' := by
  have alongside := h.alongside first.1.2 (.now _)
  rw [same] at alongside
  exact alongside.eq_of_same_places

end ScopedImports.Locator
