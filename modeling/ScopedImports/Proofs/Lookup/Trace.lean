import ScopedImports.Proofs.Lookup.Walk

/-!
What a walk asks the host, probe by probe.

A walk looks at the places from the nearest on, until there is a file, and not beyond (`upTo`).  Of
the places that it looks at, it asks the host about those of which nothing is known yet, and about
two spellings of one path only once (`unknown`):

    places      p1   p2   p3   p4   p5      known before     p2 is no file, p4 is a file
    looked at   p1   p2   p3   p4
    asked       p1        p3                known after      also what the host said about p1 and p3

Both lists are said in terms of what is known, before and after, and the whole effect of a walk can
be read off them (`firstPresent_traced`).
-/

namespace ScopedImports.Locator

variable {σ Options : Type}

/-! ### The places that count -/

/-- The path is known to be a file. -/
def confirmed (known : Presence) (path : Path) : Bool := known.find? path = some true

/-- The paths up to the first that is known to be a file, that one included. -/
def upToFile (known : Presence) : List Path → List Path
  | [] => []
  | path :: rest => if confirmed known path then [path] else path :: upToFile known rest

/-- The paths of which nothing is known, each in the spelling that comes first. -/
def unknown (known : Presence) (paths : List Path) : List Path :=
  (paths.filter fun path => (known.find? path).isNone).eraseDupsBy fun p q => decide (p.Same q)

/-- The places about which a walk asks the host, where `later` is what is known when it ends. -/
def asked (known later : Presence) (places : List Path) : List Path :=
  unknown known (upToFile later places)

/-- What the host says about the paths, one after the other, and the world that it leaves. -/
def said (host : Host σ) (paths : List Path) (world : σ) : List Bool × σ :=
  (paths.mapM host.isFile).run world

theorem said_cons (host : Host σ) (path : Path) (paths : List Path) (world : σ) :
    said host (path :: paths) world
      = let first := host.isFile path world
        let rest := said host paths first.2
        (first.1 :: rest.1, rest.2) := by
  rw [said, List.mapM_cons, StateT.run_bind]
  rfl

section Places

variable {known later : Presence} {path : Path}

theorem unknown_cons_of_some {present : Bool} (h : known.find? path = some present)
    (paths : List Path) : unknown known (path :: paths) = unknown known paths := by
  rw [unknown, List.filter_cons_of_neg (by simp [h])]
  rfl

/-- A path that is asked about is no longer unknown, in whichever spelling. -/
theorem unknown_cons_of_none (h : known.find? path = none) (present : Bool) (paths : List Path) :
    unknown known (path :: paths) = path :: unknown (known.push path present h) paths := by
  have others : (paths.filter fun other => (known.find? other).isNone).filter
      (fun other => decide (decide (other.Same path) = false))
        = paths.filter fun other => ((known.push path present h).find? other).isNone := by
    rw [List.filter_filter]
    congr 1
    funext other
    rw [Memo.find?_push]
    by_cases same : path.components = other.components
    · simp [same, Path.Same]
    · simp [same, Path.Same, Ne.symm same]
  rw [unknown, List.filter_cons_of_pos (by simp [h]), List.eraseDupsBy_cons, others]
  rfl

/-- Of one path, however often it occurs, at most one occurrence is unknown. -/
theorem length_unknown_le_one {paths : List Path} (one : ∀ other ∈ paths, other = path) :
    (unknown known paths).length ≤ 1 := by
  induction paths generalizing known with
  | nil => exact Nat.zero_le 1
  | cons first rest ih =>
    obtain ⟨rfl, same⟩ := List.forall_mem_cons.1 one
    rcases h : known.find? first with - | present
    · -- what follows is the very path that has just become known
      have nothing : unknown (known.push first true h) rest = [] := by
        have gone : ∀ other ∈ rest, ¬ ((known.push first true h).find? other).isNone = true := by
          intro other mem
          rw [same other mem, Memo.find?_push, if_pos rfl]
          exact Bool.false_ne_true
        rw [unknown, List.filter_eq_nil_iff.2 gone]
        rfl
      rw [unknown_cons_of_none h true, nothing]
      exact Nat.le_refl 1
    · rw [unknown_cons_of_some h]
      exact ih same

theorem mem_of_mem_upToFile {places : List Path} (mem : path ∈ upToFile known places) :
    path ∈ places := by
  induction places with
  | nil => exact mem
  | cons first rest ih =>
    rw [upToFile] at mem
    split at mem
    · exact List.mem_singleton.1 mem ▸ List.mem_cons_self
    · rcases List.mem_cons.1 mem with rfl | later
      · exact List.mem_cons_self
      · exact List.mem_cons_of_mem _ (ih later)

theorem confirmed_of_true (h : known.find? path = some true) : confirmed known path = true :=
  decide_eq_true h

theorem not_confirmed_of_false (h : known.find? path = some false) :
    ¬ confirmed known path = true := by
  simp [confirmed, h]

theorem upToFile_cons_of_true (h : known.find? path = some true) (rest : List Path) :
    upToFile known (path :: rest) = [path] := by
  rw [upToFile, if_pos (confirmed_of_true h)]

theorem upToFile_cons_of_false (h : known.find? path = some false) (rest : List Path) :
    upToFile known (path :: rest) = path :: upToFile known rest := by
  rw [upToFile, if_neg (not_confirmed_of_false h)]

/-- The nearest place is the first one asked about, if nothing is known of it. -/
theorem asked_cons_of_none (h : known.find? path = none) (farther : List Path) :
    ∃ more, asked known later (path :: farther) = path :: more := by
  have start : ∃ rest, upToFile later (path :: farther) = path :: rest := by
    rw [upToFile]
    split
    · exact ⟨[], rfl⟩
    · exact ⟨upToFile later farther, rfl⟩
  obtain ⟨rest, walk⟩ := start
  exact ⟨_, by rw [asked, walk, unknown_cons_of_none h true]⟩

end Places

/-! ### The trace of a walk -/

/-- What a walk over the places comes to. -/
structure Traced (host : Host σ) (places : List Path) (known : Presence) (env : Env σ Options)
    (walk : (Option Path × Presence) × Env σ Options) : Prop where
  /-- It finds the first place that is known to be a file when it ends. -/
  found : walk.1.1 = places.find? (confirmed walk.1.2)
  /-- It goes no farther: without the places behind, it comes to the same. -/
  lazy : (((reentrant host).firstPresent (upToFile walk.1.2 places)).run known).run env = walk
  /-- It asks the host about the places of which nothing was known, and about nothing else. -/
  probes : walk.2.journal = env.journal ++ (asked known walk.1.2 places).map .probed
  /-- It learns what the host has said about them, and nothing else. -/
  learnt : walk.1.2.entries = known.entries ++ (asked known walk.1.2 places).zip
    (said host (asked known walk.1.2 places) env.world).1
  /-- It leaves the world in which the host has said so. -/
  world : walk.2.world = (said host (asked known walk.1.2 places) env.world).2
  /-- It gives out no identity. -/
  fresh : walk.2.fresh = env.fresh

namespace Traced

variable {host : Host σ} {known : Presence} {env : Env σ Options} {path : Path}
variable {places : List Path} {walk : (Option Path × Presence) × Env σ Options}

/-- The nearest place is known to be a file. -/
theorem known_true (h : known.find? path = some true) (places : List Path) :
    Traced host (path :: places) known env ((some path, known), env) := by
  have nothing : asked known known (path :: places) = [] := by
    rw [asked, upToFile_cons_of_true h, unknown_cons_of_some h]
    rfl
  refine ⟨?_, ?_, ?_, ?_, ?_, rfl⟩
  · exact (List.find?_cons_of_pos (confirmed_of_true h)).symm
  · rw [upToFile_cons_of_true h, ReentrantHost.firstPresent_cons, ReentrantHost.look_of_some _ h]
    rfl
  all_goals rw [nothing]
  · exact (List.append_nil _).symm
  · exact (List.append_nil _).symm
  · rfl

/-- The nearest place is known not to be a file. -/
theorem known_false (h : known.find? path = some false) (grows : known.Grows walk.1.2)
    (rest : Traced host places known env walk) : Traced host (path :: places) known env walk := by
  have absent : walk.1.2.find? path = some false := grows h
  have same : asked known walk.1.2 (path :: places) = asked known walk.1.2 places := by
    rw [asked, upToFile_cons_of_false absent, unknown_cons_of_some h]
    rfl
  refine ⟨?_, ?_, ?_, ?_, ?_, rest.fresh⟩
  · rw [List.find?_cons_of_neg (not_confirmed_of_false absent)]
    exact rest.found
  · rw [upToFile_cons_of_false absent, ReentrantHost.firstPresent_cons,
      ReentrantHost.look_of_some _ h]
    exact rest.lazy
  all_goals rw [same]
  · exact rest.probes
  · exact rest.learnt
  · exact rest.world

/-- The host is asked about the nearest place, and it is a file. -/
theorem asked_true (h : known.find? path = none) (yes : (host.isFile path env.world).1 = true)
    (places : List Path) :
    Traced host (path :: places) known env
      ((some path, known.push path true h), probed host path env) := by
  have present : (known.push path true h).find? path = some true := by
    rw [Memo.find?_push, if_pos rfl]
  have one : asked known (known.push path true h) (path :: places) = [path] := by
    rw [asked, upToFile_cons_of_true present, unknown_cons_of_none h true]
    rfl
  refine ⟨?_, ?_, ?_, ?_, ?_, rfl⟩
  · exact (List.find?_cons_of_pos (confirmed_of_true present)).symm
  · rw [upToFile_cons_of_true present, ReentrantHost.firstPresent_cons, look_of_none h]
    simp only [yes, if_true]
  all_goals rw [one]
  · rfl
  · rw [said_cons]
    dsimp only
    rw [yes]
    rfl
  · rfl

/-- The host is asked about the nearest place, and it is no file. -/
theorem asked_false (h : known.find? path = none) (no : (host.isFile path env.world).1 = false)
    (grows : (known.push path false h).Grows walk.1.2)
    (rest : Traced host places (known.push path false h) (probed host path env) walk) :
    Traced host (path :: places) known env walk := by
  have absent : walk.1.2.find? path = some false := by
    apply grows
    rw [Memo.find?_push, if_pos rfl]
  have more : asked known walk.1.2 (path :: places)
      = path :: asked (known.push path false h) walk.1.2 places := by
    rw [asked, upToFile_cons_of_false absent, unknown_cons_of_none h false]
    rfl
  refine ⟨?_, ?_, ?_, ?_, ?_, rest.fresh⟩
  · rw [List.find?_cons_of_neg (not_confirmed_of_false absent)]
    exact rest.found
  · rw [upToFile_cons_of_false absent, ReentrantHost.firstPresent_cons, look_of_none h]
    simp only [no]
    exact rest.lazy
  all_goals rw [more]
  · rw [rest.probes, probed, List.append_assoc]
    rfl
  · rw [rest.learnt, said_cons, Memo.push, List.append_assoc]
    dsimp only
    rw [no]
    rfl
  · rw [rest.world, said_cons]
    rfl

end Traced

/-- **The trace of a walk.** -/
theorem firstPresent_traced (host : Host σ) (places : List Path) (known : Presence)
    (env : Env σ Options) :
    Traced host places known env ((((reentrant host).firstPresent places).run known).run env) := by
  induction places generalizing known env with
  | nil => exact ⟨rfl, rfl, (List.append_nil _).symm, (List.append_nil _).symm, rfl, rfl⟩
  | cons path rest ih =>
    rw [ReentrantHost.firstPresent_cons]
    rcases h : known.find? path with - | present
    · rw [look_of_none h]
      rcases said : (host.isFile path env.world).1 with - | -
      · exact .asked_false h said (ReentrantHost.firstPresent_grows _ rest _ _) (ih _ _)
      · exact .asked_true h said rest
    · rw [ReentrantHost.look_of_some _ h]
      rcases present with - | -
      · exact .known_false h (ReentrantHost.firstPresent_grows _ rest known env) (ih known env)
      · exact .known_true h rest

/-! ### The trace of a lookup -/

/-- What looking up a file comes to, where `places` are the places that may govern it. -/
structure TracedLookup (locator : Locator) (host : Host σ) (file : String) (places : List Path)
    (known : Presence) (env : Env σ Options) (done : (Scope × Presence) × Env σ Options) :
    Prop where
  /-- The scope is that of the first place that is known to be a file in the end, in the place's own
  bytes, or else the default scope. -/
  scope : done.1.1 = locator.scopeOf (places.find? (confirmed done.1.2))
  /-- The host is asked about the places up to that one of which nothing was known, each path once
  and as the place spells it, nearest first.  A line ends the record. -/
  probes : done.2.journal
    = env.journal ++ (asked known done.1.2 places).map .probed
      ++ [.noted (locator.noteOf file (places.find? (confirmed done.1.2)))]
  /-- What the host says about them is learnt, and nothing else. -/
  learnt : done.1.2.entries = known.entries ++ (asked known done.1.2 places).zip
    (said host (asked known done.1.2 places) ((reentrant host).entered env).world).1
  /-- The world is the one in which the host has said so. -/
  world : done.2.world
    = (said host (asked known done.1.2 places) ((reentrant host).entered env).world).2
  /-- No identity is given out. -/
  fresh : done.2.fresh = env.fresh
  /-- The walk comes to the same if there are no places behind the one that is found. -/
  lazy :
    let start := (reentrant host).entered env
    (((reentrant host).firstPresent (upToFile done.1.2 places)).run known).run start
      = (((reentrant host).firstPresent places).run known).run start
  /-- If the name of a configuration is an absolute path, the host is asked at most once. -/
  once : (Path.ofText locator.configName).isAbsolute = true →
    (asked known done.1.2 places).length ≤ 1

/-- An absolute name is one place, whichever directory it is joined to. -/
theorem eq_of_mem_places {locator : Locator} {directory path : Path} {file : String}
    (absolute : (Path.ofText locator.configName).isAbsolute = true)
    (mem : path ∈ locator.places directory file) : path = Path.ofText locator.configName := by
  obtain ⟨above, -, rfl⟩ := List.mem_map.1 mem
  rw [Path.join, if_pos absolute]

/-- **The trace of a lookup**, for every host and whatever is known before. -/
theorem locate_traced (locator : Locator) (host : Host σ) (file : String) (known : Presence)
    (env : Env σ Options) :
    TracedLookup locator host file (locator.places (host.workingDirectory env.world).1 file) known
      env (((locator.locate host file).run known).run env) := by
  have traced := firstPresent_traced host (locator.places (host.workingDirectory env.world).1 file)
    known ((reentrant host).entered env)
  rw [locate_run]
  refine ⟨?_, ?_, traced.learnt, traced.world, traced.fresh, traced.lazy, ?_⟩
  · exact congrArg locator.scopeOf traced.found
  · dsimp only
    rw [← traced.found, traced.probes]
    rfl
  · intro absolute
    apply length_unknown_le_one
    intro path mem
    exact eq_of_mem_places absolute (mem_of_mem_upToFile mem)

end ScopedImports.Locator
