import ScopedImports.Proofs.InMemory.Steady
import ScopedImports.Proofs.Path.Ancestry
import ScopedImports.Proofs.Session.Resolvers

/-!
What a session remembers does not show.

A session remembers which paths are files, which resolver serves a scope, what the finder's caches
hold, and, within a batch, what a name resolved to.  As long as the collaborators always answer
alike, none of this can be told from its answers:

    resolve names file  after any requests  =  resolve names file  of one who remembers nothing.

One who remembers nothing goes from the file to its configuration, from there to the options, and
from the options and each name to a module, asking afresh every time (`Answering.resolve`).

The invariant behind it is that all that is remembered is true (`Faithful`).  Each memory has its
own notion of the same key, and each is as fine as the answers need: presence must not tell two
spellings of a path apart, the loader may, and so may the finder with names.
-/

namespace ScopedImports

variable {σ Options Module Cache : Type}

/-! ### One who remembers nothing -/

/-- What collaborators say that always answer alike. -/
structure Answering (Options Module : Type) where
  directory : Path
  present : Path → Bool
  options : Path → Except Failure Options
  module : (name file : String) → Options → Option Module

namespace Answering

variable (answering : Answering Options Module)

/-- The configuration that governs a file: the nearest one in the directories above the file, or
else the one of the project. -/
def governing (settings : Settings) (file : String) : Path :=
  let places := match ((Path.ofText file).anchor answering.directory).parent with
    | none => []
    | some directory =>
      directory.ancestors.map fun above : Path => above.join (Path.ofText settings.configName)
  (places.find? answering.present).getD (settings.projectConfig.anchor answering.directory)

/-- Resolve a batch: the options of the governing configuration, and one module for each name. -/
def resolve (settings : Settings) (names : List String) (file : String) :
    Except Failure (List (Option Module)) :=
  (answering.options (answering.governing settings file)).map fun options =>
    names.map fun name => answering.module name file options

end Answering

/-! ### Collaborators that always answer alike -/

/-- The caches that the finder can be handed for given options: new ones, and those that it leaves
behind after a call with these options. -/
inductive Finder.Handed (finder : Finder σ Options Module Cache) (host : Host σ)
    (Stable : σ → Prop) (directory : Path) (options : Options) : Cache → Prop
  | new {world : σ} : Stable world →
      Handed finder host Stable directory options ((finder.newCache directory host).run world).1
  | next {cache : Cache} {world : σ} (name file : String) : Stable world →
      Handed finder host Stable directory options cache →
      Handed finder host Stable directory options
        ((finder.find name file options host cache).run world).1.2

/-- In a stable world the collaborators say what `answering` says.  The host does not tell two
spellings of a path apart, and the finder's answer does not depend on which of the caches for the
options it is handed. -/
structure Answering.Describes (answering : Answering Options Module) (host : Host σ)
    (loader : Loader σ Options) (finder : Finder σ Options Module Cache) (Stable : σ → Prop) :
    Prop where
  directory : Answers Stable host.workingDirectory answering.directory
  present : ∀ path, Answers Stable (host.isFile path) (answering.present path)
  same : ∀ path path' : Path, path.Same path' → answering.present path = answering.present path'
  options : ∀ path, Answers Stable (loader path) (answering.options path)
  newCache : Keeps Stable (finder.newCache answering.directory host)
  module : ∀ name file options cache, finder.Handed host Stable answering.directory options cache →
    ∀ world, Stable world →
      ((finder.find name file options host cache).run world).1.1
          = answering.module name file options ∧
        Stable ((finder.find name file options host cache).run world).2

/-! ### In memory -/

namespace InMemory

/-- There is a file at the path, however it is spelt. -/
def present (files : List Path) (path : Path) : Bool :=
  files.any (Matching.byComponents.agrees path)

/-- The module of a name, with nothing remembered. -/
def moduleOf (files : List Path) (name options : String) : Option String :=
  match Target.ofName name with
  | .nothing => none
  | .probed path => if present files (Path.ofText path) then some path else none
  | .composed => some (compose options name)

/-- What collaborators in memory say while the files stay the same. -/
def answering (files : List Path) (directory : Path) (prepared : Prepared) :
    Answering String String :=
  ⟨directory, present files, fun path => prepared.result path 0,
    fun name _ options => moduleOf files name options⟩

variable (files : List Path) (directory : Path)

/-- A finder that remembers what it would compose answers as if it remembered nothing. -/
theorem find_answers (name file : String) {options : String} {modules : Modules}
    (h : Composes options modules) :
    ∃ later, Composes options later ∧ Answers (FilesAre files)
      (composingFinder.find name file options (setHost directory .byComponents false) modules)
      (moduleOf files name options, later) := by
  rw [moduleOf]
  rcases target : Target.ofName name with - | path | -
  · exact ⟨modules, h, find_nothing_answers file options target⟩
  · have there : Answers (FilesAre files) _ (present files (Path.ofText path)) :=
      isFile_answers directory .byComponents false (Path.ofText path)
    exact ⟨modules, h, find_probed_answers file options target there⟩
  · obtain ⟨composed, later⟩ := h.remembered name
    have canonical : Answers (FilesAre files)
        ((setHost directory .byComponents false).canonicalName name) name :=
      canonicalName_answers directory .byComponents false name
    refine ⟨_, later, ?_⟩
    rw [← composed]
    exact find_composed_answers file options target canonical

/-- Whatever the finder is handed, it remembers what it would compose. -/
theorem composes_of_handed {options : String} {modules : Modules}
    (handed : composingFinder.Handed (setHost directory .byComponents false) (FilesAre files)
      directory options modules) : Composes options modules := by
  induction handed with
  | new stable =>
    have empty := newCache_answers directory
      (fun name => ⟨_, canonicalName_answers directory .byComponents false name⟩) _ stable
    rw [empty.1]
    exact fun _ _ known => nomatch known
  | next name file stable _ ih =>
    obtain ⟨later, composes, answers⟩ := find_answers files directory name file ih
    rw [(answers _ stable).1]
    exact composes

/-- Collaborators in memory always answer alike, as long as the files stay the same and no
configuration file has more than one result. -/
theorem describes {prepared : Prepared} (once : ∀ entry ∈ prepared, entry.2.length ≤ 1) :
    (answering files directory prepared).Describes (setHost directory .byComponents false)
      (preparedLoader prepared) composingFinder (FilesAre files) where
  directory := workingDirectory_answers directory .byComponents false
  present := isFile_answers directory .byComponents false
  same path path' same := by
    have agrees (file : Path) :
        Matching.byComponents.agrees path file = Matching.byComponents.agrees path' file := by
      rw [Matching.agrees, Matching.agrees, decide_eq_decide, Path.Same, Path.Same, same]
    show present files path = present files path'
    rw [present, present, funext agrees]
  options := preparedLoader_answers once
  newCache := (newCache_answers directory
    fun name => ⟨_, canonicalName_answers directory .byComponents false name⟩).keeps
  module name file options modules handed world stable := by
    obtain ⟨later, -, answers⟩ := find_answers files directory name file
      (composes_of_handed files directory handed)
    exact ⟨congrArg Prod.fst (answers world stable).1, (answers world stable).2⟩

end InMemory

namespace Session

/-- All that is known about files is true, and the world is stable. -/
structure Truthful (answering : Answering Options Module) (Stable : σ → Prop) (known : Presence)
    (env : Env σ Options) : Prop where
  stable : Stable env.world
  presence : ∀ ⦃path found⦄, known.find? path = some found → answering.present path = found

/-- The resolver has the options that the loader gives for the scope, and a cache for them. -/
structure Fits (session : Session σ Options Module Cache) (answering : Answering Options Module)
    (Stable : σ → Prop) (scope : Scope) (resolver : Resolver Options Cache) : Prop where
  options : answering.options scope.path = .ok resolver.options
  cache : session.finder.Handed session.host Stable answering.directory resolver.options
    resolver.cache

/-- All that the session remembers is true. -/
structure Faithful (session : Session σ Options Module Cache) (answering : Answering Options Module)
    (Stable : σ → Prop) (state : State σ Options Cache) : Prop where
  sound : state.Sound
  truthful : Truthful answering Stable state.memory.presence state.env
  fits : ∀ ⦃scope resolver⦄, state.resolver? scope = some resolver →
    Fits session answering Stable scope resolver

theorem Faithful.of_empty (session : Session σ Options Module Cache)
    (answering : Answering Options Module) {Stable : σ → Prop} (env : Env σ Options)
    (stable : Stable env.world) : Faithful session answering Stable ⟨.empty, env⟩ where
  sound := State.sound_of_empty env
  truthful := ⟨stable, fun _ _ known => nomatch known⟩
  fits _ _ kept := nomatch kept

section Steps

variable {session : Session σ Options Module Cache} {answering : Answering Options Module}
variable {Stable : σ → Prop} {state : State σ Options Cache}
variable (describes : answering.Describes session.host session.loader session.finder Stable)

include describes

/-! ### Locating -/

theorem truthful_survives : Locator.SurvivesProbes session.host
    fun known (env : Env σ Options) => Truthful answering Stable known env := by
  rintro known env path new ⟨stable, truth⟩
  obtain ⟨answer, later⟩ := describes.present path _ stable
  refine ⟨later, ?_⟩
  intro other found known'
  rcases Memo.of_find?_push new known' with ⟨same, rfl⟩ | before
  · -- the path that was probed, perhaps in another spelling
    rw [← describes.same path other same]
    exact answer.symm
  · exact truth before

/-- The walk that locates a file ends at the first place that has a file, and all that is known
after it is true. -/
theorem walk_faithful (h : Faithful session answering Stable state) (file : String) :
    (session.walk state file).1.1
        = (session.locator.places answering.directory file).find? answering.present ∧
      Truthful answering Stable (session.walk state file).1.2 (session.walk state file).2 := by
  obtain ⟨here, stable⟩ := describes.directory _ h.truthful.stable
  change (session.host.workingDirectory state.env.world).1 = answering.directory at here
  have entered : Truthful answering Stable state.memory.presence
      ((Locator.reentrant session.host).entered state.env) := ⟨stable, h.truthful.presence⟩
  have kept := Locator.firstPresent_keeps (truthful_survives describes)
    (session.locator.places answering.directory file) entered
  have decided := (Locator.reentrant session.host).firstPresent_decides
    (session.locator.places answering.directory file) state.memory.presence
    ((Locator.reentrant session.host).entered state.env)
  rw [walk, here]
  exact ⟨decided.eq_find? kept.presence, kept⟩

/-- A file is located where the nearest configuration is. -/
theorem locate_faithful (h : Faithful session answering Stable state) (file : String) :
    (state.run (session.locate file)).1 = session.locator.scopeOf
        ((session.locator.places answering.directory file).find? answering.present) ∧
      Faithful session answering Stable (state.run (session.locate file)).2 := by
  obtain ⟨found, truthful⟩ := walk_faithful describes h file
  have sound : (state.run (session.locate file)).2.Sound := sound_preserved.locate file h.sound
  have same := session.resolver?_locate state file
  have answer : (state.run (session.locate file)).1
      = session.locator.scopeOf (session.walk state file).1.1 := by rw [locate_spec]
  have known : (state.run (session.locate file)).2.memory.presence
      = (session.walk state file).1.2 := by rw [locate_spec]
  have world : (state.run (session.locate file)).2.env.world
      = (session.walk state file).2.world := by rw [locate_spec]
  -- the walk moves presence and world; the resolvers are those from before
  refine ⟨by rw [answer, found], sound, ⟨?_, ?_⟩, ?_⟩
  · rw [world]
    exact truthful.stable
  · rw [known]
    exact truthful.presence
  · intro scope resolver kept
    exact h.fits (same scope ▸ kept)

/-! ### Obtaining a resolver -/

/-- What is given for a scope is what the loader says about it. -/
inductive Gives (answering : Answering Options Module) (scope : Scope) :
    Except Failure (Resolver Options Cache) → Prop
  | failure {failure : Failure} : answering.options scope.path = .error failure →
      Gives answering scope (.error failure)
  | resolver {resolver : Resolver Options Cache} :
      answering.options scope.path = .ok resolver.options → Gives answering scope (.ok resolver)

theorem obtain_faithful (h : Faithful session answering Stable state) (scope : Scope) :
    Gives answering scope (session.obtain state scope).1 ∧
      Faithful session answering Stable (session.obtain state scope).2 := by
  have sound : (session.obtain state scope).2.Sound := sound_preserved.obtain scope h.sound
  obtain ⟨loaded, stable⟩ := describes.options scope.path _ h.truthful.stable
  change (session.load state scope).1 = answering.options scope.path at loaded
  have obtains := session.obtains state scope
  generalize session.obtain state scope = done at sound obtains ⊢
  cases obtains with
  | stored kept => exact ⟨.resolver (h.fits kept).options, h⟩
  | rejected new failed =>
    exact ⟨.failure (loaded.symm.trans failed), sound, ⟨stable, h.truthful.presence⟩, h.fits⟩
  | @built options new ready =>
    have known : answering.options scope.path = .ok options := loaded.symm.trans ready
    -- the cache of the new resolver is one that the finder makes in a stable world
    obtain ⟨entered, steady, fresh⟩ := session.freshCache_of_answers describes.directory stable
    change session.freshCache (session.load state scope).2 = _ at fresh
    have world : Stable (session.freshCache (session.load state scope).2).2 := by
      rw [fresh]
      exact describes.newCache entered steady
    have cache : session.finder.Handed session.host Stable answering.directory options
        (session.freshCache (session.load state scope).2).1.2 := by
      rw [fresh]
      exact .new steady
    refine ⟨.resolver known, sound, ⟨world, h.truthful.presence⟩, ?_⟩
    intro other resolver kept
    rcases State.of_resolver?_push new kept with ⟨rfl, rfl⟩ | before
    · exact ⟨known, cache⟩
    · exact h.fits before

/-! ### Resolving a batch -/

/-- On a cache for the options the finder finds the module of every name, and leaves such a
cache. -/
theorem mapM_call {options : Options} (names : List String) (file : String) {cache : Cache}
    (handed : session.finder.Handed session.host Stable answering.directory options cache)
    {world : σ} (stable : Stable world) :
    let done := ((names.mapM (session.finder.call session.host options file)).run cache).run world
    done.1.1 = names.map (fun name => answering.module name file options) ∧
      session.finder.Handed session.host Stable answering.directory options done.1.2 ∧
      Stable done.2 := by
  induction names generalizing cache world with
  | nil => exact ⟨rfl, handed, stable⟩
  | cons name names ih =>
    obtain ⟨found, later⟩ := describes.module name file options cache handed world stable
    obtain ⟨rest, next, last⟩ := ih (handed.next name file stable) later
    rw [Finder.mapM_call_cons]
    refine ⟨?_, next, last⟩
    rw [List.map_cons, ← found, ← rest]

theorem batch_faithful (h : Faithful session answering Stable state) {scope : Scope}
    {resolver : Resolver Options Cache} (kept : state.resolver? scope = some resolver)
    (names : List String) (file : String) :
    (session.batch state resolver names file).1.map Resolution.module?
        = names.map (fun name => answering.module name file resolver.options) ∧
      Faithful session answering Stable (session.batch state resolver names file).2 := by
  have batched := session.batched state resolver names file
  have sound : (session.batch state resolver names file).2.Sound :=
    sound_preserved.batch names file kept h.sound
  have fits := h.fits kept
  have found := mapM_call describes names.eraseDups file fits.cache h.truthful.stable
  have bare := session.finder.answer_run session.host resolver.options names file resolver.cache
    state.env.world
  change session.bareBatch state resolver names file = _ at bare
  generalize ((names.eraseDups.mapM (session.finder.call session.host resolver.options file)).run
    resolver.cache).run state.env.world = done at found bare
  dsimp only at bare
  obtain ⟨modules, handed, stable⟩ := found
  refine ⟨?_, sound, ⟨?_, ?_⟩, ?_⟩
  -- every position takes the module of its own name, however often the name occurs
  · rw [batched.contents, bare, modules]
    exact Batch.spread_map _ names
  · rw [batched.world, bare]
    exact stable
  · rw [batched.memory]
    exact h.truthful.presence
  · intro other resolver' kept'
    rcases of_resolver?_batch kept (h.sound.scope_eq kept) kept' with ⟨rfl, rfl⟩ | ⟨-, before⟩
    · refine ⟨fits.options, ?_⟩
      rw [bare]
      exact handed
    · exact h.fits before

/-! ### Any run -/

/-- Every step keeps all that is remembered true. -/
theorem faithful_preserved : Preserves session (Faithful session answering Stable) where
  locate _ file h := (locate_faithful describes h file).2
  obtain _ scope h := (obtain_faithful describes h scope).2
  batch _ _ _ names file kept h := (batch_faithful describes h kept names file).2

/-- A faithful session answers like one who asks afresh. -/
theorem resolve_faithful (h : Faithful session answering Stable state) (names : List String)
    (file : String) :
    (state.run (session.resolve names file).run).1.map (List.map Resolution.module?)
      = (answering.options (session.locator.scopeOf ((session.locator.places answering.directory
          file).find? answering.present)).path).map fun options =>
            names.map fun name => answering.module name file options := by
  obtain ⟨located, asked⟩ := locate_faithful describes h file
  rw [resolve_run, resolveIn_run, ← located]
  obtain ⟨gives, later⟩ := obtain_faithful describes asked (state.run (session.locate file)).1
  rcases had : session.obtain (state.run (session.locate file)).2
      (state.run (session.locate file)).1 with ⟨failure | resolver, after⟩
  · rw [had] at gives
    cases gives with
    | failure unknown =>
      rw [unknown]
      rfl
  · have kept := session.resolver?_of_obtain _ (congrArg Prod.fst had)
    rw [had] at gives later kept
    cases gives with
    | resolver known =>
      rw [known]
      exact congrArg Except.ok (batch_faithful describes later kept names file).1

end Steps

/-- Where the walk of a session's locator leads is the governing configuration. -/
theorem path_scopeOf (answering : Answering Options Module) (settings : Settings) (file : String) :
    let locator : Locator := ⟨settings.configName,
      Scope.ofPath (settings.projectConfig.anchor answering.directory)⟩
    (locator.scopeOf ((locator.places answering.directory file).find? answering.present)).path
      = answering.governing settings file := by
  intro locator
  have path (found : Option Path) : (locator.scopeOf found).path
      = found.getD (settings.projectConfig.anchor answering.directory) := by
    rcases found with - | place
    · rfl
    · rfl
  rcases above : ((Path.ofText file).anchor answering.directory).parent with - | directory
  · simp only [path, Locator.places, Path.candidates_eq, Answering.governing, above]
  · simp only [path, Locator.places, Path.candidates_eq, Answering.governing, above, locator]

theorem resolve_final {session : Session σ Options Module Cache}
    {answering : Answering Options Module} {Stable : σ → Prop}
    (describes : answering.Describes session.host session.loader session.finder Stable)
    {settings : Settings} (placed : session.locator = ⟨settings.configName,
      Scope.ofPath (settings.projectConfig.anchor answering.directory)⟩)
    {env : Env σ Options} (stable : Stable env.world) (requests : List Request)
    (names : List String) (file : String) :
    ((session.final ⟨.empty, env⟩ requests).run (session.resolve names file).run).1.map
        (List.map Resolution.module?)
      = answering.resolve settings names file := by
  have faithful : Faithful session answering Stable (session.final ⟨.empty, env⟩ requests) :=
    (faithful_preserved describes).final requests (.of_empty session answering env stable)
  rw [resolve_faithful describes faithful, placed, path_scopeOf, Answering.resolve]

/-- **What a session remembers does not show.**  Start a session with any settings over
collaborators that always answer alike, and let it serve any requests.  Then it resolves any batch
as one does who remembers nothing. -/
theorem transparent {answering : Answering Options Module} {host : Host σ}
    {loader : Loader σ Options} {finder : Finder σ Options Module Cache} {Stable : σ → Prop}
    (describes : answering.Describes host loader finder Stable) (settings : Settings)
    {world : σ} (stable : Stable world) (fresh : Nat) (journal : List (Event Options))
    (requests : List Request) (names : List String) (file : String) :
    let started := (start settings host loader finder).run world
    let state := started.1.final ⟨.empty, ⟨started.2, fresh, journal⟩⟩ requests
    (state.run (started.1.resolve names file).run).1.map (List.map Resolution.module?)
      = answering.resolve settings names file := by
  obtain ⟨here, entered⟩ := describes.directory world stable
  have placed : ((start settings host loader finder).run world).1.locator
      = ⟨settings.configName,
          Scope.ofPath (settings.projectConfig.anchor answering.directory)⟩ := by
    rw [← here]
    rfl
  exact resolve_final describes placed entered requests names file

/-- In memory: after a failed load, a look-up under another spelling, and a batch that has left its
trace in the cache. -/
theorem transparent_inMemory :
    let files := [Path.ofText "/a/c"]
    let prepared : InMemory.Prepared := [(Path.ofText "/a/c", [.ok "o"])]
    let settings : Settings := ⟨Path.ofText "p", "c", true⟩
    let started := (start settings (InMemory.setHost (Path.ofText "/") .byComponents false)
      (InMemory.preparedLoader prepared) InMemory.composingFinder).run (.ofFiles files)
    let requests := [.resolve ["x"] "f", .locate "a//f", .hook ["x", "missing"] "a/f"]
    let state := started.1.final ⟨.empty, ⟨started.2, 0, []⟩⟩ requests
    (state.run (started.1.resolve ["y", "x"] "a/f").run).1.map (List.map Resolution.module?)
      = .ok [some "o/y.ts", some "o/x.ts"] := by
  intro files prepared settings started requests state
  have once : ∀ entry ∈ prepared, entry.2.length ≤ 1 := by decide
  have there : InMemory.FilesAre files (.ofFiles files) := rfl
  have answered := transparent (InMemory.describes files (Path.ofText "/") once) settings there 0 []
    requests ["y", "x"] "a/f"
  refine answered.trans ?_
  decide +kernel

end Session

end ScopedImports
