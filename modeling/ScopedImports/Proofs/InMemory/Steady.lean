import ScopedImports.InMemory.Finder
import ScopedImports.InMemory.Host
import ScopedImports.InMemory.Loader
import ScopedImports.Proofs.Resolution.Replay
import ScopedImports.Session.Basic

/-!
Collaborators in memory, as long as the files stay the same.

The host answers from the set of files, and the composing finder from its cache and the host; what
they write into the world is a record that nothing they say depends on.  A prepared loader is steady
only where it has at most one result for a configuration file: with more, its answers differ from
request to request, but the files it leaves alone.
-/

namespace ScopedImports.InMemory

/-- The world in which there are these files, whatever is on record. -/
def FilesAre (files : List Path) (world : World) : Prop := world.files = files

variable {files : List Path}

/-! ### The host -/

section Host

variable (directory : Path) (matching : Matching) (fold : Bool)

theorem workingDirectory_answers :
    Answers (FilesAre files) (setHost directory matching fold).workingDirectory directory :=
  .pure directory

theorem isFile_answers (path : Path) :
    Answers (FilesAre files) ((setHost directory matching fold).isFile path)
      (files.any (matching.agrees path)) := by
  rintro world rfl
  exact ⟨rfl, rfl⟩

theorem canonicalName_answers (name : String) :
    Answers (FilesAre files) ((setHost directory matching fold).canonicalName name)
      (if fold then name.map Char.toLower else name) :=
  .pure _

end Host

/-! ### The loader -/

theorem preparedLoader_keeps (prepared : Prepared) (path : Path) :
    Keeps (FilesAre files) (preparedLoader prepared path) := by
  rintro world rfl
  rfl

/-- With at most one result for each configuration file, a prepared loader always answers alike. -/
theorem preparedLoader_answers {prepared : Prepared} (once : ∀ entry ∈ prepared, entry.2.length ≤ 1)
    (path : Path) :
    Answers (FilesAre files) (preparedLoader prepared path) (prepared.result path 0) := by
  have same (n : Nat) : prepared.result path n = prepared.result path 0 := by
    unfold Prepared.result
    split
    case h_1 => rfl
    case h_2 place results hit =>
      have short : results.length ≤ 1 := once _ (List.mem_of_find?_eq_some hit)
      have last : results.length - 1 = 0 := by omega
      rw [last, Nat.min_zero, Nat.min_zero]
  rintro world rfl
  exact ⟨same _, rfl⟩

/-! ### The finder -/

theorem newCache_answers (directory : Path) {host : Host World}
    (canonical : ∀ name, ∃ key, Answers (FilesAre files) (host.canonicalName name) key) :
    Answers (FilesAre files) (composingFinder.newCache directory host) ⟨directory, ∅, 0⟩ := by
  obtain ⟨sample, answers⟩ := canonical "Aa"
  refine Answers.bind answers ?_
  rintro world rfl
  exact ⟨rfl, rfl⟩

/-- What the finder makes of a name with the canonical form `key`. -/
def remembered (key name options : String) (modules : Modules) : Option String × Modules :=
  match modules.known.find? key with
  | some module => (some module, { modules with hits := modules.hits + 1 })
  | none =>
    let settled := modules.known.settle key (compose options name)
    (some settled.1, { modules with known := settled.2 })

section Find

variable {Stable : World → Prop} {host : Host World} {name : String} {modules : Modules}
variable (file options : String)

theorem find_nothing_answers (target : Target.ofName name = .nothing) :
    Answers Stable (composingFinder.find name file options host modules) (none, modules) := by
  show Answers Stable (findModule name options host modules) _
  rw [findModule, target]
  exact .pure _

theorem find_probed_answers {path : String} (target : Target.ofName name = .probed path)
    {found : Bool} (present : Answers Stable (host.isFile (Path.ofText path)) found) :
    Answers Stable (composingFinder.find name file options host modules)
      (if found then some path else none, modules) := by
  show Answers Stable (findModule name options host modules) _
  rw [findModule, target]
  exact present.bind (.pure _)

theorem find_composed_answers (target : Target.ofName name = .composed) {key : String}
    (canonical : Answers Stable (host.canonicalName name) key) :
    Answers Stable (composingFinder.find name file options host modules)
      (remembered key name options modules) := by
  show Answers Stable (findModule name options host modules) _
  rw [findModule, target]
  refine canonical.bind ?_
  rw [remembered]
  rcases modules.known.find? key with - | module
  · exact .pure _
  · exact .pure _

end Find

/-- The composing finder keeps what it knows in its cache. -/
theorem composingFinder_forgetful {host : Host World} {Stable : World → Prop}
    (present : ∀ path, ∃ found, Answers Stable (host.isFile path) found)
    (canonical : ∀ name, ∃ key, Answers Stable (host.canonicalName name) key) :
    composingFinder.Forgetful host Stable := by
  intro name file options modules
  rcases target : Target.ofName name with - | path | -
  · exact ⟨_, find_nothing_answers file options target⟩
  · obtain ⟨found, answers⟩ := present (Path.ofText path)
    exact ⟨_, find_probed_answers file options target answers⟩
  · obtain ⟨key, answers⟩ := canonical name
    exact ⟨_, find_composed_answers file options target answers⟩

/-- Every module that the finder remembers is the one it would compose now. -/
def Composes (options : String) (modules : Modules) : Prop :=
  ∀ ⦃key module⦄, modules.known.find? key = some module → module = compose options key

/-- Where a name is its own canonical form, a finder that remembers what it would compose answers by
composing, and goes on so. -/
theorem Composes.remembered {options : String} {modules : Modules} (h : Composes options modules)
    (name : String) :
    (remembered name name options modules).1 = some (compose options name) ∧
      Composes options (InMemory.remembered name name options modules).2 := by
  rw [InMemory.remembered]
  rcases known : modules.known.find? name with - | module
  · dsimp only
    rw [Memo.settle_of_none known]
    refine ⟨rfl, ?_⟩
    intro key module kept
    rcases Memo.of_find?_push known kept with ⟨same, rfl⟩ | before
    · rw [show name = key from same]
    · exact h before
  · exact ⟨congrArg some (h known), h⟩

/-- The session over collaborators in memory. -/
def sessionOver (host : Host World) (prepared : Prepared) (locator : Locator) :
    Session World String String Modules :=
  ⟨host, preparedLoader prepared, composingFinder, locator⟩

end ScopedImports.InMemory
