import ScopedImports.InMemory.Host
import ScopedImports.Proofs.Lookup.Neighbours
import ScopedImports.Proofs.Path.Folding
import ScopedImports.Proofs.Path.Names

/-!
The directory of a located configuration encloses the file, as the file is written.

The walk takes one component after the other off the anchored file and folds nothing.  What is
written of the file's directory is therefore the directory of the configuration and then some more
steps:

    file             /a/b/../c/x      its directory   /a/b/../c
    configuration    /a/b/n           its directory   /a/b          more steps   ..  c

Whether the one is above the other once they are folded depends on these steps.  It is, where they
stay (`Path.Stays`), and in particular where there is no `..` among them.  A directory that the path
leaves again, such as `/a/b` here, is a place like any other: if it is the nearest that has a
configuration, that configuration governs the file.
-/

namespace ScopedImports

namespace Path

/-! ### Directories, as they are written -/

/-- How the directory `above` lies around the directory `below`, which has `rest` behind it. -/
structure Encloses (above below : Path) (rest : List Component) : Prop where
  /-- What is written of the one is a start of what is written of the other. -/
  written : below.components = above.components ++ rest
  /-- Going on from the directory never leads out of it if and only if what is behind it stays, or
  the directory is the root. -/
  within : (∀ n, above.folded <+: follow above.folded (rest.take n)) ↔
    above.folded = [] ∨ Stays rest
  /-- Then it is above the other, or the same, once both are folded. -/
  folded : above.folded = [] ∨ Stays rest → above.folded <+: below.folded
  /-- Without `..` behind it, it always is. -/
  plain : .up ∉ rest → above.folded <+: below.folded

theorem Encloses.of_components {above below : Path} {rest : List Component}
    (written : below.components = above.components ++ rest) (relative : .root ∉ rest) :
    Encloses above below rest := by
  have within := isPrefix_follow_iff relative above.folded
  have whole : below.folded = follow above.folded (rest.take rest.length) := by
    rw [Path.folded, written, follow_append, List.take_length]
    rfl
  have led (stays : above.folded = [] ∨ Stays rest) : above.folded <+: below.folded := by
    rw [whole]
    exact within.2 stays rest.length
  exact ⟨written, within, led, fun down => led (.inr (.of_up_not_mem down))⟩

theorem isAbsolute_anchor {directory : Path} (absolute : directory.isAbsolute = true) (p : Path) :
    (p.anchor directory).isAbsolute = true := by
  rw [anchor, join]
  by_cases rooted : p.isAbsolute = true
  · rw [if_pos rooted]
    exact rooted
  · rw [if_neg rooted]
    obtain ⟨bytes⟩ := directory
    rcases bytes with - | ⟨b, bytes⟩
    · cases absolute
    · split
      · exact absolute
      · exact absolute

/-- A name is joined to its directory, in some spelling. -/
theorem parent_join_name {d : Path} {name : String} (solid : d.bytes ≠ []) (isName : IsName name) :
    ∃ above, (d.join (ofText name)).parent = some above ∧ above.components = d.components := by
  have relative : ¬ (ofText name).isAbsolute = true := by simp [isName.relative]
  have joined := components_join solid relative
  rw [isName.steps_eq] at joined
  have up : (d.join (ofText name)).parent ≠ none := by
    rw [Ne, parent_eq_none_iff, joined]
    rintro (none | root)
    · simp at none
    · have last := congrArg List.getLast? root
      rw [List.getLast?_concat] at last
      cases last
  obtain ⟨above, parent⟩ := Option.ne_none_iff_exists'.1 up
  refine ⟨above, parent, ?_⟩
  rw [components_parent parent, joined, List.dropLast_concat]

/-- The directory of every place encloses that of the file. -/
theorem exists_encloses {file place : Path} {name : String} (absolute : file.isAbsolute = true)
    (isName : IsName name) (mem : place ∈ file.candidates name) :
    ∃ above below rest, place.parent = some above ∧ file.parent = some below ∧
      Encloses above below rest := by
  obtain ⟨k, there⟩ := List.mem_iff_getElem?.1 mem
  have lt := lt_of_getElem?_candidates there
  -- the place is the name, joined to a directory above the file
  obtain ⟨d, here, -, components⟩ := getElem?_candidates lt name
  rw [here] at there
  obtain rfl := Option.some.inj there
  have solid : d.bytes ≠ [] := by
    rw [Ne, ← components_eq_nil_iff, components, origin, if_pos absolute]
    simp
  obtain ⟨above, parent, directory⟩ := parent_join_name solid isName
  rcases parent_cases file with ⟨-, none⟩ | ⟨below, last, parent', -, start, rungs⟩
  · simp [none] at lt
  · refine ⟨above, below, below.rungs.drop (file.rungs.length - 1 - k), parent, parent', ?_⟩
    apply Encloses.of_components
    · have before : file.rungs.length - 1 - k ≤ below.rungs.length := by
        rw [rungs, List.length_append, List.length_singleton]
        omega
      have first : file.rungs.take (file.rungs.length - 1 - k)
          = below.rungs.take (file.rungs.length - 1 - k) := by
        rw [rungs] at before ⊢
        exact List.take_append_of_le_length before
      rw [directory, components, components_eq_rungs, start, first, List.append_assoc,
        List.take_append_drop]
    · exact fun mem => root_not_mem_rungs below (List.mem_of_mem_drop mem)

end Path

namespace Locator

variable {σ Options : Type}

/-! ### Look-ups -/

/-- What a look-up comes to, and how what is found lies around the file. -/
structure EnclosedLookup (locator : Locator) (directory : Path) (file : String)
    (done : (Scope × Presence) × Env σ Options) (found : Option Path) : Prop where
  /-- The answer is the scope of what was found, or the default scope. -/
  scope : done.1.1 = locator.scopeOf found
  /-- The line says which. -/
  line : done.2.journal.getLast? = some (.noted (locator.noteOf file found))
  /-- What is found is the nearest place at which there is a file, as far as is known in the end,
  whether the path leaves its directory again or not. -/
  nearest : Decided done.1.2 (locator.places directory file) found
  /-- Its directory is written in front of that of the file, and encloses it. -/
  encloses : ∀ place, found = some place → ∃ above below rest, place.parent = some above ∧
    ((Path.ofText file).anchor directory).parent = some below ∧ Path.Encloses above below rest

theorem Decided.mem {known : Presence} {places : List Path} {place : Path}
    (h : Decided known places (some place)) : place ∈ places := by
  cases h with
  | found nearer place farther split absent present =>
    rw [split]
    exact List.mem_append_right _ List.mem_cons_self

/-- **The directory of a located configuration encloses the file**, for every host, also one that
uses what is known, and whatever is known before. -/
theorem located_encloses {locator : Locator} (isName : Path.IsName locator.configName)
    {directory : Path} (absolute : directory.isAbsolute = true) (file : String) (known : Presence)
    (env : Env σ Options) :
    (∀ host : ReentrantHost σ Options, (host.workingDirectory env.world).1 = directory →
      ∃ found, EnclosedLookup locator directory file
        (((locator.locateBy host file).run known).run env) found) ∧
    (∀ host : Host σ, (host.workingDirectory env.world).1 = directory →
      ∃ found, EnclosedLookup locator directory file
        (((locator.locate host file).run known).run env) found) := by
  have reentrantly (host : ReentrantHost σ Options)
      (here : (host.workingDirectory env.world).1 = directory) :
      ∃ found, EnclosedLookup locator directory file
        (((locator.locateBy host file).run known).run env) found := by
    obtain ⟨found, scope, line, decided⟩ := locateBy_decided locator host file known env
    rw [here] at decided
    refine ⟨found, scope, line, decided, ?_⟩
    rintro place rfl
    exact Path.exists_encloses (Path.isAbsolute_anchor absolute _) isName decided.mem
  exact ⟨reentrantly, fun host => reentrantly (reentrant host)⟩

/-- One directory down and up again, and the configuration of the directory above is found. -/
theorem located_encloses_downAndUp :
    let locator : Locator := ⟨"n", Scope.ofPath (Path.ofText "/d/n")⟩
    let host := InMemory.setHost (Path.ofText "/") .bySpelling false
    let env : Env InMemory.World String := ⟨.ofFiles [Path.ofText "/a/n"], 0, []⟩
    (((locator.locate host "a/b/../x").run ∅).run env).1.1 = Scope.ofPath (Path.ofText "/a/n") ∧
      ∃ above below rest, (Path.ofText "/a/n").parent = some above ∧
        ((Path.ofText "a/b/../x").anchor (Path.ofText "/")).parent = some below ∧
        below.components = above.components ++ rest ∧ .up ∈ rest ∧
        above.folded <+: below.folded := by
  intro locator host env
  have isName : Path.IsName locator.configName := ⟨by decide, by decide, by decide, by decide⟩
  have absolute : (Path.ofText "/").isAbsolute = true := by decide
  obtain ⟨-, plainly⟩ := located_encloses isName absolute "a/b/../x" ∅ env
  obtain ⟨found, lookup⟩ := plainly host rfl
  have answer : (((locator.locate host "a/b/../x").run ∅).run env).1.1
      = Scope.ofPath (Path.ofText "/a/n") := by decide +kernel
  have place : found = some (Path.ofText "/a/n") := by
    have scope := lookup.scope.symm.trans answer
    rcases found with - | place
    · revert scope
      decide +kernel
    · exact congrArg (some ∘ Scope.path) scope
  obtain ⟨above, below, rest, parent, parent', encloses⟩ := lookup.encloses _ place
  refine ⟨answer, above, below, rest, parent, parent', encloses.written, ?_⟩
  have outer : (Path.ofText "/a/n").parent = some (Path.ofText "/a") := by decide +kernel
  have inner : ((Path.ofText "a/b/../x").anchor (Path.ofText "/")).parent
      = some (Path.ofText "/a/b/..") := by decide +kernel
  obtain rfl := Option.some.inj (outer.symm.trans parent)
  obtain rfl := Option.some.inj (inner.symm.trans parent')
  obtain rfl : [.name [98], .up] = rest := by
    apply List.append_cancel_left
    rw [← encloses.written]
    decide +kernel
  exact ⟨by decide, encloses.folded (.inr (by decide))⟩

/-- The configuration of a directory that the path leaves again governs the file, although its
directory is not above that of the file. -/
theorem located_where_path_left :
    let locator : Locator := ⟨"tsconfig.json", Scope.ofPath (Path.ofText "/d/tsconfig.json")⟩
    let host := InMemory.setHost (Path.ofText "/") .bySpelling false
    let place := Path.ofText "/a/b/tsconfig.json"
    let env : Env InMemory.World String := ⟨.ofFiles [place], 0, []⟩
    let done := ((locator.locate host "/a/b/../c/x.ts").run ∅).run env
    Path.IsName locator.configName ∧ (Path.ofText "/").isAbsolute = true ∧
      done.1.1 = Scope.ofPath place ∧
      done.2.journal.getLast? = some (.noted (.located "/a/b/../c/x.ts" (Scope.ofPath place))) ∧
      ∃ above below, place.parent = some above ∧
        ((Path.ofText "/a/b/../c/x.ts").anchor (Path.ofText "/")).parent = some below ∧
        ¬ above.folded <+: below.folded := by
  intro locator host place env done
  have isName : Path.IsName locator.configName := ⟨by decide, by decide, by decide, by decide⟩
  have outer : place.parent = some (Path.ofText "/a/b") := by decide +kernel
  have inner : ((Path.ofText "/a/b/../c/x.ts").anchor (Path.ofText "/")).parent
      = some (Path.ofText "/a/b/../c") := by decide +kernel
  have apart : ¬ (Path.ofText "/a/b").folded <+: (Path.ofText "/a/b/../c").folded := by
    decide +kernel
  exact ⟨isName, by decide, by decide +kernel, by decide +kernel, _, _, outer, inner, apart⟩

end Locator

end ScopedImports
