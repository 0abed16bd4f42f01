import ScopedImports.Proofs.Settings.Reference

/-!
Texts and values are read as the settings that they describe.

A text has its members visited in the order in which it gives them, a value has them visited in an
order of its own.  Where no member is given twice, both come to the settings that the value
describes, or to none.  A text may give a member twice, and is refused then; other names it may
repeat.

    { "x" : 1 , "x" : 2 }                               the defaults
    { "case_sensitive" : true , "case_sensitive" : true }    refused
-/

namespace ScopedImports.Settings.Codec

open Json (Phrase Quotation)

/-- **Texts and values are read as the settings that they describe.**  Let a library code settings
as it documents, and let `v` be any value.  A text that spells `v` is parsed to it, whichever white
space and escapes it does so with (`Documented.parse_of_spells`).

* If no name is given twice, the value is read if and only if it is an object, or an array that is
  not longer than there are members, and gives the members what they take.  It is read as the
  settings that it describes: a field is what is given for it, or else its default.
* Any text that is parsed to such a value is read just as the value is.
* Names that are no member's may be repeated in a text.  As long as no member is given twice, it is
  read as the settings that its value describes.
* A text that gives a member twice is not read, whatever it gives. -/
theorem reads_described {codec : Codec} (documented : codec.Documented) (v : Json) :
    (Distinct v →
      ((∃ s, codec.ofValue v = some s) ↔ Shaped v ∧ ∀ m w, Gives v m w → m.Takes w) ∧
      ∀ s, codec.ofValue v = some s ↔ Describes v s) ∧
    ∀ text, codec.parse text = some v →
      (Distinct v → ∀ s, codec.ofText text = some s ↔ codec.ofValue v = some s) ∧
      (¬ GivesTwice v →
        ((∃ s, codec.ofText text = some s) ↔ Shaped v ∧ ∀ m w, Gives v m w → m.Takes w) ∧
        ∀ s, codec.ofText text = some s ↔ Describes v s) ∧
      (GivesTwice v → codec.ofText text = none) := by
  have accepted {read : Option Settings} (once : ¬ GivesTwice v)
      (described : ∀ s, read = some s ↔ Describes v s) :
      (∃ s, read = some s) ↔ Shaped v ∧ ∀ m w, Gives v m w → m.Takes w := by
    rw [← exists_describes_iff once]
    exact exists_congr described
  refine ⟨fun distinct => ?_, fun text parsed => ⟨fun distinct s => ?_, fun once => ?_, ?_⟩⟩
  · have described (s : Settings) : codec.ofValue v = some s ↔ Describes v s :=
      documented.ofValue_eq_some_iff distinct
    exact ⟨accepted distinct.not_givesTwice described, described⟩
  · rw [documented.ofText_eq_some_iff parsed, documented.ofValue_eq_some_iff distinct,
      and_iff_right distinct.not_givesTwice]
  · have described (s : Settings) : codec.ofText text = some s ↔ Describes v s := by
      rw [documented.ofText_eq_some_iff parsed, and_iff_right once]
    exact ⟨accepted once described, described⟩
  · intro twice
    refine Option.eq_none_iff_forall_ne_some.2 fun s read => ?_
    exact ((documented.ofText_eq_some_iff parsed).1 read).1 twice

/-- The name of a member with an escape in it, and another name with an object behind it that the
members are not looked for in. -/
def respelt : String :=
  "\x7b\"x\": \x7b\"case_sensitive\": 1\x7d, \"config\\u005ffile_name\":\n\"a\"\x7d"

theorem reads_described_respelt :
    let v : Json := .object [("x", .object [("case_sensitive", .number (.ofNat 1))]),
      ("config_file_name", .string "a")]
    let s : Settings := { default with configName := "a" }
    reference.parse respelt = some v ∧ Distinct v ∧ reference.ofValue v = some s ∧
      reference.ofText respelt = some s := by
  intro v s
  have x : Quotation.text ⟨[.char 'x'], none⟩ = .ok "x" := rfl
  have sensitive : Quotation.text ⟨"case_sensitive".toList.map .char, none⟩
      = .ok "case_sensitive" := rfl
  have config : Quotation.text ⟨"config".toList.map .char ++ .unit 0x5f ::
      "file_name".toList.map .char, none⟩ = .ok "config_file_name" := rfl
  have a : Quotation.text ⟨[.char 'a'], none⟩ = .ok "a" := rfl
  have inner := (Phrase.member sensitive (.number (.ofNat 1))).object
  have phrase := ((Phrase.member x inner).nextMember config (.string a)).object
  have spelt : Json.Spells respelt v := Json.spells_of_phrase phrase (by decide +kernel)
  have within : Json.Within reference.inRange (· < Json.levels) 0 v := by
    refine .object (by decide) (List.forall_mem_cons.2 ⟨.object (by decide) ?_, ?_⟩)
    · exact List.forall_mem_singleton.2 (.number _ rfl)
    · exact List.forall_mem_singleton.2 (.string _ _)
  have distinct : Distinct v := by
    refine .object (by decide) (List.forall_mem_cons.2 ⟨.object (by decide) ?_, ?_⟩)
    · exact List.forall_mem_singleton.2 (.number _)
    · exact List.forall_mem_singleton.2 (.string _)
  have parsed := reference_documented.parse_of_spells spelt within
  obtain ⟨value, text⟩ := reads_described reference_documented v
  obtain ⟨same, -, -⟩ := text respelt parsed
  have read : reference.ofValue v = some s := rfl
  exact ⟨parsed, distinct, read, (same distinct s).2 read⟩

end ScopedImports.Settings.Codec
