import ScopedImports.Proofs.Settings.Reference
import ScopedImports.Proofs.Text.Utf8

/-!
Settings are read back as they were written.

Settings can be written unless the bytes of their project configuration are no text.  The object
that they are written as describes them, in whichever order it has its members, and so it is enough
to know what texts and values are read as: the text spells the object, whichever characters the two
names have in them and whichever escapes stand for them.

    settings  -->  members with their values  -->  object or text
              <--           visit             <--
-/

namespace ScopedImports

theorem Path.text?_eq_some_iff {p : Path} {text : String} :
    p.text? = some text ↔ Path.ofText text = p := by
  rw [Path.text?, Option.map_eq_some_iff]
  constructor
  · rintro ⟨cs, read, rfl⟩
    rw [Path.ofText, String.toList_ofList, Utf8.decode?_eq_some_iff.1 read]
  · rintro rfl
    exact ⟨text.toList, Utf8.decode?_eq_some_iff.2 rfl, String.ofList_toList⟩

namespace Settings

/-- The members that settings are written as, for a project configuration that is the text. -/
def written (text : String) (s : Settings) : List (String × Json) :=
  [(Member.projectConfig.name, .string text), (Member.configName.name, .string s.configName),
    (Member.caseSensitive.name, .bool s.caseSensitive)]

variable {s : Settings} {text : String}

/-- The project configuration decides whether settings can be written. -/
theorem members?_eq (s : Settings) :
    s.members? = s.projectConfig.text?.map fun text => written text s := by
  rw [members?, Member.all]
  simp only [List.mapM_cons, List.mapM_nil, value?, Option.map_map]
  cases s.projectConfig.text? <;> rfl

theorem members?_eq_none_iff (s : Settings) :
    s.members? = none ↔ ¬ ∃ text, s.projectConfig = Path.ofText text := by
  rw [members?_eq, Option.map_eq_none_iff, Option.eq_none_iff_forall_ne_some, not_exists]
  exact forall_congr' fun text => not_congr (Path.text?_eq_some_iff.trans eq_comm)

theorem forall_mem_written {P : String × Json → Prop} :
    (∀ m ∈ written text s, P m) ↔ P (Member.projectConfig.name, .string text) ∧
      P (Member.configName.name, .string s.configName) ∧
      P (Member.caseSensitive.name, .bool s.caseSensitive) := by
  rw [written, List.forall_mem_cons, List.forall_mem_cons, List.forall_mem_singleton]

theorem distinct_written (text : String) (s : Settings) : Distinct (.object (written text s)) := by
  have names : (written text s).map Prod.fst = Member.all.map Member.name := rfl
  refine .object ?_ (forall_mem_written.2 ⟨.string _, .string _, .bool _⟩)
  rw [names]
  decide

/-- Written settings describe themselves. -/
theorem describes_written (same : Path.ofText text = s.projectConfig) :
    Describes (.object (written text s)) s where
  shaped := .object _
  projectConfig := by
    rw [← same]
    exact .given (.member List.mem_cons_self)
  configName := .given (.member (List.mem_cons_of_mem _ List.mem_cons_self))
  caseSensitive :=
    .given (.member (List.mem_cons_of_mem _ (List.mem_cons_of_mem _ List.mem_cons_self)))

theorem writable_written (text : String) (s : Settings) :
    Json.Writable (.object (written text s)) :=
  .object (forall_mem_written.2 ⟨.string _, .string _, .bool _⟩)

theorem within_written (inRange : Json.Numeral → Prop) (text : String) (s : Settings) :
    Json.Within inRange (· < Json.levels) 0 (.object (written text s)) :=
  .object (by decide) (forall_mem_written.2 ⟨.string _ _, .string _ _, .bool _ _⟩)

namespace Codec

variable {codec : Codec}

theorem Documented.exists_toText (documented : codec.Documented) {ms : List (String × Json)}
    (members : s.members? = some ms) :
    ∃ text, codec.toText s = some text ∧ codec.ofText text = some s := by
  refine ⟨_, documented.writtenText members, ?_⟩
  rw [members?_eq] at members
  obtain ⟨project, read, rfl⟩ := Option.map_eq_some_iff.1 members
  have spelt := Json.spells_write documented.escapes (writable_written project s)
  have parsed := documented.parse_of_spells spelt (within_written _ project s)
  exact (documented.ofText_eq_some_iff parsed).2
    ⟨(distinct_written project s).not_givesTwice, describes_written (Path.text?_eq_some_iff.1 read)⟩

theorem Documented.exists_toValue (documented : codec.Documented) {ms : List (String × Json)}
    (members : s.members? = some ms) :
    ∃ v, codec.toValue s = some v ∧ codec.ofValue v = some s := by
  obtain ⟨v, same, wrote⟩ := documented.writtenValue members
  refine ⟨v, wrote, ?_⟩
  rw [members?_eq] at members
  obtain ⟨project, read, rfl⟩ := Option.map_eq_some_iff.1 members
  have distinct := distinct_written project s
  rw [documented.ofValue_eq_some_iff (same.distinct distinct),
    ← same.describes_iff distinct.not_givesTwice]
  exact describes_written (Path.text?_eq_some_iff.1 read)

/-- **Settings are read back as they were written.**  They cannot be written if and only if their
project configuration is not the bytes of a text.  Otherwise what they are written as, be it a text
or a value, is read as the same settings, byte for byte. -/
theorem reads_written (documented : codec.Documented) (s : Settings) :
    (codec.toText s = none ↔ ¬ ∃ text, s.projectConfig = Path.ofText text) ∧
      (codec.toValue s = none ↔ ¬ ∃ text, s.projectConfig = Path.ofText text) ∧
      (∀ text ∈ codec.toText s, codec.ofText text = some s) ∧
      ∀ v ∈ codec.toValue s, codec.ofValue v = some s := by
  rw [← members?_eq_none_iff]
  rcases members : s.members? with - | ms
  · obtain ⟨noText, noValue⟩ := documented.unwritten members
    simp [noText, noValue]
  · obtain ⟨text, toText, ofText⟩ := documented.exists_toText members
    obtain ⟨v, toValue, ofValue⟩ := documented.exists_toValue members
    simp [toText, toValue, ofText, ofValue]

/-- Settings with a quote, a backslash, controls and a character beyond the first plane. -/
def quoted : Settings := ⟨Path.ofText "/a\"\\\x00", "\x1f😀", false⟩

theorem reads_written_quoted :
    let text := "\x7b\"project_config\":\"/a\\\"\\\\\\u0000\"," ++
      "\"config_file_name\":\"\\u001f😀\",\"case_sensitive\":false\x7d"
    reference.toText quoted = some text ∧ reference.ofText text = some quoted ∧
      ∃ v, reference.toValue quoted = some v ∧ reference.ofValue v = some quoted := by
  intro text
  obtain ⟨-, -, ofText, ofValue⟩ := reads_written reference_documented quoted
  have wrote : reference.toText quoted = some text := by decide +kernel
  exact ⟨wrote, ofText text wrote, _, rfl, ofValue _ rfl⟩

end Codec

end Settings

end ScopedImports
