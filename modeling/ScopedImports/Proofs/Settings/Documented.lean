import ScopedImports.Proofs.Json.Spelling
import ScopedImports.Proofs.Settings.Visited

/-!
What is documented of a library that codes settings.

Nothing that is assumed says what settings come out (`Documented`).  It says what the library does
in one step: how a text or a value drives the visit, what one member or item does, what stands for
one character.  From these steps follows what a text and a value are read as, which is the same for
both where no member is given twice (`ofText_eq_some_iff`, `ofValue_eq_some_iff`).

    text  --parse-->  value  --visit, in the order of the text-->   settings
                      value  --visit, in whatever order------->     settings
-/

namespace ScopedImports.Settings.Codec

/-- The codec is one of a library that behaves as it documents. -/
structure Documented (codec : Codec) : Prop extends codec.Visits where
  /-- A text that is JSON is parsed to the value that it spells, unless a bracket is too deep in it
  or a number is out of range. -/
  parse_of_spells {text : String} {v : Json} (spelt : Json.Spells text v)
    (within : Json.Within codec.inRange (· < Json.levels) 0 v) : codec.parse text = some v
  /-- A text has the members of its value visited in the order in which it gives them. -/
  text {text : String} {v : Json} (parsed : codec.parse text = some v) :
    codec.ofText text = codec.visit v
  /-- A value has its members visited in an order of its own. -/
  value {v : Json} (distinct : Distinct v) : ∃ w, Reordered v w ∧ codec.ofValue v = codec.visit w
  /-- What is written for a character stands for it. -/
  escapes (c : Char) : Json.Escaped c (codec.escape c)
  /-- Settings cannot be written if one of their members cannot. -/
  unwritten {s : Settings} (unwritten : s.members? = none) :
    codec.toText s = none ∧ codec.toValue s = none
  /-- Their text is the compact text of an object with their members in order. -/
  writtenText {s : Settings} {members : List (String × Json)}
    (written : s.members? = some members) :
    codec.toText s = some (String.ofList (Json.write codec.escape (.object members)))
  /-- Their value is an object with their members in some order. -/
  writtenValue {s : Settings} {members : List (String × Json)}
    (written : s.members? = some members) :
    ∃ v, Reordered (.object members) v ∧ codec.toValue s = some v

namespace Documented

variable {codec : Codec} (documented : codec.Documented)
variable {text : String} {v : Json} {s : Settings}

include documented

/-- **A text is read as settings** if its value gives no member twice and describes them. -/
theorem ofText_eq_some_iff (parsed : codec.parse text = some v) :
    codec.ofText text = some s ↔ ¬ GivesTwice v ∧ Describes v s := by
  rw [documented.text parsed, documented.visit_eq_some_iff]
  exact and_congr_right fun once => (describes_iff_fits once).symm

/-- **A value is read as the settings that it describes.** -/
theorem ofValue_eq_some_iff (distinct : Distinct v) :
    codec.ofValue v = some s ↔ Describes v s := by
  obtain ⟨w, same, read⟩ := documented.value distinct
  have once := distinct.not_givesTwice
  have still : ¬ GivesTwice w := mt same.givesTwice_iff.2 once
  rw [read, documented.visit_eq_some_iff, and_iff_right still, same.describes_iff once,
    describes_iff_fits still]

end Documented

end ScopedImports.Settings.Codec
