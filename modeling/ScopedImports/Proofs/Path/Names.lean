import ScopedImports.Proofs.Path.Components

/-!
Names and folders, as they are given in text.

A name is one ordinary component, and a folder is what may be written in front of it.  Paths are
bytes, so both have to be read there:

    text     a   .   /   b        folder "a./"   name "b"
    bytes    97  46  47  98       whatever is not ASCII has no byte below 128

A byte of ASCII stands for its own character and is part of no other (`utf8EncodeChar_of_mem`).
Hence the pieces of a text are cut where its separators are, and a name is one piece that counts.
-/

namespace ScopedImports

namespace Utf8

/-- A byte of ASCII is a whole character. -/
theorem utf8EncodeChar_of_mem {c : Char} {b : UInt8} (mem : b ∈ String.utf8EncodeChar c)
    (ascii : b < 128) : String.utf8EncodeChar c = [b] ∧ c = Char.ofNat b.toNat := by
  have low : b.toNat < 128 := UInt8.lt_iff_toNat_lt.1 ascii
  unfold String.utf8EncodeChar at mem ⊢
  dsimp only at mem ⊢
  by_cases short : c.val.toNat ≤ 127
  · rw [if_pos short, List.mem_singleton] at mem
    rw [if_pos short, mem]
    refine ⟨rfl, ?_⟩
    have same : (UInt8.ofNat c.val.toNat).toNat = c.toNat := by
      rw [UInt8.toNat_ofNat', Nat.mod_eq_of_lt (by omega)]
      rfl
    rw [same, Char.ofNat_toNat]
  · -- every byte of a longer character has its highest bit set
    exfalso
    rw [if_neg short] at mem
    split at mem
    · simp only [List.mem_cons, List.not_mem_nil, or_false] at mem
      rcases mem with rfl | rfl <;> rw [UInt8.toNat_ofNat'] at low <;> omega
    · split at mem
      · simp only [List.mem_cons, List.not_mem_nil, or_false] at mem
        rcases mem with rfl | rfl | rfl <;> rw [UInt8.toNat_ofNat'] at low <;> omega
      · simp only [List.mem_cons, List.not_mem_nil, or_false] at mem
        rcases mem with rfl | rfl | rfl | rfl <;> rw [UInt8.toNat_ofNat'] at low <;> omega

theorem encode_append (text more : List Char) :
    encode (text ++ more) = encode text ++ encode more :=
  List.flatMap_append

theorem encode_cons (c : Char) (text : List Char) :
    encode (c :: text) = String.utf8EncodeChar c ++ encode text :=
  List.flatMap_cons

/-- A byte of ASCII comes from its own character. -/
theorem mem_of_mem_encode {text : List Char} {b : UInt8} (mem : b ∈ encode text)
    (ascii : b < 128) : Char.ofNat b.toNat ∈ text := by
  obtain ⟨c, there, within⟩ := List.mem_flatMap.1 mem
  rw [← (utf8EncodeChar_of_mem within ascii).2]
  exact there

/-- Bytes of ASCII can be read as the characters that they are. -/
theorem eq_of_encode {text : List Char} (ascii : ∀ b ∈ encode text, b < 128) :
    text = (encode text).map fun b => Char.ofNat b.toNat := by
  induction text with
  | nil => rfl
  | cons c text ih =>
    rw [encode_cons] at ascii ⊢
    obtain ⟨b, bytes, first⟩ := List.exists_cons_of_ne_nil (String.utf8EncodeChar_ne_nil (c := c))
    have mem : b ∈ String.utf8EncodeChar c := first ▸ List.mem_cons_self
    obtain ⟨one, char⟩ := utf8EncodeChar_of_mem mem (ascii b (List.mem_append_left _ mem))
    rw [one, List.singleton_append, List.map_cons, ← char,
      ← ih fun byte later => ascii byte (List.mem_append_right _ later)]

end Utf8

namespace Path

/-! ### Names -/

/-- One ordinary component, given as text. -/
structure IsName (name : String) : Prop where
  some : name ≠ ""
  whole : '/' ∉ name.toList
  ne_here : name ≠ "."
  ne_up : name ≠ ".."

theorem ofText_append (text more : String) :
    (ofText (text ++ more)).bytes = (ofText text).bytes ++ (ofText more).bytes := by
  rw [ofText, String.toList_append]
  exact Utf8.encode_append _ _

/-- A text whose bytes are ASCII is known by them. -/
theorem eq_of_ofText {text : String} (other : String)
    (h : (ofText text).bytes = (ofText other).bytes)
    (ascii : ∀ b ∈ (ofText other).bytes, b < 128) : text = other := by
  have bytes : Utf8.encode text.toList = Utf8.encode other.toList := h
  have ascii' : ∀ b ∈ Utf8.encode text.toList, b < 128 := bytes ▸ ascii
  apply String.toList_inj.1
  calc text.toList
    _ = (Utf8.encode text.toList).map fun b => Char.ofNat b.toNat := Utf8.eq_of_encode ascii'
    _ = (Utf8.encode other.toList).map fun b => Char.ofNat b.toNat := by rw [bytes]
    _ = other.toList := (Utf8.eq_of_encode ascii).symm

namespace IsName

variable {name : String} (h : IsName name)

include h

theorem bytes_ne_nil : (ofText name).bytes ≠ [] := by
  intro none
  exact h.some (eq_of_ofText "" none (by decide +kernel))

theorem slash_not_mem : slash ∉ (ofText name).bytes := by
  intro mem
  exact h.whole (Utf8.mem_of_mem_encode mem (by decide))

/-- A name is one piece. -/
theorem pieces_eq : (ofText name).pieces = [(ofText name).bytes] :=
  cut_of_not_mem h.slash_not_mem

theorem bytes_ne_dotPiece : (ofText name).bytes ≠ dotPiece := by
  intro dot
  exact h.ne_here (eq_of_ofText "." dot (by decide +kernel))

theorem bytes_ne_upPiece : (ofText name).bytes ≠ upPiece := by
  intro dots
  exact h.ne_up (eq_of_ofText ".." dots (by decide +kernel))

theorem not_isBlank : ¬ isBlank (ofText name).bytes = true := by
  have solid := h.bytes_ne_nil
  have other := h.bytes_ne_dotPiece
  simp [isBlank, solid, other]

/-- A name is one step, and the step goes down. -/
theorem steps_eq : steps (ofText name).pieces = [.name (ofText name).bytes] := by
  rw [h.pieces_eq, steps_of_not_blank h.not_isBlank, component, if_neg h.bytes_ne_upPiece,
    if_neg h.bytes_ne_dotPiece]

theorem relative : (ofText name).isAbsolute = false := by
  rw [isAbsolute]
  rcases bytes : (ofText name).bytes with - | ⟨b, more⟩
  · rfl
  · have other : b ≠ slash := by
      rintro rfl
      exact h.slash_not_mem (bytes ▸ List.mem_cons_self)
    simp [other]

end IsName

/-! ### Folders -/

/-- What may be written in front of a name, given as text: nothing, or a relative path that ends in
a separator. -/
def IsFolder (folder : String) : Prop :=
  folder = "" ∨ folder.toList.head? ≠ some '/' ∧ folder.toList.getLast? = some '/'

/-- What starts with a separator, starts with its byte. -/
theorem isAbsolute_ofText_iff (text : String) :
    (ofText text).isAbsolute = true ↔ text.toList.head? = some '/' := by
  rw [isAbsolute, ofText]
  rcases text.toList with - | ⟨c, text⟩
  · simp [Utf8.encode]
  · obtain ⟨b, bytes, first⟩ := List.exists_cons_of_ne_nil (String.utf8EncodeChar_ne_nil (c := c))
    have mem : b ∈ String.utf8EncodeChar c := first ▸ List.mem_cons_self
    rw [Utf8.encode_cons, first, List.cons_append, List.head?_cons, List.head?_cons,
      Option.some.injEq, beq_iff_eq, Option.some.injEq]
    constructor
    · rintro rfl
      exact (Utf8.utf8EncodeChar_of_mem mem (by decide)).2
    · rintro rfl
      obtain ⟨rfl, -⟩ := List.cons.inj (first.symm.trans (rfl : _ = [slash]))
      rfl

namespace IsFolder

variable {folder : String} (h : IsFolder folder)

include h

theorem relative : ¬ (ofText folder).isAbsolute = true := by
  rw [isAbsolute_ofText_iff]
  rcases h with rfl | ⟨relative, -⟩
  · decide
  · exact relative

/-- A folder that is written at all ends in a separator. -/
theorem ends :
    (ofText folder).bytes = [] ∨ ∃ before, (ofText folder).bytes = before ++ [slash] := by
  rcases h with rfl | ⟨-, separator⟩
  · exact .inl rfl
  · obtain ⟨before, last⟩ := List.getLast?_eq_some_iff.1 separator
    refine .inr ⟨Utf8.encode before, ?_⟩
    rw [ofText, last]
    exact Utf8.encode_append before ['/']

/-- A name in a folder is a relative path. -/
theorem relative_append {name : String} (n : IsName name) :
    ¬ (ofText (folder ++ name)).isAbsolute = true := by
  rw [isAbsolute, ofText_append]
  rcases bytes : (ofText folder).bytes with - | ⟨b, more⟩
  · rw [List.nil_append, ← isAbsolute, n.relative]
    exact Bool.false_ne_true
  · have start := h.relative
    rw [isAbsolute, bytes] at start
    exact start

/-- Anchoring a file of a folder anchors the folder and leaves the name as it is. -/
theorem anchor_append {name : String} (n : IsName name) (directory : Path) :
    ((ofText (folder ++ name)).anchor directory).bytes
      = ((ofText folder).anchor directory).bytes ++ (ofText name).bytes := by
  rw [anchor, anchor, join, join, if_neg (h.relative_append n), if_neg h.relative]
  split
  · rw [ofText_append, List.append_assoc]
  · rw [ofText_append, List.append_assoc]
    rfl

/-- An anchored folder is nothing at all, or ends in a separator. -/
theorem anchor_ends (directory : Path) :
    ((ofText folder).anchor directory).bytes = [] ∨
      ∃ before, ((ofText folder).anchor directory).bytes = before ++ [slash] := by
  rw [anchor, join, if_neg h.relative]
  rcases h.ends with none | ⟨before, ends⟩
  · -- the separator is the one that the directory ends in, or the one put behind it
    split
    case isTrue open' =>
      rw [none, List.append_nil]
      rcases open' with empty | separator
      · exact .inl empty
      · obtain ⟨before, ends⟩ := List.getLast?_eq_some_iff.1 separator
        exact .inr ⟨before, ends⟩
    case isFalse =>
      exact .inr ⟨directory.bytes, by rw [none]⟩
  · split
    · exact .inr ⟨directory.bytes ++ before, by rw [ends, List.append_assoc]⟩
    · exact .inr ⟨directory.bytes ++ slash :: before, by rw [ends, List.append_assoc]; rfl⟩

end IsFolder

end Path

end ScopedImports
