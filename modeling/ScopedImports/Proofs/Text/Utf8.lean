import ScopedImports.Text.Utf8

/-!
UTF-8 loses nothing.

Chunks, character or not, keep all bytes (`flatMap_bytes_chunks`), and the bytes of a character are
always cut as that character (`chunks_utf8EncodeChar_append`).  So bytes are text if and only if
they are the bytes of one, which is the one that they are read as (`decode?_eq_some_iff`).

Both directions compare the lead byte's announcement with the number of the character:

    bytes   first          second                     numbers
    2       c2 .. df       80 .. bf                   80 .. 7ff
    3       e0 .. ef       80 .. bf, without          800 .. ffff, without
                           e0 80 .. 9f, ed a0 .. bf   d800 .. dfff
    4       f0 .. f4       80 .. bf, without          10000 .. 10ffff
                           f0 80 .. 8f, f4 90 .. bf
-/

namespace ScopedImports.Utf8

/-! ### Lead bytes -/

/-- What a lead byte announces, if it is one. -/
inductive Announces (a : UInt8) : Lead → Prop
  | two (min : 0xc2 ≤ a.toNat) (max : a.toNat ≤ 0xdf) :
      Announces a ⟨1, 0x80, 0xbf, a.toNat - 0xc0⟩
  | three (min : 0xe0 ≤ a.toNat) (max : a.toNat ≤ 0xef) : Announces a
      ⟨2, if a.toNat = 0xe0 then 0xa0 else 0x80, if a.toNat = 0xed then 0x9f else 0xbf,
        a.toNat - 0xe0⟩
  | four (min : 0xf0 ≤ a.toNat) (max : a.toNat ≤ 0xf4) : Announces a
      ⟨3, if a.toNat = 0xf0 then 0x90 else 0x80, if a.toNat = 0xf4 then 0x8f else 0xbf,
        a.toNat - 0xf0⟩

variable {a : UInt8} {lead : Lead}

theorem lead?_eq (a : UInt8) : lead? a
    = if a.toNat < 0xc2 then none
      else if a.toNat < 0xe0 then some ⟨1, 0x80, 0xbf, a.toNat - 0xc0⟩
      else if a.toNat = 0xe0 then some ⟨2, 0xa0, 0xbf, 0⟩
      else if a.toNat = 0xed then some ⟨2, 0x80, 0x9f, 13⟩
      else if a.toNat < 0xf0 then some ⟨2, 0x80, 0xbf, a.toNat - 0xe0⟩
      else if a.toNat = 0xf0 then some ⟨3, 0x90, 0xbf, 0⟩
      else if a.toNat < 0xf4 then some ⟨3, 0x80, 0xbf, a.toNat - 0xf0⟩
      else if a.toNat = 0xf4 then some ⟨3, 0x80, 0x8f, 4⟩
      else none := by
  simp only [lead?, UInt8.lt_iff_toNat_lt, ← UInt8.toNat_inj, UInt8.reduceToNat]

theorem Announces.lead?_eq (announces : Announces a lead) : lead? a = some lead := by
  rw [Utf8.lead?_eq]
  rcases announces with ⟨min, max⟩ | ⟨min, max⟩ | ⟨min, max⟩
  · rw [if_neg (by omega), if_pos (by omega)]
  · rw [if_neg (by omega), if_neg (by omega)]
    by_cases first : a.toNat = 0xe0
    · simp [first]
    by_cases surrogate : a.toNat = 0xed
    · simp [surrogate]
    simp only [first, surrogate, if_false]
    rw [if_pos (by omega)]
  · rw [if_neg (by omega), if_neg (by omega), if_neg (by omega), if_neg (by omega),
      if_neg (by omega)]
    by_cases first : a.toNat = 0xf0
    · simp [first]
    by_cases last : a.toNat = 0xf4
    · simp [last]
    simp only [first, last, if_false]
    rw [if_pos (by omega)]

/-- Every announcement is one of the three kinds. -/
theorem announces_of_lead? (leads : lead? a = some lead) : Announces a lead := by
  -- a byte has one announcement, so it is enough to find one of the three kinds
  have of_announces {other : Lead} (announces : Announces a other) : Announces a lead := by
    obtain rfl := Option.some.inj (leads.symm.trans announces.lead?_eq)
    exact announces
  rcases Nat.lt_or_ge a.toNat 0xc2 with low | min
  · rw [lead?_eq, if_pos low] at leads
    cases leads
  rcases Nat.lt_or_ge a.toNat 0xe0 with two | long
  · exact of_announces (.two min (by omega))
  rcases Nat.lt_or_ge a.toNat 0xf0 with three | longer
  · exact of_announces (.three long (by omega))
  rcases Nat.lt_or_ge a.toNat 0xf5 with four | high
  · exact of_announces (.four longer (by omega))
  · rw [lead?_eq, if_neg (by omega), if_neg (by omega), if_neg (by omega), if_neg (by omega),
      if_neg (by omega), if_neg (by omega), if_neg (by omega), if_neg (by omega)] at leads
    cases leads

/-! ### Characters -/

theorem toNat_ofNat {n : Nat} (valid : n.isValidChar) : (Char.ofNat n).toNat = n := by
  rw [Char.ofNat, dif_pos valid]
  rfl

theorem exists_byte {n : Nat} (small : n < 256) : ∃ b : UInt8, b.toNat = n :=
  ⟨UInt8.ofNat n, by rw [UInt8.toNat_ofNat', Nat.mod_eq_of_lt small]⟩

section Bytes

variable {ch : Char} {a b c d : UInt8}

theorem eq_ofNat {n : Nat} (same : a.toNat = n) : a = UInt8.ofNat n := by
  rw [← same, UInt8.ofNat_toNat]

theorem utf8EncodeChar_one (one : ch.toNat < 0x80) (first : a.toNat = ch.toNat) :
    String.utf8EncodeChar ch = [a] := by
  rw [eq_ofNat first]
  exact if_pos (Nat.le_of_lt_succ one)

theorem utf8EncodeChar_two (long : 0x80 ≤ ch.toNat) (two : ch.toNat < 0x800)
    (first : a.toNat = ch.toNat / 64 + 0xc0) (second : b.toNat = ch.toNat % 64 + 0x80) :
    String.utf8EncodeChar ch = [a, b] := by
  have value : ch.val.toNat = ch.toNat := rfl
  have top : ch.toNat / 64 % 32 = ch.toNat / 64 := by omega
  unfold String.utf8EncodeChar
  dsimp only
  rw [value, if_neg (by omega), if_pos (by omega), top, eq_ofNat first, eq_ofNat second]

theorem utf8EncodeChar_three (long : 0x800 ≤ ch.toNat) (three : ch.toNat < 0x10000)
    (first : a.toNat = ch.toNat / 4096 + 0xe0) (second : b.toNat = ch.toNat / 64 % 64 + 0x80)
    (third : c.toNat = ch.toNat % 64 + 0x80) : String.utf8EncodeChar ch = [a, b, c] := by
  have value : ch.val.toNat = ch.toNat := rfl
  have top : ch.toNat / 4096 % 16 = ch.toNat / 4096 := by omega
  unfold String.utf8EncodeChar
  dsimp only
  rw [value, if_neg (by omega), if_neg (by omega), if_pos (by omega), top, eq_ofNat first,
    eq_ofNat second, eq_ofNat third]

theorem utf8EncodeChar_four (long : 0x10000 ≤ ch.toNat) (four : ch.toNat < 0x110000)
    (first : a.toNat = ch.toNat / 262144 + 0xf0) (second : b.toNat = ch.toNat / 4096 % 64 + 0x80)
    (third : c.toNat = ch.toNat / 64 % 64 + 0x80) (fourth : d.toNat = ch.toNat % 64 + 0x80) :
    String.utf8EncodeChar ch = [a, b, c, d] := by
  have value : ch.val.toNat = ch.toNat := rfl
  have top : ch.toNat / 262144 % 8 = ch.toNat / 262144 := by omega
  unfold String.utf8EncodeChar
  dsimp only
  rw [value, if_neg (by omega), if_neg (by omega), if_neg (by omega), top, eq_ofNat first,
    eq_ofNat second, eq_ofNat third, eq_ofNat fourth]

/-! ### Cutting -/

variable {lead : Lead}

theorem isContinuation_iff : isContinuation b = true ↔ 0x80 ≤ b.toNat ∧ b.toNat ≤ 0xbf := by
  rw [isContinuation, Bool.and_eq_true, decide_eq_true_eq, decide_eq_true_eq]
  rfl

theorem not_ascii (announces : Announces a lead) : ¬ a < 0x80 := by
  have high : 0x80 ≤ a.toNat := by
    cases announces <;> omega
  exact Nat.not_lt.2 high

theorem chunks_one (one : a.toNat < 0x80) (rest : List UInt8) :
    chunks (a :: rest) = .char (Char.ofNat a.toNat) :: chunks rest := by
  rw [chunks, if_pos (UInt8.lt_iff_toNat_lt.2 one)]

theorem chunks_two (announces : Announces a lead) (following : lead.following = 1)
    (second : lead.low ≤ b ∧ b ≤ lead.high) (rest : List UInt8) :
    chunks (a :: b :: rest) = .char (Char.ofNat (extend lead.bits b)) :: chunks rest := by
  rw [chunks, if_neg (not_ascii announces)]
  simp only [announces.lead?_eq, second, following]
  simp

theorem chunks_three (announces : Announces a lead) (following : lead.following = 2)
    (second : lead.low ≤ b ∧ b ≤ lead.high) (third : isContinuation c = true) (rest : List UInt8) :
    chunks (a :: b :: c :: rest)
      = .char (Char.ofNat (extend (extend lead.bits b) c)) :: chunks rest := by
  rw [chunks, if_neg (not_ascii announces)]
  simp only [announces.lead?_eq, second, third, following]
  simp

theorem chunks_four (announces : Announces a lead) (following : lead.following = 3)
    (second : lead.low ≤ b ∧ b ≤ lead.high) (third : isContinuation c = true)
    (fourth : isContinuation d = true) (rest : List UInt8) :
    chunks (a :: b :: c :: d :: rest)
      = .char (Char.ofNat (extend (extend (extend lead.bits b) c) d)) :: chunks rest := by
  rw [chunks, if_neg (not_ascii announces)]
  simp only [announces.lead?_eq, second, third, fourth, following]
  simp

theorem of_ite {p : Prop} [Decidable p] {x y : UInt8} {r : UInt8 → Prop}
    (holds : r (if p then x else y)) : p ∧ r x ∨ ¬ p ∧ r y := by
  split at holds
  · exact .inl ⟨‹p›, holds⟩
  · exact .inr ⟨‹¬ p›, holds⟩

/-- The byte lies in a range of bytes. -/
theorem inside {low high : UInt8} (min : low.toNat ≤ b.toNat) (max : b.toNat ≤ high.toNat) :
    low ≤ b ∧ b ≤ high := ⟨min, max⟩

theorem chunks_utf8EncodeChar_two (long : 0x80 ≤ ch.toNat) (two : ch.toNat < 0x800)
    (rest : List UInt8) : chunks (String.utf8EncodeChar ch ++ rest) = .char ch :: chunks rest := by
  obtain ⟨a, first⟩ := exists_byte (n := ch.toNat / 64 + 0xc0) (by omega)
  obtain ⟨b, second⟩ := exists_byte (n := ch.toNat % 64 + 0x80) (by omega)
  have announces := Announces.two (a := a) (by omega) (by omega)
  have inside₁ : 0x80 ≤ b ∧ b ≤ 0xbf := inside (by simp; omega) (by simp; omega)
  have value : extend (a.toNat - 0xc0) b = ch.toNat := by
    unfold extend
    omega
  rw [utf8EncodeChar_two long two first second, List.cons_append, List.singleton_append,
    chunks_two announces rfl inside₁, value, Char.ofNat_toNat]

theorem chunks_utf8EncodeChar_three (long : 0x800 ≤ ch.toNat) (three : ch.toNat < 0x10000)
    (noSurrogate : ch.toNat < 0xd800 ∨ 0xdfff < ch.toNat) (rest : List UInt8) :
    chunks (String.utf8EncodeChar ch ++ rest) = .char ch :: chunks rest := by
  obtain ⟨a, first⟩ := exists_byte (n := ch.toNat / 4096 + 0xe0) (by omega)
  obtain ⟨b, second⟩ := exists_byte (n := ch.toNat / 64 % 64 + 0x80) (by omega)
  obtain ⟨c, third⟩ := exists_byte (n := ch.toNat % 64 + 0x80) (by omega)
  have announces := Announces.three (a := a) (by omega) (by omega)
  have inside₁ : (if a.toNat = 0xe0 then 0xa0 else 0x80) ≤ b ∧
      b ≤ if a.toNat = 0xed then 0x9f else 0xbf :=
    inside (by split <;> simp <;> omega) (by split <;> simp <;> omega)
  have inside₂ : isContinuation c = true := isContinuation_iff.2 (by omega)
  have value : extend (extend (a.toNat - 0xe0) b) c = ch.toNat := by
    unfold extend
    omega
  rw [utf8EncodeChar_three long three first second third, List.cons_append, List.cons_append,
    List.singleton_append, chunks_three announces rfl inside₁ inside₂, value, Char.ofNat_toNat]

theorem chunks_utf8EncodeChar_four (long : 0x10000 ≤ ch.toNat) (four : ch.toNat < 0x110000)
    (rest : List UInt8) : chunks (String.utf8EncodeChar ch ++ rest) = .char ch :: chunks rest := by
  obtain ⟨a, first⟩ := exists_byte (n := ch.toNat / 262144 + 0xf0) (by omega)
  obtain ⟨b, second⟩ := exists_byte (n := ch.toNat / 4096 % 64 + 0x80) (by omega)
  obtain ⟨c, third⟩ := exists_byte (n := ch.toNat / 64 % 64 + 0x80) (by omega)
  obtain ⟨d, fourth⟩ := exists_byte (n := ch.toNat % 64 + 0x80) (by omega)
  have announces := Announces.four (a := a) (by omega) (by omega)
  have inside₁ : (if a.toNat = 0xf0 then 0x90 else 0x80) ≤ b ∧
      b ≤ if a.toNat = 0xf4 then 0x8f else 0xbf :=
    inside (by split <;> simp <;> omega) (by split <;> simp <;> omega)
  have inside₂ : isContinuation c = true := isContinuation_iff.2 (by omega)
  have inside₃ : isContinuation d = true := isContinuation_iff.2 (by omega)
  have value : extend (extend (extend (a.toNat - 0xf0) b) c) d = ch.toNat := by
    unfold extend
    omega
  rw [utf8EncodeChar_four long four first second third fourth, List.cons_append, List.cons_append,
    List.cons_append, List.singleton_append,
    chunks_four announces rfl inside₁ inside₂ inside₃, value, Char.ofNat_toNat]

/-- **The bytes of a character are cut as the character.** -/
theorem chunks_utf8EncodeChar_append (ch : Char) (rest : List UInt8) :
    chunks (String.utf8EncodeChar ch ++ rest) = .char ch :: chunks rest := by
  have valid : ch.toNat < 0xd800 ∨ 0xdfff < ch.toNat ∧ ch.toNat < 0x110000 := ch.valid
  rcases Nat.lt_or_ge ch.toNat 0x80 with one | long
  · obtain ⟨a, first⟩ := exists_byte (Nat.lt_trans one (by decide))
    rw [utf8EncodeChar_one one first, List.singleton_append, chunks_one (first ▸ one), first,
      Char.ofNat_toNat]
  rcases Nat.lt_or_ge ch.toNat 0x800 with two | longer
  · exact chunks_utf8EncodeChar_two long two rest
  rcases Nat.lt_or_ge ch.toNat 0x10000 with three | longest
  · exact chunks_utf8EncodeChar_three longer three (by omega) rest
  · exact chunks_utf8EncodeChar_four longest (by omega) rest

/-! ### Nothing is lost -/

/-- The bytes that a chunk was cut from. -/
def Chunk.bytes : Chunk → List UInt8
  | .char c => String.utf8EncodeChar c
  | .invalid bytes => bytes

theorem bytes_two (announces : Announces a lead) (following : lead.following = 1)
    (second : lead.low ≤ b ∧ b ≤ lead.high) :
    String.utf8EncodeChar (Char.ofNat (extend lead.bits b)) = [a, b] := by
  rcases announces with ⟨min, max⟩ | ⟨min, max⟩ | ⟨min, max⟩
  case three | four => cases following
  have low : 0x80 ≤ b.toNat := second.1
  have high : b.toNat ≤ 0xbf := second.2
  have number : (Char.ofNat (extend (a.toNat - 0xc0) b)).toNat
      = (a.toNat - 0xc0) * 64 + (b.toNat - 0x80) :=
    toNat_ofNat (.inl (by unfold extend; omega))
  apply utf8EncodeChar_two <;> rw [number] <;> omega

theorem bytes_three (announces : Announces a lead) (following : lead.following = 2)
    (second : lead.low ≤ b ∧ b ≤ lead.high) (third : isContinuation c = true) :
    String.utf8EncodeChar (Char.ofNat (extend (extend lead.bits b) c)) = [a, b, c] := by
  rcases announces with ⟨min, max⟩ | ⟨min, max⟩ | ⟨min, max⟩
  case two | four => cases following
  have low : a.toNat = 0xe0 ∧ 0xa0 ≤ b.toNat ∨ a.toNat ≠ 0xe0 ∧ 0x80 ≤ b.toNat :=
    of_ite (r := fun low => low.toNat ≤ b.toNat) second.1
  have high : a.toNat = 0xed ∧ b.toNat ≤ 0x9f ∨ a.toNat ≠ 0xed ∧ b.toNat ≤ 0xbf :=
    of_ite (r := fun high => b.toNat ≤ high.toNat) second.2
  have third := isContinuation_iff.1 third
  have number : (Char.ofNat (extend (extend (a.toNat - 0xe0) b) c)).toNat
      = ((a.toNat - 0xe0) * 64 + (b.toNat - 0x80)) * 64 + (c.toNat - 0x80) := by
    refine toNat_ofNat ?_
    simp only [Nat.isValidChar]
    unfold extend
    omega
  apply utf8EncodeChar_three <;> rw [number] <;> omega

theorem bytes_four (announces : Announces a lead) (following : lead.following = 3)
    (second : lead.low ≤ b ∧ b ≤ lead.high) (third : isContinuation c = true)
    (fourth : isContinuation d = true) :
    String.utf8EncodeChar (Char.ofNat (extend (extend (extend lead.bits b) c) d))
      = [a, b, c, d] := by
  rcases announces with ⟨min, max⟩ | ⟨min, max⟩ | ⟨min, max⟩
  case two | three => cases following
  have low : a.toNat = 0xf0 ∧ 0x90 ≤ b.toNat ∨ a.toNat ≠ 0xf0 ∧ 0x80 ≤ b.toNat :=
    of_ite (r := fun low => low.toNat ≤ b.toNat) second.1
  have high : a.toNat = 0xf4 ∧ b.toNat ≤ 0x8f ∨ a.toNat ≠ 0xf4 ∧ b.toNat ≤ 0xbf :=
    of_ite (r := fun high => b.toNat ≤ high.toNat) second.2
  have third := isContinuation_iff.1 third
  have fourth := isContinuation_iff.1 fourth
  have number : (Char.ofNat (extend (extend (extend (a.toNat - 0xf0) b) c) d)).toNat
      = (((a.toNat - 0xf0) * 64 + (b.toNat - 0x80)) * 64 + (c.toNat - 0x80)) * 64
        + (d.toNat - 0x80) := by
    refine toNat_ofNat ?_
    simp only [Nat.isValidChar]
    unfold extend
    omega
  apply utf8EncodeChar_four <;> rw [number] <;> omega

theorem bytes_one (one : a < 0x80) : String.utf8EncodeChar (Char.ofNat a.toNat) = [a] := by
  have small : a.toNat < 0x80 := one
  have number : (Char.ofNat a.toNat).toNat = a.toNat := toNat_ofNat (.inl (by omega))
  exact utf8EncodeChar_one (Nat.lt_of_le_of_lt (Nat.le_of_eq number) small) number.symm

/-- A byte announces one, two or three more. -/
theorem following_eq_three (announces : Announces a lead) (notOne : ¬ lead.following = 1)
    (notTwo : ¬ lead.following = 2) : lead.following = 3 := by
  cases announces with
  | two => exact absurd rfl notOne
  | three => exact absurd rfl notTwo
  | four => rfl

end Bytes

/-- **Chunks keep all bytes.** -/
theorem flatMap_bytes_chunks (bytes : List UInt8) : (chunks bytes).flatMap Chunk.bytes = bytes := by
  fun_induction chunks bytes with
  | case1 | case4 | case7 | case10 => rfl
  | case2 a rest one ih =>
    rw [List.flatMap_cons, Chunk.bytes, bytes_one one, ih]
    rfl
  | case3 | case5 | case8 | case11 =>
    rename_i ih
    rw [List.flatMap_cons, Chunk.bytes, ih]
    rfl
  | case6 a high lead leads b rest second following ih =>
    have announces := announces_of_lead? leads
    have second := Decidable.not_not.1 second
    rw [List.flatMap_cons, Chunk.bytes, bytes_two announces following second, ih]
    rfl
  | case9 a high lead leads b second notOne c rest third following ih =>
    have announces := announces_of_lead? leads
    have second := Decidable.not_not.1 second
    have third := Decidable.not_not.1 third
    rw [List.flatMap_cons, Chunk.bytes, bytes_three announces following second third, ih]
    rfl
  | case12 a high lead leads b second notOne c third notTwo d rest fourth ih =>
    have announces := announces_of_lead? leads
    have following := following_eq_three announces notOne notTwo
    have second := Decidable.not_not.1 second
    have third := Decidable.not_not.1 third
    have fourth := Decidable.not_not.1 fourth
    rw [List.flatMap_cons, Chunk.bytes, bytes_four announces following second third fourth, ih]
    rfl

/-! ### Text -/

theorem chunks_encode (text : List Char) : chunks (encode text) = text.map .char := by
  induction text with
  | nil => rfl
  | cons c text ih =>
    rw [encode, List.flatMap_cons, chunks_utf8EncodeChar_append, ← encode, ih]
    rfl

theorem mapM_char?_map (text : List Char) : (text.map .char).mapM Chunk.char? = some text := by
  induction text with
  | nil => rfl
  | cons c text ih =>
    rw [List.map_cons, List.mapM_cons, ih]
    rfl

theorem eq_map_of_mapM_char? {cs : List Chunk} {text : List Char}
    (read : cs.mapM Chunk.char? = some text) : cs = text.map .char := by
  induction cs generalizing text with
  | nil =>
    obtain rfl := Option.some.inj read
    rfl
  | cons chunk cs ih =>
    rw [List.mapM_cons] at read
    cases chunk with
    | invalid bytes => cases read
    | char c =>
      rcases rest : cs.mapM Chunk.char? with - | more
      · rw [rest] at read
        cases read
      · rw [rest] at read
        obtain rfl := Option.some.inj read
        rw [ih rest]
        rfl

/-- **Bytes are read as a text if and only if they are the bytes of the text.** -/
theorem decode?_eq_some_iff {bytes : List UInt8} {text : List Char} :
    decode? bytes = some text ↔ encode text = bytes := by
  constructor
  · intro read
    have cut : chunks bytes = text.map .char := eq_map_of_mapM_char? read
    rw [← flatMap_bytes_chunks bytes, cut, List.flatMap_map]
    rfl
  · rintro rfl
    rw [decode?, chunks_encode]
    exact mapM_char?_map text

end ScopedImports.Utf8
