import ScopedImports.Proofs.Json.Derivation
import ScopedImports.Proofs.Json.Lexeme

/-!
Texts of values.

A text spells a value if its lexemes are the tokens of a phrase for it.  That is all that reading a
text decides, as long as no number in the value is too large and no bracket in it is too deep
(`read_eq_ok_iff`).

A text that is written for a value spells it, whichever escapes its strings are written with
(`spells_write`): each character is written as one piece, which stands for that character
(`Escaped`).

    value       object ["a" : string "\n"]
    text        {"a":"\n"}         or      {"a":"\u000a"}
    lexemes     {    "a"    :    "\n"    }
-/

namespace ScopedImports.Json

/-- The text spells the value. -/
def Spells (text : String) (v : Json) : Prop :=
  ∃ ts, Lexemes ts text.toList ∧ Phrase (.value v) ts

/-! ### Reading -/

/-- The tokens of a phrase are no flaws of a text. -/
theorem Phrase.intact {part : Part} {ts : List Token} (phrase : Phrase part ts) : Intact ts := by
  have whole {q : Quotation} {text : String} (spelt : q.text = .ok text) : q.flaw = none := by
    obtain ⟨cs, spelt, -⟩ := exists_of_map_eq_ok spelt
    exact Reading.flaw_eq_none_of_spell spelt
  induction phrase with
  | null | bool | number | emptyArray | emptyObject => simp [Token.Intact]
  | string spelt => simp [Token.Intact, whole spelt]
  | item value ih => exact ih
  | array items ih | object members ih => simp [Token.Intact, ih]
  | nextItem before value ihBefore ihValue => simp [Token.Intact, ihBefore, ihValue]
  | member named value ih => simp [Token.Intact, whole named, ih]
  | nextMember before named value ihBefore ihValue =>
    simp [Token.Intact, ihBefore, whole named, ihValue]

/-- A text whose tokens are a phrase spells its value. -/
theorem spells_of_phrase {text : String} {v : Json} {ts : List Token}
    (phrase : Phrase (.value v) ts) (same : tokens text.toList = ts) : Spells text v := by
  subst same
  exact ⟨_, lexemes_of_intact phrase.intact, phrase⟩

/-- **What is read is what is spelt**: a text is read as a value if and only if it spells the value,
and the value may be read. -/
theorem read_eq_ok_iff {text : String} {v : Json} :
    read text = .ok v ↔ Spells text v ∧ Readable 0 v := by
  rw [read, ofTokens_eq_ok_iff]
  refine and_congr_left fun _ => ⟨(spells_of_phrase · rfl), ?_⟩
  rintro ⟨ts, lexemes, phrase⟩
  obtain rfl := lexemes.scan_eq
  exact phrase

/-! ### Writing strings -/

/-- The characters stand for `c` inside a string: they are `c` itself, if it needs no escape, or a
short escape, or the four digits of its number. -/
inductive Escaped (c : Char) : List Char → Prop
  | plain (quote : c ≠ '"') (backslash : c ≠ '\\') (control : ¬ c < ' ') : Escaped c [c]
  | short {e : Char} (stands : escaped? e = some c) : Escaped c ['\\', e]
  | unit {d e f g : Char} {w x y z : Nat} (first : Hex.value? d = some w)
      (second : Hex.value? e = some x) (third : Hex.value? f = some y)
      (fourth : Hex.value? g = some z) (number : ((w * 16 + x) * 16 + y) * 16 + z = c.toNat) :
      Escaped c ['\\', 'u', d, e, f, g]

theorem value?_digit {n : Nat} (small : n < 16) : Hex.value? (Hex.digit n) = some n := by
  decide +revert

/-- A byte is written as a unit whose higher digits are zero. -/
theorem escaped_byte {c : Char} (small : c.toNat < 256) :
    Escaped c ('\\' :: 'u' :: '0' :: '0' :: Hex.ofByte (UInt8.ofNat c.toNat)) := by
  have byte : (UInt8.ofNat c.toNat).toNat = c.toNat := by
    rw [UInt8.toNat_ofNat', Nat.mod_eq_of_lt small]
  rw [Hex.ofByte, byte]
  exact .unit rfl rfl (value?_digit (by omega)) (value?_digit (by omega)) (by omega)

/-- What is written for a character stands for it. -/
theorem escaped_writeChar (c : Char) : Escaped c (writeChar c) := by
  unfold writeChar
  split
  case h_1 | h_2 | h_3 | h_4 | h_5 | h_6 | h_7 => exact .short rfl
  case h_8 quote backslash _ _ _ _ _ =>
    by_cases control : c < ' '
    · have low : c.toNat < 32 := control
      rw [if_pos control]
      exact escaped_byte (by omega)
    · rw [if_neg control]
      exact .plain quote backslash control

/-- A unit that is the number of a character is that character. -/
theorem spell_unit (c : Char) (flaw : Option Flaw) (ps : List Piece) :
    spell flaw (.unit c.toNat :: ps) = (c :: ·) <$> spell flaw ps := by
  have valid : c.toNat < 0xd800 ∨ 0xdfff < c.toNat ∧ c.toNat < 0x110000 := c.valid
  have noLow : ¬(0xdc00 ≤ c.toNat ∧ c.toNat ≤ 0xdfff) := by omega
  have noHigh : ¬(0xd800 ≤ c.toNat ∧ c.toNat ≤ 0xdbff) := by omega
  rcases ps with - | ⟨- | -, ps⟩ <;> simp only [spell, noLow, noHigh, if_false, Char.ofNat_toNat]

/-- What stands for a character is one piece, which spells it. -/
theorem Escaped.exists_piece {c : Char} {cs : List Char} (escaped : Escaped c cs) :
    ∃ p, Contents [p] cs ∧ ∀ ps, spell none (p :: ps) = (c :: ·) <$> spell none ps := by
  cases escaped with
  | plain quote backslash control =>
    exact ⟨.char c, .char quote backslash control .nil, fun _ => rfl⟩
  | short stands => exact ⟨.char c, .escape stands .nil, fun _ => rfl⟩
  | unit first second third fourth number =>
    refine ⟨.unit c.toNat, ?_, spell_unit c none⟩
    rw [← number]
    exact .unit first second third fourth .nil

section Write

variable {escape : Char → List Char} (escapes : ∀ c, Escaped c (escape c))

include escapes in
theorem exists_pieces_write (cs : List Char) :
    ∃ ps, Contents ps (cs.flatMap escape) ∧ spell none ps = .ok cs := by
  induction cs with
  | nil => exact ⟨[], .nil, rfl⟩
  | cons c cs ih =>
    obtain ⟨ps, contents, spelt⟩ := ih
    obtain ⟨p, first, spells⟩ := (escapes c).exists_piece
    refine ⟨p :: ps, first.append contents, ?_⟩
    rw [spells, spelt]
    rfl

include escapes in
theorem exists_lexeme_writeString (text : String) :
    ∃ q : Quotation, Lexeme (.string q) (writeString escape text) ∧ q.text = .ok text := by
  obtain ⟨ps, contents, spelt⟩ := exists_pieces_write escapes text.toList
  refine ⟨⟨ps, none⟩, .string contents, ?_⟩
  rw [Quotation.text, spelt]
  exact congrArg Except.ok (String.ofList_toList)

/-! ### Writing values -/

/-- The text, with a text behind it that no number goes on with, adds the tokens. -/
def Adds (ts : List Token) (text : List Char) : Prop :=
  ∀ us rest, Ends rest → Lexemes us rest → Lexemes (ts ++ us) (text ++ rest)

/-- A value whose numbers are rendered as they are spelt. -/
inductive Writable : Json → Prop
  | null : Writable .null
  | bool (b : Bool) : Writable (.bool b)
  | number {n : Numeral} (spelt : n.Spelt n.render) : Writable (.number n)
  | string (text : String) : Writable (.string text)
  | array {items : List Json} (each : ∀ item ∈ items, Writable item) : Writable (.array items)
  | object {members : List (String × Json)} (each : ∀ m ∈ members, Writable m.2) :
      Writable (.object members)

/-- The value is written as a phrase for it. -/
def Written (escape : Char → List Char) (v : Json) : Prop :=
  ∃ ts, Phrase (.value v) ts ∧ Adds ts (write escape v)

theorem Adds.of_lexeme {t : Token} {cs : List Char} (lexeme : Lexeme t cs) : Adds [t] cs :=
  fun _ _ _ more => .lexeme lexeme more

theorem Adds.cons {t : Token} {ts : List Token} {cs ds : List Char} (lexeme : Lexeme t cs)
    (more : Adds ts ds) : Adds (t :: ts) (cs ++ ds) := by
  intro us rest ends lexemes
  rw [List.append_assoc]
  exact .lexeme lexeme (more us rest ends lexemes)

theorem Adds.char {t : Token} {ts : List Token} {c : Char} {ds : List Char} (lexeme : Lexeme t [c])
    (more : Adds ts ds) : Adds (t :: ts) (c :: ds) := .cons lexeme more

theorem Adds.append {ts us : List Token} {cs ds : List Char} (first : Adds ts cs)
    (second : Adds us ds) (ends : ∀ rest, Ends (ds ++ rest)) : Adds (ts ++ us) (cs ++ ds) := by
  intro ws rest last lexemes
  rw [List.append_assoc, List.append_assoc]
  exact first _ _ (ends rest) (second ws rest last lexemes)

theorem ends_writeItems (vs : List Json) (rest : List Char) :
    Ends (writeItems escape vs ++ rest) := by
  cases vs with
  | nil => exact ends_cons (by decide) _
  | cons v vs => exact ends_cons (by decide) _

theorem ends_writeMembers (ms : List (String × Json)) (rest : List Char) :
    Ends (writeMembers escape ms ++ rest) := by
  cases ms with
  | nil => exact ends_cons (by decide) _
  | cons m ms => exact ends_cons (by decide) _

/-- What is behind the first items of an array, up to its end. -/
theorem exists_adds_writeItems {vs : List Json} (written : ∀ v ∈ vs, Written escape v)
    {bs : List Json} {os : List Token} (before : Phrase (.items bs) os) :
    ∃ ts, Phrase (.items (bs ++ vs)) (os ++ ts) ∧
      Adds (ts ++ [.closing .array]) (writeItems escape vs) := by
  induction vs generalizing bs os with
  | nil =>
    refine ⟨[], ?_, .of_lexeme (.closing .array)⟩
    rw [List.append_nil, List.append_nil]
    exact before
  | cons v vs ih =>
    obtain ⟨⟨ts, phrase, adds⟩, written⟩ := List.forall_mem_cons.1 written
    obtain ⟨us, phrases, more⟩ := ih written (before.nextItem phrase)
    refine ⟨.comma :: ts ++ us, ?_, ?_⟩
    · rw [List.append_cons, ← List.append_assoc]
      exact phrases
    · have behind := adds.append more (ends_writeItems vs)
      rw [← List.append_assoc] at behind
      rw [writeItems, List.cons_append]
      exact .char .comma behind

include escapes in
/-- What is behind the first members of an object, up to its end. -/
theorem exists_adds_writeMembers {ms : List (String × Json)}
    (written : ∀ m ∈ ms, Written escape m.2) {bs : List (String × Json)} {os : List Token}
    (before : Phrase (.members bs) os) :
    ∃ ts, Phrase (.members (bs ++ ms)) (os ++ ts) ∧
      Adds (ts ++ [.closing .object]) (writeMembers escape ms) := by
  induction ms generalizing bs os with
  | nil =>
    refine ⟨[], ?_, .of_lexeme (.closing .object)⟩
    rw [List.append_nil, List.append_nil]
    exact before
  | cons m ms ih =>
    obtain ⟨name, v⟩ := m
    obtain ⟨⟨ts, phrase, adds⟩, written⟩ := List.forall_mem_cons.1 written
    obtain ⟨q, named, spelt⟩ := exists_lexeme_writeString escapes name
    obtain ⟨us, phrases, more⟩ := ih written (before.nextMember spelt phrase)
    refine ⟨.comma :: .string q :: .colon :: ts ++ us, ?_, ?_⟩
    · rw [List.append_cons, ← List.append_assoc]
      exact phrases
    · have behind := adds.append more (ends_writeMembers ms)
      rw [writeMembers]
      simp only [List.cons_append, List.append_assoc]
      exact .char .comma (.cons named (.char .colon behind))

include escapes in
/-- **Every value that can be written is written as a phrase for it.** -/
theorem Writable.written {v : Json} (writable : Writable v) : Written escape v := by
  induction writable with
  | null => exact ⟨_, .null, .of_lexeme (.word none)⟩
  | bool b =>
    refine ⟨_, .bool b, ?_⟩
    cases b with
    | false => exact .of_lexeme (.word (some false))
    | true => exact .of_lexeme (.word (some true))
  | number spelt => exact ⟨_, .number _, fun _ _ ends more => .number spelt ends more⟩
  | string text =>
    obtain ⟨q, lexeme, spelt⟩ := exists_lexeme_writeString escapes text
    exact ⟨_, .string spelt, .of_lexeme lexeme⟩
  | @array items each ih =>
    cases items with
    | nil => exact ⟨_, .emptyArray, .cons (.opening .array) (.of_lexeme (.closing .array))⟩
    | cons item rest =>
      obtain ⟨⟨ts, phrase, adds⟩, written⟩ := List.forall_mem_cons.1 ih
      obtain ⟨us, phrases, more⟩ := exists_adds_writeItems written (.item phrase)
      refine ⟨_, .array phrases, ?_⟩
      have behind := adds.append more (ends_writeItems rest)
      rw [← List.append_assoc] at behind
      rw [write, List.cons_append]
      exact .char (.opening .array) behind
  | @object members each ih =>
    cases members with
    | nil => exact ⟨_, .emptyObject, .cons (.opening .object) (.of_lexeme (.closing .object))⟩
    | cons m rest =>
      obtain ⟨name, v⟩ := m
      obtain ⟨⟨ts, phrase, adds⟩, written⟩ := List.forall_mem_cons.1 ih
      obtain ⟨q, named, spelt⟩ := exists_lexeme_writeString escapes name
      obtain ⟨us, phrases, more⟩ := exists_adds_writeMembers escapes written (.member spelt phrase)
      refine ⟨_, .object phrases, ?_⟩
      have behind := adds.append more (ends_writeMembers rest)
      rw [write]
      simp only [List.cons_append, List.append_assoc]
      exact .char (.opening .object) (.cons named (.char .colon behind))

include escapes in
/-- **A text that is written for a value spells it.** -/
theorem spells_write {v : Json} (writable : Writable v) :
    Spells (String.ofList (write escape v)) v := by
  obtain ⟨ts, phrase, adds⟩ := writable.written escapes
  refine ⟨ts, ?_, phrase⟩
  have lexemes := adds [] [] nofun .nil
  rw [List.append_nil, List.append_nil] at lexemes
  rw [String.toList_ofList]
  exact lexemes

end Write

end ScopedImports.Json
