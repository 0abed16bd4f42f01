import ScopedImports.Proofs.Json.Numeral

/-!
The words of a JSON text.

A text is a sequence of lexemes: brackets, colons, commas, the three words, strings and numbers,
with white space between them as one likes.  A number goes as far as it can, so what stands right
behind it must not be able to go on with it.

    { "a\u0062" : [ 1 , true ] }        { "ab" : [ 1 , true ] }

Cutting a text into tokens is compared with the lexemes in both directions.  The tokens of lexemes
are the ones that they stand for (`Lexemes.scan_eq`), and if no token of a text is broken, its
tokens are the ones of lexemes (`lexemes_of_intact`): one step of the machine either goes on with a
lexeme, or completes it, or breaks a token (`Begins.step`).
-/

namespace ScopedImports.Json

/-! ### Lexemes -/

/-- What stands between the quotes of a string: characters, short escapes, and sixteen-bit units. -/
inductive Contents : List Piece → List Char → Prop
  | nil : Contents [] []
  | char {c : Char} {ps : List Piece} {cs : List Char} (unquoted : c ≠ '"') (unescaped : c ≠ '\\')
      (printed : ¬ c < ' ') (more : Contents ps cs) : Contents (.char c :: ps) (c :: cs)
  | escape {e c : Char} {ps : List Piece} {cs : List Char} (short : escaped? e = some c)
      (more : Contents ps cs) : Contents (.char c :: ps) ('\\' :: e :: cs)
  | unit {a b c d : Char} {i j k l : Nat} {ps : List Piece} {cs : List Char}
      (first : Hex.value? a = some i) (second : Hex.value? b = some j)
      (third : Hex.value? c = some k) (fourth : Hex.value? d = some l) (more : Contents ps cs) :
      Contents (.unit (((i * 16 + j) * 16 + k) * 16 + l) :: ps)
        ('\\' :: 'u' :: a :: b :: c :: d :: cs)

/-- The bracket at the beginning. -/
def Bracket.opens : Bracket → Char
  | .array => '['
  | .object => '\x7b'

/-- The bracket at the end. -/
def Bracket.closes : Bracket → Char
  | .array => ']'
  | .object => '\x7d'

/-- The word for a truth value, or for nothing. -/
def wordText : Option Bool → List Char
  | some true => ['t', 'r', 'u', 'e']
  | some false => ['f', 'a', 'l', 's', 'e']
  | none => ['n', 'u', 'l', 'l']

/-- The text is the lexeme of a token that is no number. -/
inductive Lexeme : Token → List Char → Prop
  | opening (bracket : Bracket) : Lexeme (.opening bracket) [bracket.opens]
  | closing (bracket : Bracket) : Lexeme (.closing bracket) [bracket.closes]
  | colon : Lexeme .colon [':']
  | comma : Lexeme .comma [',']
  | word (value : Option Bool) : Lexeme (.word value) (wordText value)
  | string {ps : List Piece} {cs : List Char} (contents : Contents ps cs) :
      Lexeme (.string ⟨ps, none⟩) ('"' :: (cs ++ ['"']))

/-- The character may go on with a number. -/
def GoesOn (c : Char) : Prop := (digit? c).isSome = true ∨ c = '.' ∨ IsMark c

instance (c : Char) : Decidable (GoesOn c) := inferInstanceAs (Decidable (_ ∨ _ ∨ _))

/-- A number may end in front of the text. -/
def Ends (text : List Char) : Prop := ∀ c ∈ text.head?, ¬ GoesOn c

theorem ends_cons {c : Char} (foreign : ¬ GoesOn c) (rest : List Char) : Ends (c :: rest) := by
  intro d mem
  obtain rfl := Option.some.inj mem
  exact foreign

/-- The text is a sequence of lexemes, with white space between them. -/
inductive Lexemes : List Token → List Char → Prop
  | nil : Lexemes [] []
  | blank {c : Char} {ts : List Token} {cs : List Char} (blank : isBlank c = true)
      (more : Lexemes ts cs) : Lexemes ts (c :: cs)
  | lexeme {t : Token} {ts : List Token} {cs rest : List Char} (lexeme : Lexeme t cs)
      (more : Lexemes ts rest) : Lexemes (t :: ts) (cs ++ rest)
  | number {n : Numeral} {ts : List Token} {cs rest : List Char} (spelt : n.Spelt cs)
      (ends : Ends rest) (more : Lexemes ts rest) : Lexemes (.number n :: ts) (cs ++ rest)

/-! ### The tokens of lexemes -/

theorem scan_cons (mode : Mode) (c : Char) (rest : List Char) :
    scan mode (c :: rest) = (mode.step c).1 ++ scan (mode.step c).2 rest := rfl

theorem scan_cons_of_step {mode next : Mode} {c : Char} (step : mode.step c = ([], next))
    (rest : List Char) : scan mode (c :: rest) = scan next rest := by
  rw [scan_cons, step]
  rfl

theorem scan_contents {ps : List Piece} {cs : List Char} (contents : Contents ps cs)
    (done : List Piece) (rest : List Char) : scan (.string done) (cs ++ '"' :: rest)
      = .string ⟨done.reverse ++ ps, none⟩ :: scan .between rest := by
  induction contents generalizing done with
  | nil =>
    rw [List.append_nil]
    rfl
  | @char c ps cs unquoted unescaped printed more ih =>
    have step : (Mode.string done).step c = ([], .string (.char c :: done)) := by
      simp [Mode.step, unquoted, unescaped, printed]
    rw [List.cons_append, scan_cons_of_step step, ih, List.reverse_cons, List.append_assoc]
    rfl
  | @escape e c ps cs short more ih =>
    have other : e ≠ 'u' := by
      rintro rfl
      cases short
    have step : (Mode.escape done).step e = ([], .string (.char c :: done)) := by
      simp [Mode.step, other, short]
    rw [List.cons_append, scan_cons_of_step rfl, List.cons_append, scan_cons_of_step step, ih,
      List.reverse_cons, List.append_assoc]
    rfl
  | @unit a b c d i j k l ps cs first second third fourth more ih =>
    have digit {h : Char} {value count v : Nat} (hex : Hex.value? h = some v) (few : count ≠ 3) :
        (Mode.unit done value count).step h = ([], .unit done (value * 16 + v) (count + 1)) := by
      simp [Mode.step, hex, few]
    have last {h : Char} {value v : Nat} (hex : Hex.value? h = some v) :
        (Mode.unit done value 3).step h = ([], .string (.unit (value * 16 + v) :: done)) := by
      simp [Mode.step, hex]
    simp only [List.cons_append]
    rw [scan_cons_of_step rfl, scan_cons_of_step rfl, scan_cons_of_step (digit first (by decide)),
      scan_cons_of_step (digit second (by decide)), scan_cons_of_step (digit third (by decide)),
      scan_cons_of_step (last fourth), ih, List.reverse_cons, List.append_assoc, Nat.zero_mul,
      Nat.zero_add]
    rfl

theorem Lexeme.scan_eq {t : Token} {cs : List Char} (lexeme : Lexeme t cs) (rest : List Char) :
    scan .between (cs ++ rest) = t :: scan .between rest := by
  cases lexeme with
  | opening bracket => cases bracket <;> rfl
  | closing bracket => cases bracket <;> rfl
  | colon => rfl
  | comma => rfl
  | word value => rcases value with - | - | - <;> rfl
  | string contents =>
    rw [List.cons_append, List.append_assoc, scan_cons_of_step rfl]
    exact scan_contents contents [] rest

theorem scan_take {state next : NumberPart × Numeral} {text : List Char}
    (taken : NumberPart.take state text = some next) (rest : List Char) :
    scan (.number state.1 state.2) (text ++ rest) = scan (.number next.1 next.2) rest := by
  induction text generalizing state with
  | nil =>
    obtain rfl := Option.some.inj taken
    rfl
  | cons c text ih =>
    obtain ⟨part, n⟩ := state
    rcases step : part.step n c with - | ⟨part', n'⟩
    · rw [NumberPart.take, List.foldlM_cons, step] at taken
      cases taken
    · have stepped : (Mode.number part n).step c = ([], .number part' n') := by
        simp only [Mode.step, step]
      rw [NumberPart.take_cons step] at taken
      rw [List.cons_append, scan_cons_of_step stepped, ih taken]

/-- Where a number may end, only certain characters can go on with it. -/
theorem step_eq_none {part : NumberPart} {n : Numeral} {c : Char} (complete : part.complete = true)
    (foreign : ¬ GoesOn c) : part.step n c = none := by
  simp only [GoesOn, IsMark, not_or, Option.not_isSome_iff_eq_none] at foreign
  obtain ⟨noDigit, noPoint, noMark⟩ := foreign
  cases part with
  | sign | point | mark | markSign => cases complete
  | zero | whole | fraction | exponent => simp [NumberPart.step, noDigit, noPoint, noMark]

theorem scan_number {n : Numeral} {text rest : List Char} (spelt : n.Spelt text)
    (ends : Ends rest) : scan .between (text ++ rest) = .number n :: scan .between rest := by
  obtain ⟨c, more, state, part, rfl, start, taken, complete⟩ := spelt.take
  have begins : Mode.between.step c = ([], .number state.1 state.2) :=
    NumberPart.enter_of_start start
  rw [List.cons_append, scan_cons_of_step begins, scan_take taken]
  rcases rest with - | ⟨d, rest⟩
  · simp [scan, Mode.finish, complete]
  · have foreign : ¬ GoesOn d := ends d rfl
    have noDigit : ¬ (digit? d).isSome = true := fun digit => foreign (.inl digit)
    have step : (Mode.number part n).step d
        = (.number n :: (Mode.enter d).1, (Mode.enter d).2) := by
      simp [Mode.step, step_eq_none complete foreign, complete, noDigit]
    rw [scan_cons, scan_cons, step]
    rfl

theorem Lexemes.scan_eq {ts : List Token} {text : List Char} (lexemes : Lexemes ts text) :
    scan .between text = ts := by
  induction lexemes with
  | nil => rfl
  | @blank c ts cs blank more ih =>
    have skips : Mode.enter c = ([], .between) := by
      unfold Mode.enter
      rw [if_pos blank]
    have step : Mode.between.step c = ([], .between) := skips
    rw [scan_cons_of_step step, ih]
  | lexeme lexeme more ih => rw [lexeme.scan_eq, ih]
  | number spelt ends more ih => rw [scan_number spelt ends, ih]

/-! ### Texts whose tokens are intact -/

/-- The token is no flaw of the text. -/
def Token.Intact : Token → Prop
  | .brokenWord _ | .brokenNumber _ | .stray => False
  | .string q => q.flaw = none
  | _ => True

/-- No token is a flaw of the text. -/
def Intact (ts : List Token) : Prop := ∀ t ∈ ts, t.Intact

@[simp]
theorem intact_nil : Intact [] := nofun

@[simp]
theorem intact_cons {t : Token} {ts : List Token} : Intact (t :: ts) ↔ t.Intact ∧ Intact ts :=
  List.forall_mem_cons

@[simp]
theorem intact_append {ts us : List Token} : Intact (ts ++ us) ↔ Intact ts ∧ Intact us :=
  List.forall_mem_append

theorem Contents.append {ps qs : List Piece} {cs ds : List Char} (contents : Contents ps cs)
    (more : Contents qs ds) : Contents (ps ++ qs) (cs ++ ds) := by
  induction contents with
  | nil => exact more
  | char unquoted unescaped printed _ ih => exact .char unquoted unescaped printed ih
  | escape short _ ih => exact .escape short ih
  | unit first second third fourth _ ih => exact .unit first second third fourth ih

/-- The hexadecimal digits of a unit, as far as it goes, and their value. -/
inductive UnitDigits : Nat → List Char → Prop
  | nil : UnitDigits 0 []
  | digit {value v : Nat} {hs : List Char} {h : Char} (before : UnitDigits value hs)
      (hex : Hex.value? h = some v) : UnitDigits (value * 16 + v) (hs ++ [h])

/-- Four digits are a unit. -/
theorem UnitDigits.unit {value : Nat} {hs : List Char} (digits : UnitDigits value hs)
    (four : hs.length = 4) : Contents [.unit value] ('\\' :: 'u' :: hs) := by
  rcases digits with - | ⟨- | ⟨- | ⟨- | ⟨none | ⟨-, -⟩, first⟩, second⟩, third⟩, fourth⟩
  case digit.digit.digit.digit.nil =>
    rw [Nat.zero_mul, Nat.zero_add]
    exact .unit first second third fourth .nil
  all_goals simp at four

/-- The text begins a lexeme, up to where the machine is. -/
inductive Begins : Mode → List Char → Prop
  | between : Begins .between []
  | word {value : Option Bool} {taken left : List Char} (word : taken ++ left = wordText value)
      (some : left ≠ []) : Begins (.word left value) taken
  | number {part : NumberPart} {n : Numeral} {taken : List Char} (begun : Begun part n taken) :
      Begins (.number part n) taken
  | string {done : List Piece} {cs : List Char} (contents : Contents done.reverse cs) :
      Begins (.string done) ('"' :: cs)
  | escape {done : List Piece} {cs : List Char} (contents : Contents done.reverse cs) :
      Begins (.escape done) ('"' :: (cs ++ ['\\']))
  | unit {done : List Piece} {value : Nat} {cs hs : List Char} (contents : Contents done.reverse cs)
      (digits : UnitDigits value hs) (few : hs.length < 4) :
      Begins (.unit done value hs.length) ('"' :: (cs ++ '\\' :: 'u' :: hs))

/-- What one step makes of the characters so far: a longer beginning, a lexeme, or white space;
otherwise the text is broken, whatever comes behind it. -/
inductive Stepped : List Char → List Token × Mode → Prop
  | more {mode : Mode} {taken : List Char} (begins : Begins mode taken) : Stepped taken ([], mode)
  | lexeme {t : Token} {taken : List Char} (lexeme : Lexeme t taken) :
      Stepped taken ([t], .between)
  | blank {c : Char} (blank : isBlank c = true) : Stepped [c] ([], .between)
  | broken {result : List Token × Mode} {taken : List Char}
      (broken : ∀ rest, ¬ Intact (result.1 ++ scan result.2 rest)) : Stepped taken result

theorem not_intact_cons {t : Token} (broken : ¬ t.Intact) (ts : List Token) :
    ¬ Intact (t :: ts) := fun intact => broken (intact_cons.1 intact).1

theorem Stepped.of_broken {t : Token} (broken : ¬ t.Intact) (taken : List Char) (mode : Mode) :
    Stepped taken ([t], mode) := .broken fun _ => not_intact_cons broken _

theorem brokenString_not_intact (done : List Piece) (flaw : Flaw) :
    ¬ (brokenString done flaw).Intact := Option.some_ne_none flaw

/-- An escape that lacks digits breaks its string. -/
theorem not_intact_badUnit (done : List Piece) (missing : Nat) (text : List Char) :
    ¬ Intact (scan (.badUnit done missing) text) := by
  induction text generalizing missing with
  | nil => exact not_intact_cons (brokenString_not_intact done .ended) _
  | cons c rest ih =>
    rw [scan_cons]
    simp only [Mode.step]
    split
    case isTrue => exact ih _
    case isFalse => exact not_intact_cons (brokenString_not_intact done .malformed) _

/-- A character between lexemes. -/
theorem stepped_enter (c : Char) : Stepped [c] (Mode.enter c) := by
  unfold Mode.enter
  split
  case isTrue blank => exact .blank blank
  case isFalse =>
    split
    case h_1 => exact .lexeme (.opening .object)
    case h_2 => exact .lexeme (.closing .object)
    case h_3 => exact .lexeme (.opening .array)
    case h_4 => exact .lexeme (.closing .array)
    case h_5 => exact .lexeme .colon
    case h_6 => exact .lexeme .comma
    case h_7 => exact .more (.string .nil)
    case h_8 => exact .more (.word rfl (List.cons_ne_nil _ _))
    case h_9 => exact .more (.word rfl (List.cons_ne_nil _ _))
    case h_10 => exact .more (.word rfl (List.cons_ne_nil _ _))
    case h_11 => exact .more (.number .sign)
    case h_12 =>
      split
      case h_1 d digit => exact .more (.number (.whole rfl .none (.first digit)))
      case h_2 => exact .of_broken id _ _

/-- What goes on with a number, but does not belong to it, begins no token, unless it is a digit. -/
theorem enter_of_goesOn {c : Char} (goesOn : GoesOn c) (noDigit : ¬ (digit? c).isSome = true) :
    Mode.enter c = ([.stray], .over) := by
  rcases goesOn with digit | rfl | rfl | rfl
  · exact absurd digit noDigit
  all_goals rfl

namespace Begins

variable {taken : List Char}

theorem step_word {left : List Char} {value : Option Bool} (word : taken ++ left = wordText value)
    (some : left ≠ []) (c : Char) : Stepped (taken ++ [c]) ((Mode.word left value).step c) := by
  rcases left with - | ⟨expected, left⟩
  · exact absurd rfl some
  rw [List.append_cons] at word
  simp only [Mode.step]
  split
  case isTrue => exact .of_broken id _ _
  case isFalse same =>
    obtain rfl := Decidable.not_not.1 same
    split
    case isTrue last =>
      rw [last, List.append_nil] at word
      rw [word]
      exact .lexeme (.word value)
    case isFalse more => exact .more (.word word more)

theorem step_string {done : List Piece} {cs : List Char} (contents : Contents done.reverse cs)
    (c : Char) : Stepped ('"' :: cs ++ [c]) ((Mode.string done).step c) := by
  by_cases quoted : c = '"'
  · rw [quoted]
    exact .lexeme (.string contents)
  by_cases escaped : c = '\\'
  · rw [escaped]
    exact .more (.escape contents)
  by_cases control : c < ' '
  · simp only [Mode.step, if_neg quoted, if_neg escaped, if_pos control]
    exact .of_broken (brokenString_not_intact _ _) _ _
  · simp only [Mode.step, if_neg quoted, if_neg escaped, if_neg control]
    refine .more (.string ?_)
    rw [List.reverse_cons]
    exact contents.append (.char quoted escaped control .nil)

theorem step_escape {done : List Piece} {cs : List Char} (contents : Contents done.reverse cs)
    (c : Char) : Stepped ('"' :: (cs ++ ['\\']) ++ [c]) ((Mode.escape done).step c) := by
  rw [List.cons_append, List.append_assoc]
  simp only [Mode.step]
  split
  case isTrue unit =>
    rw [unit]
    exact .more (.unit contents .nil (by decide))
  case isFalse =>
    split
    case h_1 e short =>
      refine .more (.string ?_)
      rw [List.reverse_cons]
      exact contents.append (.escape short .nil)
    case h_2 => exact .of_broken (brokenString_not_intact _ _) _ _

theorem step_unit {done : List Piece} {value : Nat} {cs hs : List Char}
    (contents : Contents done.reverse cs) (digits : UnitDigits value hs) (few : hs.length < 4)
    (c : Char) : Stepped ('"' :: (cs ++ '\\' :: 'u' :: hs) ++ [c])
      ((Mode.unit done value hs.length).step c) := by
  rw [List.cons_append, List.append_assoc]
  simp only [Mode.step, List.cons_append]
  rcases hex : Hex.value? c with - | v <;> simp only
  · split
    · exact .broken (not_intact_badUnit done _)
    · exact .of_broken (brokenString_not_intact _ _) _ _
  · have digits := digits.digit hex
    split
    case isTrue last =>
      refine .more (.string ?_)
      rw [List.reverse_cons]
      exact contents.append (digits.unit (by simp [last]))
    case isFalse notLast =>
      have count : hs.length + 1 = (hs ++ [c]).length := by simp
      rw [count]
      exact .more (.unit contents digits (by simp; omega))

theorem step_number {part : NumberPart} {n : Numeral} (begun : Begun part n taken) (c : Char) :
    Stepped (taken ++ [c]) ((Mode.number part n).step c) ∨
      n.Spelt taken ∧ ¬ GoesOn c ∧
        (Mode.number part n).step c = (.number n :: (Mode.enter c).1, (Mode.enter c).2) := by
  rcases step : part.step n c with - | ⟨next, m⟩
  · simp only [Mode.step, step]
    split
    case isFalse => exact .inl (.of_broken id _ _)
    case isTrue ends =>
      -- a point or a mark behind a number that cannot go on with it is no token of its own
      by_cases goesOn : GoesOn c
      · refine .inl (.broken fun rest intact => ?_)
        have noDigit : ¬ (digit? c).isSome = true := by
          intro digit
          obtain ⟨d, digit⟩ := Option.isSome_iff_exists.1 digit
          cases part with
          | zero => exact ends.2 ⟨rfl, by rw [digit]; rfl⟩
          | sign | point | mark | markSign => cases ends.1
          | whole | fraction | exponent => simp [NumberPart.step, digit] at step
        rw [enter_of_goesOn goesOn noDigit] at intact
        exact (intact_cons.1 (intact_cons.1 intact).2).1
      · exact .inr ⟨begun.spelt ends.1, goesOn, rfl⟩
  · simp only [Mode.step, step]
    exact .inl (.more (.number (begun.step step)))

/-- **One step of the machine.**  It goes on with a lexeme, completes it, or breaks a token; only a
number is completed by a character that does not belong to it. -/
theorem step {mode : Mode} (begins : Begins mode taken) (c : Char) :
    Stepped (taken ++ [c]) (mode.step c) ∨
      ∃ n, n.Spelt taken ∧ ¬ GoesOn c ∧
        mode.step c = (.number n :: (Mode.enter c).1, (Mode.enter c).2) := by
  cases begins with
  | between => exact .inl (stepped_enter c)
  | word word some => exact .inl (step_word word some c)
  | @number part n _ begun =>
    rcases step_number begun c with stepped | ends
    · exact .inl stepped
    · exact .inr ⟨n, ends⟩
  | string contents => exact .inl (step_string contents c)
  | escape contents => exact .inl (step_escape contents c)
  | unit contents digits few => exact .inl (step_unit contents digits few c)

/-- The end of the text. -/
theorem finish {mode : Mode} (begins : Begins mode taken) (intact : Intact mode.finish) :
    Lexemes mode.finish taken := by
  cases begins with
  | between => exact .nil
  | @number part n _ begun =>
    rcases complete : part.complete
    · simp only [Mode.finish, complete] at intact
      exact absurd intact (not_intact_cons id _)
    · simp only [Mode.finish, complete]
      have ends : Ends [] := nofun
      have last := Lexemes.number (begun.spelt complete) ends .nil
      rw [List.append_nil] at last
      exact last
  | word => exact absurd intact (not_intact_cons id _)
  | string | escape | unit =>
    exact absurd intact (not_intact_cons (brokenString_not_intact _ _) _)

theorem lexemes {mode : Mode} (begins : Begins mode taken) {text : List Char}
    (intact : Intact (scan mode text)) : Lexemes (scan mode text) (taken ++ text) := by
  induction text generalizing mode taken with
  | nil =>
    rw [List.append_nil]
    exact begins.finish intact
  | cons c rest ih =>
    have of_stepped {taken : List Char} {result : List Token × Mode}
        (stepped : Stepped taken result) (intact : Intact (result.1 ++ scan result.2 rest)) :
        Lexemes (result.1 ++ scan result.2 rest) (taken ++ rest) := by
      cases stepped with
      | more begins => exact ih begins intact
      | lexeme lexeme =>
        exact .lexeme lexeme (ih .between (intact_cons.1 intact).2)
      | blank blank => exact .blank blank (ih .between intact)
      | broken broken => exact absurd intact (broken rest)
    rw [scan_cons] at intact ⊢
    -- behind a number, `c` is read once more, as a character between lexemes
    rcases begins.step c with stepped | ⟨n, spelt, foreign, stepped⟩
    · rw [List.append_cons]
      exact of_stepped stepped intact
    · rw [stepped] at intact ⊢
      have more := of_stepped (stepped_enter c) (intact_cons.1 intact).2
      exact .number spelt (ends_cons foreign rest) more

end Begins

/-- **A text whose tokens are intact is a sequence of lexemes**, and they are its tokens. -/
theorem lexemes_of_intact {text : List Char} (intact : Intact (tokens text)) :
    Lexemes (tokens text) text := Begins.between.lexemes intact

end ScopedImports.Json
