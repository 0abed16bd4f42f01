import ScopedImports.Json.Token

/-!
How numbers are spelt.

    -12.50e+3    negative, whole 1 2, fraction 5 0, exponent plus 3

A number is a sign, whole digits, a fraction and an exponent, where all but the whole digits may be
missing; the whole digits are a zero alone or do not begin with one.  `Numeral.Spelt` says so, and
the machine that takes one character after the other is compared with it in both directions: it goes
through every spelling to a part where the number may end (`Numeral.Spelt.take`), and what it has
taken when it is at such a part is a spelling (`Begun.spelt`).
-/

namespace ScopedImports.Json

/-! ### Spellings -/

/-- The characters are the decimal digits. -/
def Digits (digits : List Nat) (text : List Char) : Prop := text.map digit? = digits.map some

/-- A minus, if the number is negative. -/
inductive Sign : Bool → List Char → Prop
  | none : Sign false []
  | minus : Sign true ['-']

/-- Whole digits: a zero alone, or digits that do not begin with zero. -/
inductive Whole : List Nat → List Char → Prop
  | zero {c : Char} (digit : digit? c = some 0) : Whole [0] [c]
  | digits {c : Char} {d : Nat} {ds : List Nat} {cs : List Char} (digit : digit? c = some d)
      (positive : d ≠ 0) (more : Digits ds cs) : Whole (d :: ds) (c :: cs)

theorem Digits.concat {ds : List Nat} {d : Nat} {cs : List Char} {c : Char} (digits : Digits ds cs)
    (digit : digit? c = some d) : Digits (ds ++ [d]) (cs ++ [c]) := by
  rw [Digits, List.map_append, List.map_append, digits, List.map_singleton, digit]
  rfl

/-- The first digit of a number. -/
theorem Whole.first {d : Nat} {c : Char} (digit : digit? c = some d) : Whole [d] [c] := by
  by_cases zero : d = 0
  · subst zero
    exact .zero digit
  · exact .digits digit zero rfl

theorem Whole.concat {d e : Nat} {ds : List Nat} {cs : List Char} {c : Char}
    (whole : Whole (d :: ds) cs) (positive : d ≠ 0) (digit : digit? c = some e) :
    Whole (d :: (ds ++ [e])) (cs ++ [c]) := by
  cases whole with
  | zero => exact absurd rfl positive
  | digits first _ more => exact .digits first positive (more.concat digit)

/-- A point and at least one digit, or nothing. -/
inductive Fraction : List Nat → List Char → Prop
  | none : Fraction [] []
  | some {c : Char} {d : Nat} {ds : List Nat} {cs : List Char} (digit : digit? c = .some d)
      (more : Digits ds cs) : Fraction (d :: ds) ('.' :: c :: cs)

/-- The mark of an exponent. -/
def IsMark (c : Char) : Prop := c = 'e' ∨ c = 'E'

instance (c : Char) : Decidable (IsMark c) := inferInstanceAs (Decidable (_ ∨ _))

/-- The sign of an exponent: a plus may be written. -/
inductive ExponentSign : Bool → List Char → Prop
  | none : ExponentSign false []
  | plus : ExponentSign false ['+']
  | minus : ExponentSign true ['-']

/-- A mark, a sign and at least one digit, or nothing. -/
inductive Exponent : Option (Bool × List Nat) → List Char → Prop
  | none : Exponent none []
  | some {mark c : Char} {minus : Bool} {sign cs : List Char} {d : Nat} {ds : List Nat}
      (isMark : IsMark mark) (signed : ExponentSign minus sign) (digit : digit? c = .some d)
      (more : Digits ds cs) : Exponent (.some (minus, d :: ds)) (mark :: (sign ++ c :: cs))

/-- The text spells the numeral. -/
inductive Numeral.Spelt : Numeral → List Char → Prop
  | mk {negative : Bool} {ws fs : List Nat} {e : Option (Bool × List Nat)}
      {sign whole fraction exponent : List Char} (signed : Sign negative sign)
      (wholly : Whole ws whole) (broken : Fraction fs fraction) (raised : Exponent e exponent) :
      Numeral.Spelt ⟨negative, ws, fs, e⟩ (sign ++ (whole ++ (fraction ++ exponent)))

/-! ### The machine goes through every spelling -/

namespace NumberPart

/-- Take characters one after the other. -/
def take (state : NumberPart × Numeral) (text : List Char) : Option (NumberPart × Numeral) :=
  text.foldlM (fun state c => state.1.step state.2 c) state

theorem take_cons {part next : NumberPart} {n m : Numeral} {c : Char}
    (step : part.step n c = some (next, m)) (text : List Char) :
    take (part, n) (c :: text) = take (next, m) text := by
  rw [take, List.foldlM_cons, step]
  rfl

theorem take_append {state next : NumberPart × Numeral} {text : List Char}
    (taken : take state text = some next) (more : List Char) :
    take state (text ++ more) = take next more := by
  rw [take] at taken
  rw [take, List.foldlM_append, taken]
  rfl

/-- A part that collects digits, collects all of them. -/
theorem take_digits {part : NumberPart} (collect : List Nat → Numeral)
    (step : ∀ ds c d, digit? c = some d →
      part.step (collect ds) c = some (part, collect (ds ++ [d])))
    {es : List Nat} {text : List Char} (digits : Digits es text) (ds : List Nat) :
    take (part, collect ds) text = some (part, collect (ds ++ es)) := by
  induction text generalizing es ds with
  | nil =>
    obtain rfl := List.map_eq_nil_iff.1 digits.symm
    rw [List.append_nil]
    rfl
  | cons c text ih =>
    rcases es with - | ⟨e, es⟩
    · cases digits
    · obtain ⟨digit, more⟩ := List.cons.inj digits
      rw [take_cons (step ds c e digit), ih more, List.append_assoc]
      rfl

/-- Where the machine is behind the first whole digit. -/
def ofDigit (d : Nat) : NumberPart := if d = 0 then .zero else .whole

/-- Where a number may go on with a fraction. -/
def IsWhole (part : NumberPart) : Prop := part = .zero ∨ part = .whole

theorem isWhole_ofDigit (d : Nat) : (ofDigit d).IsWhole := by
  unfold ofDigit
  split
  · exact .inl rfl
  · exact .inr rfl

section Steps

variable {c : Char} {d : Nat} {negative : Bool} {ws fs : List Nat} {e : Option (Bool × List Nat)}

theorem take_whole (negative : Bool) {text : List Char} (whole : Whole ws text) :
    ∃ c d cs part, text = c :: cs ∧ digit? c = some d ∧
      take (ofDigit d, ⟨negative, [d], [], none⟩) cs = some (part, ⟨negative, ws, [], none⟩) ∧
      part.IsWhole := by
  cases whole with
  | @zero c digit => exact ⟨c, 0, [], .zero, rfl, digit, rfl, .inl rfl⟩
  | @digits c d ds cs digit positive more =>
    refine ⟨c, d, cs, .whole, rfl, digit, ?_, .inr rfl⟩
    rw [ofDigit, if_neg positive]
    apply take_digits (fun ws => ⟨negative, ws, [], none⟩) ?_ more [d]
    intro ws c d digit
    simp [step, digit]

/-- Where a number may go on with an exponent. -/
def IsMantissa (part : NumberPart) : Prop := part.IsWhole ∨ part = .fraction

theorem take_fraction {part : NumberPart} (isWhole : part.IsWhole) {text : List Char}
    (fraction : Fraction fs text) :
    ∃ next, take (part, ⟨negative, ws, [], none⟩) text = some (next, ⟨negative, ws, fs, none⟩) ∧
      next.IsMantissa := by
  cases fraction with
  | none => exact ⟨part, rfl, .inl isWhole⟩
  | @some c d ds cs digit more =>
    refine ⟨.fraction, ?_, .inr rfl⟩
    have point : part.step ⟨negative, ws, [], none⟩ '.'
        = .some (.point, ⟨negative, ws, [], none⟩) := by
      rcases isWhole with rfl | rfl <;> rfl
    have first : NumberPart.point.step ⟨negative, ws, [], none⟩ c
        = .some (.fraction, ⟨negative, ws, [d], none⟩) := by
      simp [step, digit]
    rw [take_cons point, take_cons first]
    apply take_digits (fun fs => ⟨negative, ws, fs, none⟩) ?_ more [d]
    intro fs c d digit
    simp [step, digit]

theorem take_exponent {part : NumberPart} (isMantissa : part.IsMantissa) {text : List Char}
    (exponent : Exponent e text) :
    ∃ next, take (part, ⟨negative, ws, fs, none⟩) text = some (next, ⟨negative, ws, fs, e⟩) ∧
      next.complete = true := by
  cases exponent with
  | none =>
    refine ⟨part, rfl, ?_⟩
    rcases isMantissa with (rfl | rfl) | rfl <;> rfl
  | @some mark c minus sign cs d ds isMark signed digit more =>
    refine ⟨.exponent, ?_, rfl⟩
    have marked : part.step ⟨negative, ws, fs, none⟩ mark
        = .some (.mark, ⟨negative, ws, fs, .some (false, [])⟩) := by
      rcases isMantissa with (rfl | rfl) | rfl <;> rcases isMark with rfl | rfl <;> rfl
    have collect (minus : Bool) : take (.exponent, ⟨negative, ws, fs, .some (minus, [d])⟩) cs
        = .some (.exponent, ⟨negative, ws, fs, .some (minus, [d] ++ ds)⟩) := by
      apply take_digits (fun es => ⟨negative, ws, fs, .some (minus, es)⟩) ?_ more [d]
      intro es c d digit
      simp [step, digit]
    have first {part : NumberPart} (minus : Bool) (before : part = .mark ∨ part = .markSign) :
        part.step ⟨negative, ws, fs, .some (minus, [])⟩ c
          = .some (.exponent, ⟨negative, ws, fs, .some (minus, [d])⟩) := by
      rcases before with rfl | rfl <;> simp [step, digit]
    rw [take_cons marked]
    cases signed with
    | none => exact (take_cons (first false (.inl rfl)) cs).trans (collect false)
    | plus =>
      refine (take_cons rfl _).trans ?_
      exact (take_cons (first false (.inr rfl)) cs).trans (collect false)
    | minus =>
      refine (take_cons rfl _).trans ?_
      exact (take_cons (first true (.inr rfl)) cs).trans (collect true)

end Steps

/-- Where the machine is behind the first character of a number. -/
def start? (c : Char) : Option (NumberPart × Numeral) :=
  if c = '-' then some (.sign, ⟨true, [], [], none⟩)
  else (digit? c).map fun d => (ofDigit d, ⟨false, [d], [], none⟩)

theorem enter_of_start {c : Char} {state : NumberPart × Numeral} (start : start? c = some state) :
    Mode.enter c = ([], .number state.1 state.2) := by
  rw [start?] at start
  split at start
  case isTrue minus =>
    obtain rfl := minus
    obtain rfl := Option.some.inj start
    rfl
  case isFalse =>
    obtain ⟨d, digit, rfl⟩ := Option.map_eq_some_iff.1 start
    have solid : ¬ isBlank c = true := by
      intro blank
      simp only [isBlank, Bool.or_eq_true, beq_iff_eq] at blank
      rcases blank with ((rfl | rfl) | rfl) | rfl <;> cases digit
    unfold Mode.enter
    rw [if_neg solid]
    split
    case h_12 =>
      rw [digit]
      rfl
    all_goals cases digit

end NumberPart

/-- The machine goes through every spelling, and the number may end where it ends. -/
theorem Numeral.Spelt.take {n : Numeral} {text : List Char} (spelt : n.Spelt text) :
    ∃ c rest state part, text = c :: rest ∧ NumberPart.start? c = some state ∧
      NumberPart.take state rest = some (part, n) ∧ part.complete = true := by
  cases spelt with
  | @mk negative ws fs e sign whole fraction exponent signed wholly broken raised =>
    obtain ⟨c, d, cs, part, rfl, digit, first, isWhole⟩ := NumberPart.take_whole negative wholly
    obtain ⟨next, second, isMantissa⟩ := NumberPart.take_fraction isWhole broken
    obtain ⟨last, third, complete⟩ := NumberPart.take_exponent isMantissa raised
    have behind : NumberPart.take (NumberPart.ofDigit d, ⟨negative, [d], [], none⟩)
        (cs ++ (fraction ++ exponent)) = some (last, ⟨negative, ws, fs, e⟩) := by
      rw [NumberPart.take_append first, NumberPart.take_append second, third]
    cases signed with
    | none =>
      refine ⟨c, _, _, last, rfl, ?_, behind, complete⟩
      have other : c ≠ '-' := by
        rintro rfl
        cases digit
      rw [NumberPart.start?, if_neg other, digit]
      rfl
    | minus =>
      have digitStep : NumberPart.sign.step ⟨true, [], [], none⟩ c
          = some (.ofDigit d, ⟨true, [d], [], none⟩) := by
        simp [NumberPart.step, digit, NumberPart.ofDigit]
      exact ⟨'-', _, _, last, rfl, rfl, (NumberPart.take_cons digitStep _).trans behind, complete⟩

/-! ### What the machine has taken -/

/-- The text leads the machine to a part of a number, with what it has collected. -/
inductive Begun : NumberPart → Numeral → List Char → Prop
  | sign : Begun .sign ⟨true, [], [], none⟩ ['-']
  | whole {negative : Bool} {part : NumberPart} {d : Nat} {ds : List Nat} {sign cs : List Char}
      (at' : part = .ofDigit d) (signed : Sign negative sign) (whole : Whole (d :: ds) cs) :
      Begun part ⟨negative, d :: ds, [], none⟩ (sign ++ cs)
  | point {negative : Bool} {ws : List Nat} {sign cs : List Char} (signed : Sign negative sign)
      (whole : Whole ws cs) : Begun .point ⟨negative, ws, [], none⟩ (sign ++ (cs ++ ['.']))
  | fraction {negative : Bool} {ws fs : List Nat} {sign cs ds : List Char}
      (signed : Sign negative sign) (whole : Whole ws cs) (fraction : Fraction fs ds)
      (some : fs ≠ []) :
      Begun .fraction ⟨negative, ws, fs, none⟩ (sign ++ (cs ++ ds))
  | mark {negative : Bool} {ws fs : List Nat} {sign cs ds : List Char} {mark : Char}
      (signed : Sign negative sign) (whole : Whole ws cs) (fraction : Fraction fs ds)
      (isMark : IsMark mark) :
      Begun .mark ⟨negative, ws, fs, some (false, [])⟩ (sign ++ (cs ++ (ds ++ [mark])))
  | markSign {negative minus : Bool} {ws fs : List Nat} {sign cs ds es : List Char} {mark : Char}
      (signed : Sign negative sign) (whole : Whole ws cs) (fraction : Fraction fs ds)
      (isMark : IsMark mark) (exponentSign : ExponentSign minus es) :
      Begun .markSign ⟨negative, ws, fs, some (minus, [])⟩ (sign ++ (cs ++ (ds ++ mark :: es)))
  | exponent {negative minus : Bool} {ws fs es : List Nat} {sign cs ds xs : List Char}
      (signed : Sign negative sign) (whole : Whole ws cs) (fraction : Fraction fs ds)
      (exponent : Exponent (some (minus, es)) xs) :
      Begun .exponent ⟨negative, ws, fs, some (minus, es)⟩ (sign ++ (cs ++ (ds ++ xs)))

namespace Begun

variable {part next : NumberPart} {n m : Numeral} {text : List Char} {c : Char}

/-- Where the number may end, it is spelt. -/
theorem spelt (begun : Begun part n text) (complete : part.complete = true) : n.Spelt text := by
  cases begun with
  | @whole _ _ _ _ sign cs _ signed whole =>
    have spelt := Numeral.Spelt.mk signed whole .none .none
    rw [List.append_nil, List.append_nil] at spelt
    exact spelt
  | fraction signed whole fraction some =>
    have spelt := Numeral.Spelt.mk signed whole fraction .none
    rw [List.append_nil] at spelt
    exact spelt
  | exponent signed whole fraction exponent => exact .mk signed whole fraction exponent
  | _ => cases complete

/-- One more character. -/
theorem step (begun : Begun part n text) (step : part.step n c = some (next, m)) :
    Begun next m (text ++ [c]) := by
  cases begun with
  | sign =>
    rcases digit : digit? c with - | d
    · simp [NumberPart.step, digit] at step
    · simp only [NumberPart.step, digit, Option.some.injEq, Prod.mk.injEq] at step
      obtain ⟨rfl, rfl⟩ := step
      exact .whole rfl .minus (.first digit)
  | @whole negative part d ds sign cs at' signed whole =>
    rw [List.append_assoc]
    rcases digit : digit? c with - | e
    · have ends : part.step ⟨negative, d :: ds, [], none⟩ c
          = if c = '.' then some (.point, ⟨negative, d :: ds, [], none⟩)
            else if c = 'e' ∨ c = 'E' then some (.mark, ⟨negative, d :: ds, [], some (false, [])⟩)
            else none := by
        rcases NumberPart.isWhole_ofDigit d with zero | more
        · simp [at', zero, NumberPart.step, digit]
        · simp [at', more, NumberPart.step, digit]
      rw [ends] at step
      split at step
      case isTrue point =>
        obtain rfl := point
        obtain ⟨rfl, rfl⟩ := Prod.mk.inj (Option.some.inj step)
        exact .point signed whole
      case isFalse =>
        split at step
        case isTrue isMark =>
          obtain ⟨rfl, rfl⟩ := Prod.mk.inj (Option.some.inj step)
          exact .mark signed whole .none isMark
        case isFalse => cases step
    · by_cases zero : d = 0
      · simp [at', NumberPart.ofDigit, zero, NumberPart.step, digit] at step
      · simp only [NumberPart.step, at', NumberPart.ofDigit, zero, if_false, digit,
          List.cons_append, Option.some.injEq, Prod.mk.injEq] at step
        obtain ⟨rfl, rfl⟩ := step
        exact .whole (by rw [NumberPart.ofDigit, if_neg zero]) signed (whole.concat zero digit)
  | point signed whole =>
    rw [List.append_assoc, List.append_assoc]
    rcases digit : digit? c with - | d
    · simp [NumberPart.step, digit] at step
    · simp only [NumberPart.step, digit, List.nil_append, Option.some.injEq, Prod.mk.injEq] at step
      obtain ⟨rfl, rfl⟩ := step
      exact .fraction signed whole (.some digit rfl) (List.cons_ne_nil _ _)
  | fraction signed whole fraction some =>
    rw [List.append_assoc, List.append_assoc]
    rcases digit : digit? c with - | d
    · simp only [NumberPart.step, digit, Option.ite_none_right_eq_some, Option.some.injEq,
        Prod.mk.injEq] at step
      obtain ⟨isMark, rfl, rfl⟩ := step
      exact .mark signed whole fraction isMark
    · simp only [NumberPart.step, digit, Option.some.injEq, Prod.mk.injEq] at step
      obtain ⟨rfl, rfl⟩ := step
      cases fraction with
      | none => exact absurd rfl some
      | some first more =>
        exact .fraction signed whole (.some first (more.concat digit)) (List.cons_ne_nil _ _)
  | mark signed whole fraction isMark =>
    rw [List.append_assoc, List.append_assoc, List.append_assoc]
    rcases digit : digit? c with - | d
    · simp only [NumberPart.step, digit, Option.ite_none_right_eq_some, Option.some.injEq,
        Prod.mk.injEq] at step
      obtain ⟨sign, rfl, rfl⟩ := step
      rcases sign with rfl | rfl
      · exact .markSign signed whole fraction isMark .plus
      · exact .markSign signed whole fraction isMark .minus
    · simp only [NumberPart.step, digit, Option.getD_some, List.nil_append, Option.some.injEq,
        Prod.mk.injEq] at step
      obtain ⟨rfl, rfl⟩ := step
      exact .exponent signed whole fraction (.some isMark .none digit rfl)
  | markSign signed whole fraction isMark exponentSign =>
    rw [List.append_assoc, List.append_assoc, List.append_assoc]
    rcases digit : digit? c with - | d
    · simp [NumberPart.step, digit] at step
    · simp only [NumberPart.step, digit, Option.getD_some, List.nil_append, Option.some.injEq,
        Prod.mk.injEq] at step
      obtain ⟨rfl, rfl⟩ := step
      exact .exponent signed whole fraction (.some isMark exponentSign digit rfl)
  | exponent signed whole fraction exponent =>
    rw [List.append_assoc, List.append_assoc, List.append_assoc]
    rcases digit : digit? c with - | d
    · simp [NumberPart.step, digit] at step
    · simp only [NumberPart.step, digit, Option.getD_some, Option.some.injEq, Prod.mk.injEq] at step
      obtain ⟨rfl, rfl⟩ := step
      cases exponent with
      | @some mark c' _ sign cs _ _ isMark signedly first more =>
        have longer : mark :: (sign ++ c' :: cs) ++ [c] = mark :: (sign ++ c' :: (cs ++ [c])) := by
          simp
        rw [longer]
        exact .exponent signed whole fraction (.some isMark signedly first (more.concat digit))

end Begun

end ScopedImports.Json
