import ScopedImports.InMemory.Host

/-!
Names in lower case are keys that stay what they are.

Two laws hold of the canonical form of a name.  It is its own canonical form, and it is made piece
by piece: a separator parts the name into pieces that do not see each other.

    canonical (canonical name)  =  canonical name
    canonical (a ++ "/" ++ b)   =  canonical a ++ "/" ++ canonical b

The first law is one of the table.  What a run of the lower-case map leads to is covered by no run
again; for that the runs are compared two by two, as arithmetic progressions (`LowerRun.misses`).
The second law is one of the capital sigma, the only character whose form depends on others.  It
looks both ways past what case ignores, and a separator is neither ignored nor cased, so the search
ends there with the answer that it has at the end of a text.
-/

namespace ScopedImports

namespace Text

/-! ### The table leads out of itself -/

namespace LowerRun

variable {run other : LowerRun}

/-- No code point that `run` leads to is covered by `other`: it lies behind, or in front, or always
between two that are. -/
def misses (run other : LowerRun) : Bool :=
  other.last < run.target || run.target + (run.last - run.first) < other.first ||
    (other.step == 2 && (run.step == 2 || run.first == run.last) &&
      run.target % 2 != other.first % 2)

/-- Every number that the run leads to is that of a character. -/
def isValid (run : LowerRun) : Bool :=
  run.target + (run.last - run.first) < 0xd800 ||
    (0xdfff < run.target && run.target + (run.last - run.first) < 0x110000)

theorem covers_iff {n : Nat} : run.covers n = true ↔
    run.first ≤ n ∧ n ≤ run.last ∧ (n - run.first) % run.step = 0 := by
  simp [covers, and_assoc]

theorem not_covers_of_misses (misses : run.misses other = true) {n : Nat}
    (covered : run.covers n = true) : ¬ other.covers (run.target + (n - run.first)) = true := by
  rw [covers_iff] at covered ⊢
  simp only [LowerRun.misses, Bool.or_eq_true, Bool.and_eq_true, decide_eq_true_eq, beq_iff_eq,
    bne_iff_ne] at misses
  rintro ⟨low, high, step⟩
  rcases misses with (behind | before) | ⟨⟨two, even⟩, parity⟩
  · omega
  · omega
  · -- both progressions go in steps of two, and they begin with different parity
    rw [two] at step
    rcases even with even | single
    · rw [even] at covered
      omega
    · omega

theorem toNat_of_isValid (valid : run.isValid = true) {n : Nat} (covered : run.covers n = true) :
    (Char.ofNat (run.target + (n - run.first))).toNat = run.target + (n - run.first) := by
  rw [covers_iff] at covered
  simp only [isValid, Bool.or_eq_true, Bool.and_eq_true, decide_eq_true_eq] at valid
  have scalar : (run.target + (n - run.first)).isValidChar := by
    rcases valid with low | ⟨high, bound⟩
    · exact .inl (by omega)
    · exact .inr ⟨by omega, by omega⟩
  rw [Char.ofNat, dif_pos scalar]
  rfl

end LowerRun

/-- The capital I with a dot, which has a form of its own, as a run. -/
def dottedRun : LowerRun := ⟨0x130, 0x130, 1, 0⟩

theorem lowerRuns_miss :
    (lowerRuns.all fun run => (dottedRun :: lowerRuns).all run.misses) = true := by
  decide +kernel

theorem lowerRuns_valid : lowerRuns.all LowerRun.isValid = true := by
  decide +kernel

/-! ### Characters in lower case -/

/-- The character has no lower-case form but itself. -/
def IsLower (c : Char) : Prop :=
  ∀ run ∈ dottedRun :: lowerRuns, ¬ run.covers c.toNat = true

instance (c : Char) : Decidable (IsLower c) := inferInstanceAs (Decidable (∀ run ∈ _, _))

namespace IsLower

variable {c : Char} (lower : IsLower c)

include lower

theorem ne_dotted : c ≠ '\u0130' := by
  rintro rfl
  exact lower dottedRun List.mem_cons_self (by decide)

theorem ne_sigma : c ≠ 'Σ' := by
  rintro rfl
  exact lower ⟨931, 939, 1, 963⟩ (by decide +kernel) (by decide)

theorem lowerChar_eq : lowerChar c = [c] := by
  have none : (lowerRuns.find? fun run => run.covers c.toNat) = none :=
    List.find?_eq_none.2 fun run mem => lower run (List.mem_cons_of_mem _ mem)
  rw [lowerChar, if_neg lower.ne_dotted, none]

end IsLower

/-- What a character becomes is in lower case. -/
theorem isLower_of_mem_lowerChar {c d : Char} (mem : d ∈ lowerChar c) : IsLower d := by
  rw [lowerChar] at mem
  split at mem
  case isTrue =>
    simp only [List.mem_cons, List.not_mem_nil, or_false] at mem
    rcases mem with rfl | rfl <;> decide +kernel
  case isFalse plain =>
    split at mem
    case h_1 run hit =>
      rw [List.mem_singleton] at mem
      subst mem
      have among : run ∈ lowerRuns := List.mem_of_find?_eq_some hit
      have covered : run.covers c.toNat = true :=
        List.find?_some (p := fun run : LowerRun => run.covers c.toNat) hit
      have valid : run.isValid = true := List.all_eq_true.1 lowerRuns_valid run among
      have misses := List.all_eq_true.1 (List.all_eq_true.1 lowerRuns_miss run among)
      intro other amongOthers
      rw [LowerRun.toNat_of_isValid valid covered]
      exact LowerRun.not_covers_of_misses (misses other amongOthers) covered
    case h_2 none =>
      rw [List.mem_singleton] at mem
      subst mem
      intro run among
      rcases List.mem_cons.1 among with rfl | among
      · -- the run of the dotted I covers that letter only
        rw [LowerRun.covers_iff]
        rintro ⟨low, high, -⟩
        exact plain (Char.toNat_inj.1 (Nat.le_antisymm high low))
      · exact List.find?_eq_none.1 none run among

theorem isLower_sigmaForm (before after : List Char) : IsLower (sigmaForm before after) := by
  rw [sigmaForm]
  split <;> decide +kernel

/-! ### Texts in lower case -/

theorem isLower_of_mem_lowerFrom {before text : List Char} {d : Char}
    (mem : d ∈ lowerFrom before text) : IsLower d := by
  induction text generalizing before with
  | nil => cases mem
  | cons c text ih =>
    rw [lowerFrom, List.mem_append] at mem
    rcases mem with first | later
    · split at first
      · rw [List.mem_singleton.1 first]
        exact isLower_sigmaForm before text
      · exact isLower_of_mem_lowerChar first
    · exact ih later

/-- A text in lower case stays as it is, whatever stands before it. -/
theorem lowerFrom_of_isLower {before text : List Char} (lower : ∀ c ∈ text, IsLower c) :
    lowerFrom before text = text := by
  induction text generalizing before with
  | nil => rfl
  | cons c text ih =>
    have first : IsLower c := lower c List.mem_cons_self
    rw [lowerFrom, if_neg first.ne_sigma, first.lowerChar_eq,
      ih fun d mem => lower d (List.mem_cons_of_mem _ mem), List.singleton_append]

theorem lower_lower (text : String) : lower (lower text) = lower text := by
  rw [lower, lower, String.toList_ofList,
    lowerFrom_of_isLower fun c mem => isLower_of_mem_lowerFrom mem]

/-! ### Separators -/

/-- The character takes no part in case, and is not looked past either. -/
structure Separates (c : Char) : Prop where
  seen : isCaseIgnorable c = false
  uncased : isCased c = false
  lower : IsLower c

namespace Separates

variable {c : Char} (separates : Separates c)

include separates

/-- Nothing behind a separator is seen from before it. -/
theorem startsCased_append (text more : List Char) :
    startsCased (text ++ c :: more) = startsCased text := by
  induction text with
  | nil =>
    rw [List.nil_append, startsCased, List.dropWhile_cons_of_neg (by rw [separates.seen]; decide)]
    exact separates.uncased
  | cons d text ih =>
    rw [startsCased] at ih ⊢
    rw [List.cons_append, startsCased]
    by_cases ignored : isCaseIgnorable d = true
    · rw [List.dropWhile_cons_of_pos ignored, List.dropWhile_cons_of_pos ignored, ih]
      rfl
    · rw [List.dropWhile_cons_of_neg ignored, List.dropWhile_cons_of_neg ignored]
      rfl

/-- What stands before a separator has no part in what comes behind it. -/
theorem lowerFrom_behind (before more text : List Char) :
    lowerFrom (before ++ c :: more) text = lowerFrom before text := by
  induction text generalizing before with
  | nil => rfl
  | cons d text ih =>
    rw [lowerFrom, lowerFrom, sigmaForm, separates.startsCased_append, ← sigmaForm,
      ← List.cons_append, ih]

theorem lowerFrom_append (before text more : List Char) :
    lowerFrom before (text ++ c :: more) = lowerFrom before text ++ c :: lowerFrom [] more := by
  induction text generalizing before with
  | nil =>
    have behind := separates.lowerFrom_behind [] before more
    rw [List.nil_append] at behind
    rw [List.nil_append, lowerFrom.eq_2, if_neg separates.lower.ne_sigma,
      separates.lower.lowerChar_eq, behind]
    rfl
  | cons d text ih =>
    rw [List.cons_append, lowerFrom, lowerFrom, sigmaForm, separates.startsCased_append,
      ← sigmaForm, ih, List.append_assoc]

end Separates

theorem separates_slash : Separates '/' :=
  ⟨by decide +kernel, by decide +kernel, by decide +kernel⟩

theorem lower_append (a b : String) : lower (a ++ "/" ++ b) = lower a ++ "/" ++ lower b := by
  have parts : (a ++ "/" ++ b).toList = a.toList ++ '/' :: b.toList := by
    rw [String.toList_append, String.toList_append, List.append_assoc]
    rfl
  have forms : (lower a ++ "/" ++ lower b).toList
      = lowerFrom [] a.toList ++ '/' :: lowerFrom [] b.toList := by
    rw [String.toList_append, String.toList_append, List.append_assoc, lower, lower,
      String.toList_ofList, String.toList_ofList, String.toList_ofList]
    rfl
  apply String.toList_inj.1
  rw [forms, lower, String.toList_ofList, parts, separates_slash.lowerFrom_append]

end Text

namespace InMemory

/-- **Canonical names are stable keys**, whether names differ by case or not: the canonical form of
a name is its own canonical form, and that of a path is made of those of its pieces. -/
theorem canonicalName_stable (caseSensitive : Bool) (a b : String) :
    canonicalName caseSensitive (canonicalName caseSensitive a) = canonicalName caseSensitive a ∧
      canonicalName caseSensitive (a ++ "/" ++ b)
        = canonicalName caseSensitive a ++ "/" ++ canonicalName caseSensitive b := by
  cases caseSensitive with
  | true => exact ⟨rfl, rfl⟩
  | false => exact ⟨Text.lower_lower a, Text.lower_append a b⟩

end InMemory

end ScopedImports
