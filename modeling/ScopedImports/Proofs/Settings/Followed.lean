import ScopedImports.Proofs.Json.Spelling
import ScopedImports.Proofs.Settings.Visited
import ScopedImports.Settings.FromText

/-!
Settings from a text are the settings that its value describes.

A text is read from the left, and what has been said so far is a draft.  On the tokens of a phrase
the reader does what the value says, one member or item after the other (`Followed`):

    text        {  "x" : [ 1 ]  ,  "config_file_name" : "a"  }
    stages      member -> skipping -> comma -> name -> colon -> value -> comma -> finished
    draft       nothing   nothing              nothing             config_file_name "a"

So reading an object is a fold over its members and reading an array is one over its items, and the
folds end in a draft just if it says what the value gives and no member is given twice.
-/

namespace ScopedImports.Settings

open Json (Token Phrase Part Quotation Reading)

/-! ### Stages behind tokens -/

namespace Stage

variable {stage next : Stage} {t : Token} {d : Draft} {m : Member} {v : Json} {ts : List Token}

/-- Where the reader is behind tokens, if it takes them all. -/
def take? (stage : Stage) (ts : List Token) : Option Stage :=
  ts.foldlM (fun stage t => (stage.step t).toOption) stage

theorem take?_cons (stage : Stage) (t : Token) (ts : List Token) :
    stage.take? (t :: ts) = (stage.step t).toOption.bind fun next => next.take? ts := rfl

theorem take?_append (stage : Stage) (ts us : List Token) :
    stage.take? (ts ++ us) = (stage.take? ts).bind fun next => next.take? us :=
  List.foldlM_append

theorem take?_of_ok (step : stage.step t = .ok next) (ts : List Token) :
    stage.take? (t :: ts) = next.take? ts := by
  rw [take?_cons, step]
  rfl

theorem run_cons (stage : Stage) (t : Token) (ts : List Token) :
    stage.run (t :: ts) = (stage.step t).bind fun next => next.run ts := by
  cases stage <;> rfl

/-- Settings are read where all tokens are taken and the settings are complete behind them. -/
theorem run_eq_ok_iff {s : Settings} :
    stage.run ts = .ok s ↔ ∃ d, stage.take? ts = some (.finished d) ∧ d.finish = s := by
  induction ts generalizing stage with
  | nil =>
    cases stage with
    | finished d =>
      constructor
      · intro done
        exact ⟨d, rfl, Except.ok.inj done⟩
      · rintro ⟨d, same, rfl⟩
        cases same
        rfl
    | _ => exact iff_of_false nofun nofun
  | cons t ts ih =>
    rw [run_cons, take?_cons]
    rcases stage.step t with fault | next
    · exact iff_of_false nofun fun taken => nomatch taken.choose_spec.1
    · exact ih

/-! ### Values -/

/-- A value is given by its first token, or not at all. -/
theorem exists_setToken (phrase : Phrase (.value v) ts) (d : Draft) (m : Member) :
    ∃ t more, ts = t :: more ∧ t ≠ .closing .array ∧
      (d.setToken m t).toOption = d.set? m v ∧
        (more = [] ∨ d.set? m v = none) := by
  have value (v : Json) : (d.setValue m v).toOption = d.set? m v := by
    rw [Draft.setValue]
    cases d.set? m v <;> rfl
  cases phrase with
  | null | number => exact ⟨_, _, rfl, nofun, by cases m <;> rfl, .inl rfl⟩
  | bool b => exact ⟨_, _, rfl, nofun, value (.bool b), .inl rfl⟩
  | string spelt =>
    refine ⟨_, _, rfl, nofun, ?_, .inl rfl⟩
    rw [Draft.setToken, spelt]
    exact value _
  | emptyArray | array | emptyObject | object =>
    exact ⟨_, _, rfl, nofun, by cases m <;> rfl, .inr (by cases m <;> rfl)⟩

/-- Where the next value goes to a member, the tokens of a value give it. -/
theorem take?_value {wrap : Draft → Stage} (phrase : Phrase (.value v) ts)
    (sets : ∀ t ≠ .closing .array, stage.step t = wrap <$> d.setToken m t) :
    stage.take? ts = (d.set? m v).map wrap := by
  obtain ⟨t, more, rfl, open', same, whole⟩ := exists_setToken phrase d m
  have step : (stage.step t).toOption = (d.set? m v).map wrap := by
    rw [sets t open', ← same]
    cases d.setToken m t <;> rfl
  rw [take?_cons, step]
  -- a value of more than one token has been refused at its first one
  rcases whole with rfl | none
  · cases d.set? m v <;> rfl
  · rw [none]
    rfl

/-- A value is skipped up to its last token. -/
theorem take?_skipping_of_run {config : Reading.Config Unit}
    (skipped : Reading.skip.run config ts = .ok ((), [])) (d : Draft) :
    (skipping d config).take? ts = some (.comma d) := by
  induction ts generalizing config with
  | nil => cases skipped
  | cons t ts ih =>
    rcases step : Reading.skip.step config t with flaw | progress
    · rw [Reading.run, step] at skipped
      cases skipped
    · rw [Reading.run_cons_of_ok step] at skipped
      cases progress with
      | complete value =>
        obtain ⟨-, rfl⟩ := Prod.mk.inj (Except.ok.inj skipped)
        refine take?_of_ok ?_ []
        rw [Stage.step, skipToken, step]
        rfl
      | more next =>
        have goesOn : (skipping d config).step t = .ok (.skipping d next) := by
          rw [Stage.step, skipToken, step]
          rfl
        rw [take?_of_ok goesOn, ih skipped]

theorem take?_skipping (phrase : Phrase (.value v) ts) (d : Draft) :
    (skipping d .start).take? ts = some (.comma d) := by
  have taken := Reading.takes_of_phrase Reading.skip_makes phrase .value [] [] (.inl rfl)
    (Reading.skip_admits phrase v List.mem_cons_self _)
  rw [List.append_nil] at taken
  exact take?_skipping_of_run taken d

end Stage

/-! ### Members and items -/

namespace Draft

/-- Take an item of an array, with the members that are still to come. -/
def takeItem : Draft × List Member → Json → Option (Draft × List Member)
  | (_, []), _ => none
  | (d, m :: left), v => (d.set? m v).map fun d => (d, left)

end Draft

/-- What the reader makes of members and of items. -/
def Followed : Part → List Token → Prop
  | .value _, _ => True
  | .items vs, ts => (Stage.first .empty).take? ts
      = (vs.foldlM Draft.takeItem (.empty, Member.all)).map fun (d, left) => .itemComma d left
  | .members ms, ts =>
    (Stage.member .empty).take? ts = (ms.foldlM Draft.takeMember .empty).map .comma

namespace Stage

variable {d : Draft} {v : Json} {ts : List Token}

theorem takeName_unknown {q : Quotation} {name : String} (named : q.text = .ok name)
    (unknown : Member.ofName? name = none) : takeName d q = .ok (.colon d none) := by
  rw [takeName, named]
  simp only [liftFlaw, Bind.bind, Except.bind, unknown]

theorem takeName_known {q : Quotation} {m : Member} (named : q.text = .ok m.name) :
    takeName d q = if d.has m then .error .mismatched else .ok (.colon d (some m)) := by
  have known : Member.ofName? m.name = some m := Member.ofName?_eq_some_iff.2 rfl
  rw [takeName, named]
  simp only [liftFlaw, Bind.bind, Except.bind, known]

/-- A name, a colon and a value are a member. -/
theorem take?_member {stage : Stage} {q : Quotation} {name : String}
    (awaits : stage = .member d ∨ stage = .name d) (named : q.text = .ok name)
    (phrase : Phrase (.value v) ts) :
    stage.take? (.string q :: .colon :: ts) = (d.takeMember (name, v)).map .comma := by
  have step : stage.step (.string q) = takeName d q := by
    rcases awaits with rfl | rfl <;> rfl
  rcases known : Member.ofName? name with - | m
  -- another name: its value is skipped, and the draft stays as it is
  · rw [Draft.takeMember_other known, take?_of_ok (step.trans (takeName_unknown named known)),
      take?_of_ok rfl, take?_skipping phrase d]
    rfl
  · obtain rfl := Member.ofName?_eq_some_iff.1 known
    have names := step.trans (takeName_known named)
    rw [Draft.takeMember_known]
    by_cases said : d.has m
    -- a member that has been given is refused at its name
    · rw [if_pos said] at names ⊢
      rw [take?_cons, names]
      rfl
    · rw [if_neg said] at names ⊢
      rw [take?_of_ok names, take?_of_ok rfl]
      exact take?_value phrase fun _ _ => rfl

/-- A comma and a value are an item. -/
theorem take?_item (phrase : Phrase (.value v) ts) (d : Draft) (left : List Member) :
    (itemComma d left).take? (.comma :: ts)
      = (Draft.takeItem (d, left) v).map fun (d, left) => .itemComma d left := by
  rcases left with - | ⟨m, left⟩
  · rfl
  · have value : (item d m left).take? ts = _ := take?_value phrase fun _ _ => rfl
    rw [take?_of_ok rfl, value, Draft.takeItem, Option.map_map]
    rfl

end Stage

/-- **The reader follows every phrase.** -/
theorem followed_of_phrase {part : Part} {ts : List Token} (phrase : Phrase part ts) :
    Followed part ts := by
  induction phrase with
  | null | bool | number | string | emptyArray | array | emptyObject | object => trivial
  | @item v ts value ih =>
    have first (t : Token) (open' : t ≠ .closing .array) : (Stage.first .empty).step t
        = (fun draft => .itemComma draft [.configName, .caseSensitive])
          <$> Draft.empty.setToken .projectConfig t := by
      rcases t with - | (- | -) | _ <;> first | rfl | contradiction
    rw [Followed, Stage.take?_value value first, foldlM_singleton, Member.all, Draft.takeItem,
      Option.map_map]
    rfl
  | @nextItem vs v us ts before value ihBefore ihValue =>
    rw [Followed, Stage.take?_append, ihBefore, foldlM_concat]
    rcases vs.foldlM Draft.takeItem (.empty, Member.all) with - | ⟨d, left⟩
    · rfl
    · exact Stage.take?_item value d left
  | member named value ih =>
    rw [Followed, Stage.take?_member (.inl rfl) named value, foldlM_singleton]
  | @nextMember ms q name v us ts before named value ihBefore ihValue =>
    rw [Followed, Stage.take?_append, ihBefore, foldlM_concat]
    rcases ms.foldlM Draft.takeMember .empty with - | d
    · rfl
    · exact (Stage.take?_of_ok rfl _).trans (Stage.take?_member (.inr rfl) named value)

/-! ### Where items end -/

section Items

variable {d : Draft}

/-- Items are given to the members that are still to come, as far as there are members. -/
theorem foldlM_takeItem (vs : List Json) (d : Draft) (left : List Member) :
    (vs.foldlM Draft.takeItem (d, left)).map Prod.fst
      = if vs.length ≤ left.length then d.setEach (left.zip vs) else none := by
  induction vs generalizing d left with
  | nil =>
    have short : ([] : List Json).length ≤ left.length := Nat.zero_le _
    rw [if_pos short, List.zip_nil_right]
    rfl
  | cons v vs ih =>
    rcases left with - | ⟨m, left⟩
    · rfl
    · rw [List.foldlM_cons, Draft.takeItem, List.zip_cons_cons, Draft.setEach_cons]
      rcases d.set? m v with - | u
      · exact (ite_self none).symm
      · have shorter : (v :: vs).length ≤ (m :: left).length ↔ vs.length ≤ left.length :=
          Nat.add_le_add_iff_right
        simp only [shorter]
        exact ih u left

/-- **An array is read to its end** if it is short and a draft says what it gives. -/
theorem exists_foldlM_takeItem_iff {vs : List Json} :
    (∃ left, vs.foldlM Draft.takeItem (.empty, Member.all) = some (d, left)) ↔
      Shaped (.array vs) ∧ Fits (.array vs) d := by
  have first : (∃ left, vs.foldlM Draft.takeItem (.empty, Member.all) = some (d, left)) ↔
      (vs.foldlM Draft.takeItem (.empty, Member.all)).map Prod.fst = some d := by
    simp [Option.map_eq_some_iff]
  rw [first, foldlM_takeItem, shaped_array_iff, ← setEach_items_eq_some_iff,
    Option.ite_none_right_eq_some]

end Items

/-! ### Texts -/

namespace Stage

variable {ms : List (String × Json)} {vs : List Json} {ts : List Token}

theorem take?_object (phrase : Phrase (.value (.object ms)) ts) :
    start.take? ts = (ms.foldlM Draft.takeMember .empty).map .finished := by
  cases phrase with
  | emptyObject => rfl
  | object members =>
    have followed : (Stage.member .empty).take? _ = _ := followed_of_phrase members
    rw [take?_of_ok rfl, take?_append, followed]
    cases ms.foldlM Draft.takeMember .empty <;> rfl

theorem take?_array (phrase : Phrase (.value (.array vs)) ts) : start.take? ts
    = (vs.foldlM Draft.takeItem (.empty, Member.all)).map fun state => .finished state.1 := by
  cases phrase with
  | emptyArray => rfl
  | array items =>
    have followed : (Stage.first .empty).take? _ = _ := followed_of_phrase items
    rw [take?_of_ok rfl, take?_append, followed]
    cases vs.foldlM Draft.takeItem (.empty, Member.all) <;> rfl

end Stage

variable {text : String} {v : Json} {s : Settings}

/-- **A text is read as settings** if its value gives no member twice, and is an object or a short
array, and a draft says what it gives. -/
theorem ofText_eq_ok_iff_fits (spelt : Json.Spells text v) :
    ofText text = .ok s ↔ ¬ GivesTwice v ∧ Shaped v ∧ ∃ d, Fits v d ∧ d.finish = s := by
  obtain ⟨ts, lexemes, phrase⟩ := spelt
  rw [ofText, Json.tokens, lexemes.scan_eq, Stage.run_eq_ok_iff]
  cases v with
  | object members =>
    have taken (d : Draft) : Stage.start.take? ts = some (.finished d) ↔
        ¬ GivesTwice (.object members) ∧ Fits (.object members) d := by
      rw [Stage.take?_object phrase, ← foldlM_takeMember_eq_some_iff]
      simp
    simp only [taken, and_assoc, exists_and_left]
    exact and_congr_right fun _ => (and_iff_right (.object members)).symm
  | array items =>
    have taken (d : Draft) : Stage.start.take? ts = some (.finished d) ↔
        Shaped (.array items) ∧ Fits (.array items) d := by
      rw [Stage.take?_array phrase, ← exists_foldlM_takeItem_iff]
      simp
    rw [and_iff_right (not_givesTwice_array items)]
    simp only [taken, and_assoc, exists_and_left]
  | null | bool | number | string =>
    refine iff_of_false ?_ ?_
    · rintro ⟨d, taken, _⟩
      cases phrase
      cases taken
    · rintro ⟨_, shaped, _⟩
      cases shaped

end ScopedImports.Settings
