import ScopedImports.Proofs.Json.Phrase

/-!
Behind every value that was read there is a phrase.

The machine keeps on its stack what it has read of the arrays and objects that are open.  Its tokens
so far are those of the frames, outermost first, and in the middle of each frame the part of it that
is complete:

    tokens     [ 1 , { "a" : [ ] , "b" :
    stack      array [1]  >  object ["a" : [ ]], reading "b"

`Taken` says this for every configuration that the machine may be in, and one step keeps it
(`Taken.step`).  Likewise all values in a frame may stand inside as many brackets as there are
frames (`Held`), and one step keeps that (`Held.step`).  So at the end the tokens spell the value
that is complete, and it is one that may be read (`made_of_run`).  Together with the other direction
reading is decided by the grammar: `ofTokens_eq_ok_iff`.
-/

namespace ScopedImports.Json

namespace Reading

/-! ### What is open -/

/-- What stands in front of the next item or member: nothing, or the ones before it and a comma. -/
inductive Before {α : Type} (part : List α → Part) : List α → List Token → Prop
  | none : Before part [] []
  | some {xs : List α} {ts : List Token} (spelt : Phrase (part xs) ts) :
      Before part xs (ts ++ [.comma])

/-- The tokens open the frames of a stack, up to where the innermost one awaits a value. -/
inductive Opened : List (Frame Json) → List Token → Prop
  | nil : Opened [] []
  | array {stack : List (Frame Json)} {vs : List Json} {os us : List Token}
      (outer : Opened stack os) (before : Before .items vs us) :
      Opened (.array vs.reverse :: stack) (os ++ .opening .array :: us)
  | object {stack : List (Frame Json)} {ms : List (String × Json)} {q : Quotation} {name : String}
      {os us : List Token} (outer : Opened stack os) (before : Before .members ms us)
      (named : q.text = .ok name) :
      Opened (.object ms.reverse name :: stack)
        (os ++ .opening .object :: (us ++ [.string q, .colon]))

/-- The tokens lead the machine from the start into a configuration. -/
inductive Taken : Config Json → List Token → Prop
  | value {stack : List (Frame Json)} {os : List Token} (outer : Opened stack os) :
      Taken ⟨.value, stack⟩ os
  | item {stack : List (Frame Json)} {os : List Token} (outer : Opened stack os) :
      Taken ⟨.item, .array [] :: stack⟩ (os ++ [.opening .array])
  | items {stack : List (Frame Json)} {vs : List Json} {os us : List Token}
      (outer : Opened stack os) (items : Phrase (.items vs) us) :
      Taken ⟨.comma, .array vs.reverse :: stack⟩ (os ++ .opening .array :: us)
  | member {stack : List (Frame Json)} {name : String} {os : List Token} (outer : Opened stack os) :
      Taken ⟨.member, .object [] name :: stack⟩ (os ++ [.opening .object])
  | name {stack : List (Frame Json)} {ms : List (String × Json)} {last : String}
      {os us : List Token} (outer : Opened stack os) (members : Phrase (.members ms) us) :
      Taken ⟨.name, .object ms.reverse last :: stack⟩ (os ++ .opening .object :: (us ++ [.comma]))
  | colon {stack : List (Frame Json)} {ms : List (String × Json)} {q : Quotation} {name : String}
      {os us : List Token} (outer : Opened stack os) (before : Before .members ms us)
      (named : q.text = .ok name) :
      Taken ⟨.colon, .object ms.reverse name :: stack⟩
        (os ++ .opening .object :: (us ++ [.string q]))
  | members {stack : List (Frame Json)} {ms : List (String × Json)} {last : String}
      {os us : List Token} (outer : Opened stack os) (members : Phrase (.members ms) us) :
      Taken ⟨.comma, .object ms.reverse last :: stack⟩ (os ++ .opening .object :: us)

/-- What the tokens lead to: a value that they spell, or a configuration. -/
def Reached : Progress Json → List Token → Prop
  | .complete v, tokens => Phrase (.value v) tokens
  | .more config, tokens => Taken config tokens

theorem Before.item {vs : List Json} {v : Json} {us ts : List Token} (before : Before .items vs us)
    (value : Phrase (.value v) ts) : Phrase (.items (vs ++ [v])) (us ++ ts) := by
  cases before with
  | none => exact .item value
  | some items =>
    rw [List.append_assoc]
    exact .nextItem items value

theorem Before.member {ms : List (String × Json)} {q : Quotation} {name : String} {v : Json}
    {us ts : List Token} (before : Before .members ms us) (named : q.text = .ok name)
    (value : Phrase (.value v) ts) :
    Phrase (.members (ms ++ [(name, v)])) (us ++ .string q :: .colon :: ts) := by
  cases before with
  | none => exact .member named value
  | some members =>
    rw [List.append_assoc]
    exact .nextMember members named value

/-! ### One step -/

variable {stack : List (Frame Json)} {os : List Token} {token : Token} {progress : Progress Json}

/-- A value goes where it belongs. -/
theorem Opened.deliver (opened : Opened stack os) {v : Json} {ts : List Token}
    (value : Phrase (.value v) ts) : Reached (deliver v stack) (os ++ ts) := by
  cases opened with
  | nil => exact value
  | array outer before =>
    have items := Taken.items outer (before.item value)
    rw [List.reverse_append] at items
    rw [List.append_assoc]
    exact items
  | @object _ _ _ name _ _ outer before named =>
    have members := @Taken.members _ _ name _ _ outer (before.member named value)
    rw [List.reverse_append] at members
    rw [List.append_assoc, List.cons_append, List.append_assoc]
    exact members

/-- A number is made only of a numeral that can be read. -/
theorem of_build_number {n : Numeral} {v : Json} (read : build.number n = .ok v) :
    n.value?.isSome = true ∧ v = .number n := by
  simp only [build] at read
  split at read
  case isTrue some => exact ⟨some, (Except.ok.inj read).symm⟩
  case isFalse => cases read

/-- The first token of a value is the whole value, or a bracket that opens where there are not too
many around it. -/
theorem begin_cases (begins : build.begin stack token = .ok progress) :
    (∃ v, Phrase (.value v) [token] ∧ (∀ depth, Readable depth v) ∧ progress = deliver v stack) ∨
      ∃ bracket, token = .opening bracket ∧ stack.length < levels ∧
        progress = .more (inside stack bracket) := by
  cases token with
  | word value =>
    obtain rfl := Except.ok.inj begins
    cases value with
    | none => exact .inl ⟨_, .null, .null, rfl⟩
    | some b => exact .inl ⟨_, .bool b, fun depth => .bool depth b, rfl⟩
  | number n =>
    obtain ⟨v, read, rfl⟩ := exists_of_map_eq_ok begins
    obtain ⟨fits, rfl⟩ := of_build_number read
    exact .inl ⟨_, .number n, fun depth => .number depth fits, rfl⟩
  | string q =>
    obtain ⟨v, read, rfl⟩ := exists_of_map_eq_ok begins
    have made : Json.string <$> q.text = .ok v := read
    obtain ⟨text, spelt, rfl⟩ := exists_of_map_eq_ok made
    exact .inl ⟨_, .string spelt, fun depth => .string depth text, rfl⟩
  | opening bracket =>
    rw [begin] at begins
    split at begins
    case isTrue few =>
      exact .inr ⟨bracket, rfl, of_decide_eq_true few, (Except.ok.inj begins).symm⟩
    case isFalse => cases begins
  | _ => cases begins

theorem Opened.begin (opened : Opened stack os)
    (begins : build.begin stack token = .ok progress) : Reached progress (os ++ [token]) := by
  obtain ⟨v, phrase, -, rfl⟩ | ⟨bracket, rfl, -, rfl⟩ := begin_cases begins
  · exact opened.deliver phrase
  · cases bracket with
    | array => exact .item opened
    | object => exact .member opened

/-- **One step of the machine** goes on with what the tokens spell. -/
theorem Taken.step {config : Config Json} (taken : Taken config os)
    (step : build.step config token = .ok progress) : Reached progress (os ++ [token]) := by
  cases taken with
  | value outer => exact outer.begin step
  | @item stack os outer =>
    by_cases closes : token = .closing .array
    · subst closes
      obtain rfl := Except.ok.inj step
      rw [List.append_assoc]
      exact outer.deliver .emptyArray
    · rw [step_item closes] at step
      exact (Opened.array outer .none).begin step
  | items outer items =>
    rw [List.append_assoc]
    cases token with
    | closing bracket =>
      cases bracket with
      | array =>
        obtain rfl := Except.ok.inj step
        rw [close, List.reverse_reverse]
        exact outer.deliver (.array items)
      | object => cases step
    | comma =>
      obtain rfl := Except.ok.inj step
      exact .value (.array outer (.some items))
    | _ => cases step
  | member outer =>
    rw [List.append_assoc]
    cases token with
    | closing bracket =>
      cases bracket with
      | array => cases step
      | object =>
        obtain rfl := Except.ok.inj step
        exact outer.deliver .emptyObject
    | string q =>
      obtain ⟨name, named, rfl⟩ := exists_of_map_eq_ok step
      exact .colon outer .none named
    | _ => cases step
  | name outer members =>
    cases token with
    | string q =>
      obtain ⟨name, named, rfl⟩ := exists_of_map_eq_ok step
      rw [List.append_assoc]
      exact .colon outer (.some members) named
    | _ => cases step
  | colon outer before named =>
    cases token with
    | colon =>
      obtain rfl := Except.ok.inj step
      have opened := Taken.value (.object outer before named)
      rw [List.append_assoc, List.cons_append, List.append_assoc]
      exact opened
    | _ => cases step
  | members outer members =>
    rw [List.append_assoc]
    cases token with
    | closing bracket =>
      cases bracket with
      | array => cases step
      | object =>
        obtain rfl := Except.ok.inj step
        rw [close, List.reverse_reverse]
        exact outer.deliver (.object members)
    | comma =>
      obtain rfl := Except.ok.inj step
      exact .name outer members
    | _ => cases step

/-! ### The values that are read -/

/-- The values in a frame. -/
def Frame.values : Frame Json → List Json
  | .array items => items
  | .object members _ => members.map Prod.snd

/-- The values in each frame may stand inside the brackets that are open around them. -/
inductive Held : List (Frame Json) → Prop
  | nil : Held []
  | cons {frame : Frame Json} {stack : List (Frame Json)} (few : stack.length < levels)
      (each : ∀ v ∈ frame.values, Readable (stack.length + 1) v) (outer : Held stack) :
      Held (frame :: stack)

/-- What is reached may be read. -/
def Kept : Progress Json → Prop
  | .complete v => Readable 0 v
  | .more config => Held config.stack

/-- A value goes where it may stand. -/
theorem Held.deliver (held : Held stack) {v : Json} (readable : Readable stack.length v) :
    Kept (deliver v stack) := by
  cases held with
  | nil => exact readable
  | @cons frame stack few each outer =>
    cases frame with
    | array items => exact .cons few (List.forall_mem_cons.2 ⟨readable, each⟩) outer
    | object members name => exact .cons few (List.forall_mem_cons.2 ⟨readable, each⟩) outer

/-- What is open may end. -/
theorem Held.close {frame : Frame Json} (held : Held (frame :: stack)) :
    Kept (Reading.deliver (build.close frame) stack) := by
  cases held with
  | cons few each outer =>
    refine outer.deliver ?_
    cases frame with
    | array items => exact .array few fun v mem => each v (List.mem_reverse.1 mem)
    | object members name =>
      exact .object few fun m mem => each m.2 (List.mem_map_of_mem (List.mem_reverse.1 mem))

/-- The name of the member that is being read makes no difference. -/
theorem Held.rename {members : List (String × Json)} {name : String}
    (held : Held (.object members name :: stack)) (other : String) :
    Held (.object members other :: stack) := by
  cases held with
  | cons few each outer => exact .cons few each outer

theorem Held.begin (held : Held stack) (begins : build.begin stack token = .ok progress) :
    Kept progress := by
  obtain ⟨v, -, readable, rfl⟩ | ⟨bracket, -, few, rfl⟩ := begin_cases begins
  · exact held.deliver (readable _)
  · cases bracket with
    | array => exact .cons few nofun held
    | object => exact .cons few nofun held

/-- **One step of the machine** goes on with values that may stand where they are. -/
theorem Held.step {config : Config Json} (held : Held config.stack)
    (step : build.step config token = .ok progress) : Kept progress := by
  unfold Reading.step at step
  split at step
  -- a value begins
  case h_1 | h_3 => exact held.begin step
  -- the innermost frame ends
  case h_2 | h_4 | h_8 | h_9 =>
    obtain rfl := Except.ok.inj step
    exact held.close
  -- a name is read, and the values stay as they are
  case h_5 | h_6 =>
    obtain ⟨name, -, rfl⟩ := exists_of_map_eq_ok step
    exact held.rename name
  -- a colon or a comma changes only what is awaited
  case h_7 | h_10 | h_11 =>
    obtain rfl := Except.ok.inj step
    exact held
  case h_12 => cases step

/-! ### All tokens -/

/-- **A run that takes all tokens** makes a value that they spell and that may be read. -/
theorem made_of_run {config : Config Json} (taken : Taken config os) (held : Held config.stack)
    {tokens : List Token} {v : Json} (done : build.run config tokens = .ok (v, [])) :
    Phrase (.value v) (os ++ tokens) ∧ Readable 0 v := by
  -- both invariants go along with the configuration, so both are generalized
  induction tokens generalizing config os with
  | nil => cases done
  | cons token rest ih =>
    rcases step : build.step config token with flaw | progress
    · rw [run, step] at done
      cases done
    · rw [run_cons_of_ok step] at done
      have reached := taken.step step
      have kept := held.step step
      cases progress with
      | complete v =>
        obtain ⟨rfl, rfl⟩ := Prod.mk.inj (Except.ok.inj done)
        exact ⟨reached, kept⟩
      | more config =>
        rw [List.append_cons]
        exact ih reached kept done

end Reading

/-- **Reading is decided by the grammar**: tokens make a value if and only if they spell it, and it
is one that may be read. -/
theorem ofTokens_eq_ok_iff {tokens : List Token} {v : Json} :
    ofTokens tokens = .ok v ↔ Phrase (.value v) tokens ∧ Readable 0 v := by
  constructor
  · intro read
    have done : Reading.build.run .start tokens = .ok (v, []) := by
      unfold ofTokens at read
      split at read
      case h_1 => cases read
      case h_2 done =>
        obtain rfl := Except.ok.inj read
        exact done
      case h_3 => cases read
    exact Reading.made_of_run (.value .nil) .nil done
  · rintro ⟨phrase, readable⟩
    have taken := Reading.takes_of_phrase Reading.build_makes phrase .value [] [] (.inl rfl)
      (Reading.build_admits readable)
    rw [List.append_nil] at taken
    rw [ofTokens, Reading.Config.start, taken]
    rfl

end ScopedImports.Json
