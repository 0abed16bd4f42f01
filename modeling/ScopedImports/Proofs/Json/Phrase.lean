import ScopedImports.Json.Reader

/-!
The grammar of values, said on tokens.

A phrase is a list of tokens that spells a value, or the items of an array, or the members of an
object.  Items and members are separated by commas, and there is at least one of them; an array or
an object that has none is a phrase of its own:

    [ 1 , "a" ]        the items 1 , "a"  between brackets
    { "a" : [ ] }      the member "a" : [ ]  between braces

The grammar speaks of tokens only, not of a machine that takes them.  A machine takes a phrase just
if it takes the values in it: it may refuse numbers, and brackets inside too many others (`Within`).
-/

namespace ScopedImports.Json

/-- What tokens may spell. -/
inductive Part
  | value (value : Json)
  /-- The items of an array, one at least. -/
  | items (items : List Json)
  /-- The members of an object, one at least. -/
  | members (members : List (String × Json))

/-- The values that a part consists of. -/
def Part.values : Part → List Json
  | value v => [v]
  | items vs => vs
  | members ms => ms.map Prod.snd

/-- All numbers in the value are in range and all brackets may open, where so many brackets are open
around the value. -/
inductive Within (inRange : Numeral → Prop) (opens : Nat → Prop) : Nat → Json → Prop
  | null (depth : Nat) : Within inRange opens depth .null
  | bool (depth : Nat) (b : Bool) : Within inRange opens depth (.bool b)
  | number (depth : Nat) {n : Numeral} (fits : inRange n) : Within inRange opens depth (.number n)
  | string (depth : Nat) (text : String) : Within inRange opens depth (.string text)
  | array {depth : Nat} {items : List Json} (open' : opens depth)
      (each : ∀ item ∈ items, Within inRange opens (depth + 1) item) :
      Within inRange opens depth (.array items)
  | object {depth : Nat} {members : List (String × Json)} (open' : opens depth)
      (each : ∀ m ∈ members, Within inRange opens (depth + 1) m.2) :
      Within inRange opens depth (.object members)

/-- The value may be read where so many brackets are open around it. -/
def Readable : Nat → Json → Prop := Within (fun n => n.value?.isSome) (· < levels)

theorem Within.mono {inRange inRange' : Numeral → Prop} {opens opens' : Nat → Prop}
    (numbers : ∀ n, inRange n → inRange' n) (brackets : ∀ depth, opens depth → opens' depth)
    {depth : Nat} {v : Json} (within : Within inRange opens depth v) :
    Within inRange' opens' depth v := by
  induction within with
  | null => exact .null _
  | bool _ b => exact .bool _ b
  | number _ fits => exact .number _ (numbers _ fits)
  | string _ text => exact .string _ text
  | array open' _ ih => exact .array (brackets _ open') ih
  | object open' _ ih => exact .object (brackets _ open') ih

/-- The tokens spell the part. -/
inductive Phrase : Part → List Token → Prop
  | null : Phrase (.value .null) [.word none]
  | bool (b : Bool) : Phrase (.value (.bool b)) [.word (some b)]
  | number (n : Numeral) : Phrase (.value (.number n)) [.number n]
  | string {q : Quotation} {text : String} (spelt : q.text = .ok text) :
      Phrase (.value (.string text)) [.string q]
  | emptyArray : Phrase (.value (.array [])) [.opening .array, .closing .array]
  | array {vs : List Json} {ts : List Token} (items : Phrase (.items vs) ts) :
      Phrase (.value (.array vs)) (.opening .array :: (ts ++ [.closing .array]))
  | emptyObject : Phrase (.value (.object [])) [.opening .object, .closing .object]
  | object {ms : List (String × Json)} {ts : List Token} (members : Phrase (.members ms) ts) :
      Phrase (.value (.object ms)) (.opening .object :: (ts ++ [.closing .object]))
  | item {v : Json} {ts : List Token} (value : Phrase (.value v) ts) : Phrase (.items [v]) ts
  | nextItem {vs : List Json} {v : Json} {us ts : List Token} (before : Phrase (.items vs) us)
      (value : Phrase (.value v) ts) : Phrase (.items (vs ++ [v])) (us ++ .comma :: ts)
  | member {q : Quotation} {name : String} {v : Json} {ts : List Token} (named : q.text = .ok name)
      (value : Phrase (.value v) ts) : Phrase (.members [(name, v)]) (.string q :: .colon :: ts)
  | nextMember {ms : List (String × Json)} {q : Quotation} {name : String} {v : Json}
      {us ts : List Token} (before : Phrase (.members ms) us) (named : q.text = .ok name)
      (value : Phrase (.value v) ts) :
      Phrase (.members (ms ++ [(name, v)])) (us ++ .comma :: .string q :: .colon :: ts)

theorem exists_of_map_eq_ok {ε α β : Type} {result : Except ε α} {change : α → β} {b : β}
    (h : change <$> result = .ok b) : ∃ a, result = .ok a ∧ change a = b := by
  cases result with
  | ok a => exact ⟨a, rfl, Except.ok.inj h⟩
  | error e => cases h

namespace Reading

variable {ν : Type}

/-! ### Machines that take phrases -/

section Makes

/-- Go on with tokens from where a machine is. -/
def resume (reading : Reading ν) : Progress ν → List Token → Except Flaw (ν × List Token)
  | .complete value, rest => .ok (value, rest)
  | .more config, rest => reading.run config rest

/-- The reading makes one thing of a value, whichever way the value is spelt, and keeps one label
for every name. -/
structure Makes (reading : Reading ν) (make : Json → ν) (label : String → String) : Prop where
  null : reading.word none = make .null
  bool (b : Bool) : reading.word (some b) = make (.bool b)
  string {q : Quotation} {text : String} (spelt : q.text = .ok text) :
    reading.string q = .ok (make (.string text))
  name {q : Quotation} {text : String} (spelt : q.text = .ok text) :
    reading.name q = .ok (label text)
  array (items : List Json) : reading.array (items.map make) = make (.array items)
  object (members : List (String × Json)) :
    reading.object (members.map (Prod.map label make)) = make (.object members)

/-- The reading takes the value where so many brackets are open. -/
def Admits (reading : Reading ν) (make : Json → ν) : Nat → Json → Prop :=
  Within (fun n => reading.number n = .ok (make (.number n))) (fun depth => reading.opens depth)

variable {reading : Reading ν} {stack : List (Frame ν)} {token : Token}

theorem run_cons_of_ok {config : Config ν} {progress : Progress ν}
    (step : reading.step config token = .ok progress) (rest : List Token) :
    reading.run config (token :: rest) = reading.resume progress rest := by
  rw [run, step]
  cases progress <;> rfl

theorem run_cons_of_more {config next : Config ν}
    (step : reading.step config token = .ok (.more next)) (rest : List Token) :
    reading.run config (token :: rest) = reading.run next rest :=
  run_cons_of_ok step rest

/-- Where an item is awaited, so is a value, as long as the array does not end. -/
theorem step_item (open' : token ≠ .closing .array) :
    reading.step ⟨.item, stack⟩ token = reading.step ⟨.value, stack⟩ token := by
  rcases stack with - | ⟨frame, stack⟩
  · rfl
  · cases frame with
    | array items =>
      cases token with
      | closing bracket =>
        cases bracket with
        | array => exact absurd rfl open'
        | object => rfl
      | _ => rfl
    | object members name => rfl

/-- What the machine does with the tokens of a part whose values it takes.  A value is delivered;
items and members are put into the frame that is open for them. -/
def Takes (reading : Reading ν) (make : Json → ν) (label : String → String) :
    Part → List Token → Prop
  | .value v, tokens => ∀ awaiting stack rest, awaiting = .value ∨ awaiting = .item →
      reading.Admits make stack.length v →
      reading.run ⟨awaiting, stack⟩ (tokens ++ rest) = reading.resume (deliver (make v) stack) rest
  | .items vs, tokens => ∀ stack rest, (∀ v ∈ vs, reading.Admits make (stack.length + 1) v) →
      reading.run ⟨.item, .array [] :: stack⟩ (tokens ++ rest)
        = reading.run ⟨.comma, .array (vs.map make).reverse :: stack⟩ rest
  | .members ms, tokens => ∃ name, ∀ stack rest,
      (∀ m ∈ ms, reading.Admits make (stack.length + 1) m.2) →
      reading.run ⟨.member, .object [] "" :: stack⟩ (tokens ++ rest)
        = reading.run ⟨.comma, .object (ms.map (Prod.map label make)).reverse name :: stack⟩ rest

variable {make : Json → ν} {label : String → String}

/-- A value that is one token is taken in one step. -/
theorem takes_single {v : Json} (open' : token ≠ .closing .array)
    (begins : ∀ stack, reading.Admits make stack.length v →
      reading.step ⟨.value, stack⟩ token = .ok (deliver (make v) stack)) :
    reading.Takes make label (.value v) [token] := by
  rintro awaiting stack rest (rfl | rfl) admits
  · exact run_cons_of_ok (begins stack admits) rest
  · exact run_cons_of_ok ((step_item open').trans (begins stack admits)) rest

/-- A value that begins with a bracket is taken as what is between the brackets. -/
theorem takes_opening {v : Json} {bracket : Bracket} {tokens : List Token}
    (opens : ∀ depth, reading.Admits make depth v → reading.opens depth = true)
    (between : ∀ stack rest, reading.Admits make stack.length v →
      reading.run (inside stack bracket) (tokens ++ rest)
        = reading.resume (deliver (make v) stack) rest) :
    reading.Takes make label (.value v) (.opening bracket :: tokens) := by
  intro awaiting stack rest awaits admits
  have step : reading.step ⟨.value, stack⟩ (.opening bracket)
      = .ok (.more (inside stack bracket)) := if_pos (opens _ admits)
  rcases awaits with rfl | rfl
  · exact (run_cons_of_ok step _).trans (between stack rest admits)
  · have step' := (step_item Token.noConfusion).trans step
    exact (run_cons_of_ok step' _).trans (between stack rest admits)

theorem Admits.items {depth : Nat} {vs : List Json}
    (admits : reading.Admits make depth (.array vs)) :
    reading.opens depth = true ∧ ∀ v ∈ vs, reading.Admits make (depth + 1) v := by
  cases admits with
  | array open' each => exact ⟨open', each⟩

theorem Admits.members {depth : Nat} {ms : List (String × Json)}
    (admits : reading.Admits make depth (.object ms)) :
    reading.opens depth = true ∧ ∀ m ∈ ms, reading.Admits make (depth + 1) m.2 := by
  cases admits with
  | object open' each => exact ⟨open', each⟩

/-- **A machine takes every phrase to its end** if it takes its values, and makes of it what it
makes of the part. -/
theorem takes_of_phrase (makes : reading.Makes make label) {part : Part} {tokens : List Token}
    (phrase : Phrase part tokens) : reading.Takes make label part tokens := by
  induction phrase with
  | null =>
    refine takes_single Token.noConfusion fun stack _ => ?_
    rw [step, begin, makes.null]
  | bool b =>
    refine takes_single Token.noConfusion fun stack _ => ?_
    rw [step, begin, makes.bool]
  | number n =>
    refine takes_single Token.noConfusion fun stack admits => ?_
    cases admits with | number _ made
    rw [step, begin, made]
    rfl
  | string spelt =>
    refine takes_single Token.noConfusion fun stack _ => ?_
    rw [step, begin, makes.string spelt]
    rfl
  | emptyArray =>
    refine takes_opening (fun _ admits => admits.items.1) fun stack rest _ => ?_
    exact (run_cons_of_ok rfl rest).trans (by rw [close, ← makes.array]; rfl)
  | emptyObject =>
    refine takes_opening (fun _ admits => admits.members.1) fun stack rest _ => ?_
    exact (run_cons_of_ok rfl rest).trans (by rw [close, ← makes.object]; rfl)
  -- what is between the brackets is taken inside one more frame, which the last token ends
  | @array vs ts items ih =>
    refine takes_opening (fun _ admits => admits.items.1) fun stack rest admits => ?_
    rw [inside, List.append_assoc, ih stack _ admits.items.2]
    refine (run_cons_of_ok rfl rest).trans ?_
    rw [close, List.reverse_reverse, makes.array]
  | @object ms ts members ih =>
    refine takes_opening (fun _ admits => admits.members.1) fun stack rest admits => ?_
    obtain ⟨name, taken⟩ := ih
    rw [inside, List.append_assoc, taken stack _ admits.members.2]
    refine (run_cons_of_ok rfl rest).trans ?_
    rw [close, List.reverse_reverse, makes.object]
  | item value ih =>
    intro stack rest admits
    exact ih .item _ rest (.inr rfl) (admits _ List.mem_cons_self)
  | nextItem before value ihBefore ihValue =>
    intro stack rest admits
    obtain ⟨first, last⟩ := List.forall_mem_append.1 admits
    rw [List.append_assoc, ihBefore _ _ first, List.cons_append]
    refine (run_cons_of_more rfl _).trans ?_
    rw [ihValue .value (_ :: stack) rest (.inl rfl) (last _ List.mem_cons_self), List.map_append,
      List.reverse_append]
    rfl
  | @member q name v ts named value ih =>
    refine ⟨label name, fun stack rest admits => ?_⟩
    have takesName : reading.step ⟨.member, .object [] "" :: stack⟩ (.string q)
        = .ok (.more ⟨.colon, .object [] (label name) :: stack⟩) := by
      rw [step, makes.name named]
      rfl
    rw [List.cons_append, List.cons_append]
    refine (run_cons_of_more takesName _).trans ?_
    refine (run_cons_of_more rfl _).trans ?_
    rw [ih .value (_ :: stack) rest (.inl rfl) (admits _ List.mem_cons_self)]
    rfl
  | @nextMember ms q name v us ts before named value ihBefore ihValue =>
    -- the name that the frame keeps is the last one, whatever is behind it
    obtain ⟨last, taken⟩ := ihBefore
    refine ⟨label name, fun stack rest admits => ?_⟩
    obtain ⟨admitsBefore, admitsValue⟩ := List.forall_mem_append.1 admits
    have takesName (before : List (String × ν)) :
        reading.step ⟨.name, .object before last :: stack⟩ (.string q)
          = .ok (.more ⟨.colon, .object before (label name) :: stack⟩) := by
      rw [step, makes.name named]
      rfl
    rw [List.append_assoc, taken _ _ admitsBefore, List.cons_append, List.cons_append,
      List.cons_append]
    refine (run_cons_of_more rfl _).trans ?_
    refine (run_cons_of_more (takesName _) _).trans ?_
    refine (run_cons_of_more rfl _).trans ?_
    rw [ihValue .value (_ :: stack) rest (.inl rfl) (admitsValue _ List.mem_cons_self),
      List.map_append, List.reverse_append]
    rfl

end Makes

/-! ### The two readings -/

/-- A string that spells a text does not break off. -/
theorem flaw_eq_none_of_spell {flaw : Option Flaw} {pieces : List Piece} {text : List Char}
    (spelt : spell flaw pieces = .ok text) : flaw = none := by
  fun_induction spell flaw pieces generalizing text with
  | case1 none => exact none
  | case3 c rest ih | case5 u single high v rest low ih | case9 u rest single plain ih =>
    obtain ⟨more, spelt, -⟩ := exists_of_map_eq_ok spelt
    exact ih spelt
  | _ => cases spelt

theorem build_makes : build.Makes id id where
  null := rfl
  bool _ := rfl
  string spelt := congrArg (Json.string <$> ·) spelt
  name spelt := spelt
  array items := congrArg Json.array (List.map_id items)
  object members := by
    rw [Prod.map_id, List.map_id]
    rfl

theorem build_admits {depth : Nat} {v : Json} (readable : Readable depth v) :
    build.Admits id depth v :=
  readable.mono (fun _ fits => if_pos fits) fun _ => decide_eq_true

theorem skip_of_text {q : Quotation} {text : String} (spelt : q.text = .ok text) :
    q.skip = .ok () := by
  obtain ⟨characters, spelt, -⟩ := exists_of_map_eq_ok spelt
  rw [Quotation.skip, flaw_eq_none_of_spell spelt]

/-- Whatever is spelt can be skipped. -/
theorem skip_admits {part : Part} {tokens : List Token} (phrase : Phrase part tokens) :
    ∀ v ∈ part.values, ∀ depth, skip.Admits (fun _ => ()) depth v := by
  induction phrase with
  | null => exact List.forall_mem_singleton.2 fun depth => .null depth
  | bool b => exact List.forall_mem_singleton.2 fun depth => .bool depth b
  | number n => exact List.forall_mem_singleton.2 fun depth => .number depth rfl
  | string spelt => exact List.forall_mem_singleton.2 fun depth => .string depth _
  | emptyArray => exact List.forall_mem_singleton.2 fun depth => .array rfl nofun
  | emptyObject => exact List.forall_mem_singleton.2 fun depth => .object rfl nofun
  | array items ih =>
    exact List.forall_mem_singleton.2 fun depth => .array rfl fun v mem => ih v mem _
  | object members ih =>
    exact List.forall_mem_singleton.2 fun depth =>
      .object rfl fun m mem => ih m.2 (List.mem_map_of_mem mem) _
  | item value ih => exact ih
  | member named value ih => exact ih
  | nextItem before value ihBefore ihValue =>
    exact List.forall_mem_append.2 ⟨ihBefore, ihValue⟩
  | nextMember before named value ihBefore ihValue =>
    rw [Part.values, List.map_append]
    exact List.forall_mem_append.2 ⟨ihBefore, ihValue⟩

theorem skip_makes : skip.Makes (fun _ => ()) (fun _ => "") where
  null := rfl
  bool _ := rfl
  string spelt := skip_of_text spelt
  name spelt := congrArg ((fun _ => "") <$> ·) (skip_of_text spelt)
  array _ := rfl
  object _ := rfl

end Reading

end ScopedImports.Json
