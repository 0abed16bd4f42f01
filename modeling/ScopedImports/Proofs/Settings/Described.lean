import Mathlib.Data.List.Induction
import Mathlib.Data.List.Nodup
import Mathlib.Logic.Function.Basic
import ScopedImports.Settings.Member

/-!
Which settings a value describes.

`Describes` says it without an order in which members are looked at: a member that the value gives
must be of its kind and is the field, and a field of which nothing is given has its default.

    { "x" : [ ] , "config_file_name" : "a" }    config_file_name "a", and defaults
    [ "p" , "a" ]                               project_config "p", config_file_name "a"

Behind it stands a draft that says of each member just what the value gives for it (`Fits`).  A
draft is therefore read as a function from members to what was said of them (`Draft.get?`): giving a
member a value is an update of that function (`Draft.set?_eq_some_iff`), and giving several members
their values is looking them up (`Draft.setEach_eq_some_iff`).  No draft says anything of the wrong
kind, so that there is no draft at all for a value that is none.
-/

namespace ScopedImports.Settings

/-! ### What is given -/

/-- Where an array gives the member. -/
def Member.place : Member → Nat
  | projectConfig => 0
  | configName => 1
  | caseSensitive => 2

/-- The value gives a value for the member. -/
inductive Gives : Json → Member → Json → Prop
  | member {members : List (String × Json)} {m : Member} {w : Json}
      (mem : (m.name, w) ∈ members) : Gives (.object members) m w
  | item {items : List Json} {m : Member} {w : Json} (place : items[m.place]? = some w) :
      Gives (.array items) m w

/-- The value is an object, or an array that is not longer than there are members. -/
inductive Shaped : Json → Prop
  | object (members : List (String × Json)) : Shaped (.object members)
  | array {items : List Json} (short : items.length ≤ Member.all.length) : Shaped (.array items)

/-- The value is an object that gives a member twice. -/
inductive GivesTwice : Json → Prop
  | object {members : List (String × Json)} {m : Member}
      (twice : 1 < (members.map Prod.fst).count m.name) : GivesTwice (.object members)

/-- No object in the value, however deep, gives a name twice. -/
inductive Distinct : Json → Prop
  | null : Distinct .null
  | bool (b : Bool) : Distinct (.bool b)
  | number (n : Json.Numeral) : Distinct (.number n)
  | string (text : String) : Distinct (.string text)
  | array {items : List Json} (each : ∀ item ∈ items, Distinct item) : Distinct (.array items)
  | object {members : List (String × Json)} (once : (members.map Prod.fst).Nodup)
      (each : ∀ m ∈ members, Distinct m.2) : Distinct (.object members)

/-- The values are the same, but for the order of the members if they are objects. -/
inductive Reordered : Json → Json → Prop
  | refl (v : Json) : Reordered v v
  | object {members others : List (String × Json)} (perm : members.Perm others) :
      Reordered (.object members) (.object others)

/-- The member takes the value. -/
inductive Member.Takes : Member → Json → Prop
  | projectConfig (text : String) : Takes .projectConfig (.string text)
  | configName (text : String) : Takes .configName (.string text)
  | caseSensitive (b : Bool) : Takes .caseSensitive (.bool b)

/-- A field holds what is given: a value of the right kind, or nothing and the default. -/
inductive Holds {α β : Type} (gives : Json → Prop) (kind : β → Json) (make : β → α) (default : α) :
    α → Prop
  | given {b : β} (given : gives (kind b)) : Holds gives kind make default (make b)
  | absent (nothing : ∀ w, ¬ gives w) : Holds gives kind make default default

/-- The value describes the settings. -/
structure Describes (v : Json) (s : Settings) : Prop where
  shaped : Shaped v
  projectConfig :
    Holds (Gives v .projectConfig) .string Path.ofText default.projectConfig s.projectConfig
  configName : Holds (Gives v .configName) .string id default.configName s.configName
  caseSensitive : Holds (Gives v .caseSensitive) .bool id default.caseSensitive s.caseSensitive

/-! ### Drafts as functions -/

namespace Draft

/-- What has been said of the member. -/
def get? (d : Draft) : Member → Option Json
  | .projectConfig => d.projectConfig.map .string
  | .configName => d.configName.map .string
  | .caseSensitive => d.caseSensitive.map .bool

variable {d e : Draft} {m : Member} {v : Json}

theorem get?_injective : Function.Injective get? := by
  rintro ⟨p, n, c⟩ ⟨p', n', c'⟩ same
  have strings : Function.Injective Json.string := fun _ _ => Json.string.inj
  have bools : Function.Injective Json.bool := fun _ _ => Json.bool.inj
  obtain rfl := Option.map_injective strings (congrFun same .projectConfig)
  obtain rfl := Option.map_injective strings (congrFun same .configName)
  obtain rfl := Option.map_injective bools (congrFun same .caseSensitive)
  rfl

theorem get?_empty : empty.get? m = none := by
  cases m <;> rfl

theorem has_eq : d.has m = (d.get? m).isSome := by
  cases m <;> exact Option.isSome_map.symm

/-- What one draft says of a member can be said in another one. -/
theorem exists_get?_eq_update (d e : Draft) (m : Member) :
    ∃ u : Draft, u.get? = Function.update d.get? m (e.get? m) := by
  cases m with
  | projectConfig =>
    refine ⟨{ d with projectConfig := e.projectConfig }, funext fun o => ?_⟩
    cases o <;> rfl
  | configName =>
    refine ⟨{ d with configName := e.configName }, funext fun o => ?_⟩
    cases o <;> rfl
  | caseSensitive =>
    refine ⟨{ d with caseSensitive := e.caseSensitive }, funext fun o => ?_⟩
    cases o <;> rfl

theorem get?_of_set? (set : d.set? m v = some e) : e.get? = Function.update d.get? m (some v) := by
  funext o
  cases m <;> cases v <;> cases set <;> cases o <;> rfl

/-- A value that a draft says of a member is of its kind. -/
theorem exists_set?_of_get? (said : e.get? m = some v) : ∃ u, d.set? m v = some u := by
  cases m with
  | projectConfig | configName | caseSensitive =>
    obtain ⟨_, -, rfl⟩ := Option.map_eq_some_iff.1 said
    exact ⟨_, rfl⟩

/-- **Giving a member a value** changes what is said of that member only, and can be done just if
there is a draft that says it. -/
theorem set?_eq_some_iff : d.set? m v = some e ↔ e.get? = Function.update d.get? m (some v) := by
  refine ⟨get?_of_set?, fun said => ?_⟩
  have saidOf : e.get? m = some v := by
    rw [said, Function.update_self]
  obtain ⟨u, set⟩ := exists_set?_of_get? saidOf
  rw [set, get?_injective ((get?_of_set? set).trans said.symm)]

/-- Give one member after the other its value. -/
def setEach (d : Draft) (given : List (Member × Json)) : Option Draft :=
  given.foldlM (fun d each => d.set? each.1 each.2) d

theorem setEach_cons (d : Draft) (m : Member) (v : Json) (rest : List (Member × Json)) :
    d.setEach ((m, v) :: rest) = (d.set? m v).bind fun u => u.setEach rest := rfl

/-- **Giving members their values**, each once, is looking them up. -/
theorem setEach_eq_some_iff {given : List (Member × Json)} (once : (given.map Prod.fst).Nodup) :
    d.setEach given = some e ↔ ∀ m, e.get? m = (given.lookup m).or (d.get? m) := by
  induction given generalizing d with
  | nil =>
    constructor
    · intro set m
      obtain rfl := Option.some.inj set
      rfl
    · intro same
      exact congrArg some (get?_injective (funext same)).symm
  | cons first rest ih =>
    obtain ⟨m, v⟩ := first
    obtain ⟨fresh, once⟩ := List.nodup_cons.1 once
    have unlisted : rest.lookup m = none := by
      rw [List.lookup_eq_none_iff]
      rintro ⟨o, w⟩ mem
      exact bne_iff_ne.2 fun same => fresh (List.mem_map.2 ⟨_, mem, same.symm⟩)
    have lookup_self : ((m, v) :: rest).lookup m = some v := by
      rw [List.lookup_cons, beq_self_eq_true]
    have lookup_of_ne {o : Member} (other : o ≠ m) :
        ((m, v) :: rest).lookup o = rest.lookup o := by
      rw [List.lookup_cons, beq_false_of_ne other]
    rw [setEach_cons, Option.bind_eq_some_iff]
    constructor
    · rintro ⟨u, set, more⟩ o
      rw [(ih once).1 more, set?_eq_some_iff.1 set]
      by_cases same : o = m
      · rw [same, unlisted, lookup_self, Function.update_self]
        rfl
      · rw [lookup_of_ne same, Function.update_of_ne same]
    · -- `e` says all that is given, so what it says of `m` can be said first
      intro looked
      obtain ⟨u, update⟩ := exists_get?_eq_update d e m
      rw [looked m, lookup_self] at update
      refine ⟨u, set?_eq_some_iff.2 update, (ih once).2 fun o => ?_⟩
      rw [update]
      by_cases same : o = m
      · rw [same, looked m, lookup_self, unlisted, Function.update_self]
        rfl
      · rw [looked o, lookup_of_ne same, Function.update_of_ne same]

end Draft

/-! ### The draft of a value -/

/-- The draft says of each member what the value gives for it. -/
def Fits (v : Json) (d : Draft) : Prop := ∀ m w, d.get? m = some w ↔ Gives v m w

variable {v : Json} {s : Settings} {members : List (String × Json)} {items : List Json}

theorem member?_concat (members : List (String × Json)) (name : String) (v : Json) (n : String) :
    Json.member? (members ++ [(name, v)]) n
      = if name = n then some v else Json.member? members n := by
  rw [Json.member?, List.reverse_append, List.reverse_singleton, List.singleton_append,
    List.find?_cons]
  by_cases same : name = n
  · rw [if_pos same, same, beq_self_eq_true]
    rfl
  · rw [if_neg same, beq_false_of_ne same]
    rfl

/-- A member that is not given twice is the one of its name. -/
theorem member?_eq_some_iff {name : String} (once : (members.map Prod.fst).count name ≤ 1)
    {w : Json} : Json.member? members name = some w ↔ (name, w) ∈ members := by
  induction members using List.reverseRecOn with
  | nil => exact iff_of_false nofun nofun
  | append_singleton members last ih =>
    obtain ⟨n, v⟩ := last
    rw [List.map_append, List.count_append] at once
    rw [member?_concat, List.mem_append, List.mem_singleton]
    by_cases same : n = name
    · subst same
      rw [List.map_singleton, List.count_singleton_self] at once
      have unnamed : n ∉ members.map Prod.fst := List.count_eq_zero.1 (by omega)
      have unlisted : (n, w) ∉ members := fun mem => unnamed (List.mem_map_of_mem mem)
      simp [unlisted, eq_comm]
    · rw [if_neg same, ih (by omega)]
      simp [Ne.symm same]

theorem not_givesTwice_iff : ¬ GivesTwice (.object members) ↔
    ∀ m : Member, (members.map Prod.fst).count m.name ≤ 1 := by
  constructor
  · intro once m
    exact Nat.le_of_not_lt fun twice => once (.object twice)
  · rintro once ⟨twice⟩
    exact Nat.not_lt.2 (once _) twice

theorem gives_object_iff (once : ¬ GivesTwice (.object members)) {m : Member} {w : Json} :
    Gives (.object members) m w ↔ Json.member? members m.name = some w := by
  rw [member?_eq_some_iff (not_givesTwice_iff.1 once m)]
  refine ⟨fun gives => ?_, .member⟩
  cases gives
  assumption

theorem gives_array_iff {m : Member} {w : Json} :
    Gives (.array items) m w ↔ items[m.place]? = some w := by
  refine ⟨fun gives => ?_, .item⟩
  cases gives
  assumption

theorem shaped_array_iff : Shaped (.array items) ↔ items.length ≤ Member.all.length := by
  refine ⟨fun shaped => ?_, .array⟩
  cases shaped
  assumption

theorem not_givesTwice_array (items : List Json) : ¬ GivesTwice (.array items) := nofun

theorem Distinct.not_givesTwice (distinct : Distinct v) : ¬ GivesTwice v := by
  rintro ⟨twice⟩
  cases distinct with
  | object once each => exact Nat.not_lt.2 (List.nodup_iff_count_le_one.1 once _) twice

/-- The order of the members makes no difference to what is given. -/
theorem Reordered.gives_iff {w : Json} (same : Reordered v w) (m : Member) (x : Json) :
    Gives v m x ↔ Gives w m x := by
  cases same with
  | refl => rfl
  | object perm =>
    constructor
    · rintro ⟨mem⟩
      exact .member (perm.mem_iff.1 mem)
    · rintro ⟨mem⟩
      exact .member (perm.mem_iff.2 mem)

theorem Reordered.givesTwice_iff {w : Json} (same : Reordered v w) :
    GivesTwice v ↔ GivesTwice w := by
  cases same with
  | refl => rfl
  | object perm =>
    rw [← not_iff_not, not_givesTwice_iff, not_givesTwice_iff]
    simp only [(perm.map Prod.fst).count_eq]

theorem Reordered.shaped_iff {w : Json} (same : Reordered v w) : Shaped v ↔ Shaped w := by
  cases same with
  | refl => rfl
  | object => exact iff_of_true (.object _) (.object _)

theorem Reordered.distinct {w : Json} (same : Reordered v w) (distinct : Distinct v) :
    Distinct w := by
  cases same with
  | refl => exact distinct
  | object perm =>
    cases distinct with
    | object once each =>
      exact .object ((perm.map Prod.fst).nodup_iff.1 once) fun m mem => each m (perm.mem_iff.2 mem)

theorem Reordered.fits_iff {w : Json} (same : Reordered v w) {d : Draft} :
    Fits v d ↔ Fits w d := by
  simp only [Fits, same.gives_iff]

theorem fits_iff {d : Draft} {given : Member → Option Json}
    (gives : ∀ m w, Gives v m w ↔ given m = some w) : Fits v d ↔ ∀ m, d.get? m = given m := by
  simp only [Fits, gives, ← Option.ext_iff]

theorem setEach_empty_eq_some_iff {d : Draft} {given : List (Member × Json)}
    (once : (given.map Prod.fst).Nodup) (gives : ∀ m w, Gives v m w ↔ given.lookup m = some w) :
    Draft.empty.setEach given = some d ↔ Fits v d := by
  rw [Draft.setEach_eq_some_iff once, fits_iff gives]
  simp only [Draft.get?_empty, Option.or_none]

/-- Items are given to the members in order. -/
theorem setEach_items_eq_some_iff {d : Draft} :
    Draft.empty.setEach (Member.all.zip items) = some d ↔ Fits (.array items) d := by
  refine setEach_empty_eq_some_iff ?_ fun m w => ?_
  · rcases items with - | ⟨p, - | ⟨n, - | ⟨c, more⟩⟩⟩ <;> simp [Member.all]
  · rw [gives_array_iff]
    rcases items with - | ⟨p, - | ⟨n, - | ⟨c, more⟩⟩⟩ <;> cases m <;> rfl

/-! ### The described settings -/

theorem holds_iff {α β : Type} {gives : Json → Prop} {kind : β → Json} {make : β → α}
    {default field : α} (functional : ∀ w w', gives w → gives w' → w = w') :
    Holds gives kind make default field ↔
      ∃ b? : Option β,
        (∀ w, b?.map kind = some w ↔ gives w) ∧ (b?.map make).getD default = field := by
  constructor
  · intro holds
    cases holds with
    | @given b given =>
      refine ⟨some b, fun w => ⟨?_, fun gives => ?_⟩, rfl⟩
      · intro same
        obtain rfl := Option.some.inj same
        exact given
      · exact congrArg some (functional _ _ given gives)
    | absent nothing => exact ⟨none, fun w => iff_of_false nofun (nothing w), rfl⟩
  · rintro ⟨- | b, said, rfl⟩
    · exact .absent fun w gives => nomatch (said w).2 gives
    · exact .given ((said (kind b)).1 rfl)

/-- Settings are described by a value if they are what a draft of it comes to. -/
theorem describes_iff_fits (once : ¬ GivesTwice v) :
    Describes v s ↔ Shaped v ∧ ∃ d, Fits v d ∧ d.finish = s := by
  have functional (m : Member) (w w' : Json) (gives : Gives v m w) (gives' : Gives v m w') :
      w = w' := by
    cases gives with
    | member mem =>
      have first := (gives_object_iff once).1 (.member mem)
      exact Option.some.inj (first.symm.trans ((gives_object_iff once).1 gives'))
    | item place => exact Option.some.inj (place.symm.trans (gives_array_iff.1 gives'))
  constructor
  · rintro ⟨shaped, project, name, sensitive⟩
    obtain ⟨p?, fitsP, sameP⟩ := (holds_iff (functional _)).1 project
    obtain ⟨n?, fitsN, sameN⟩ := (holds_iff (functional _)).1 name
    obtain ⟨c?, fitsC, sameC⟩ := (holds_iff (functional _)).1 sensitive
    refine ⟨shaped, ⟨p?, n?, c?⟩, fun m => ?_, ?_⟩
    · cases m with
      | projectConfig => exact fitsP
      | configName => exact fitsN
      | caseSensitive => exact fitsC
    · rw [Option.map_id] at sameN sameC
      obtain ⟨project, name, sensitive⟩ := s
      exact congr (congrArg₂ Settings.mk sameP sameN) sameC
  · rintro ⟨shaped, d, fits, rfl⟩
    refine ⟨shaped, ?_, ?_, ?_⟩
    · exact (holds_iff (functional _)).2 ⟨d.projectConfig, fits .projectConfig, rfl⟩
    · exact (holds_iff (functional _)).2
        ⟨d.configName, fits .configName, by rw [Option.map_id]; rfl⟩
    · exact (holds_iff (functional _)).2
        ⟨d.caseSensitive, fits .caseSensitive, by rw [Option.map_id]; rfl⟩

/-- A value describes settings if whatever it gives for a member is what the member takes. -/
theorem exists_describes_iff (once : ¬ GivesTwice v) :
    (∃ s, Describes v s) ↔ Shaped v ∧ ∀ m w, Gives v m w → m.Takes w := by
  constructor
  · rintro ⟨s, describes⟩
    obtain ⟨shaped, d, fits, -⟩ := (describes_iff_fits once).1 describes
    refine ⟨shaped, fun m w gives => ?_⟩
    have said := (fits m w).2 gives
    cases m with
    | projectConfig | configName | caseSensitive =>
      obtain ⟨b, -, rfl⟩ := Option.map_eq_some_iff.1 said
      constructor
  · rintro ⟨shaped, takes⟩
    have holds {α β : Type} (m : Member) (kind : β → Json) (make : β → α) (default : α)
        (kinds : ∀ w, m.Takes w → ∃ b, w = kind b) :
        ∃ field, Holds (Gives v m) kind make default field := by
      by_cases given : ∃ w, Gives v m w
      · obtain ⟨w, gives⟩ := given
        obtain ⟨b, rfl⟩ := kinds w (takes m w gives)
        exact ⟨_, .given gives⟩
      · exact ⟨_, .absent (not_exists.1 given)⟩
    obtain ⟨project, first⟩ := holds .projectConfig .string Path.ofText default.projectConfig
      fun w takes => by cases takes; exact ⟨_, rfl⟩
    obtain ⟨name, second⟩ := holds .configName .string id default.configName
      fun w takes => by cases takes; exact ⟨_, rfl⟩
    obtain ⟨sensitive, third⟩ := holds .caseSensitive .bool id default.caseSensitive
      fun w takes => by cases takes; exact ⟨_, rfl⟩
    exact ⟨⟨project, name, sensitive⟩, shaped, first, second, third⟩

theorem Reordered.describes_iff {w : Json} (same : Reordered v w) (once : ¬ GivesTwice v) :
    Describes v s ↔ Describes w s := by
  rw [describes_iff_fits once, describes_iff_fits (mt same.givesTwice_iff.2 once), same.shaped_iff]
  simp only [same.fits_iff]

end ScopedImports.Settings
