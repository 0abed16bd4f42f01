import ScopedImports.Proofs.Settings.Described
import ScopedImports.Settings.Codec

/-!
What members and items come to.

Reading settings visits the members of an object from the left, and keeps a draft of what they have
said.  A member of another name is passed over, and a known one is set, unless it has been set
before (`Draft.takeMember`):

    "x" : [ 1 ]                nothing changes
    "config_file_name" : "a"   config_file_name "a"
    "config_file_name" : "a"   none, it has been said

The visit ends in a draft just if no member is given twice and the draft says what the object gives
(`foldlM_takeMember_eq_some_iff`).  So it does not depend on the order of the members, and what
settings it comes to is the same for every codec that goes by these steps (`Visits`).
-/

namespace ScopedImports.Settings

/-! ### One member after the other -/

theorem Member.ofName?_eq_some_iff {name : String} {m : Member} :
    Member.ofName? name = some m ↔ m.name = name := by
  constructor
  · intro found
    rw [Member.ofName?] at found
    exact beq_iff_eq.1 (List.find?_some (p := fun m : Member => m.name == name) found)
  · rintro rfl
    cases m <;> rfl

theorem Member.name_injective : Function.Injective Member.name := by
  intro m o same
  have found := Member.ofName?_eq_some_iff.2 same
  rw [Member.ofName?_eq_some_iff.2 rfl] at found
  exact (Option.some.inj found).symm

namespace Draft

/-- Take a member of an object; none if it has been said already, or is of the wrong kind. -/
def takeMember (d : Draft) (member : String × Json) : Option Draft :=
  match Member.ofName? member.1 with
  | some m => if d.has m then none else d.set? m member.2
  | none => some d

variable {d : Draft} {m : Member}

theorem takeMember_other {name : String} (unknown : Member.ofName? name = none) (v : Json) :
    d.takeMember (name, v) = some d := by
  simp only [takeMember, unknown]

theorem takeMember_known (d : Draft) (m : Member) (v : Json) :
    d.takeMember (m.name, v) = if d.has m then none else d.set? m v := by
  have known : Member.ofName? m.name = some m := Member.ofName?_eq_some_iff.2 rfl
  simp only [takeMember, known]

end Draft

section Folds

variable {α β : Type} (f : β → α → Option β) (b : β)

theorem foldlM_concat (xs : List α) (x : α) :
    (xs ++ [x]).foldlM f b = (xs.foldlM f b).bind fun c => f c x := by
  rw [List.foldlM_append]
  exact congrArg _ (funext fun c => bind_pure (f c x))

theorem foldlM_singleton (x : α) : [x].foldlM f b = f b x := foldlM_concat f b [] x

end Folds

/-! ### Where a visit ends -/

section Ends

variable {ms : List (String × Json)} {name : String} {v w : Json} {d : Draft} {m : Member}

theorem gives_concat_iff : Gives (.object (ms ++ [(name, v)])) m w ↔
    Gives (.object ms) m w ∨ m.name = name ∧ w = v := by
  constructor
  · rintro ⟨mem⟩
    rcases List.mem_append.1 mem with mem | mem
    · exact .inl (.member mem)
    · exact .inr (Prod.mk.inj (List.mem_singleton.1 mem))
  · rintro (⟨⟨mem⟩⟩ | ⟨rfl, rfl⟩)
    · exact .member (List.mem_append_left _ mem)
    · exact .member (List.mem_append_right _ List.mem_cons_self)

theorem count_concat (ms : List (String × Json)) (name : String) (v : Json) (n : String) :
    ((ms ++ [(name, v)]).map Prod.fst).count n
      = (ms.map Prod.fst).count n + if name = n then 1 else 0 := by
  rw [List.map_append, List.count_append, List.map_singleton, List.count_singleton]
  simp

/-- A member that is not given has a name that does not occur. -/
theorem count_eq_zero_iff :
    (ms.map Prod.fst).count m.name = 0 ↔ ∀ w, ¬ Gives (.object ms) m w := by
  rw [List.count_eq_zero]
  constructor
  · rintro unnamed w ⟨mem⟩
    exact unnamed (List.mem_map_of_mem mem)
  · intro nothing named
    obtain ⟨⟨n, w⟩, mem, rfl⟩ := List.mem_map.1 named
    exact nothing w (.member mem)

/-- One more member of another name. -/
theorem fits_concat_of_unknown (unknown : ∀ m : Member, m.name ≠ name) :
    Fits (.object (ms ++ [(name, v)])) d ↔ Fits (.object ms) d := by
  simp only [Fits, gives_concat_iff, unknown, false_and, or_false]

theorem not_givesTwice_concat_iff : ¬ GivesTwice (.object (ms ++ [(m.name, v)])) ↔
    ¬ GivesTwice (.object ms) ∧ (ms.map Prod.fst).count m.name = 0 := by
  simp only [not_givesTwice_iff, count_concat]
  constructor
  · intro once
    have none := once m
    rw [if_pos rfl] at none
    exact ⟨fun o => Nat.le_trans (Nat.le_add_right _ _) (once o), by omega⟩
  · rintro ⟨once, none⟩ o
    have before := once o
    split
    case isTrue same =>
      rw [← same]
      omega
    case isFalse => exact before

/-- One more member that is known: it is set behind the others. -/
theorem exists_set_iff_fits_concat (nothing : ∀ w, ¬ Gives (.object ms) m w) :
    (∃ u, Fits (.object ms) u ∧ u.set? m v = some d) ↔ Fits (.object (ms ++ [(m.name, v)])) d := by
  have other {o : Member} (other : o ≠ m) (w : Json) :
      Gives (.object (ms ++ [(m.name, v)])) o w ↔ Gives (.object ms) o w := by
    have unnamed : o.name ≠ m.name := fun same => other (Member.name_injective same)
    rw [gives_concat_iff, or_iff_left fun same => unnamed same.1]
  have self (w : Json) : Gives (.object (ms ++ [(m.name, v)])) m w ↔ w = v := by
    rw [gives_concat_iff, or_iff_right (nothing w), and_iff_right rfl]
  constructor
  · rintro ⟨u, fits, set⟩ o w
    rw [Draft.set?_eq_some_iff.1 set]
    by_cases same : o = m
    · rw [same, Function.update_self, self, Option.some_inj, eq_comm]
    · rw [Function.update_of_ne same, other same, fits]
  · -- what was said before `m`: all that `d` says, but nothing of `m`
    intro fits
    obtain ⟨u, update⟩ := Draft.exists_get?_eq_update d .empty m
    refine ⟨u, fun o w => ?_, Draft.set?_eq_some_iff.2 (funext fun o => ?_)⟩
    · rw [update]
      by_cases same : o = m
      · rw [same, Function.update_self, Draft.get?_empty]
        exact iff_of_false nofun (nothing w)
      · rw [Function.update_of_ne same, fits, other same]
    · rw [update, Function.update_idem]
      by_cases same : o = m
      · rw [same, Function.update_self, (fits m v).2 ((self v).2 rfl)]
      · rw [Function.update_of_ne same]

/-- A known member is taken if it has not been given before and can be set. -/
theorem takeMember_eq_some_iff {u : Draft} (fits : Fits (.object ms) u) :
    u.takeMember (m.name, v) = some d ↔
      (∀ w, ¬ Gives (.object ms) m w) ∧ u.set? m v = some d := by
  rw [Draft.takeMember_known, Draft.has_eq]
  rcases said : u.get? m with - | w
  · have nothing (w : Json) : ¬ Gives (.object ms) m w := by
      rw [← fits m w, said]
      nofun
    rw [and_iff_right nothing]
    exact Iff.rfl
  · exact iff_of_false nofun fun given => given.1 w ((fits m w).1 said)

/-- **An object is read to its end** if no member is given twice and a draft says what it gives. -/
theorem foldlM_takeMember_eq_some_iff : ms.foldlM Draft.takeMember .empty = some d ↔
    ¬ GivesTwice (.object ms) ∧ Fits (.object ms) d := by
  induction ms using List.reverseRecOn generalizing d with
  | nil =>
    have nothing (m : Member) (w : Json) : Gives (.object []) m w ↔ none = some w :=
      iff_of_false (count_eq_zero_iff.1 rfl w) nofun
    have once : ¬ GivesTwice (.object []) := not_givesTwice_iff.2 fun _ => Nat.zero_le 1
    rw [fits_iff nothing, and_iff_right once]
    refine ⟨fun same m => ?_, fun said => congrArg some (Draft.get?_injective (funext fun m => ?_))⟩
    · obtain rfl := Option.some.inj same
      exact Draft.get?_empty
    · rw [said, Draft.get?_empty]
  | append_singleton ms last ih =>
    obtain ⟨name, v⟩ := last
    rw [foldlM_concat, Option.bind_eq_some_iff]
    simp only [ih]
    -- a member of another name says nothing, and is not looked at
    rcases known : Member.ofName? name with - | m
    · have unknown (m : Member) : m.name ≠ name := fun same => by
        rw [Member.ofName?_eq_some_iff.2 same] at known
        cases known
      have once : ¬ GivesTwice (.object (ms ++ [(name, v)])) ↔ ¬ GivesTwice (.object ms) := by
        simp only [not_givesTwice_iff, count_concat, if_neg (unknown _).symm, Nat.add_zero]
      rw [fits_concat_of_unknown unknown, once]
      simp only [Draft.takeMember_other known, Option.some_inj, exists_eq_right]
    · obtain rfl := Member.ofName?_eq_some_iff.1 known
      constructor
      · rintro ⟨u, ⟨once, fits⟩, taken⟩
        obtain ⟨nothing, set⟩ := (takeMember_eq_some_iff fits).1 taken
        exact ⟨not_givesTwice_concat_iff.2 ⟨once, count_eq_zero_iff.2 nothing⟩,
          (exists_set_iff_fits_concat nothing).1 ⟨u, fits, set⟩⟩
      · rintro ⟨once, fits⟩
        obtain ⟨once, none⟩ := not_givesTwice_concat_iff.1 once
        have nothing := count_eq_zero_iff.1 none
        obtain ⟨u, fits, set⟩ := (exists_set_iff_fits_concat nothing).2 fits
        exact ⟨u, ⟨once, fits⟩, (takeMember_eq_some_iff fits).2 ⟨nothing, set⟩⟩

end Ends

/-! ### Codecs that visit -/

namespace Codec

/-- The codec visits members and items one after the other. -/
structure Visits (codec : Codec) : Prop where
  /-- Behind the last member, what has not been said has its default. -/
  noMember (d : Draft) : codec.ofMembers d [] = some d.finish
  /-- A member of another name is passed over, whatever its value is. -/
  otherMember (d : Draft) {name : String} (unknown : Member.ofName? name = none) (v : Json)
    (ms : List (String × Json)) : codec.ofMembers d ((name, v) :: ms) = codec.ofMembers d ms
  /-- A known member must not have been given before, not even with the same value. -/
  givenMember {d : Draft} {m : Member} (given : d.has m = true) (v : Json)
    (ms : List (String × Json)) : codec.ofMembers d ((m.name, v) :: ms) = none
  /-- A known member is set, if the value is of its kind. -/
  newMember {d : Draft} {m : Member} (new : d.has m = false) (v : Json)
    (ms : List (String × Json)) :
    codec.ofMembers d ((m.name, v) :: ms) = (d.set? m v).bind fun d => codec.ofMembers d ms
  /-- Behind the last item, what has not been said has its default. -/
  noItem (d : Draft) (left : List Member) : codec.ofItems d left [] = some (d.finish, [])
  /-- Items are left when there is no member for them. -/
  noneLeft (d : Draft) (items : List Json) : codec.ofItems d [] items = some (d.finish, items)
  /-- The next member is set, if the item is of its kind. -/
  item (d : Draft) (m : Member) (left : List Member) (v : Json) (items : List Json) :
    codec.ofItems d (m :: left) (v :: items)
      = (d.set? m v).bind fun d => codec.ofItems d left items

namespace Visits

variable {codec : Codec} (visits : codec.Visits) {v : Json} {s : Settings}

include visits

theorem ofMembers_eq (d : Draft) (ms : List (String × Json)) :
    codec.ofMembers d ms = (ms.foldlM Draft.takeMember d).map Draft.finish := by
  induction ms generalizing d with
  | nil => exact visits.noMember d
  | cons member ms ih =>
    obtain ⟨name, v⟩ := member
    rw [List.foldlM_cons]
    rcases known : Member.ofName? name with - | m
    · rw [visits.otherMember d known, Draft.takeMember_other known, ih]
      rfl
    · obtain rfl := Member.ofName?_eq_some_iff.1 known
      rw [Draft.takeMember_known]
      rcases given : d.has m
      · rw [visits.newMember given, if_neg Bool.false_ne_true]
        simp only [ih]
        cases d.set? m v <;> rfl
      · rw [visits.givenMember given, if_pos rfl]
        rfl

theorem ofItems_eq (d : Draft) (left : List Member) (items : List Json) :
    codec.ofItems d left items
      = (d.setEach (left.zip items)).map fun d => (d.finish, items.drop left.length) := by
  induction left generalizing d items with
  | nil => exact visits.noneLeft d items
  | cons m left ih =>
    cases items with
    | nil => exact visits.noItem d _
    | cons v items =>
      rw [visits.item, List.zip_cons_cons, Draft.setEach_cons]
      simp only [ih]
      cases d.set? m v <;> rfl

theorem ofArray_eq_some_iff {items : List Json} :
    codec.ofArray items = some s ↔
      Shaped (.array items) ∧ ∃ d, Fits (.array items) d ∧ d.finish = s := by
  rw [shaped_array_iff, ← List.drop_eq_nil_iff, ofArray, visits.ofItems_eq]
  simp only [← setEach_items_eq_some_iff]
  rcases Draft.empty.setEach (Member.all.zip items) with - | d
  · simp
  · rcases items.drop Member.all.length with - | ⟨v, more⟩
    · simp
    · simp

/-- **A visit comes to settings** if no member is given twice, and the value is an object or a short
array, and a draft says what it gives. -/
theorem visit_eq_some_iff :
    codec.visit v = some s ↔ ¬ GivesTwice v ∧ Shaped v ∧ ∃ d, Fits v d ∧ d.finish = s := by
  cases v with
  | object members =>
    rw [visit, visits.ofMembers_eq, Option.map_eq_some_iff,
      and_iff_right (Shaped.object members)]
    simp only [foldlM_takeMember_eq_some_iff, and_assoc, exists_and_left]
  | array items =>
    rw [visit, visits.ofArray_eq_some_iff, and_iff_right (not_givesTwice_array items)]
  | null | bool | number | string =>
    refine iff_of_false (Option.some_ne_none s).symm ?_
    rintro ⟨_, shaped, _⟩
    cases shaped

end Visits

end Codec

end ScopedImports.Settings
