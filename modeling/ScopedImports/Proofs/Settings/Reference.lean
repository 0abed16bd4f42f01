import ScopedImports.Proofs.Settings.Documented
import ScopedImports.Proofs.Settings.Followed
import ScopedImports.Settings.FromValue

/-!
A codec that behaves as documented.

The readers and writers of this project make a codec (`Codec.reference`).  Its readers were not made
from the steps of a visit: the one for texts takes tokens and builds no value, and the one for
values looks members up by name.  Still both read what a visit comes to (`ofText_eq_ok_iff_fits`,
`ofJson_eq_ok_iff_fits`), so all that is documented of a library can be had.
-/

namespace ScopedImports.Settings

/-! ### Reading values -/

/-- What an object is looked up for. -/
theorem lookup_filterMap (given : Member → Option Json) (ms : List Member) (m : Member) :
    (ms.filterMap fun o => (given o).map fun w => (o, w)).lookup m
      = if m ∈ ms then given m else none := by
  induction ms with
  | nil => rfl
  | cons o ms ih =>
    by_cases same : m = o
    · subst same
      rw [if_pos List.mem_cons_self]
      rcases found : given m with - | w
      · rw [List.filterMap_cons, found, Option.map_none, ih, found, ite_self]
      · rw [List.filterMap_cons, found, Option.map_some, List.lookup_cons, beq_self_eq_true]
    · rcases found : given o with - | w
      · rw [List.filterMap_cons, found, Option.map_none, ih]
        simp [same]
      · rw [List.filterMap_cons, found, Option.map_some, List.lookup_cons, beq_false_of_ne same, ih]
        simp [same]

theorem nodup_filterMap (given : Member → Option Json) {ms : List Member} (once : ms.Nodup) :
    ((ms.filterMap fun m => (given m).map fun w => (m, w)).map Prod.fst).Nodup := by
  rw [List.map_filterMap]
  refine once.filterMap fun m o n ofM ofO => ?_
  obtain ⟨first, named, rfl⟩ := Option.map_eq_some_iff.1 ofM
  obtain ⟨second, named', same⟩ := Option.map_eq_some_iff.1 ofO
  obtain ⟨w, found, rfl⟩ := Option.map_eq_some_iff.1 named
  obtain ⟨w', found', rfl⟩ := Option.map_eq_some_iff.1 named'
  exact same.symm

namespace Draft

theorem set_eq_ok_iff {d e : Draft} {m : Member} {v : Json} :
    d.set m v = .ok e ↔ d.set? m v = some e := by
  rw [set]
  cases d.set? m v <;> simp

theorem setAll_eq_ok_iff {d e : Draft} {given : List (Member × Json)} :
    d.setAll given = .ok e ↔ d.setEach given = some e := by
  induction given generalizing d with
  | nil => simp [setAll, setEach]
  | cons first rest ih =>
    obtain ⟨m, v⟩ := first
    rw [setAll, setEach_cons, Option.bind_eq_some_iff]
    simp only [← set_eq_ok_iff, ← ih]
    cases d.set m v with
    | error mismatch => exact iff_of_false nofun nofun
    | ok u => simp [bind, Except.bind]

end Draft

variable {v : Json} {s : Settings}

theorem finish_eq_ok_iff {set : Except Mismatch Draft} :
    Draft.finish <$> set = .ok s ↔ ∃ d, set = .ok d ∧ d.finish = s := by
  rcases set with mismatch | d
  · exact iff_of_false nofun nofun
  · refine ⟨fun same => ⟨d, rfl, Except.ok.inj same⟩, ?_⟩
    rintro ⟨u, same, rfl⟩
    obtain rfl := Except.ok.inj same
    rfl

/-- **Reading a value as settings**: it is an object or a short array, and a draft says just what it
gives. -/
theorem ofJson_eq_ok_iff_fits (once : ¬ GivesTwice v) :
    ofJson v = .ok s ↔ Shaped v ∧ ∃ d, Fits v d ∧ d.finish = s := by
  cases v with
  | object members =>
    have gives (m : Member) (w : Json) : Gives (.object members) m w ↔
        (Member.byName.filterMap fun o =>
          (Json.member? members o.name).map fun w => (o, w)).lookup m = some w := by
      have known : m ∈ Member.byName := by cases m <;> decide
      rw [lookup_filterMap fun o => Json.member? members o.name, if_pos known,
        gives_object_iff once]
    have set (d : Draft) :=
      setEach_empty_eq_some_iff (d := d) (nodup_filterMap _ (by decide)) gives
    simp only [ofJson, finish_eq_ok_iff, Draft.setAll_eq_ok_iff, set]
    exact (and_iff_right (.object members)).symm
  | array items =>
    by_cases short : items.length ≤ Member.all.length
    -- the items are looked at before the length, but both must do
    · have fits : ofJson (.array items)
          = Draft.finish <$> Draft.empty.setAll (Member.all.zip items) := by
        simp only [ofJson, if_neg (Nat.not_lt.2 short)]
        rfl
      simp only [fits, finish_eq_ok_iff, Draft.setAll_eq_ok_iff, setEach_items_eq_some_iff]
      exact (and_iff_right (.array short)).symm
    · refine iff_of_false (fun read => ?_) fun shaped => ?_
      · simp only [ofJson, if_pos (Nat.lt_of_not_le short)] at read
        revert read
        rcases Draft.empty.setAll (Member.all.zip items) <;> nofun
      · exact short (shaped_array_iff.1 shaped.1)
  | _ => exact iff_of_false nofun nofun

/-! ### The codec -/

namespace Codec

/-- The readers and writers of this project. -/
def reference : Codec where
  parse text := (Json.read text).toOption
  inRange n := n.value?.isSome
  ofMembers d members := (members.foldlM Draft.takeMember d).map Draft.finish
  ofItems d left items :=
    (d.setEach (left.zip items)).map fun d => (d.finish, items.drop left.length)
  ofText text := (Settings.ofText text).toOption
  ofValue v := (ofJson v).toOption
  escape := Json.writeChar
  toText s := s.toJson?.map Json.render
  toValue s := s.toJson?

theorem toOption_eq_some_iff {ε α : Type} {result : Except ε α} {a : α} :
    result.toOption = some a ↔ result = .ok a := by
  cases result <;> simp [Except.toOption]

theorem reference_visits : reference.Visits where
  noMember _ := rfl
  otherMember d name unknown v ms := by
    show (((name, v) :: ms).foldlM Draft.takeMember d).map Draft.finish = _
    rw [List.foldlM_cons, Draft.takeMember_other unknown]
    rfl
  givenMember {d m} given v ms := by
    show (((m.name, v) :: ms).foldlM Draft.takeMember d).map Draft.finish = _
    rw [List.foldlM_cons, Draft.takeMember_known, if_pos given]
    rfl
  newMember {d m} new v ms := by
    show (((m.name, v) :: ms).foldlM Draft.takeMember d).map Draft.finish = _
    rw [List.foldlM_cons, Draft.takeMember_known, new, if_neg Bool.false_ne_true]
    cases d.set? m v <;> rfl
  noItem d left := by
    show (d.setEach (left.zip [])).map _ = _
    rw [List.zip_nil_right, List.drop_nil]
    rfl
  noneLeft _ _ := rfl
  item d m left v items := by
    show (d.setEach ((m :: left).zip (v :: items))).map _ = _
    rw [List.zip_cons_cons, Draft.setEach_cons]
    cases d.set? m v <;> rfl

/-- **The reference behaves as documented.** -/
theorem reference_documented : reference.Documented where
  toVisits := reference_visits
  parse_of_spells spelt within := toOption_eq_some_iff.2 (Json.read_eq_ok_iff.2 ⟨spelt, within⟩)
  text {text v} parsed := by
    obtain ⟨spelt, -⟩ := Json.read_eq_ok_iff.1 (toOption_eq_some_iff.1 parsed)
    refine Option.ext fun s => ?_
    exact (toOption_eq_some_iff.trans (ofText_eq_ok_iff_fits spelt)).trans
      reference_visits.visit_eq_some_iff.symm
  value {v} distinct := by
    refine ⟨v, .refl v, Option.ext fun s => ?_⟩
    rw [reference_visits.visit_eq_some_iff, and_iff_right distinct.not_givesTwice]
    exact toOption_eq_some_iff.trans (ofJson_eq_ok_iff_fits distinct.not_givesTwice)
  escapes := Json.escaped_writeChar
  unwritten {s} unwritten := by
    have none : s.toJson? = none := by rw [toJson?, unwritten, Option.map_none]
    exact ⟨congrArg (Option.map Json.render) none, none⟩
  writtenText {s members} written := by
    have some : s.toJson? = some (.object members) := by rw [toJson?, written, Option.map_some]
    exact congrArg (Option.map Json.render) some
  writtenValue {s members} written := by
    refine ⟨.object members, .refl _, ?_⟩
    show s.toJson? = _
    rw [toJson?, written, Option.map_some]

end Codec

end ScopedImports.Settings
