import Mathlib.Data.List.Sort
import TenantTrust.Library.NumberText
import TenantTrust.Library.ScriptString

/-! The values of a JSON text as a script holds them, their equality up to the order of members,
and their sorted form. -/

namespace TenantTrust.Library

inductive JsonValue where
  | null
  | bool (value : Bool)
  | number (value : Number)
  | string (value : ScriptString)
  | array (items : List JsonValue)
  | object (members : List (ScriptString × JsonValue))

namespace JsonValue

mutual

def numbersFinite : JsonValue → Bool
  | number value => value.isFinite
  | array items => itemsFinite items
  | object members => membersFinite members
  | _ => true

def itemsFinite : List JsonValue → Bool
  | [] => true
  | value :: rest => numbersFinite value && itemsFinite rest

def membersFinite : List (ScriptString × JsonValue) → Bool
  | [] => true
  | (_, value) :: rest => numbersFinite value && membersFinite rest

end

/-- The numbers are finite, and no object has two members of one name. -/
inductive WellFormed : JsonValue → Prop
  | null : WellFormed null
  | bool (value : Bool) : WellFormed (bool value)
  | number {value : Number} (finite : value.isFinite) : WellFormed (number value)
  | string (value : ScriptString) : WellFormed (string value)
  | array {items : List JsonValue} (items_wellFormed : ∀ value ∈ items, WellFormed value) :
      WellFormed (array items)
  | object {members : List (ScriptString × JsonValue)} (distinct : (members.map Prod.fst).Nodup)
      (values_wellFormed : ∀ member ∈ members, WellFormed member.2) : WellFormed (object members)

/-- The same value: arrays agree item by item, objects have the same names with the same values. -/
inductive Same : JsonValue → JsonValue → Prop
  | null : Same null null
  | bool (value : Bool) : Same (bool value) (bool value)
  | number (value : Number) : Same (number value) (number value)
  | string (value : ScriptString) : Same (string value) (string value)
  | array {left right : List JsonValue} (lengths : left.length = right.length)
      (items : ∀ pair ∈ left.zip right, Same pair.1 pair.2) : Same (array left) (array right)
  | object {left right : List (ScriptString × JsonValue)}
      (names : ∀ name, name ∈ left.map Prod.fst ↔ name ∈ right.map Prod.fst)
      (values : ∀ name v w, (name, v) ∈ left → (name, w) ∈ right → Same v w) :
      Same (object left) (object right)

theorem itemsFinite_of_forall {items : List JsonValue}
    (each : ∀ value ∈ items, numbersFinite value = true) : itemsFinite items = true := by
  induction items with
  | nil => rfl
  | cons value rest ih =>
      rw [itemsFinite, each value List.mem_cons_self,
        ih fun other member => each other (List.mem_cons_of_mem _ member)]
      rfl

theorem membersFinite_of_forall {members : List (ScriptString × JsonValue)}
    (each : ∀ member ∈ members, numbersFinite member.2 = true) :
    membersFinite members = true := by
  induction members with
  | nil => rfl
  | cons member rest ih =>
      rw [membersFinite, each member List.mem_cons_self,
        ih fun other found => each other (List.mem_cons_of_mem _ found)]
      rfl

theorem WellFormed.numbersFinite {v : JsonValue} (wellFormed : v.WellFormed) :
    v.numbersFinite = true := by
  induction wellFormed with
  | null => rfl
  | bool => rfl
  | number finite => exact finite
  | string => rfl
  | array _ ih => exact itemsFinite_of_forall ih
  | object _ _ ih => exact membersFinite_of_forall ih

theorem WellFormed.item {items : List JsonValue} (wellFormed : (JsonValue.array items).WellFormed)
    {value : JsonValue} (found : value ∈ items) : value.WellFormed := by
  cases wellFormed with
  | array each => exact each value found

theorem WellFormed.distinct_names {members : List (ScriptString × JsonValue)}
    (wellFormed : (JsonValue.object members).WellFormed) : (members.map Prod.fst).Nodup := by
  cases wellFormed with
  | object distinct _ => exact distinct

theorem WellFormed.member {members : List (ScriptString × JsonValue)}
    (wellFormed : (JsonValue.object members).WellFormed) {member : ScriptString × JsonValue}
    (found : member ∈ members) : member.2.WellFormed := by
  cases wellFormed with
  | object _ each => exact each member found

section Members

variable {β γ : Type*}

/-- Members in the order of their names. -/
def sortMembers (members : List (ScriptString × β)) : List (ScriptString × β) :=
  members.insertionSort fun a b => a.1 ≤ b.1

instance : IsTrans (ScriptString × β) fun a b => a.1 ≤ b.1 := ⟨fun _ _ _ => le_trans⟩

instance : Std.Total fun a b : ScriptString × β => a.1 ≤ b.1 := ⟨fun a b => le_total a.1 b.1⟩

theorem sortMembers_perm (members : List (ScriptString × β)) :
    (sortMembers members).Perm members := List.perm_insertionSort _ _

theorem sortMembers_sorted (members : List (ScriptString × β)) :
    (sortMembers members).Pairwise fun a b => a.1 ≤ b.1 := List.pairwise_insertionSort _ _

theorem sortMembers_map (f : β → γ) (members : List (ScriptString × β)) :
    sortMembers (members.map fun m => (m.1, f m.2))
      = (sortMembers members).map fun m => (m.1, f m.2) := by
  unfold sortMembers
  symm
  apply List.map_insertionSort
  intro a _ b _
  exact Iff.rfl

theorem sortMembers_sortMembers (members : List (ScriptString × β)) :
    sortMembers (sortMembers members) = sortMembers members :=
  List.Pairwise.insertionSort_eq (sortMembers_sorted members)

theorem names_perm {left right : List (ScriptString × β)} (perm : left.Perm right) :
    (left.map Prod.fst).Perm (right.map Prod.fst) := perm.map _

/-- A member is determined by its name. -/
theorem eq_of_same_name {members : List (ScriptString × β)}
    (distinct : (members.map Prod.fst).Nodup) {name : ScriptString} {v w : β}
    (first : (name, v) ∈ members) (second : (name, w) ∈ members) : v = w :=
  (Prod.ext_iff.mp (List.inj_on_of_nodup_map distinct first second rfl)).2

/-- Sorting forgets the order of members with distinct names. -/
theorem sortMembers_eq_of_perm {left right : List (ScriptString × β)}
    (distinct : (left.map Prod.fst).Nodup) (perm : left.Perm right) :
    sortMembers left = sortMembers right := by
  apply List.Perm.eq_of_pairwise _ (sortMembers_sorted left) (sortMembers_sorted right)
    (((sortMembers_perm left).trans perm).trans (sortMembers_perm right).symm)
  rintro ⟨name, v⟩ ⟨other, w⟩ inLeft inRight below above
  obtain rfl : name = other := le_antisymm below above
  have first := (sortMembers_perm left).subset inLeft
  have second := perm.symm.subset ((sortMembers_perm right).subset inRight)
  rw [eq_of_same_name distinct first second]

end Members

mutual

/-- The value with the members of every object in the order of their names. -/
def sorted : JsonValue → JsonValue
  | array items => array (sortedItems items)
  | object members => object (sortMembers (sortedMembers members))
  | value => value

def sortedItems : List JsonValue → List JsonValue
  | [] => []
  | value :: rest => sorted value :: sortedItems rest

def sortedMembers : List (ScriptString × JsonValue) → List (ScriptString × JsonValue)
  | [] => []
  | (name, value) :: rest => (name, sorted value) :: sortedMembers rest

end

theorem sortedItems_eq (items : List JsonValue) : sortedItems items = items.map sorted := by
  induction items with
  | nil => rfl
  | cons value rest ih => rw [sortedItems, ih, List.map_cons]

theorem sortedMembers_eq (members : List (ScriptString × JsonValue)) :
    sortedMembers members = members.map fun m => (m.1, sorted m.2) := by
  induction members with
  | nil => rfl
  | cons member rest ih => rw [sortedMembers, ih, List.map_cons]

theorem sorted_array (items : List JsonValue) :
    sorted (array items) = array (items.map sorted) := by
  rw [sorted, sortedItems_eq]

theorem sorted_object (members : List (ScriptString × JsonValue)) :
    sorted (object members)
      = object ((sortMembers members).map fun m => (m.1, sorted m.2)) := by
  rw [sorted, sortedMembers_eq, sortMembers_map]

theorem names_sorted (members : List (ScriptString × JsonValue)) :
    (((sortMembers members).map fun m => (m.1, sorted m.2)).map Prod.fst).Perm
      (members.map Prod.fst) := by
  rw [List.map_map]
  exact names_perm (sortMembers_perm members)

theorem WellFormed.sorted {v : JsonValue} (wellFormed : v.WellFormed) : v.sorted.WellFormed := by
  induction wellFormed with
  | null => exact .null
  | bool value => exact .bool value
  | number finite => exact .number finite
  | string value => exact .string value
  | array _ ih =>
      rw [sorted_array]
      exact .array (List.forall_mem_map.mpr ih)
  | object distinct _ ih =>
      rw [sorted_object]
      refine .object ((names_sorted _).nodup_iff.mpr distinct) (List.forall_mem_map.mpr ?_)
      exact fun member found => ih member ((sortMembers_perm _).subset found)

theorem WellFormed.sorted_sorted {v : JsonValue} (wellFormed : v.WellFormed) :
    v.sorted.sorted = v.sorted := by
  induction wellFormed with
  | null => rfl
  | bool => rfl
  | number => rfl
  | string => rfl
  | array _ ih =>
      rw [sorted_array, sorted_array, List.map_map]
      exact congrArg JsonValue.array (List.map_congr_left ih)
  | object _ _ ih =>
      rw [sorted_object, sorted_object, sortMembers_map, sortMembers_sortMembers, List.map_map]
      apply congrArg JsonValue.object
      apply List.map_congr_left
      intro member found
      exact congrArg (Prod.mk member.1) (ih member ((sortMembers_perm _).subset found))

theorem sorted_object_of_members (members : List (ScriptString × JsonValue)) :
    sorted (object members)
      = object (sortMembers (members.map fun m => (m.1, sorted m.2))) := by
  rw [sorted_object, sortMembers_map]

theorem nodup_of_names {β : Type*} {members : List (ScriptString × β)}
    (distinct : (members.map Prod.fst).Nodup) : members.Nodup := List.Nodup.of_map _ distinct

theorem names_map (members : List (ScriptString × JsonValue)) :
    (members.map fun m => (m.1, sorted m.2)).map Prod.fst = members.map Prod.fst := by
  rw [List.map_map]
  rfl

/-- Every member of one object is a member of the other, up to the order below it. -/
theorem sortedMembers_subset {left right : List (ScriptString × JsonValue)}
    (names : ∀ name, name ∈ left.map Prod.fst → name ∈ right.map Prod.fst)
    (values : ∀ name v w, (name, v) ∈ left → (name, w) ∈ right → sorted v = sorted w)
    {member : ScriptString × JsonValue} (found : member ∈ left.map fun m => (m.1, sorted m.2)) :
    member ∈ right.map fun m => (m.1, sorted m.2) := by
  obtain ⟨⟨name, v⟩, inLeft, rfl⟩ := List.mem_map.mp found
  obtain ⟨⟨other, w⟩, inRight, sameName⟩ :=
    List.mem_map.mp (names name (List.mem_map_of_mem inLeft))
  obtain rfl : other = name := sameName
  rw [values other v w inLeft inRight]
  exact List.mem_map_of_mem (f := fun m : ScriptString × JsonValue => (m.1, sorted m.2)) inRight

/-- Values that are the same have one sorted form. -/
theorem Same.sorted_eq {a b : JsonValue} (same : Same a b) (left : a.WellFormed)
    (right : b.WellFormed) : a.sorted = b.sorted := by
  induction same with
  | null => rfl
  | bool => rfl
  | number => rfl
  | string => rfl
  | @array xs ys lengths _ ih =>
      rw [sorted_array, sorted_array]
      apply congrArg JsonValue.array
      apply List.ext_getElem (by simpa using lengths)
      intro i inLeft inRight
      rw [List.length_map] at inLeft inRight
      rw [List.getElem_map, List.getElem_map]
      have pair : (xs[i], ys[i]) ∈ xs.zip ys := by
        have bounded : i < (xs.zip ys).length := by
          rw [List.length_zip]
          omega
        rw [← List.getElem_zip (h := bounded)]
        exact List.getElem_mem _
      exact ih _ pair (left.item (List.getElem_mem _)) (right.item (List.getElem_mem _))
  | @object ms ns names _ ih =>
      rw [sorted_object_of_members, sorted_object_of_members]
      apply congrArg JsonValue.object
      have values : ∀ name v w, (name, v) ∈ ms → (name, w) ∈ ns → sorted v = sorted w :=
        fun name v w first second => ih name v w first second (left.member first)
          (right.member second)
      have leftDistinct := (names_map ms).symm ▸ left.distinct_names
      have rightDistinct := (names_map ns).symm ▸ right.distinct_names
      apply sortMembers_eq_of_perm leftDistinct
      rw [List.perm_ext_iff_of_nodup (nodup_of_names leftDistinct) (nodup_of_names rightDistinct)]
      intro member
      constructor
      · exact sortedMembers_subset (fun name => (names name).mp) values
      · exact sortedMembers_subset (fun name => (names name).mpr) fun name v w first second =>
          (values name w v second first).symm

/-- Values with one sorted form are the same. -/
theorem same_of_sorted_eq {a b : JsonValue} (left : a.WellFormed) (right : b.WellFormed)
    (equal : a.sorted = b.sorted) : Same a b := by
  induction left generalizing b with
  | null =>
      cases right with
      | null => exact .null
      | _ => cases equal
  | bool value =>
      cases right with
      | bool other =>
          cases equal
          exact .bool value
      | _ => cases equal
  | number finite =>
      cases right with
      | number other =>
          cases equal
          exact .number _
      | _ => cases equal
  | string value =>
      cases right with
      | string other =>
          cases equal
          exact .string value
      | _ => cases equal
  | @array xs _ ih =>
      cases right with
      | @array ys ysWell =>
          rw [sorted_array, sorted_array, JsonValue.array.injEq] at equal
          have lengths : xs.length = ys.length := by simpa using congrArg List.length equal
          refine .array lengths ?_
          rintro ⟨v, w⟩ pair
          obtain ⟨i, bounded, found⟩ := List.mem_iff_getElem.mp pair
          rw [List.getElem_zip, Prod.mk.injEq] at found
          rw [List.length_zip] at bounded
          have item : sorted xs[i] = sorted ys[i] := by
            have := List.getElem_of_eq equal (i := i) (by rw [List.length_map]; omega)
            simpa using this
          rw [← found.1, ← found.2]
          exact ih _ (List.getElem_mem _) (ysWell _ (List.getElem_mem _)) item
      | _ => cases equal
  | @object ms msDistinct _ ih =>
      cases right with
      | @object ns nsDistinct nsWell =>
          rw [sorted_object_of_members, sorted_object_of_members, JsonValue.object.injEq] at equal
          have perm : (ms.map fun m => (m.1, sorted m.2)).Perm
              (ns.map fun m => (m.1, sorted m.2)) :=
            (sortMembers_perm _).symm.trans ((List.Perm.of_eq equal).trans (sortMembers_perm _))
          have names := names_perm perm
          rw [names_map, names_map] at names
          refine .object (fun name => names.mem_iff) ?_
          intro name v w first second
          have image : (name, sorted v) ∈ ns.map fun m => (m.1, sorted m.2) :=
            perm.subset
              (List.mem_map_of_mem
                (f := fun m : ScriptString × JsonValue => (m.1, sorted m.2)) first)
          obtain ⟨⟨other, u⟩, member, pair⟩ := List.mem_map.mp image
          obtain ⟨rfl, value⟩ := Prod.mk.inj pair
          obtain rfl := eq_of_same_name nsDistinct member second
          exact ih _ first (nsWell _ second) value.symm
      | _ => cases equal

theorem WellFormed.same_sorted {v : JsonValue} (wellFormed : v.WellFormed) :
    Same v v.sorted :=
  same_of_sorted_eq wellFormed wellFormed.sorted wellFormed.sorted_sorted.symm

/-- The value of the member with this name. -/
def member? (name : ScriptString) : JsonValue → Option JsonValue
  | object members => (members.find? fun m => m.1 = name).map Prod.snd
  | _ => none

/-- The member with this name, where it is a string. -/
def stringMember? (name : ScriptString) (v : JsonValue) : Option ScriptString :=
  match v.member? name with
  | some (string text) => some text
  | _ => none

theorem member?_object_eq_some {members : List (ScriptString × JsonValue)}
    (distinct : (members.map Prod.fst).Nodup) {name : ScriptString} {v : JsonValue} :
    (object members).member? name = some v ↔ (name, v) ∈ members := by
  constructor
  · intro found
    obtain ⟨m, chosen, rfl⟩ := Option.map_eq_some_iff.mp found
    obtain rfl : m.1 = name := of_decide_eq_true
      (List.find?_some (p := fun m : ScriptString × JsonValue => decide (m.1 = name)) chosen)
    exact List.mem_of_find?_eq_some chosen
  · intro member
    have present : (members.find? fun m => m.1 = name).isSome :=
      List.find?_isSome.mpr ⟨_, member, decide_eq_true rfl⟩
    obtain ⟨m, chosen⟩ := Option.isSome_iff_exists.mp present
    obtain rfl : m.1 = name := of_decide_eq_true
      (List.find?_some (p := fun m : ScriptString × JsonValue => decide (m.1 = name)) chosen)
    rw [member?, chosen, Option.map_some,
      eq_of_same_name distinct (List.mem_of_find?_eq_some chosen) member]

/-- Values that are the same have the same members. -/
theorem Same.member? {a b v : JsonValue} (same : Same a b) (left : a.WellFormed)
    (right : b.WellFormed) {name : ScriptString} (found : a.member? name = some v) :
    ∃ w, b.member? name = some w ∧ Same v w := by
  cases same with
  | @object ms ns names values =>
      have first := (member?_object_eq_some left.distinct_names).mp found
      obtain ⟨⟨other, w⟩, second, sameName⟩ :=
        List.mem_map.mp ((names name).mp (List.mem_map_of_mem first))
      obtain rfl : other = name := sameName
      exact ⟨w, (member?_object_eq_some right.distinct_names).mpr second,
        values other v w first second⟩
  | _ => cases found

theorem Same.stringMember? {a b : JsonValue} (same : Same a b) (left : a.WellFormed)
    (right : b.WellFormed) {name text : ScriptString} (found : a.stringMember? name = some text) :
    b.stringMember? name = some text := by
  unfold JsonValue.stringMember? at found ⊢
  split at found
  case h_1 value member =>
    obtain ⟨w, other, equal⟩ := same.member? left right member
    cases equal
    rw [other]
    exact found
  case h_2 => cases found

end JsonValue

end TenantTrust.Library
