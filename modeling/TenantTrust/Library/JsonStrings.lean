import TenantTrust.Library.JsonText

/-! The strings that occur in a JSON value, and the values that a script builds. -/

namespace TenantTrust.Library

/-- Neither NUL nor a surrogate without its partner. -/
def CodePoint.isText : CodePoint → Bool
  | .scalar c => c ≠ '\x00'
  | .lone _ => false

def ScriptString.isText (s : ScriptString) : Bool := (codePoints s).all CodePoint.isText

namespace JsonValue

mutual

/-- The strings of a value, the names of its members among them. -/
def strings : JsonValue → List ScriptString
  | string value => [value]
  | array items => itemStrings items
  | object members => memberStrings members
  | _ => []

def itemStrings : List JsonValue → List ScriptString
  | [] => []
  | value :: rest => strings value ++ itemStrings rest

def memberStrings : List (ScriptString × JsonValue) → List ScriptString
  | [] => []
  | (name, value) :: rest => name :: strings value ++ memberStrings rest

end

theorem mem_itemStrings {s : ScriptString} {items : List JsonValue} :
    s ∈ itemStrings items ↔ ∃ value ∈ items, s ∈ value.strings := by
  induction items with
  | nil => simp [itemStrings]
  | cons value rest ih => simp [itemStrings, ih]

theorem mem_memberStrings {s : ScriptString} {members : List (ScriptString × JsonValue)} :
    s ∈ memberStrings members ↔ ∃ member ∈ members, s = member.1 ∨ s ∈ member.2.strings := by
  induction members with
  | nil => simp [memberStrings]
  | cons member rest ih => simp [memberStrings, ih, or_assoc]

theorem WellFormed.mem_strings_sorted {v : JsonValue} (wellFormed : v.WellFormed)
    {s : ScriptString} : s ∈ v.sorted.strings ↔ s ∈ v.strings := by
  induction wellFormed with
  | null => exact Iff.rfl
  | bool => exact Iff.rfl
  | number => exact Iff.rfl
  | string => exact Iff.rfl
  | array _ ih =>
      rw [sorted_array, strings, strings, mem_itemStrings, mem_itemStrings]
      constructor
      · rintro ⟨value, member, found⟩
        obtain ⟨origin, present, rfl⟩ := List.mem_map.mp member
        exact ⟨origin, present, (ih origin present).mp found⟩
      · rintro ⟨value, member, found⟩
        exact ⟨value.sorted, List.mem_map_of_mem member, (ih value member).mpr found⟩
  | @object members _ _ ih =>
      rw [sorted_object_of_members, strings, strings, mem_memberStrings, mem_memberStrings]
      have perm := sortMembers_perm (members.map fun m => (m.1, JsonValue.sorted m.2))
      constructor
      · rintro ⟨member, found, occurs⟩
        obtain ⟨origin, present, rfl⟩ := List.mem_map.mp (perm.subset found)
        exact ⟨origin, present, occurs.imp_right (ih origin present).mp⟩
      · rintro ⟨member, present, occurs⟩
        exact ⟨(member.1, member.2.sorted),
          perm.symm.subset
            (List.mem_map.mpr ⟨member, present, rfl⟩), occurs.imp_right (ih member present).mpr⟩

/-- No object has two members of one name, as in every value that a script builds. -/
inductive NamesDistinct : JsonValue → Prop
  | null : NamesDistinct null
  | bool (value : Bool) : NamesDistinct (bool value)
  | number (value : Number) : NamesDistinct (number value)
  | string (value : ScriptString) : NamesDistinct (string value)
  | array {items : List JsonValue} (each : ∀ value ∈ items, NamesDistinct value) :
      NamesDistinct (array items)
  | object {members : List (ScriptString × JsonValue)} (distinct : (members.map Prod.fst).Nodup)
      (each : ∀ member ∈ members, NamesDistinct member.2) : NamesDistinct (object members)

theorem itemsFinite_iff {items : List JsonValue} :
    itemsFinite items = true ↔ ∀ value ∈ items, numbersFinite value = true := by
  induction items with
  | nil => simp [itemsFinite]
  | cons value rest ih => simp [itemsFinite, ih]

theorem membersFinite_iff {members : List (ScriptString × JsonValue)} :
    membersFinite members = true ↔ ∀ member ∈ members, numbersFinite member.2 = true := by
  induction members with
  | nil => simp [membersFinite]
  | cons member rest ih => simp [membersFinite, ih]

theorem NamesDistinct.wellFormed {v : JsonValue} (distinct : v.NamesDistinct)
    (finite : v.numbersFinite = true) : v.WellFormed := by
  induction distinct with
  | null => exact .null
  | bool value => exact .bool value
  | number value => exact .number finite
  | string value => exact .string value
  | array _ ih =>
      rw [numbersFinite, itemsFinite_iff] at finite
      exact .array fun value member => ih value member (finite value member)
  | object distinct _ ih =>
      rw [numbersFinite, membersFinite_iff] at finite
      exact .object distinct fun member present => ih member present (finite member present)

theorem WellFormed.namesDistinct {v : JsonValue} (wellFormed : v.WellFormed) :
    v.NamesDistinct := by
  induction wellFormed with
  | null => exact .null
  | bool value => exact .bool value
  | number _ => exact .number _
  | string value => exact .string value
  | array _ ih => exact .array ih
  | object distinct _ ih => exact .object distinct ih

/-- Sorting keeps the members of an object, each in its sorted form. -/
theorem WellFormed.member?_sorted {v : JsonValue} (wellFormed : v.WellFormed)
    (name : ScriptString) : v.sorted.member? name = (v.member? name).map JsonValue.sorted := by
  cases wellFormed with
  | @object members distinct each =>
      have whole : (JsonValue.object members).WellFormed := .object distinct each
      have sortedWhole := whole.sorted
      rw [sorted_object_of_members] at sortedWhole ⊢
      have perm := sortMembers_perm (members.map fun m => (m.1, JsonValue.sorted m.2))
      cases found : (JsonValue.object members).member? name with
      | none =>
          cases other : (JsonValue.object (sortMembers
              (members.map fun m => (m.1, JsonValue.sorted m.2)))).member? name with
          | none => rfl
          | some w =>
              have present := (member?_object_eq_some sortedWhole.distinct_names).mp other
              obtain ⟨origin, listed, same⟩ := List.mem_map.mp (perm.subset present)
              have again : (origin.1, origin.2) ∈ members := listed
              rw [(Prod.ext_iff.mp same).1] at again
              rw [(member?_object_eq_some distinct).mpr again] at found
              cases found
      | some value =>
          have present := (member?_object_eq_some distinct).mp found
          rw [Option.map_some, member?_object_eq_some sortedWhole.distinct_names]
          exact perm.symm.subset (List.mem_map.mpr ⟨_, present, rfl⟩)
  | _ => rfl

theorem WellFormed.member?_sorted_of_mem {members : List (ScriptString × JsonValue)}
    {name : ScriptString} {value : JsonValue} (wellFormed : (JsonValue.object members).WellFormed)
    (listed : (name, value) ∈ members) :
    (JsonValue.object members).sorted.member? name = some value.sorted := by
  have found := (member?_object_eq_some wellFormed.distinct_names).mpr listed
  rw [wellFormed.member?_sorted, found]
  rfl

end JsonValue

end TenantTrust.Library
