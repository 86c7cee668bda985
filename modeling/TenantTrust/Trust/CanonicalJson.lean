import TenantTrust.Library.Checked
import TenantTrust.Library.JsonText

/-! The canonical text of evidence: JSON with sorted members and without spaces. -/

namespace TenantTrust.Trust

open Library

inductive EvidenceError where
  | rejected (reasonCode : String)
  | ingestionUnavailable
  | typeError (message : String)
  deriving DecidableEq

mutual

def canonicalValue : JsonValue → List Char
  | .array items => '[' :: [','].intercalate (canonicalItems items) ++ [']']
  | .object members =>
      '{' :: [','].intercalate ((JsonValue.sortMembers (canonicalMembers members)).map
        fun member => member.1.quote ++ ':' :: member.2) ++ ['}']
  | value => value.stringify

def canonicalItems : List JsonValue → List (List Char)
  | [] => []
  | value :: rest => canonicalValue value :: canonicalItems rest

/-- The members with their canonical texts, before they are sorted. -/
def canonicalMembers : List (ScriptString × JsonValue) → List (ScriptString × List Char)
  | [] => []
  | (key, value) :: rest => (key, canonicalValue value) :: canonicalMembers rest

end

/-- A number that is not finite, wherever it stands, rejects the whole value. -/
def canonicalizeEvidenceJson (value : JsonValue) : Except EvidenceError (List Char) := do
  require (value.numbersFinite = true) (.rejected "EVIDENCE_SCHEMA_INVALID")
  return canonicalValue value

mutual

/-- The canonical text is the plain text of the sorted value. -/
theorem canonicalValue_eq : ∀ value, canonicalValue value = value.sorted.stringify
  | .null => rfl
  | .bool _ => by rw [canonicalValue, JsonValue.sorted] <;> nofun
  | .number _ => rfl
  | .string _ => rfl
  | .array items => by
      rw [canonicalValue, canonicalItems_eq items, JsonValue.sorted_array, JsonValue.stringify,
        JsonValue.itemTexts_eq, List.map_map]
      rfl
  | .object members => by
      rw [canonicalValue, canonicalMembers_eq members,
        JsonValue.sortMembers_map fun value : JsonValue => value.sorted.stringify,
        JsonValue.sorted_object, JsonValue.stringify, JsonValue.memberTexts_eq, List.map_map,
        List.map_map]
      rfl

theorem canonicalItems_eq :
    ∀ items, canonicalItems items = items.map fun value => value.sorted.stringify
  | [] => rfl
  | value :: rest => by
      rw [canonicalItems, canonicalValue_eq value, canonicalItems_eq rest, List.map_cons]

theorem canonicalMembers_eq :
    ∀ members, canonicalMembers members = members.map fun m => (m.1, m.2.sorted.stringify)
  | [] => rfl
  | (key, value) :: rest => by
      rw [canonicalMembers, canonicalValue_eq value, canonicalMembers_eq rest, List.map_cons]

end

variable {value left right : JsonValue}

theorem canonicalizeEvidenceJson_ok (wellFormed : value.WellFormed) :
    canonicalizeEvidenceJson value = .ok (canonicalValue value) := by
  rw [canonicalizeEvidenceJson, require, if_pos wellFormed.numbersFinite]
  rfl

/-- What the canonical text reads as. -/
theorem parse_canonicalValue (wellFormed : value.WellFormed) :
    JsonValue.parse (canonicalValue value) = some value.sorted := by
  rw [canonicalValue_eq, wellFormed.sorted.parse_stringify]

theorem canonicalValue_sorted (wellFormed : value.WellFormed) :
    canonicalValue value.sorted = canonicalValue value := by
  rw [canonicalValue_eq, canonicalValue_eq, wellFormed.sorted_sorted]

/-- Two values have one canonical text exactly when they are the same. -/
theorem canonicalValue_eq_iff (leftWell : left.WellFormed) (rightWell : right.WellFormed) :
    canonicalValue left = canonicalValue right ↔ JsonValue.Same left right := by
  constructor
  · intro equal
    apply JsonValue.same_of_sorted_eq leftWell rightWell
    apply Option.some.inj
    rw [← parse_canonicalValue leftWell, ← parse_canonicalValue rightWell, equal]
  · intro same
    rw [canonicalValue_eq, canonicalValue_eq, same.sorted_eq leftWell rightWell]

end TenantTrust.Trust
