import Mathlib.Data.Rat.Defs

/-! JSON documents as trees, with the path lookup of a document store. -/

namespace TenantTrust.Library

inductive Json where
  | null
  | bool (value : Bool)
  | number (value : ℚ)
  | string (value : String)
  | array (items : List Json)
  | object (fields : List (String × Json))

namespace Json

def field (name : String) : Json → Option Json
  | object fields => (fields.find? fun entry => entry.1 = name).map Prod.snd
  | _ => none

/-- The document below a path of object keys. -/
def path : List String → Json → Option Json
  | [], document => some document
  | name :: names, document => (document.field name).bind (path names)

@[simp] theorem path_nil (document : Json) : path [] document = some document := rfl

theorem path_cons (name : String) (names : List String) (document : Json) :
    path (name :: names) document = (document.field name).bind (path names) := rfl

theorem field_object (name : String) (fields : List (String × Json)) :
    (object fields).field name = (fields.find? fun entry => entry.1 = name).map Prod.snd := rfl

/-- A number rendered as text and read back as an integer; a JSON null reads as absent. -/
def asInteger : Json → Except Unit (Option Int)
  | null => .ok none
  | number value => if value.den = 1 then .ok (some value.num) else .error ()
  | string text =>
      match text.toInt? with
      | some value => .ok (some value)
      | none => .error ()
  | _ => .error ()

def asBoolean : Json → Except Unit (Option Bool)
  | null => .ok none
  | bool value => .ok (some value)
  | string "true" => .ok (some true)
  | string "false" => .ok (some false)
  | _ => .error ()

/-- The elements of an array of texts; another document has no elements. -/
def textElements : Json → Except Unit (List String)
  | array items => items.mapM fun item =>
      match item with
      | string text => .ok text
      | _ => .error ()
  | _ => .error ()

end Json

end TenantTrust.Library
