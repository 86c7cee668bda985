import TenantTrust.Library.JsonValue

/-! The JSON text of a value, and the reading of a JSON text. -/

namespace TenantTrust.Library

namespace JsonValue

mutual

/-- The text of a value, with members in their given order and without spaces. -/
def stringify : JsonValue → List Char
  | null => ['n', 'u', 'l', 'l']
  | bool true => ['t', 'r', 'u', 'e']
  | bool false => ['f', 'a', 'l', 's', 'e']
  | number value => value.text
  | string value => value.quote
  | array items => '[' :: [','].intercalate (itemTexts items) ++ [']']
  | object members => '{' :: [','].intercalate (memberTexts members) ++ ['}']

def itemTexts : List JsonValue → List (List Char)
  | [] => []
  | value :: rest => stringify value :: itemTexts rest

def memberTexts : List (ScriptString × JsonValue) → List (List Char)
  | [] => []
  | (name, value) :: rest => (name.quote ++ ':' :: stringify value) :: memberTexts rest

end

/-- A member of an object that is being read: a repeated name takes the later value. -/
def setMember (members : List (ScriptString × JsonValue)) (member : ScriptString × JsonValue) :
    List (ScriptString × JsonValue) :=
  if member.1 ∈ members.map Prod.fst then
    members.map fun m => if m.1 = member.1 then member else m
  else members ++ [member]

def isSpace (c : Char) : Bool := c = ' ' || c = '\t' || c = '\n' || c = '\r'

def skipSpace (text : List Char) : List Char := text.dropWhile isSpace

def readWord (word : List Char) (value : JsonValue) (text : List Char) :
    Option (JsonValue × List Char) :=
  if word.isPrefixOf text then some (value, text.drop word.length) else none

mutual

/-- The value at the start of a text; the fuel bounds the nesting. -/
def readValue : ℕ → List Char → Option (JsonValue × List Char)
  | 0, _ => none
  | fuel + 1, text =>
      match skipSpace text with
      | [] => none
      | c :: rest =>
          if c = '"' then do
            let (value, rest) ← ScriptString.read rest
            return (string value, rest)
          else if c = '[' then
            match skipSpace rest with
            | ']' :: rest => some (array [], rest)
            | rest => do
                let (items, rest) ← readItems fuel rest
                return (array items, rest)
          else if c = '{' then
            match skipSpace rest with
            | '}' :: rest => some (object [], rest)
            | rest => do
                let (members, rest) ← readMembers fuel rest
                return (object (members.foldl setMember []), rest)
          else if c = 'n' then readWord ['u', 'l', 'l'] null rest
          else if c = 't' then readWord ['r', 'u', 'e'] (bool true) rest
          else if c = 'f' then readWord ['a', 'l', 's', 'e'] (bool false) rest
          else do
            let (value, rest) ← Number.read (c :: rest)
            return (number value, rest)

/-- The items up to a closing bracket, of which there is at least one. -/
def readItems : ℕ → List Char → Option (List JsonValue × List Char)
  | 0, _ => none
  | fuel + 1, text => do
      let (value, rest) ← readValue fuel text
      match skipSpace rest with
      | ',' :: rest => do
          let (items, rest) ← readItems fuel rest
          return (value :: items, rest)
      | ']' :: rest => return ([value], rest)
      | _ => none

/-- The members up to a closing brace, of which there is at least one. -/
def readMembers : ℕ → List Char → Option (List (ScriptString × JsonValue) × List Char)
  | 0, _ => none
  | fuel + 1, text =>
      match skipSpace text with
      | '"' :: rest => do
          let (name, rest) ← ScriptString.read rest
          match skipSpace rest with
          | ':' :: rest => do
              let (value, rest) ← readValue fuel rest
              match skipSpace rest with
              | ',' :: rest => do
                  let (members, rest) ← readMembers fuel rest
                  return ((name, value) :: members, rest)
              | '}' :: rest => return ([(name, value)], rest)
              | _ => none
          | _ => none
      | _ => none

end

/-- Every level of nesting takes a character, so twice the length is fuel enough. -/
def parse (text : List Char) : Option JsonValue :=
  match readValue (2 * text.length + 2) text with
  | some (value, rest) => if skipSpace rest = [] then some value else none
  | none => none

theorem itemTexts_eq (items : List JsonValue) : itemTexts items = items.map stringify := by
  induction items with
  | nil => rfl
  | cons value rest ih => rw [itemTexts, ih, List.map_cons]

theorem memberTexts_eq (members : List (ScriptString × JsonValue)) :
    memberTexts members = members.map fun m => m.1.quote ++ ':' :: stringify m.2 := by
  induction members with
  | nil => rfl
  | cons member rest ih => rw [memberTexts, ih, List.map_cons]

theorem comma_cons {α : Type*} (text : α → List Char) (first second : α) (rest : List α) :
    [','].intercalate ((first :: second :: rest).map text)
      = text first ++ ',' :: [','].intercalate ((second :: rest).map text) := by
  simp [List.intercalate]

theorem comma_singleton {α : Type*} (text : α → List Char) (single : α) :
    [','].intercalate ([single].map text) = text single := by
  simp [List.intercalate]

theorem skipSpace_cons {c : Char} (space : isSpace c = false) (rest : List Char) :
    skipSpace (c :: rest) = c :: rest := by
  rw [skipSpace, List.dropWhile_cons_of_neg (by rw [space]; exact Bool.false_ne_true)]

/-- How the text of a value starts: not with a space, and not with a closing bracket. -/
theorem WellFormed.stringify_head {v : JsonValue} (wellFormed : v.WellFormed) :
    ∃ c tail, v.stringify = c :: tail ∧ isSpace c = false ∧ c ≠ ']' := by
  cases wellFormed with
  | null => exact ⟨_, _, rfl, by decide, by decide⟩
  | bool value => cases value <;> exact ⟨_, _, rfl, by decide, by decide⟩
  | string value => exact ⟨_, _, rfl, by decide, by decide⟩
  | array => exact ⟨_, _, rfl, by decide, by decide⟩
  | object => exact ⟨_, _, rfl, by decide, by decide⟩
  | number finite =>
      obtain ⟨c, tail, shape, first⟩ := Number.text_head finite
      refine ⟨c, tail, shape, ?_⟩
      rcases first with rfl | digit
      · exact ⟨by decide, by decide⟩
      · have other : ∀ d : Char, d.isDigit = false → c ≠ d := by
          rintro d letter rfl
          exact absurd digit (by rw [letter]; exact Bool.false_ne_true)
        simp [isSpace, other]

theorem readValue_number {x : Number} (finite : x.isFinite) (fuel : ℕ) {rest : List Char}
    (ends : Numeral.Ends rest) :
    readValue (fuel + 1) (x.text ++ rest) = some (number x, rest) := by
  have found := Number.read_text finite ends
  obtain ⟨c, tail, shape, first⟩ := Number.text_head finite
  rw [shape, List.cons_append] at found ⊢
  have other : ∀ d : Char, d ≠ '-' → d.isDigit = false → c ≠ d := by
    rintro d sign letter rfl
    rcases first with negative | digit
    · exact sign negative
    · exact absurd digit (by rw [letter]; exact Bool.false_ne_true)
  have space : isSpace c = false := by simp [isSpace, other]
  rw [readValue, skipSpace_cons space]
  simp [other, found]

theorem readValue_string (s : ScriptString) (fuel : ℕ) (rest : List Char) :
    readValue (fuel + 1) (s.quote ++ rest) = some (string s, rest) := by
  have body := ScriptString.read_quotedBody s rest
  simp only [ScriptString.quote, List.cons_append, List.append_assoc, List.nil_append]
  rw [readValue, skipSpace_cons (by decide)]
  simp [body]

theorem readValue_array {c : Char} (space : isSpace c = false) (notClosing : c ≠ ']')
    (fuel : ℕ) (tail : List Char) :
    readValue (fuel + 1) ('[' :: c :: tail)
      = (readItems fuel (c :: tail)).map fun (items, rest) => (array items, rest) := by
  rw [readValue, skipSpace_cons (by decide)]
  simp only [Char.reduceEq, if_false, if_true, skipSpace_cons space]
  cases found : readItems fuel (c :: tail) <;> simp [notClosing, found]

theorem readValue_object (fuel : ℕ) (tail : List Char) :
    readValue (fuel + 1) ('{' :: '"' :: tail)
      = (readMembers fuel ('"' :: tail)).map fun (members, rest) =>
          (object (members.foldl setMember []), rest) := by
  rw [readValue, skipSpace_cons (by decide)]
  simp only [Char.reduceEq, if_false, if_true, skipSpace_cons (show isSpace '"' = false by decide)]
  cases found : readMembers fuel ('"' :: tail) <;> simp [found]

/-- Items that can each be read are read as a list. -/
theorem readItems_texts {items : List JsonValue} (nonempty : items ≠ [])
    (each : ∀ value ∈ items, ∀ (fuel : ℕ) (rest : List Char), value.stringify.length ≤ fuel →
      Numeral.Ends rest → readValue fuel (value.stringify ++ rest) = some (value, rest))
    (fuel : ℕ) (rest : List Char)
    (enough : ([','].intercalate (items.map stringify)).length < fuel) :
    readItems fuel ([','].intercalate (items.map stringify) ++ ']' :: rest)
      = some (items, rest) := by
  have closing : Numeral.Ends (']' :: rest) := by
    intro c first
    cases first
    decide
  induction items generalizing fuel with
  | nil => exact absurd rfl nonempty
  | cons value items ih =>
      obtain ⟨fuel, rfl⟩ : ∃ more, fuel = more + 1 := ⟨fuel - 1, by omega⟩
      cases items with
      | nil =>
          rw [comma_singleton] at enough ⊢
          rw [readItems, each value List.mem_cons_self fuel _ (by omega) closing]
          simp [skipSpace_cons (show isSpace ']' = false by decide)]
      | cons next items =>
          rw [comma_cons] at enough ⊢
          rw [List.length_append, List.length_cons] at enough
          have comma : Numeral.Ends (',' :: ([','].intercalate ((next :: items).map stringify)
              ++ ']' :: rest)) := by
            intro c first
            cases first
            decide
          have later := ih (List.cons_ne_nil _ _)
            (fun other member => each other (List.mem_cons_of_mem _ member)) fuel (by omega)
          generalize [','].intercalate ((next :: items).map stringify) = text at *
          rw [List.append_assoc, List.cons_append, readItems,
            each value List.mem_cons_self fuel _ (by omega) comma]
          simp [skipSpace_cons (show isSpace ',' = false by decide), later]

theorem readMembers_texts {members : List (ScriptString × JsonValue)} (nonempty : members ≠ [])
    (each : ∀ member ∈ members, ∀ (fuel : ℕ) (rest : List Char),
      member.2.stringify.length ≤ fuel → Numeral.Ends rest →
        readValue fuel (member.2.stringify ++ rest) = some (member.2, rest))
    (fuel : ℕ) (rest : List Char)
    (enough : ([','].intercalate
      (members.map fun m => m.1.quote ++ ':' :: stringify m.2)).length < fuel) :
    readMembers fuel
        ([','].intercalate (members.map fun m => m.1.quote ++ ':' :: stringify m.2) ++ '}' :: rest)
      = some (members, rest) := by
  have closing : Numeral.Ends ('}' :: rest) := by
    intro c first
    cases first
    decide
  have quotation : isSpace '"' = false := by decide
  have colon : isSpace ':' = false := by decide
  induction members generalizing fuel with
  | nil => exact absurd rfl nonempty
  | cons member members ih =>
      obtain ⟨fuel, rfl⟩ : ∃ more, fuel = more + 1 := ⟨fuel - 1, by omega⟩
      obtain ⟨name, value⟩ := member
      cases members with
      | nil =>
          rw [comma_singleton] at enough ⊢
          simp only [List.length_append, List.length_cons] at enough
          have fits : value.stringify.length ≤ fuel := by omega
          have single := each (name, value) List.mem_cons_self fuel _ fits closing
          simp only [ScriptString.quote, List.cons_append, List.append_assoc, List.nil_append]
          rw [readMembers, skipSpace_cons quotation]
          simp [ScriptString.read_quotedBody, skipSpace_cons colon, single,
            skipSpace_cons (show isSpace '}' = false by decide)]
      | cons next members =>
          rw [comma_cons] at enough ⊢
          simp only [List.length_append, List.length_cons] at enough
          have comma : Numeral.Ends (',' :: ([','].intercalate ((next :: members).map
              fun m => m.1.quote ++ ':' :: stringify m.2) ++ '}' :: rest)) := by
            intro c first
            cases first
            decide
          have later := ih (List.cons_ne_nil _ _)
            (fun other found => each other (List.mem_cons_of_mem _ found)) fuel (by omega)
          have fits : value.stringify.length ≤ fuel := by omega
          have first := each (name, value) List.mem_cons_self fuel _ fits comma
          generalize [','].intercalate ((next :: members).map
            fun m => m.1.quote ++ ':' :: stringify m.2) = text at *
          simp only [ScriptString.quote, List.cons_append, List.append_assoc, List.nil_append]
            at later first ⊢
          rw [readMembers, skipSpace_cons quotation]
          simp [ScriptString.read_quotedBody, skipSpace_cons colon, first,
            skipSpace_cons (show isSpace ',' = false by decide), later]

/-- Members with distinct names are kept as they come. -/
theorem foldl_setMember {members before : List (ScriptString × JsonValue)}
    (distinct : ((before ++ members).map Prod.fst).Nodup) :
    members.foldl setMember before = before ++ members := by
  induction members generalizing before with
  | nil => rw [List.foldl_nil, List.append_nil]
  | cons member members ih =>
      have fresh : member.1 ∉ before.map Prod.fst := by
        rw [List.map_append, List.map_cons, List.nodup_append] at distinct
        exact fun found => distinct.2.2 _ found _ List.mem_cons_self rfl
      rw [List.foldl_cons, setMember, if_neg fresh, ih (by simpa using distinct),
        List.append_assoc, List.singleton_append]

theorem comma_start {α : Type*} (text : α → List Char) (first : α) (rest : List α) :
    ∃ more, [','].intercalate ((first :: rest).map text) = text first ++ more := by
  cases rest with
  | nil => exact ⟨[], by rw [comma_singleton, List.append_nil]⟩
  | cons second rest => exact ⟨_, comma_cons text first second rest⟩

theorem WellFormed.fuel_positive {v : JsonValue} (wellFormed : v.WellFormed) {fuel : ℕ}
    (enough : v.stringify.length ≤ fuel) : ∃ more, fuel = more + 1 := by
  obtain ⟨c, tail, shape, _⟩ := wellFormed.stringify_head
  rw [shape, List.length_cons] at enough
  exact ⟨fuel - 1, by omega⟩

theorem readValue_items {value : JsonValue} {items : List JsonValue}
    (wellFormed : ∀ item ∈ value :: items, item.WellFormed)
    (each : ∀ item ∈ value :: items, ∀ (fuel : ℕ) (rest : List Char),
      item.stringify.length ≤ fuel → Numeral.Ends rest →
        readValue fuel (item.stringify ++ rest) = some (item, rest))
    (fuel : ℕ) (rest : List Char)
    (enough : ([','].intercalate ((value :: items).map stringify)).length < fuel) :
    readValue (fuel + 1)
        ('[' :: ([','].intercalate ((value :: items).map stringify) ++ ']' :: rest))
      = some (array (value :: items), rest) := by
  have found := readItems_texts (List.cons_ne_nil _ _) each fuel rest enough
  obtain ⟨more, start⟩ := comma_start stringify value items
  obtain ⟨c, tail, shape, space, notClosing⟩ :=
    (wellFormed value List.mem_cons_self).stringify_head
  rw [start, shape, List.cons_append, List.cons_append] at found ⊢
  rw [readValue_array space notClosing, found]
  rfl

theorem readValue_members {member : ScriptString × JsonValue}
    {members : List (ScriptString × JsonValue)}
    (distinct : ((member :: members).map Prod.fst).Nodup)
    (each : ∀ m ∈ member :: members, ∀ (fuel : ℕ) (rest : List Char),
      m.2.stringify.length ≤ fuel → Numeral.Ends rest →
        readValue fuel (m.2.stringify ++ rest) = some (m.2, rest))
    (fuel : ℕ) (rest : List Char)
    (enough : ([','].intercalate
      ((member :: members).map fun m => m.1.quote ++ ':' :: stringify m.2)).length < fuel) :
    readValue (fuel + 1) ('{' :: ([','].intercalate
        ((member :: members).map fun m => m.1.quote ++ ':' :: stringify m.2) ++ '}' :: rest))
      = some (object (member :: members), rest) := by
  have found := readMembers_texts (List.cons_ne_nil _ _) each fuel rest enough
  obtain ⟨more, start⟩ :=
    comma_start (fun m : ScriptString × JsonValue => m.1.quote ++ ':' :: stringify m.2)
      member members
  rw [start] at found ⊢
  simp only [ScriptString.quote, List.cons_append] at found ⊢
  have kept : (member :: members).foldl setMember [] = member :: members :=
    foldl_setMember (show (([] ++ member :: members).map Prod.fst).Nodup from distinct)
  rw [readValue_object, found, Option.map_some]
  exact congrArg (fun kept => some (object kept, rest)) kept

theorem WellFormed.readValue_stringify {v : JsonValue} (wellFormed : v.WellFormed) (fuel : ℕ)
    (rest : List Char) (enough : v.stringify.length ≤ fuel) (ends : Numeral.Ends rest) :
    readValue fuel (v.stringify ++ rest) = some (v, rest) := by
  induction wellFormed generalizing fuel rest with
  | null =>
      obtain ⟨fuel, rfl⟩ := WellFormed.null.fuel_positive enough
      rfl
  | bool value =>
      obtain ⟨fuel, rfl⟩ := (WellFormed.bool value).fuel_positive enough
      cases value <;> rfl
  | number finite =>
      obtain ⟨fuel, rfl⟩ := (WellFormed.number finite).fuel_positive enough
      exact readValue_number finite fuel ends
  | string value =>
      obtain ⟨fuel, rfl⟩ := (WellFormed.string value).fuel_positive enough
      exact readValue_string value fuel rest
  | @array items each ih =>
      obtain ⟨fuel, rfl⟩ := (WellFormed.array each).fuel_positive enough
      rw [stringify, itemTexts_eq] at enough ⊢
      cases items with
      | nil => rfl
      | cons value items =>
          rw [List.length_append, List.length_cons, List.length_singleton] at enough
          rw [List.append_assoc, List.cons_append]
          exact readValue_items each ih fuel rest (by omega)
  | @object members distinct each ih =>
      obtain ⟨fuel, rfl⟩ := (WellFormed.object distinct each).fuel_positive enough
      rw [stringify, memberTexts_eq] at enough ⊢
      cases members with
      | nil => rfl
      | cons member members =>
          rw [List.length_append, List.length_cons, List.length_singleton] at enough
          rw [List.append_assoc, List.cons_append]
          exact readValue_members distinct ih fuel rest (by omega)

/-- Parsing inverts writing. -/
theorem WellFormed.parse_stringify {v : JsonValue} (wellFormed : v.WellFormed) :
    parse v.stringify = some v := by
  have ends : Numeral.Ends [] := by
    intro c first
    cases first
  have found := wellFormed.readValue_stringify (2 * v.stringify.length + 2) [] (by omega) ends
  rw [List.append_nil] at found
  rw [parse, found]
  rfl

end JsonValue

end TenantTrust.Library
