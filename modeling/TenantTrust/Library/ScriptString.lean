import Mathlib.Algebra.GroupWithZero.Nat
import Mathlib.Data.Fin.Basic
import Mathlib.Data.List.Basic

/-! Strings of UTF-16 code units, their code points, and their quoted form in a JSON text. -/

namespace TenantTrust.Library

abbrev CodeUnit := Fin 65536

instance codeUnits : NeZero 65536 := ⟨by decide⟩

/-- A script string; its surrogates need not be paired. -/
abbrev ScriptString := List CodeUnit

instance : LawfulBEq ScriptString := inferInstance

/-- A Unicode scalar value, or a surrogate that has no partner. -/
inductive CodePoint where
  | scalar (c : Char)
  | lone (unit : CodeUnit)
  deriving DecidableEq

def IsHigh (unit : CodeUnit) : Prop := 0xD800 ≤ unit.val ∧ unit.val < 0xDC00

def IsLow (unit : CodeUnit) : Prop := 0xDC00 ≤ unit.val ∧ unit.val < 0xE000

instance : DecidablePred IsHigh := fun _ => inferInstanceAs (Decidable (_ ∧ _))
instance : DecidablePred IsLow := fun _ => inferInstanceAs (Decidable (_ ∧ _))

def unitsOf (c : Char) : ScriptString :=
  if c.toNat < 0x10000 then [Fin.ofNat _ c.toNat]
  else [Fin.ofNat _ (0xD800 + (c.toNat - 0x10000) / 0x400),
    Fin.ofNat _ (0xDC00 + (c.toNat - 0x10000) % 0x400)]

namespace CodePoint

def units : CodePoint → ScriptString
  | scalar c => unitsOf c
  | lone unit => [unit]

/-- The character to write where a lone surrogate cannot be. -/
def char : CodePoint → Char
  | scalar c => c
  | lone _ => '\uFFFD'

def ofUnit (unit : CodeUnit) : CodePoint :=
  if IsHigh unit ∨ IsLow unit then lone unit else scalar (Char.ofNat unit.val)

def ofPair (high low : CodeUnit) : CodePoint :=
  scalar (Char.ofNat (0x10000 + (high.val - 0xD800) * 0x400 + (low.val - 0xDC00)))

theorem toNat_ofNat {n : ℕ} (valid : n.isValidChar) : (Char.ofNat n).toNat = n := by
  rw [Char.ofNat, dif_pos valid]
  rfl

theorem units_ofUnit (unit : CodeUnit) : (ofUnit unit).units = [unit] := by
  unfold ofUnit
  split
  case isTrue => rfl
  case isFalse scalar =>
    have valid : unit.val.isValidChar := by
      have small := unit.isLt
      unfold IsHigh IsLow at scalar
      unfold Nat.isValidChar
      omega
    have value := toNat_ofNat valid
    rw [units, unitsOf, value, if_pos unit.isLt]
    congr 1
    exact Fin.ext (Nat.mod_eq_of_lt unit.isLt)

theorem units_ofPair {high low : CodeUnit} (isHigh : IsHigh high) (isLow : IsLow low) :
    (ofPair high low).units = [high, low] := by
  obtain ⟨highLeast, highMost⟩ := isHigh
  obtain ⟨lowLeast, lowMost⟩ := isLow
  have valid : (0x10000 + (high.val - 0xD800) * 0x400 + (low.val - 0xDC00)).isValidChar := by
    unfold Nat.isValidChar
    omega
  have value := toNat_ofNat valid
  have large : ¬0x10000 + (high.val - 0xD800) * 0x400 + (low.val - 0xDC00) < 0x10000 := by omega
  have first : 0xD800 + (0x10000 + (high.val - 0xD800) * 0x400 + (low.val - 0xDC00) - 0x10000)
      / 0x400 = high.val := by omega
  have second : 0xDC00 + (0x10000 + (high.val - 0xD800) * 0x400 + (low.val - 0xDC00) - 0x10000)
      % 0x400 = low.val := by omega
  rw [ofPair, units, unitsOf, value, if_neg large, first, second]
  simp

end CodePoint

namespace ScriptString

def ofChars (text : List Char) : ScriptString := text.flatMap unitsOf

/-- Surrogates pair up from the left. -/
def codePoints : ScriptString → List CodePoint
  | [] => []
  | [unit] => [.ofUnit unit]
  | high :: low :: rest =>
      if IsHigh high ∧ IsLow low then .ofPair high low :: codePoints rest
      else .ofUnit high :: codePoints (low :: rest)

theorem codePoints_units (s : ScriptString) : (codePoints s).flatMap CodePoint.units = s := by
  induction s using codePoints.induct with
  | case1 => rfl
  | case2 unit => simp [codePoints, CodePoint.units_ofUnit]
  | case3 high low rest pair ih =>
      rw [codePoints, if_pos pair, List.flatMap_cons, CodePoint.units_ofPair pair.1 pair.2, ih]
      rfl
  | case4 high low rest single ih =>
      rw [codePoints, if_neg single, List.flatMap_cons, CodePoint.units_ofUnit, ih]
      rfl

/-- The text of a string that is written out as bytes. -/
def text (s : ScriptString) : List Char := (codePoints s).map CodePoint.char

/-- A string without surrogates is the string of its text. -/
theorem ofChars_text {s : ScriptString} (plain : ∀ unit ∈ s, ¬IsHigh unit ∧ ¬IsLow unit) :
    ofChars s.text = s := by
  have single : ∀ unit : CodeUnit, ¬IsHigh unit ∧ ¬IsLow unit →
      unitsOf (CodePoint.ofUnit unit).char = [unit] := by
    intro unit outside
    have units := CodePoint.units_ofUnit unit
    rw [CodePoint.ofUnit, if_neg (not_or.mpr outside)] at units ⊢
    exact units
  induction s using codePoints.induct with
  | case1 => rfl
  | case2 unit =>
      have first := single unit (plain unit List.mem_cons_self)
      simpa [text, codePoints, ofChars] using first
  | case3 high low rest pair ih => exact absurd pair.1 (plain high List.mem_cons_self).1
  | case4 high low rest unpaired ih =>
      have first := single high (plain high List.mem_cons_self)
      have others := ih fun unit member => plain unit (List.mem_cons_of_mem _ member)
      rw [text, codePoints, if_neg unpaired, List.map_cons, ofChars, List.flatMap_cons, first]
      exact congrArg (high :: ·) others

end ScriptString

/-- Four hexadecimal digits. -/
def hex4 (n : ℕ) : List Char :=
  [(n / 4096 % 16).digitChar, (n / 256 % 16).digitChar, (n / 16 % 16).digitChar,
    (n % 16).digitChar]

def hexValue (c : Char) : Option ℕ :=
  if '0' ≤ c ∧ c ≤ '9' then some (c.toNat - 48)
  else if 'a' ≤ c ∧ c ≤ 'f' then some (c.toNat - 87)
  else if 'A' ≤ c ∧ c ≤ 'F' then some (c.toNat - 55)
  else none

def readHex4 (a b c d : Char) : Option CodeUnit := do
  let high ← hexValue a
  let upper ← hexValue b
  let lower ← hexValue c
  let low ← hexValue d
  return Fin.ofNat _ (high * 4096 + upper * 256 + lower * 16 + low)

theorem hexValue_digitChar {n : ℕ} (small : n < 16) : hexValue n.digitChar = some n := by
  have all : ∀ n < 16, hexValue (Nat.digitChar n) = some n := by decide
  exact all n small

theorem readHex4_hex4 (unit : CodeUnit) :
    readHex4 (unit.val / 4096 % 16).digitChar (unit.val / 256 % 16).digitChar
      (unit.val / 16 % 16).digitChar (unit.val % 16).digitChar = some unit := by
  have value : unit.val / 4096 % 16 * 4096 + unit.val / 256 % 16 * 256
      + unit.val / 16 % 16 * 16 + unit.val % 16 = unit.val := by
    have small := unit.isLt
    omega
  simp only [readHex4, hexValue_digitChar (Nat.mod_lt _ (by decide : 0 < 16)),
    Option.bind_eq_bind, Option.bind_some, value]
  simp

/-- The escapes that stand for one character. -/
def escapes : List (Char × Char) :=
  [('"', '"'), ('\\', '\\'), ('b', '\x08'), ('f', '\x0C'), ('n', '\n'), ('r', '\r'), ('t', '\t')]

def escaped? (c : Char) : Option Char := (escapes.find? fun e => e.2 = c).map Prod.fst

/-- A text may also escape a slash, although no slash is written so. -/
def unescaped? (c : Char) : Option Char :=
  ((('/', '/') :: escapes).find? fun e => e.1 = c).map Prod.snd

namespace CodePoint

def quoted : CodePoint → List Char
  | scalar c =>
      match escaped? c with
      | some letter => ['\\', letter]
      | none => if c.toNat < 0x20 then '\\' :: 'u' :: hex4 c.toNat else [c]
  | lone unit => '\\' :: 'u' :: hex4 unit.val

end CodePoint

namespace ScriptString

def quotedBody (s : ScriptString) : List Char := (codePoints s).flatMap CodePoint.quoted

/-- The string in quotes, with the escapes that a JSON text needs; lone surrogates are escaped. -/
def quote (s : ScriptString) : List Char := '"' :: quotedBody s ++ ['"']

/-- The string after its opening quote, and the text after its closing one. -/
def read : List Char → Option (ScriptString × List Char)
  | [] => none
  | c :: rest =>
      if c = '"' then some ([], rest)
      else if c = '\\' then
        match rest with
        | 'u' :: a :: b :: c :: d :: rest => do
            let unit ← readHex4 a b c d
            let (s, rest) ← read rest
            return (unit :: s, rest)
        | letter :: rest => do
            let c ← unescaped? letter
            let (s, rest) ← read rest
            return (unitsOf c ++ s, rest)
        | [] => none
      else if c.toNat < 0x20 then none
      else do
        let (s, rest) ← read rest
        return (unitsOf c ++ s, rest)

/-- The string that starts with these code units, where the rest of it was read. -/
def prepend (units : ScriptString) :
    Option (ScriptString × List Char) → Option (ScriptString × List Char) :=
  Option.map fun (s, rest) => (units ++ s, rest)

theorem read_hex4 (unit : CodeUnit) (tail : List Char) :
    read ('\\' :: 'u' :: hex4 unit.val ++ tail) = prepend [unit] (read tail) := by
  simp only [hex4, List.cons_append, List.nil_append, read, readHex4_hex4,
    Option.bind_eq_bind, Option.bind_some]
  cases read tail <;> rfl

theorem escaped?_cases {c letter : Char} (found : escaped? c = some letter) :
    letter ≠ 'u' ∧ unescaped? letter = some c := by
  obtain ⟨e, chosen, rfl⟩ := Option.map_eq_some_iff.mp found
  have same : e.2 = c := of_decide_eq_true
    (List.find?_some (p := fun e : Char × Char => decide (e.2 = c)) chosen)
  have all : ∀ e ∈ escapes, e.1 ≠ 'u' ∧ unescaped? e.1 = some e.2 := by decide
  rw [← same]
  exact all e (List.mem_of_find?_eq_some chosen)

theorem escaped?_none {c : Char} (plain : escaped? c = none) : c ≠ '"' ∧ c ≠ '\\' := by
  constructor
  · rintro rfl
    exact absurd plain (by decide)
  · rintro rfl
    exact absurd plain (by decide)

theorem read_escape {c letter : Char} (found : escaped? c = some letter) (tail : List Char) :
    read ('\\' :: letter :: tail) = prepend (unitsOf c) (read tail) := by
  obtain ⟨other, back⟩ := escaped?_cases found
  rw [read, if_neg (by decide), if_pos rfl]
  · rw [back]
    cases read tail <;> rfl
  · intro a b c d more same
    exact absurd same other

theorem read_plain {c : Char} (plain : escaped? c = none) (printable : ¬c.toNat < 0x20)
    (tail : List Char) : read (c :: tail) = prepend (unitsOf c) (read tail) := by
  obtain ⟨quotation, backslash⟩ := escaped?_none plain
  rw [read.eq_def]
  simp only [quotation, backslash, printable, if_false]
  cases read tail <;> rfl

theorem read_quoted (p : CodePoint) (tail : List Char) :
    read (p.quoted ++ tail) = prepend p.units (read tail) := by
  cases p with
  | lone unit => exact read_hex4 unit tail
  | scalar c =>
      rw [CodePoint.quoted, CodePoint.units]
      cases form : escaped? c with
      | some letter => exact read_escape form tail
      | none =>
          dsimp only
          split
          case isTrue control =>
            have unit := read_hex4 ⟨c.toNat, control.trans (by decide)⟩ tail
            have units : unitsOf c = [⟨c.toNat, control.trans (by decide)⟩] := by
              rw [unitsOf, if_pos (control.trans (by decide))]
              congr 1
              exact Fin.ext (Nat.mod_eq_of_lt (control.trans (by decide)))
            rw [units]
            exact unit
          case isFalse printable => exact read_plain form printable tail

/-- Reading inverts quoting, for every string of code units. -/
theorem read_quotedBody (s : ScriptString) (rest : List Char) :
    read (quotedBody s ++ '"' :: rest) = some (s, rest) := by
  have points : ∀ points : List CodePoint,
      read (points.flatMap CodePoint.quoted ++ '"' :: rest)
        = some (points.flatMap CodePoint.units, rest) := by
    intro points
    induction points with
    | nil =>
        rw [List.flatMap_nil, List.nil_append, read.eq_def]
        rfl
    | cons p points ih =>
        rw [List.flatMap_cons, List.append_assoc, read_quoted, ih, List.flatMap_cons]
        rfl
  rw [quotedBody, points, codePoints_units]

end ScriptString

end TenantTrust.Library
