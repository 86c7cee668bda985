import TenantTrust.Library.ScriptString
import TenantTrust.Library.Utf8

/-! Bytes as text: base64 with the alphabet of URLs and without padding, and hexadecimal. -/

namespace TenantTrust.Library

theorem byte_eq {n : ℕ} {b : UInt8} (same : n = b.toNat) : UInt8.ofNat n = b := by
  rw [same, UInt8.ofNat_toNat]

namespace Base64Url

/-- The code unit of a digit below 64. -/
def digit (n : ℕ) : CodeUnit :=
  if n < 26 then Fin.ofNat _ (65 + n)
  else if n < 52 then Fin.ofNat _ (71 + n)
  else if n < 62 then Fin.ofNat _ (n - 4)
  else if n = 62 then 45
  else 95

/-- The digits of both base64 alphabets; other characters are skipped. -/
def digitValue (unit : CodeUnit) : Option ℕ :=
  let n := unit.val
  if 65 ≤ n ∧ n ≤ 90 then some (n - 65)
  else if 97 ≤ n ∧ n ≤ 122 then some (n - 71)
  else if 48 ≤ n ∧ n ≤ 57 then some (n + 4)
  else if n = 45 ∨ n = 43 then some 62
  else if n = 95 ∨ n = 47 then some 63
  else none

def digits : Bytes → List ℕ
  | [] => []
  | [a] => [a.toNat / 4, a.toNat % 4 * 16]
  | [a, b] => [a.toNat / 4, a.toNat % 4 * 16 + b.toNat / 16, b.toNat % 16 * 4]
  | a :: b :: c :: rest =>
      a.toNat / 4 :: (a.toNat % 4 * 16 + b.toNat / 16) :: (b.toNat % 16 * 4 + c.toNat / 64)
        :: c.toNat % 64 :: digits rest

def bytes : List ℕ → Bytes
  | a :: b :: c :: d :: rest =>
      UInt8.ofNat (a * 4 + b / 16) :: UInt8.ofNat (b % 16 * 16 + c / 4)
        :: UInt8.ofNat (c % 4 * 64 + d) :: bytes rest
  | [a, b, c] => [UInt8.ofNat (a * 4 + b / 16), UInt8.ofNat (b % 16 * 16 + c / 4)]
  | [a, b] => [UInt8.ofNat (a * 4 + b / 16)]
  | _ => []

def encode (b : Bytes) : ScriptString := (digits b).map digit

def decode (s : ScriptString) : Bytes := bytes (s.filterMap digitValue)

theorem digitValue_digit {n : ℕ} (small : n < 64) : digitValue (digit n) = some n := by
  have all : ∀ n < 64, digitValue (digit n) = some n := by decide +kernel
  exact all n small

theorem digits_lt (b : Bytes) : ∀ n ∈ digits b, n < 64 := by
  induction b using digits.induct with
  | case1 => simp [digits]
  | case2 a =>
      have first := a.toNat_lt
      simp only [digits, List.forall_mem_cons]
      exact ⟨by omega, by omega, by simp⟩
  | case3 a b =>
      have first := a.toNat_lt
      have second := b.toNat_lt
      simp only [digits, List.forall_mem_cons]
      exact ⟨by omega, by omega, by omega, by simp⟩
  | case4 a b c rest ih =>
      have first := a.toNat_lt
      have second := b.toNat_lt
      have third := c.toNat_lt
      simp only [digits, List.forall_mem_cons]
      exact ⟨by omega, by omega, by omega, by omega, ih⟩

theorem bytes_digits (b : Bytes) : bytes (digits b) = b := by
  induction b using digits.induct with
  | case1 => rfl
  | case2 a =>
      have first : a.toNat / 4 * 4 + a.toNat % 4 * 16 / 16 = a.toNat := by omega
      simp only [digits, bytes, byte_eq first]
  | case3 a b =>
      have second := b.toNat_lt
      have first : a.toNat / 4 * 4 + (a.toNat % 4 * 16 + b.toNat / 16) / 16 = a.toNat := by omega
      have last : (a.toNat % 4 * 16 + b.toNat / 16) % 16 * 16 + b.toNat % 16 * 4 / 4
          = b.toNat := by omega
      simp only [digits, bytes, byte_eq first, byte_eq last]
  | case4 a b c rest ih =>
      have second := b.toNat_lt
      have third := c.toNat_lt
      have first : a.toNat / 4 * 4 + (a.toNat % 4 * 16 + b.toNat / 16) / 16 = a.toNat := by omega
      have middle : (a.toNat % 4 * 16 + b.toNat / 16) % 16 * 16
          + (b.toNat % 16 * 4 + c.toNat / 64) / 4 = b.toNat := by omega
      have last : (b.toNat % 16 * 4 + c.toNat / 64) % 4 * 64 + c.toNat % 64 = c.toNat := by omega
      simp only [digits, bytes, byte_eq first, byte_eq middle, byte_eq last, ih]

/-- Decoding inverts encoding. -/
theorem decode_encode (b : Bytes) : decode (encode b) = b := by
  have values : (encode b).filterMap digitValue = digits b := by
    rw [encode, List.filterMap_map]
    have all := digits_lt b
    generalize digits b = ds at all
    induction ds with
    | nil => rfl
    | cons n ds ih =>
        have found := digitValue_digit (all n List.mem_cons_self)
        rw [List.filterMap_cons_some (f := digitValue ∘ digit) found,
          ih fun m member => all m (List.mem_cons_of_mem _ member)]
  rw [decode, values, bytes_digits]

end Base64Url

namespace Hex

def digit (n : ℕ) : CodeUnit := Fin.ofNat _ (if n < 10 then 48 + n else 87 + n)

/-- Two lowercase digits a byte. -/
def encode (b : Bytes) : ScriptString :=
  b.flatMap fun byte => [digit (byte.toNat / 16), digit (byte.toNat % 16)]

def isDigit (unit : CodeUnit) : Bool :=
  (48 ≤ unit.val && unit.val ≤ 57) || (97 ≤ unit.val && unit.val ≤ 102)

def value (unit : CodeUnit) : Option ℕ :=
  let n := unit.val
  if 48 ≤ n ∧ n ≤ 57 then some (n - 48)
  else if 97 ≤ n ∧ n ≤ 102 then some (n - 87)
  else if 65 ≤ n ∧ n ≤ 70 then some (n - 55)
  else none

/-- The bytes up to the first pair that is not hexadecimal. -/
def decode : ScriptString → Bytes
  | high :: low :: rest =>
      match value high, value low with
      | some a, some b => UInt8.ofNat (a * 16 + b) :: decode rest
      | _, _ => []
  | _ => []

theorem isDigit_digit {n : ℕ} (small : n < 16) : isDigit (digit n) := by
  have all : ∀ n < 16, isDigit (digit n) = true := by decide
  exact all n small

theorem isDigit_of_mem_encode {b : Bytes} {unit : CodeUnit} (member : unit ∈ encode b) :
    isDigit unit := by
  obtain ⟨byte, _, found⟩ := List.mem_flatMap.mp member
  have small := byte.toNat_lt
  rcases List.mem_cons.mp found with rfl | low
  · exact isDigit_digit (by omega)
  · rw [List.mem_singleton.mp low]
    exact isDigit_digit (by omega)

theorem length_encode (b : Bytes) : (encode b).length = 2 * b.length := by
  induction b with
  | nil => rfl
  | cons byte b ih =>
      rw [encode, List.flatMap_cons, List.length_append, ← encode, ih, List.length_cons]
      simp only [List.length_cons, List.length_nil]
      omega

end Hex

end TenantTrust.Library
