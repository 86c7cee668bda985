import Mathlib.Data.List.Basic

/-! Texts as UTF-8 bytes, and the decoding that replaces what is not UTF-8. -/

namespace TenantTrust.Library

abbrev Bytes := List UInt8

namespace Utf8

def encode (text : List Char) : Bytes := text.flatMap String.utf8EncodeChar

/-- The continuation bytes still needed, the bits read so far, and the range of the next byte. -/
structure State where
  needed : ℕ
  point : ℕ
  lower : ℕ
  upper : ℕ

def start : State := ⟨0, 0, 0x80, 0xBF⟩

/-- The first byte of a character, with the characters it completes. -/
def lead (b : ℕ) : List Char × State :=
  if b < 0x80 then ([Char.ofNat b], start)
  else if 0xC2 ≤ b ∧ b ≤ 0xDF then ([], ⟨1, b - 0xC0, 0x80, 0xBF⟩)
  else if 0xE0 ≤ b ∧ b ≤ 0xEF then
    ([], ⟨2, b - 0xE0, if b = 0xE0 then 0xA0 else 0x80, if b = 0xED then 0x9F else 0xBF⟩)
  else if 0xF0 ≤ b ∧ b ≤ 0xF4 then
    ([], ⟨3, b - 0xF0, if b = 0xF0 then 0x90 else 0x80, if b = 0xF4 then 0x8F else 0xBF⟩)
  else (['\uFFFD'], start)

def step (s : State) (b : ℕ) : List Char × State :=
  if s.needed = 0 then lead b
  else if s.lower ≤ b ∧ b ≤ s.upper then
    let point := s.point * 64 + (b - 0x80)
    if s.needed = 1 then ([Char.ofNat point], start)
    else ([], ⟨s.needed - 1, point, 0x80, 0xBF⟩)
  else
    let next := lead b
    ('\uFFFD' :: next.1, next.2)

def run (s : State) : Bytes → List Char
  | [] => if s.needed = 0 then [] else ['\uFFFD']
  | b :: rest =>
      let next := step s b.toNat
      next.1 ++ run next.2 rest

def decode (bytes : Bytes) : List Char := run start bytes

theorem byte_toNat {n : ℕ} (small : n < 256) : (UInt8.ofNat n).toNat = n :=
  UInt8.toNat_ofNat_of_lt' small

theorem run_more {needed point lower upper n : ℕ}
    (low : lower ≤ n + 0x80) (high : n + 0x80 ≤ upper) (most : upper ≤ 0xBF) (rest : Bytes) :
    run ⟨needed + 2, point, lower, upper⟩ (UInt8.ofNat (n + 0x80) :: rest)
      = run ⟨needed + 1, point * 64 + n, 0x80, 0xBF⟩ rest := by
  simp [run, step, Nat.mod_eq_of_lt (show n + 128 < 256 by omega), low, high]

theorem run_last {point lower upper n : ℕ}
    (low : lower ≤ n + 0x80) (high : n + 0x80 ≤ upper) (most : upper ≤ 0xBF) (rest : Bytes) :
    run ⟨1, point, lower, upper⟩ (UInt8.ofNat (n + 0x80) :: rest)
      = Char.ofNat (point * 64 + n) :: run start rest := by
  simp [run, step, Nat.mod_eq_of_lt (show n + 128 < 256 by omega), low, high]

theorem run_lead {n : ℕ} (small : n < 256) (rest : Bytes) :
    run start (UInt8.ofNat n :: rest) = (lead n).1 ++ run (lead n).2 rest := by
  simp only [run, step, start, byte_toNat small, if_true]

theorem run_lead_one {n : ℕ} (small : n < 0x80) (rest : Bytes) :
    run start (UInt8.ofNat n :: rest) = Char.ofNat n :: run start rest := by
  rw [run_lead (by omega), lead, if_pos small]
  rfl

theorem run_lead_two {n : ℕ} (least : 2 ≤ n) (most : n < 32) (rest : Bytes) :
    run start (UInt8.ofNat (n + 0xC0) :: rest) = run ⟨1, n, 0x80, 0xBF⟩ rest := by
  rw [run_lead (by omega), lead, if_neg (by omega), if_pos (by omega), Nat.add_sub_cancel]
  rfl

theorem run_lead_three {n : ℕ} (most : n < 16) (rest : Bytes) :
    run start (UInt8.ofNat (n + 0xE0) :: rest)
      = run ⟨2, n, if n = 0 then 0xA0 else 0x80, if n = 13 then 0x9F else 0xBF⟩ rest := by
  rw [run_lead (by omega), lead, if_neg (by omega), if_neg (by omega), if_pos (by omega),
    Nat.add_sub_cancel]
  simp

theorem run_lead_four {n : ℕ} (most : n ≤ 4) (rest : Bytes) :
    run start (UInt8.ofNat (n + 0xF0) :: rest)
      = run ⟨3, n, if n = 0 then 0x90 else 0x80, if n = 4 then 0x8F else 0xBF⟩ rest := by
  rw [run_lead (by omega), lead, if_neg (by omega), if_neg (by omega), if_neg (by omega),
    if_pos (by omega), Nat.add_sub_cancel]
  simp

theorem run_encodeChar (c : Char) (rest : Bytes) :
    run start (String.utf8EncodeChar c ++ rest) = c :: run start rest := by
  have valid : c.val.toNat < 0xD800 ∨ 0xDFFF < c.val.toNat ∧ c.val.toNat < 0x110000 := c.valid
  have same : Char.ofNat c.val.toNat = c := Char.ofNat_toNat c
  unfold String.utf8EncodeChar
  generalize c.val.toNat = v at *
  dsimp only
  split_ifs with one two three
  · rw [List.singleton_append, run_lead_one (by omega), same]
  · have bits : v / 64 * 64 + v % 64 = v := by omega
    rw [Nat.mod_eq_of_lt (show v / 64 < 32 by omega), List.cons_append,
      run_lead_two (by omega) (by omega), List.singleton_append,
      run_last (by omega) (by omega) (by decide), bits, same]
  · have bits : (v / 4096 * 64 + v / 64 % 64) * 64 + v % 64 = v := by omega
    rw [Nat.mod_eq_of_lt (show v / 4096 < 16 by omega), List.cons_append,
      run_lead_three (by omega), List.cons_append,
      run_more (by split <;> omega) (by split <;> omega) (by split <;> decide),
      List.singleton_append, run_last (by omega) (by omega) (by decide), bits, same]
  · have bits : ((v / 262144 * 64 + v / 4096 % 64) * 64 + v / 64 % 64) * 64 + v % 64 = v := by
      omega
    rw [Nat.mod_eq_of_lt (show v / 262144 < 8 by omega), List.cons_append,
      run_lead_four (by omega), List.cons_append,
      run_more (by split <;> omega) (by split <;> omega) (by split <;> decide),
      List.cons_append, run_more (by omega) (by omega) (by decide),
      List.singleton_append, run_last (by omega) (by omega) (by decide), bits, same]

/-- Decoding inverts encoding. -/
theorem decode_encode (text : List Char) : decode (encode text) = text := by
  unfold decode encode
  induction text with
  | nil => rfl
  | cons c text ih => rw [List.flatMap_cons, run_encodeChar, ih]

theorem length_le_encode (text : List Char) : text.length ≤ (encode text).length := by
  unfold encode
  induction text with
  | nil => exact Nat.le_refl 0
  | cons c text ih =>
      have byte : 0 < (String.utf8EncodeChar c).length :=
        List.length_pos_iff.mpr String.utf8EncodeChar_ne_nil
      rw [List.flatMap_cons, List.length_append, List.length_cons]
      omega

end Utf8

end TenantTrust.Library
