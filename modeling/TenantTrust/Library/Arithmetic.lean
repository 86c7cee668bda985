import TenantTrust.Library.Binary64
import Mathlib.Tactic.NormNum

/-! Arithmetic on rationals whose every operation is rounded. Exact arithmetic is the case where
nothing is. -/

namespace TenantTrust.Library

structure Arithmetic where
  round : ℚ → ℚ
  /-- How far a rounding moves a number of a few million. -/
  slack : ℚ
  mono : Monotone round
  round_int : ∀ n : ℤ, |n| < 9007199254740992 → round n = n
  near : ∀ q : ℚ, |q| ≤ 4000000 → |round q - q| ≤ slack
  slack_le : slack ≤ 1 / 1000000000

namespace Arithmetic

def exact : Arithmetic where
  round q := q
  slack := 0
  mono := monotone_id
  round_int _ _ := rfl
  near q _ := by rw [sub_self, abs_zero]
  slack_le := by norm_num

def binary64 : Arithmetic where
  round := Binary64.nearest
  slack := 1 / 1000000000
  mono := Binary64.nearest_mono
  round_int _ := Binary64.nearest_intCast
  near _ := Binary64.abs_nearest_sub_le_of_le
  slack_le := le_rfl

variable (arith : Arithmetic) {a b q : ℚ}

def add (a b : ℚ) : ℚ := arith.round (a + b)

def sub (a b : ℚ) : ℚ := arith.round (a - b)

def mul (a b : ℚ) : ℚ := arith.round (a * b)

def div (a b : ℚ) : ℚ := arith.round (a / b)

theorem slack_nonneg : 0 ≤ arith.slack :=
  (abs_nonneg _).trans (arith.near 0 (by norm_num))

theorem round_natCast {n : ℕ} (small : n < 9007199254740992) : arith.round n = n := by
  have fixed := arith.round_int n
    (by rw [abs_of_nonneg (Int.natCast_nonneg n)]; exact_mod_cast small)
  exact_mod_cast fixed

@[simp] theorem round_zero : arith.round 0 = 0 := by
  exact_mod_cast arith.round_natCast (n := 0) (by decide)

theorem round_nonneg (nonneg : 0 ≤ q) : 0 ≤ arith.round q := by
  have above := arith.mono nonneg
  rwa [round_zero] at above

theorem round_nonpos (nonpos : q ≤ 0) : arith.round q ≤ 0 := by
  have below := arith.mono nonpos
  rwa [round_zero] at below

theorem round_le_natCast {n : ℕ} (small : n < 9007199254740992) (below : q ≤ n) :
    arith.round q ≤ n := by
  have above := arith.mono below
  rwa [arith.round_natCast small] at above

theorem natCast_le_round {n : ℕ} (small : n < 9007199254740992) (above : n ≤ q) :
    (n : ℚ) ≤ arith.round q := by
  have below := arith.mono above
  rwa [arith.round_natCast small] at below

theorem le_round_add (small : |q| ≤ 4000000) : q ≤ arith.round q + arith.slack := by
  have error := (abs_le.mp (arith.near q small)).1
  linarith

theorem round_le_add (small : |q| ≤ 4000000) : arith.round q ≤ q + arith.slack := by
  have error := (abs_le.mp (arith.near q small)).2
  linarith

end Arithmetic

end TenantTrust.Library
