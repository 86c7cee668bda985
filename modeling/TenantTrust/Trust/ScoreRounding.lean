import TenantTrust.Library.Arithmetic

/-! Rounding a score to two decimal places, as the smoothing and the transition controls do it. -/

namespace TenantTrust.Trust

open Library

/-- `Number.EPSILON` -/
def numberEpsilon : ℚ := 1 / 4503599627370496

/-- `Math.floor((value + Number.EPSILON) * factor + 0.5) / factor` for two decimal places -/
def roundScore (arith : Arithmetic) (value : ℚ) : ℚ :=
  arith.div ⌊arith.add (arith.mul (arith.add value numberEpsilon) 100) (1 / 2)⌋ 100

/-- The hundredths of a rounded score. -/
def scoreHundredths (arith : Arithmetic) (value : ℚ) : ℤ :=
  ⌊arith.add (arith.mul (arith.add value numberEpsilon) 100) (1 / 2)⌋

variable (arith : Arithmetic) {x y : ℚ}

theorem roundScore_eq (x : ℚ) :
    roundScore arith x = arith.round ((scoreHundredths arith x : ℚ) / 100) := rfl

theorem scoreHundredths_mono : Monotone (scoreHundredths arith) := by
  intro x y below
  have added : arith.add x numberEpsilon ≤ arith.add y numberEpsilon :=
    arith.mono (by linarith)
  have scaled : arith.mul (arith.add x numberEpsilon) 100
      ≤ arith.mul (arith.add y numberEpsilon) 100 := arith.mono (by linarith)
  exact Int.floor_mono (arith.mono (by linarith))

theorem roundScore_mono : Monotone (roundScore arith) := by
  intro x y below
  have counted : (scoreHundredths arith x : ℚ) ≤ scoreHundredths arith y := by
    exact_mod_cast scoreHundredths_mono arith below
  rw [roundScore_eq, roundScore_eq]
  exact arith.mono (by linarith)

/-- The number whose floor is taken, up to the three roundings before it. -/
theorem hundredths_near (least : -1000 ≤ x) (most : x ≤ 1000) :
    |arith.add (arith.mul (arith.add x numberEpsilon) 100) (1 / 2)
        - ((x + numberEpsilon) * 100 + 1 / 2)| ≤ 102 * arith.slack := by
  have epsilonLeast : 0 ≤ numberEpsilon := by norm_num [numberEpsilon]
  have epsilonMost : numberEpsilon ≤ 1 / 4000000000000000 := by norm_num [numberEpsilon]
  generalize numberEpsilon = epsilon at *
  have small := arith.slack_le
  have nonneg := arith.slack_nonneg
  have first := abs_le.mp (arith.near (x + epsilon) (by rw [abs_le]; constructor <;> linarith))
  obtain ⟨firstLeast, firstMost⟩ := first
  have second := abs_le.mp (arith.near (arith.round (x + epsilon) * 100)
    (by rw [abs_le]; constructor <;> linarith))
  obtain ⟨secondLeast, secondMost⟩ := second
  have third := abs_le.mp (arith.near (arith.round (arith.round (x + epsilon) * 100) + 1 / 2)
    (by rw [abs_le]; constructor <;> linarith))
  obtain ⟨thirdLeast, thirdMost⟩ := third
  unfold Arithmetic.add Arithmetic.mul
  rw [abs_le]
  constructor <;> linarith

theorem scoreHundredths_bounds (least : -1000 ≤ x) (most : x ≤ 1000) :
    (scoreHundredths arith x : ℚ) ≤ (x + numberEpsilon) * 100 + 1 / 2 + 102 * arith.slack ∧
      (x + numberEpsilon) * 100 + 1 / 2 - 102 * arith.slack < scoreHundredths arith x + 1 := by
  obtain ⟨low, high⟩ := abs_le.mp (hundredths_near arith least most)
  have floorLeast := Int.floor_le
    (arith.add (arith.mul (arith.add x numberEpsilon) 100) (1 / 2))
  have floorMost := Int.lt_floor_add_one
    (arith.add (arith.mul (arith.add x numberEpsilon) 100) (1 / 2))
  unfold scoreHundredths
  constructor <;> linarith

/-- A score moves by half a hundredth at most, beside the slack of the arithmetic. -/
theorem abs_roundScore_sub_le (least : -1000 ≤ x) (most : x ≤ 1000) :
    |roundScore arith x - x| ≤ 1 / 200 + numberEpsilon + 3 * arith.slack := by
  have epsilonLeast : 0 ≤ numberEpsilon := by norm_num [numberEpsilon]
  have epsilonMost : numberEpsilon ≤ 1 := by norm_num [numberEpsilon]
  have small := arith.slack_le
  have nonneg := arith.slack_nonneg
  obtain ⟨low, high⟩ := scoreHundredths_bounds arith least most
  generalize numberEpsilon = epsilon at *
  rw [roundScore_eq]
  generalize (scoreHundredths arith x : ℚ) = hundredths at *
  obtain ⟨errorLeast, errorMost⟩ := abs_le.mp (arith.near (hundredths / 100)
    (by rw [abs_le]; constructor <;> linarith))
  rw [abs_le]
  constructor <;> linarith

theorem scoreHundredths_of_near {n : ℤ} (least : -1000 ≤ x) (most : x ≤ 1000)
    (near : |x - n / 100| ≤ 1 / 1000) : scoreHundredths arith x = n := by
  have small := arith.slack_le
  have epsilonLeast : 0 ≤ numberEpsilon := by norm_num [numberEpsilon]
  have epsilonMost : numberEpsilon ≤ 1 / 1000000000 := by norm_num [numberEpsilon]
  obtain ⟨nearLeast, nearMost⟩ := abs_le.mp near
  obtain ⟨low, high⟩ := scoreHundredths_bounds arith least most
  generalize numberEpsilon = epsilon at *
  have notMore : ((scoreHundredths arith x : ℤ) : ℚ) < ((n + 1 : ℤ) : ℚ) := by
    push_cast
    linarith
  have notLess : ((n - 1 : ℤ) : ℚ) < ((scoreHundredths arith x : ℤ) : ℚ) := by
    push_cast
    linarith
  have most' := Int.cast_lt.mp notMore
  have least' := Int.cast_lt.mp notLess
  omega

theorem round_hundredth_near {n : ℤ} (least : 0 ≤ n) (most : n ≤ 10000) :
    |arith.round ((n : ℚ) / 100) - n / 100| ≤ arith.slack := by
  have lowest : (0 : ℚ) ≤ n := by exact_mod_cast least
  have highest : (n : ℚ) ≤ 10000 := by exact_mod_cast most
  exact arith.near _ (by rw [abs_le]; constructor <;> linarith)

theorem scoreHundredths_hundredth {n : ℤ} (least : 0 ≤ n) (most : n ≤ 10000) :
    scoreHundredths arith (arith.round ((n : ℚ) / 100)) = n := by
  have lowest : (0 : ℚ) ≤ n := by exact_mod_cast least
  have highest : (n : ℚ) ≤ 10000 := by exact_mod_cast most
  have small := arith.slack_le
  have error := round_hundredth_near arith least most
  obtain ⟨errorLeast, errorMost⟩ := abs_le.mp error
  exact scoreHundredths_of_near arith (by linarith) (by linarith) (error.trans (by linarith))

/-- A number that leaves the scores by less than a rounding is rounded into them. -/
theorem scoreHundredths_range (least : -1 / 1000 ≤ x) (most : x ≤ 100 + 1 / 1000) :
    0 ≤ scoreHundredths arith x ∧ scoreHundredths arith x ≤ 10000 := by
  have small := arith.slack_le
  have epsilonLeast : 0 ≤ numberEpsilon := by norm_num [numberEpsilon]
  have epsilonMost : numberEpsilon ≤ 1 / 1000000000 := by norm_num [numberEpsilon]
  obtain ⟨low, high⟩ := scoreHundredths_bounds arith (x := x) (by linarith) (by linarith)
  generalize numberEpsilon = epsilon at *
  have above : ((-1 : ℤ) : ℚ) < scoreHundredths arith x := by
    push_cast
    linarith
  have below : ((scoreHundredths arith x : ℤ) : ℚ) < (10001 : ℤ) := by
    push_cast
    linarith
  have least' := Int.cast_lt.mp above
  have most' := Int.cast_lt.mp below
  omega

theorem roundScore_nonneg (least : -1 / 1000 ≤ x) (most : x ≤ 100 + 1 / 1000) :
    0 ≤ roundScore arith x := by
  have counted : (0 : ℚ) ≤ scoreHundredths arith x := by
    exact_mod_cast (scoreHundredths_range arith least most).1
  rw [roundScore_eq]
  exact arith.round_nonneg (by linarith)

theorem roundScore_le_hundred (least : -1 / 1000 ≤ x) (most : x ≤ 100 + 1 / 1000) :
    roundScore arith x ≤ 100 := by
  have counted : (scoreHundredths arith x : ℚ) ≤ 10000 := by
    exact_mod_cast (scoreHundredths_range arith least most).2
  have bounded := arith.round_le_natCast (n := 100) (q := scoreHundredths arith x / 100) (by decide)
    (by push_cast; linarith)
  rwa [Nat.cast_ofNat] at bounded

/-- A rounded score is not rounded again. -/
theorem roundScore_idem (least : -1 / 1000 ≤ x) (most : x ≤ 100 + 1 / 1000) :
    roundScore arith (roundScore arith x) = roundScore arith x := by
  have range := scoreHundredths_range arith least most
  rw [roundScore_eq arith x, roundScore_eq,
    scoreHundredths_hundredth arith (by omega) (by omega)]

/-- A score of two decimal places. -/
def IsRounded (arith : Arithmetic) (score : ℚ) : Prop := roundScore arith score = score

/-- What the rounding of a score adds to it at most. -/
def rounding (arith : Arithmetic) : ℚ := 1 / 200 + numberEpsilon + 5 * arith.slack

section Rounded

variable {arith : Arithmetic}

theorem rounded_range (rounded : IsRounded arith x) (least : 0 ≤ x) (most : x ≤ 100) :
    x = arith.round ((scoreHundredths arith x : ℚ) / 100) ∧
      0 ≤ scoreHundredths arith x ∧ scoreHundredths arith x ≤ 10000 :=
  ⟨rounded.symm, scoreHundredths_range arith (by linarith) (by linarith)⟩

/-- A rounded score is within the slack of its hundredths. -/
theorem rounded_near (rounded : IsRounded arith x) (least : 0 ≤ x) (most : x ≤ 100) :
    |x - scoreHundredths arith x / 100| ≤ arith.slack := by
  obtain ⟨same, low, high⟩ := rounded_range rounded least most
  conv_lhs => rw [same]
  rw [scoreHundredths_hundredth arith low high]
  exact round_hundredth_near arith low high

/-- A number that is almost a rounded score is rounded to it. -/
theorem roundScore_of_near (rounded : IsRounded arith y) (least : 0 ≤ y) (most : y ≤ 100)
    (near : |x - y| ≤ 1 / 10000) : roundScore arith x = y := by
  have small := arith.slack_le
  obtain ⟨low, high⟩ := abs_le.mp near
  obtain ⟨errorLeast, errorMost⟩ := abs_le.mp (rounded_near rounded least most)
  have counted : scoreHundredths arith x = scoreHundredths arith y :=
    scoreHundredths_of_near arith (by linarith) (by linarith)
      (by rw [abs_le]; constructor <;> linarith)
  rw [roundScore_eq, counted, ← roundScore_eq]
  exact rounded

theorem IsRounded.min (left : IsRounded arith x) (right : IsRounded arith y) :
    IsRounded arith (min x y) := by
  rcases min_choice x y with same | same <;> rwa [same]

theorem IsRounded.max (left : IsRounded arith x) (right : IsRounded arith y) :
    IsRounded arith (max x y) := by
  rcases max_choice x y with same | same <;> rwa [same]

theorem isRounded_hundredth (arith : Arithmetic) {n : ℤ} (least : 0 ≤ n) (most : n ≤ 10000) :
    IsRounded arith (arith.round (n / 100)) := by
  rw [IsRounded, roundScore_eq, scoreHundredths_hundredth arith least most]

theorem isRounded_natCast (arith : Arithmetic) {n : ℕ} (most : n ≤ 100) : IsRounded arith n := by
  have fixed := isRounded_hundredth arith (n := n * 100) (by omega) (by omega)
  have whole : (((n * 100 : ℕ) : ℤ) : ℚ) / 100 = n := by
    push_cast
    ring
  rw [show ((n : ℤ) * 100 : ℤ) = ((n * 100 : ℕ) : ℤ) by push_cast; ring, whole,
    arith.round_natCast (by omega)] at fixed
  exact fixed

end Rounded

end TenantTrust.Trust
