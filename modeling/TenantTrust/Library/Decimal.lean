import TenantTrust.Library.Binary64

/-! Exact decimal fractions, and their rounding to a number of places. -/

namespace TenantTrust.Library

/-- `integer / 10 ^ scale` -/
structure Decimal where
  integer : ℕ
  scale : ℕ
  deriving DecidableEq, Repr

namespace Decimal

def value (d : Decimal) : ℚ := d.integer / 10 ^ d.scale

theorem value_nonneg (d : Decimal) : 0 ≤ d.value := by
  unfold value
  positivity

def mul (left right : Decimal) : Decimal where
  integer := left.integer * right.integer
  scale := left.scale + right.scale

@[simp] theorem value_mul (left right : Decimal) :
    (left.mul right).value = left.value * right.value := by
  simp only [value, mul, Nat.cast_mul, pow_add]
  rw [mul_div_mul_comm]

/-- Written with at least as many decimal places. -/
def rescale (d : Decimal) (scale : ℕ) : ℕ := d.integer * 10 ^ (scale - d.scale)

theorem rescale_div (d : Decimal) {scale : ℕ} (more : d.scale ≤ scale) :
    (d.rescale scale : ℚ) / 10 ^ scale = d.value := by
  obtain ⟨extra, rfl⟩ := Nat.exists_eq_add_of_le more
  simp only [rescale, value, Nat.add_sub_cancel_left, Nat.cast_mul, Nat.cast_pow, pow_add]
  push_cast
  field_simp

def sum (values : List Decimal) : Decimal :=
  let scale := (values.map Decimal.scale).foldl max 0
  ⟨(values.map fun d => d.rescale scale).sum, scale⟩

theorem scale_le_foldl_max {d : Decimal} {values : List Decimal} (member : d ∈ values) :
    d.scale ≤ (values.map Decimal.scale).foldl max 0 := by
  have below : ∀ (scales : List ℕ) (start scale : ℕ), scale = start ∨ scale ∈ scales →
      scale ≤ scales.foldl max start := by
    intro scales
    induction scales with
    | nil => simp
    | cons first rest ih =>
        intro start scale found
        rw [List.foldl_cons]
        have larger := ih (max start first)
        rcases found with rfl | found
        · exact (le_max_left _ _).trans (larger _ (Or.inl rfl))
        · rcases List.mem_cons.mp found with rfl | later
          · exact (le_max_right _ _).trans (larger _ (Or.inl rfl))
          · exact larger _ (Or.inr later)
  exact below _ _ _ (Or.inr (List.mem_map_of_mem member))

theorem value_sum (values : List Decimal) :
    (sum values).value = (values.map Decimal.value).sum := by
  have scaled : ∀ scale, (∀ d ∈ values, d.scale ≤ scale) →
      ((values.map fun d => d.rescale scale).sum : ℕ) / (10 : ℚ) ^ scale
        = (values.map Decimal.value).sum := by
    intro scale
    induction values with
    | nil => simp
    | cons first rest ih =>
        intro bounded
        simp only [List.map_cons, List.sum_cons, Nat.cast_add, add_div]
        rw [rescale_div first (bounded first List.mem_cons_self),
          ih fun d member => bounded d (List.mem_cons_of_mem _ member)]
  exact scaled _ fun d member => scale_le_foldl_max member

/-- The nearest multiple of `10 ^ -places`, in that unit; halves round up. -/
def roundHalfUp (d : Decimal) (places : ℕ) : ℕ :=
  if places < d.scale then
    let divisor := 10 ^ (d.scale - places)
    let quotient := d.integer / divisor
    if divisor ≤ d.integer % divisor * 2 then quotient + 1 else quotient
  else d.rescale places

theorem roundHalfUp_eq (d : Decimal) (places : ℕ) :
    ⌊d.value * 10 ^ places + 1 / 2⌋ = (d.roundHalfUp places : ℤ) := by
  rw [Int.floor_eq_iff, Int.cast_natCast]
  unfold roundHalfUp
  split
  case isTrue coarser =>
    have divisorPositive : 0 < 10 ^ (d.scale - places) := by positivity
    have shifted : d.value * 10 ^ places = (d.integer : ℚ) / (10 ^ (d.scale - places) : ℕ) := by
      have scale : (10 : ℚ) ^ d.scale = 10 ^ places * 10 ^ (d.scale - places) := by
        rw [← pow_add]
        congr 1
        omega
      rw [value, scale]
      push_cast
      field_simp
    generalize 10 ^ (d.scale - places) = divisor at *
    have positive : (0 : ℚ) < divisor := by exact_mod_cast divisorPositive
    have parts : (d.integer : ℚ) = divisor * (d.integer / divisor : ℕ)
        + (d.integer % divisor : ℕ) := by
      exact_mod_cast (Nat.div_add_mod d.integer divisor).symm
    have remainder : ((d.integer % divisor : ℕ) : ℚ) < divisor := by
      exact_mod_cast Nat.mod_lt _ divisorPositive
    have negligible : (0 : ℚ) ≤ (d.integer % divisor : ℕ) := Nat.cast_nonneg _
    have fraction : (d.integer : ℚ) / divisor
        = (d.integer / divisor : ℕ) + ((d.integer % divisor : ℕ) : ℚ) / divisor := by
      rw [div_eq_iff positive.ne', parts, add_mul, div_mul_cancel₀ _ positive.ne', mul_comm]
    rw [shifted, fraction]
    dsimp only
    split
    case isTrue up =>
      have half : (1 : ℚ) / 2 ≤ ((d.integer % divisor : ℕ) : ℚ) / divisor := by
        rw [div_le_div_iff₀ two_pos positive, one_mul]
        exact_mod_cast up
      have below := (div_lt_one positive).mpr remainder
      push_cast
      constructor <;> linarith
    case isFalse down =>
      have half : ((d.integer % divisor : ℕ) : ℚ) / divisor < 1 / 2 := by
        rw [div_lt_div_iff₀ positive two_pos, one_mul]
        exact_mod_cast not_le.mp down
      have above := div_nonneg negligible positive.le
      constructor <;> linarith
  case isFalse finer =>
    have whole : d.value * 10 ^ places = (d.rescale places : ℚ) := by
      rw [← rescale_div d (not_lt.mp finer)]
      field_simp
    rw [whole]
    constructor <;> linarith

/-- The number that a decimal text with this many places reads as. -/
def rounded (d : Decimal) (places : ℕ) : Binary64 :=
  .ofRat (d.roundHalfUp places / 10 ^ places)

end Decimal

end TenantTrust.Library
