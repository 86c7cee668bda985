import Mathlib.Algebra.Order.Floor.Ring
import Mathlib.Data.Int.ConditionallyCompleteOrder
import Mathlib.Data.Int.Log
import Mathlib.Data.Rat.Floor
import Mathlib.Tactic.Linarith
import Mathlib.Tactic.Positivity

/-! Finite binary64 numbers as exact rationals, with arithmetic that rounds to the nearest
number and ties to the even one. -/

namespace TenantTrust.Library

/-- The nearest integer, and the even one of two that are equally near. -/
def roundHalfEven (q : ℚ) : ℤ :=
  if q - ⌊q⌋ < 1 / 2 then ⌊q⌋
  else if 1 / 2 < q - ⌊q⌋ then ⌊q⌋ + 1
  else if ⌊q⌋ % 2 = 0 then ⌊q⌋ else ⌊q⌋ + 1

theorem roundHalfEven_cases (q : ℚ) :
    (roundHalfEven q = ⌊q⌋ ∧ q - ⌊q⌋ ≤ 1 / 2) ∨
      (roundHalfEven q = ⌊q⌋ + 1 ∧ 1 / 2 ≤ q - ⌊q⌋) := by
  unfold roundHalfEven
  split
  case isTrue below => exact Or.inl ⟨rfl, below.le⟩
  case isFalse notBelow =>
    have least := not_lt.mp notBelow
    split
    case isTrue => exact Or.inr ⟨rfl, least⟩
    case isFalse notAbove =>
      have most := not_lt.mp notAbove
      split
      case isTrue => exact Or.inl ⟨rfl, most⟩
      case isFalse => exact Or.inr ⟨rfl, least⟩

theorem abs_roundHalfEven_sub_le (q : ℚ) : |(roundHalfEven q : ℚ) - q| ≤ 1 / 2 := by
  have low := Int.floor_le q
  have high := Int.lt_floor_add_one q
  rw [abs_le]
  rcases roundHalfEven_cases q with ⟨same, near⟩ | ⟨same, near⟩
  · rw [same]
    constructor <;> linarith
  · rw [same]
    push_cast
    constructor <;> linarith

@[simp] theorem roundHalfEven_intCast (n : ℤ) : roundHalfEven (n : ℚ) = n := by
  simp [roundHalfEven]

theorem roundHalfEven_le {q : ℚ} {n : ℤ} (below : q < n) : roundHalfEven q ≤ n := by
  have floorBelow : ⌊q⌋ < n := Int.floor_lt.mpr below
  rcases roundHalfEven_cases q with ⟨same, _⟩ | ⟨same, _⟩ <;> omega

theorem le_roundHalfEven {q : ℚ} {n : ℤ} (above : n ≤ q) : n ≤ roundHalfEven q := by
  have floorAbove : n ≤ ⌊q⌋ := Int.le_floor.mpr above
  rcases roundHalfEven_cases q with ⟨same, _⟩ | ⟨same, _⟩ <;> omega

theorem roundHalfEven_eq_of_near {q : ℚ} {n : ℤ} (near : |q - n| < 1 / 2) :
    roundHalfEven q = n := by
  have error := abs_le.mp (abs_roundHalfEven_sub_le q)
  obtain ⟨low, high⟩ := abs_lt.mp near
  have above : ((n - 1 : ℤ) : ℚ) < roundHalfEven q := by
    push_cast
    linarith
  have below : ((roundHalfEven q : ℤ) : ℚ) < (n + 1 : ℤ) := by
    push_cast
    linarith
  have least := Int.cast_lt.mp above
  have most := Int.cast_lt.mp below
  omega

theorem roundHalfEven_neg (q : ℚ) : roundHalfEven (-q) = -roundHalfEven q := by
  rcases Int.fract_eq_zero_or_add_one_sub_ceil q with whole | fraction
  · obtain ⟨n, rfl⟩ : ∃ n : ℤ, q = n := ⟨⌊q⌋, by linarith [Int.floor_add_fract q]⟩
    rw [← Int.cast_neg, roundHalfEven_intCast, roundHalfEven_intCast]
  · have between : q < ⌊q⌋ + 1 := Int.lt_floor_add_one q
    have above : (⌈q⌉ : ℚ) = ⌊q⌋ + 1 := by linarith [Int.floor_add_fract q]
    have ceiling : ⌈q⌉ = ⌊q⌋ + 1 := by exact_mod_cast above
    unfold roundHalfEven
    rw [Int.floor_neg, ceiling]
    push_cast
    split_ifs <;> first | linarith | omega

theorem roundHalfEven_mono : Monotone roundHalfEven := by
  intro q r below
  rcases (Int.floor_mono below).lt_or_eq with apart | together
  · have low : roundHalfEven q ≤ ⌊q⌋ + 1 := by
      rcases roundHalfEven_cases q with ⟨same, _⟩ | ⟨same, _⟩ <;> omega
    have high := le_roundHalfEven (Int.floor_le r)
    omega
  · rcases roundHalfEven_cases q with ⟨down, _⟩ | ⟨up, half⟩
    · have high := le_roundHalfEven (Int.floor_le r)
      omega
    · rcases roundHalfEven_cases r with ⟨down, most⟩ | ⟨upToo, _⟩
      · have sameFloor : (⌊q⌋ : ℚ) = ⌊r⌋ := by exact_mod_cast together
        have equal : q = r := by linarith
        rw [equal]
      · omega

namespace Binary64

/-- The exponent of the last of the 53 binary places that a number near `q` can use. -/
def lastPlace (q : ℚ) : ℤ := max (Int.log 2 |q| - 52) (-1074)

/-- The representable number nearest to `q`; there is no overflow to an infinity here. -/
def nearest (q : ℚ) : ℚ := roundHalfEven (q / 2 ^ lastPlace q) * 2 ^ lastPlace q

theorem zpow_lastPlace_pos (q : ℚ) : (0 : ℚ) < 2 ^ lastPlace q := zpow_pos two_pos _

theorem abs_nearest_sub_le_half (q : ℚ) : |nearest q - q| ≤ 2 ^ lastPlace q / 2 := by
  have unit := zpow_lastPlace_pos q
  have scaled : nearest q - q
      = (roundHalfEven (q / 2 ^ lastPlace q) - q / 2 ^ lastPlace q) * 2 ^ lastPlace q := by
    rw [sub_mul, div_mul_cancel₀ _ unit.ne']
    rfl
  calc |nearest q - q|
      = |(roundHalfEven (q / 2 ^ lastPlace q) : ℚ) - q / 2 ^ lastPlace q|
          * 2 ^ lastPlace q := by rw [scaled, abs_mul, abs_of_pos unit]
    _ ≤ 1 / 2 * 2 ^ lastPlace q :=
        mul_le_mul_of_nonneg_right (abs_roundHalfEven_sub_le _) unit.le
    _ = 2 ^ lastPlace q / 2 := by ring

theorem zpow_lastPlace_le {q : ℚ} (nonzero : q ≠ 0) :
    (2 : ℚ) ^ lastPlace q ≤ |q| * 2 ^ (-52 : ℤ) + 2 ^ (-1074 : ℤ) := by
  have binade : (2 : ℚ) ^ (Int.log 2 |q| - 52) ≤ |q| * 2 ^ (-52 : ℤ) := by
    rw [sub_eq_add_neg, zpow_add₀ two_ne_zero]
    exact mul_le_mul_of_nonneg_right
      (Int.zpow_log_le_self (by decide) (abs_pos.mpr nonzero)) (zpow_pos two_pos _).le
  have normal : (0 : ℚ) < 2 ^ (Int.log 2 |q| - 52) := zpow_pos two_pos _
  have smallest : (0 : ℚ) < 2 ^ (-1074 : ℤ) := zpow_pos two_pos _
  rcases max_cases (Int.log 2 |q| - 52) (-1074) with ⟨same, _⟩ | ⟨same, _⟩
  · calc (2 : ℚ) ^ lastPlace q = 2 ^ (Int.log 2 |q| - 52) := by rw [lastPlace, same]
      _ ≤ _ := by linarith
  · calc (2 : ℚ) ^ lastPlace q = 2 ^ (-1074 : ℤ) := by rw [lastPlace, same]
      _ ≤ _ := by linarith

@[simp] theorem nearest_zero : nearest 0 = 0 := by
  have zero : roundHalfEven 0 = 0 := by exact_mod_cast roundHalfEven_intCast 0
  simp [nearest, zero]

/-- The error of one rounding, relative to the magnitude of the exact result. -/
theorem abs_nearest_sub_le (q : ℚ) :
    |nearest q - q| ≤ |q| * 2 ^ (-53 : ℤ) + 2 ^ (-1075 : ℤ) := by
  rcases eq_or_ne q 0 with rfl | nonzero
  · rw [nearest_zero, sub_zero, abs_zero, zero_mul, zero_add]
    exact (zpow_pos two_pos _).le
  · calc |nearest q - q| ≤ 2 ^ lastPlace q / 2 := abs_nearest_sub_le_half q
      _ ≤ (|q| * 2 ^ (-52 : ℤ) + 2 ^ (-1074 : ℤ)) / 2 :=
          div_le_div_of_nonneg_right (zpow_lastPlace_le nonzero) two_pos.le
      _ = |q| * 2 ^ (-53 : ℤ) + 2 ^ (-1075 : ℤ) := by
          rw [show (-52 : ℤ) = -53 + 1 by decide, show (-1074 : ℤ) = -1075 + 1 by decide,
            zpow_add_one₀ two_ne_zero, zpow_add_one₀ two_ne_zero]
          ring

/-- Below four million every rounding moves a number by less than a thousandth of a millionth. -/
theorem abs_nearest_sub_le_of_le {q : ℚ} (small : |q| ≤ 4000000) :
    |nearest q - q| ≤ 1 / 1000000000 := by
  have tiny : (2 : ℚ) ^ (-1075 : ℤ) ≤ 2 ^ (-53 : ℤ) :=
    zpow_le_zpow_right₀ one_le_two (by decide)
  have relative : (2 : ℚ) ^ (-53 : ℤ) ≤ 1 / 5000000000000000 := by norm_num
  have scaled : |q| * 2 ^ (-53 : ℤ) ≤ 4000000 * 2 ^ (-53 : ℤ) :=
    mul_le_mul_of_nonneg_right small (zpow_pos two_pos _).le
  have error := abs_nearest_sub_le q
  generalize (2 : ℚ) ^ (-1075 : ℤ) = absolute at tiny error
  generalize (2 : ℚ) ^ (-53 : ℤ) = unit at tiny relative scaled error
  linarith

theorem lastPlace_le {q : ℚ} {place : ℤ} (nonzero : q ≠ 0)
    (small : |q| < 9007199254740992 * 2 ^ place) (least : -1074 ≤ place) :
    lastPlace q ≤ place := by
  have digits : (9007199254740992 : ℚ) * 2 ^ place = 2 ^ (53 + place) := by
    rw [zpow_add₀ two_ne_zero]
    norm_num
  rw [digits] at small
  have binade : Int.log 2 |q| < 53 + place :=
    (Int.lt_zpow_iff_log_lt (by decide) (abs_pos.mpr nonzero)).mp small
  exact max_le (by omega) least

/-- A multiple of a power of two with at most 53 binary digits is not rounded. -/
theorem nearest_eq_self {n place : ℤ} (digits : |n| < 9007199254740992)
    (least : -1074 ≤ place) : nearest (n * 2 ^ place) = n * 2 ^ place := by
  rcases eq_or_ne n 0 with rfl | nonzero
  · simp
  have unit : (0 : ℚ) < 2 ^ place := zpow_pos two_pos _
  have small : |(n : ℚ) * 2 ^ place| < 9007199254740992 * 2 ^ place := by
    rw [abs_mul, abs_of_pos unit]
    exact mul_lt_mul_of_pos_right (by exact_mod_cast digits) unit
  have finer := lastPlace_le (mul_ne_zero (by exact_mod_cast nonzero) unit.ne') small least
  unfold nearest
  generalize lastPlace ((n : ℚ) * 2 ^ place) = last at finer
  obtain ⟨shift, rfl⟩ : ∃ shift : ℕ, place = last + shift :=
    ⟨(place - last).toNat, by omega⟩
  have whole : (n : ℚ) * 2 ^ (last + (shift : ℤ)) / 2 ^ last = ((n * 2 ^ shift : ℤ) : ℚ) := by
    rw [zpow_add₀ two_ne_zero, zpow_natCast]
    push_cast
    field_simp
  rw [whole, roundHalfEven_intCast, ← whole, div_mul_cancel₀ _ (zpow_ne_zero _ two_ne_zero)]

/-- The shape of every rounded number; the bound is reached when a number is rounded up to the
next binade. -/
theorem nearest_shape (q : ℚ) :
    ∃ n place : ℤ, nearest q = n * 2 ^ place ∧ |n| ≤ 9007199254740992 ∧ -1074 ≤ place := by
  refine ⟨roundHalfEven (q / 2 ^ lastPlace q), lastPlace q, rfl, ?_, le_max_right _ _⟩
  have unit := zpow_lastPlace_pos q
  have small : |q| < 9007199254740992 * 2 ^ lastPlace q := by
    have binade : |q| < (2 : ℚ) ^ (Int.log 2 |q| + 1) := by
      exact_mod_cast Int.lt_zpow_succ_log_self (b := 2) (by decide) |q|
    calc |q| < 2 ^ (Int.log 2 |q| + 1) := binade
      _ ≤ 2 ^ (53 + lastPlace q) := by
          apply zpow_le_zpow_right₀ one_le_two
          have := le_max_left (Int.log 2 |q| - 52) (-1074)
          unfold lastPlace
          omega
      _ = 9007199254740992 * 2 ^ lastPlace q := by
          rw [zpow_add₀ two_ne_zero]
          norm_num
  have scaled : |q / 2 ^ lastPlace q| < 9007199254740992 := by
    rw [abs_div, abs_of_pos unit, div_lt_iff₀ unit]
    exact small
  obtain ⟨low, high⟩ := abs_lt.mp scaled
  rw [abs_le]
  constructor
  · exact le_roundHalfEven (by push_cast; exact low.le)
  · exact roundHalfEven_le (by push_cast; exact high)

theorem nearest_idem (q : ℚ) : nearest (nearest q) = nearest q := by
  obtain ⟨n, place, shape, digits, least⟩ := nearest_shape q
  rw [shape]
  rcases digits.lt_or_eq with fewer | carried
  · exact nearest_eq_self fewer least
  · have next : ∀ sign : ℤ, |sign| = 1 →
        nearest ((sign * 9007199254740992 : ℤ) * 2 ^ place)
          = (sign * 9007199254740992 : ℤ) * 2 ^ place := by
      intro sign unit
      have shifted : ((sign * 9007199254740992 : ℤ) : ℚ) * 2 ^ place
          = (sign * 4503599627370496 : ℤ) * 2 ^ (place + 1) := by
        rw [zpow_add_one₀ two_ne_zero]
        push_cast
        ring
      rw [shifted]
      exact nearest_eq_self (by rw [abs_mul, unit]; decide) (by omega)
    rcases (abs_eq (by decide)).mp carried with rfl | rfl
    · simpa using next 1 rfl
    · simpa using next (-1) rfl

/-- A rounded number below a power of two is at least one of its own places below it. -/
theorem add_place_le_zpow {x : ℚ} {e : ℤ} (rounded : nearest x = x) (below : x < 2 ^ e)
    (finer : lastPlace x ≤ e) : x + 2 ^ lastPlace x ≤ 2 ^ e := by
  obtain ⟨shift, rfl⟩ : ∃ shift : ℕ, e = lastPlace x + shift :=
    ⟨(e - lastPlace x).toNat, by omega⟩
  have multiple : x = roundHalfEven (x / 2 ^ lastPlace x) * 2 ^ lastPlace x := rounded.symm
  have placePositive := zpow_lastPlace_pos x
  generalize roundHalfEven (x / 2 ^ lastPlace x) = n at multiple
  rw [zpow_add₀ two_ne_zero, zpow_natCast] at below ⊢
  generalize (2 : ℚ) ^ lastPlace x = unit at *
  have fewer : n < (2 ^ shift : ℤ) := by
    rw [multiple, mul_comm] at below
    have scaled := lt_of_mul_lt_mul_left below placePositive.le
    exact_mod_cast scaled
  have step : ((n + 1 : ℤ) : ℚ) ≤ 2 ^ shift := by exact_mod_cast fewer
  calc x + unit = unit * ((n + 1 : ℤ) : ℚ) := by
        rw [multiple]
        push_cast
        ring
    _ ≤ unit * 2 ^ shift := mul_le_mul_of_nonneg_left step placePositive.le

theorem zpow_log_le {q : ℚ} (positive : 0 < q) : (2 : ℚ) ^ Int.log 2 q ≤ q := by
  exact_mod_cast Int.zpow_log_le_self (b := 2) (by decide) positive

theorem lt_zpow_log (q : ℚ) : q < (2 : ℚ) ^ (Int.log 2 q + 1) := by
  exact_mod_cast Int.lt_zpow_succ_log_self (b := 2) (by decide) q

/-- Half of the smallest place that a number of this size can use. -/
theorem relative_lt_half_place {q : ℚ} (positive : 0 < q) :
    q * 2 ^ (-54 : ℤ) < 2 ^ lastPlace q / 2 :=
  calc q * 2 ^ (-54 : ℤ) < 2 ^ (Int.log 2 q + 1) * 2 ^ (-54 : ℤ) :=
        mul_lt_mul_of_pos_right (lt_zpow_log q) (zpow_pos two_pos _)
    _ = 2 ^ (Int.log 2 q - 52 - 1) := by
        rw [← zpow_add₀ two_ne_zero]
        congr 1
        ring
    _ ≤ 2 ^ (lastPlace q - 1) := by
        apply zpow_le_zpow_right₀ one_le_two
        have normal := le_max_left (Int.log 2 |q| - 52) (-1074)
        rw [abs_of_pos positive] at normal
        unfold lastPlace
        rw [abs_of_pos positive]
        omega
    _ = 2 ^ lastPlace q / 2 := by rw [zpow_sub_one₀ two_ne_zero, div_eq_mul_inv]

/-- The places of a number near `q` are multiples of the places near a rounded neighbour of it. -/
theorem lastPlace_le_of_near {q x : ℚ} (qPositive : 0 < q) (xPositive : 0 < x)
    (rounded : nearest x = x) (near : |q - x| ≤ q * 2 ^ (-54 : ℤ)) :
    lastPlace q ≤ lastPlace x := by
  by_contra coarser
  have normal : lastPlace q = Int.log 2 q - 52 ∧ Int.log 2 x < Int.log 2 q := by
    unfold lastPlace at coarser ⊢
    rw [abs_of_pos qPositive, abs_of_pos xPositive] at *
    omega
  obtain ⟨place, smaller⟩ := normal
  have below : x < (2 : ℚ) ^ Int.log 2 q := by
    exact_mod_cast (Int.lt_zpow_iff_log_lt (b := 2) (by decide) xPositive).mpr smaller
  have gap := add_place_le_zpow rounded below (by omega)
  have distance := (abs_le.mp near).2
  have closer := relative_lt_half_place qPositive
  have binade := zpow_log_le qPositive
  have next := lt_zpow_log q
  have wide : (2 : ℚ) ^ lastPlace q / 2 ≤ 2 ^ lastPlace x := by
    have unit : (2 : ℚ) ^ (-54 : ℤ) ≤ 1 / 4 := by norm_num
    have quarter := mul_le_mul_of_nonneg_left unit qPositive.le
    have half : (2 : ℚ) ^ (Int.log 2 q - 1) ≤ x := by
      rw [zpow_sub_one₀ two_ne_zero, ← div_eq_mul_inv]
      generalize (2 : ℚ) ^ Int.log 2 q = power at *
      generalize q * (2 : ℚ) ^ (-54 : ℤ) = error at *
      linarith
    have adjacent : Int.log 2 q - 1 ≤ Int.log 2 x := by
      by_contra later
      have above := lt_zpow_log x
      have power : (2 : ℚ) ^ (Int.log 2 x + 1) ≤ 2 ^ (Int.log 2 q - 1) :=
        zpow_le_zpow_right₀ one_le_two (by omega)
      exact absurd (above.trans_le power) (not_lt.mpr half)
    rw [div_eq_mul_inv, ← zpow_sub_one₀ two_ne_zero, place]
    apply zpow_le_zpow_right₀ one_le_two
    unfold lastPlace
    rw [abs_of_pos xPositive]
    omega
  generalize q * (2 : ℚ) ^ (-54 : ℤ) = error at *
  linarith

/-- A representable number is the nearest one to everything closer to it than half of the
smallest gap around it. -/
theorem nearest_eq_of_near {q x : ℚ} (qPositive : 0 < q) (xPositive : 0 < x)
    (rounded : nearest x = x) (near : |q - x| ≤ q * 2 ^ (-54 : ℤ)) : nearest q = x := by
  obtain ⟨shift, places⟩ : ∃ shift : ℕ, lastPlace x = lastPlace q + shift :=
    ⟨(lastPlace x - lastPlace q).toNat, by
      have := lastPlace_le_of_near qPositive xPositive rounded near
      omega⟩
  have multiple : x = (roundHalfEven (x / 2 ^ lastPlace x) * 2 ^ shift : ℤ) * 2 ^ lastPlace q := by
    conv_lhs => rw [← rounded, nearest]
    rw [places, zpow_add₀ two_ne_zero, zpow_natCast]
    push_cast
    ring
  have placePositive := zpow_lastPlace_pos q
  generalize (roundHalfEven (x / 2 ^ lastPlace x) * 2 ^ shift : ℤ) = n at multiple
  have half := near.trans_lt (relative_lt_half_place qPositive)
  have scaled : |q / 2 ^ lastPlace q - n| < 1 / 2 := by
    have difference : q / 2 ^ lastPlace q - n = (q - x) / 2 ^ lastPlace q := by
      rw [sub_div, multiple, mul_div_cancel_right₀ _ placePositive.ne']
    rw [difference, abs_div, abs_of_pos placePositive, div_lt_iff₀ placePositive,
      one_div, mul_comm, ← div_eq_mul_inv]
    exact half
  rw [nearest, roundHalfEven_eq_of_near scaled]
  exact multiple.symm

theorem nearest_intCast {n : ℤ} (digits : |n| < 9007199254740992) : nearest n = n := by
  simpa using nearest_eq_self digits (show -1074 ≤ (0 : ℤ) by decide)

@[simp] theorem nearest_neg (q : ℚ) : nearest (-q) = -nearest q := by
  have same : lastPlace (-q) = lastPlace q := by rw [lastPlace, lastPlace, abs_neg]
  rw [nearest, nearest, same, neg_div, roundHalfEven_neg, Int.cast_neg, neg_mul]

theorem nearest_le_zpow {q : ℚ} {e : ℤ} (below : q < 2 ^ e) (finer : lastPlace q ≤ e) :
    nearest q ≤ 2 ^ e := by
  obtain ⟨shift, rfl⟩ : ∃ shift : ℕ, e = lastPlace q + shift :=
    ⟨(e - lastPlace q).toNat, by omega⟩
  have unit := zpow_lastPlace_pos q
  rw [zpow_add₀ two_ne_zero, zpow_natCast] at below ⊢
  unfold nearest
  generalize (2 : ℚ) ^ lastPlace q = place at *
  have scaled : q / place < ((2 ^ shift : ℤ) : ℚ) := by
    rw [div_lt_iff₀ unit, mul_comm]
    exact_mod_cast below
  have whole : (roundHalfEven (q / place) : ℚ) ≤ 2 ^ shift := by
    exact_mod_cast roundHalfEven_le scaled
  rw [mul_comm]
  exact mul_le_mul_of_nonneg_left whole unit.le

theorem zpow_le_nearest {q : ℚ} {e : ℤ} (above : 2 ^ e ≤ q) (finer : lastPlace q ≤ e) :
    2 ^ e ≤ nearest q := by
  obtain ⟨shift, rfl⟩ : ∃ shift : ℕ, e = lastPlace q + shift :=
    ⟨(e - lastPlace q).toNat, by omega⟩
  have unit := zpow_lastPlace_pos q
  rw [zpow_add₀ two_ne_zero, zpow_natCast] at above ⊢
  unfold nearest
  generalize (2 : ℚ) ^ lastPlace q = place at *
  have scaled : ((2 ^ shift : ℤ) : ℚ) ≤ q / place := by
    rw [le_div_iff₀ unit, mul_comm]
    exact_mod_cast above
  have whole : (2 : ℚ) ^ shift ≤ roundHalfEven (q / place) := by
    exact_mod_cast le_roundHalfEven scaled
  rw [mul_comm]
  exact mul_le_mul_of_nonneg_right whole unit.le

theorem nearest_nonneg {q : ℚ} (nonneg : 0 ≤ q) : 0 ≤ nearest q := by
  have unit := zpow_lastPlace_pos q
  have whole : (0 : ℤ) ≤ roundHalfEven (q / 2 ^ lastPlace q) :=
    le_roundHalfEven (by exact_mod_cast div_nonneg nonneg unit.le)
  exact mul_nonneg (by exact_mod_cast whole) unit.le

/-- Between two numbers of different binades lies the power of two that opens the higher one. -/
theorem nearest_le_of_nonneg {q r : ℚ} (nonneg : 0 ≤ q) (below : q ≤ r) :
    nearest q ≤ nearest r := by
  rcases nonneg.eq_or_lt with rfl | positive
  · rw [nearest_zero]
    exact nearest_nonneg below
  have rPositive := positive.trans_le below
  have binades : Int.log 2 q ≤ Int.log 2 r := Int.log_mono_right positive below
  have qPlace : lastPlace q = max (Int.log 2 q - 52) (-1074) := by
    rw [lastPlace, abs_of_pos positive]
  have rPlace : lastPlace r = max (Int.log 2 r - 52) (-1074) := by
    rw [lastPlace, abs_of_pos rPositive]
  by_cases same : lastPlace q = lastPlace r
  · have unit := zpow_lastPlace_pos r
    unfold nearest
    rw [same]
    have whole : (roundHalfEven (q / 2 ^ lastPlace r) : ℚ)
        ≤ roundHalfEven (r / 2 ^ lastPlace r) := by
      exact_mod_cast roundHalfEven_mono (div_le_div_of_nonneg_right below unit.le)
    exact mul_le_mul_of_nonneg_right whole unit.le
  · have apart : Int.log 2 q < Int.log 2 r := by omega
    have opens : q < (2 : ℚ) ^ Int.log 2 r := by
      exact_mod_cast (Int.lt_zpow_iff_log_lt (b := 2) (by decide) positive).mpr apart
    exact (nearest_le_zpow opens (by omega)).trans
      (zpow_le_nearest (zpow_log_le rPositive) (by omega))

theorem nearest_mono : Monotone nearest := by
  intro q r below
  rcases le_total 0 q with nonneg | negative
  · exact nearest_le_of_nonneg nonneg below
  · rcases le_total 0 r with crossed | both
    · have low : nearest q ≤ 0 := by
        have flipped := nearest_nonneg (neg_nonneg.mpr negative)
        rw [nearest_neg] at flipped
        exact neg_nonneg.mp flipped
      exact low.trans (nearest_nonneg crossed)
    · have flipped := nearest_le_of_nonneg (neg_nonneg.mpr both) (neg_le_neg below)
      rw [nearest_neg, nearest_neg] at flipped
      exact neg_le_neg_iff.mp flipped

end Binary64

/-- A finite number; the two zeros are one. -/
structure Binary64 where
  value : ℚ
  rounded : Binary64.nearest value = value
  deriving DecidableEq

namespace Binary64

def ofRat (q : ℚ) : Binary64 := ⟨nearest q, nearest_idem q⟩

instance : LinearOrder Binary64 :=
  LinearOrder.lift' value (by
    intro left right same
    cases left
    cases right
    cases same
    rfl)

instance : Add Binary64 := ⟨fun a b => ofRat (a.value + b.value)⟩
instance : Sub Binary64 := ⟨fun a b => ofRat (a.value - b.value)⟩
instance : Mul Binary64 := ⟨fun a b => ofRat (a.value * b.value)⟩
instance : Div Binary64 := ⟨fun a b => ofRat (a.value / b.value)⟩
instance : Neg Binary64 := ⟨fun a => ⟨-a.value, by rw [nearest_neg, a.rounded]⟩⟩

def floor (a : Binary64) : Binary64 := ofRat ⌊a.value⌋

end Binary64

end TenantTrust.Library
