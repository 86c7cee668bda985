import TenantTrust.Library.Binary64

/-! The shortest decimal that reads back as a binary64 number. -/

namespace TenantTrust.Library

/-- `digits * 10 ^ place` -/
structure Scientific where
  digits : ℕ
  place : ℤ
  deriving DecidableEq, Repr

namespace Scientific

def value (d : Scientific) : ℚ := d.digits * 10 ^ d.place

theorem value_nonneg (d : Scientific) : 0 ≤ d.value :=
  mul_nonneg (Nat.cast_nonneg _) (zpow_pos (by decide) _).le

end Scientific

namespace Binary64

/-- The place of the last of the first `k` decimal digits of a number. -/
def digitPlace (x : ℚ) (k : ℕ) : ℤ := Int.log 10 x + 1 - k

/-- The nearest decimal of `k` digits, with an even last digit where two are equally near. -/
def nearestDecimal (x : Binary64) (k : ℕ) : Scientific :=
  let place := digitPlace x.value k
  ⟨(roundHalfEven (x.value / 10 ^ place)).toNat, place⟩

/-- The decimal of `k` digits that reads back as `x`, and the nearer one where two of them do. -/
def decimalWithDigits (x : Binary64) (k : ℕ) : Option Scientific :=
  let near := x.nearestDecimal k
  let other : Scientific :=
    if near.value ≤ x.value then ⟨near.digits + 1, near.place⟩
    else ⟨near.digits - 1, near.place⟩
  [near, other].find? fun d => nearest d.value = x.value

/-- The shortest decimal that reads back as a positive number; seventeen digits always do. -/
def shortest (x : Binary64) : Scientific :=
  ((List.range 16).findSome? fun k => x.decimalWithDigits (k + 1)).getD (x.nearestDecimal 17)

theorem decimalWithDigits_rounds {x : Binary64} {k : ℕ} {d : Scientific}
    (found : x.decimalWithDigits k = some d) : nearest d.value = x.value :=
  of_decide_eq_true
    (List.find?_some (p := fun d : Scientific => decide (nearest d.value = x.value)) found)

theorem digitPlace_unit_le {x : ℚ} (positive : 0 < x) (k : ℕ) :
    (10 : ℚ) ^ digitPlace x k ≤ x * 10 ^ (1 - k : ℤ) := by
  have leading : (10 : ℚ) ^ Int.log 10 x ≤ x := by
    exact_mod_cast Int.zpow_log_le_self (b := 10) (by decide) positive
  rw [digitPlace, add_sub_assoc, zpow_add₀ (by decide)]
  exact mul_le_mul_of_nonneg_right leading (zpow_pos (by decide) _).le

theorem nearestDecimal_near {x : Binary64} (positive : 0 < x.value) (k : ℕ) :
    |(x.nearestDecimal k).value - x.value| ≤ x.value * 10 ^ (1 - k : ℤ) / 2 := by
  have unit : (0 : ℚ) < 10 ^ digitPlace x.value k := zpow_pos (by decide) _
  have whole : 0 ≤ roundHalfEven (x.value / 10 ^ digitPlace x.value k) :=
    le_roundHalfEven (by exact_mod_cast (div_pos positive unit).le)
  have natural : ((roundHalfEven (x.value / 10 ^ digitPlace x.value k)).toNat : ℚ)
      = roundHalfEven (x.value / 10 ^ digitPlace x.value k) := by
    exact_mod_cast Int.toNat_of_nonneg whole
  have scaled : (x.nearestDecimal k).value - x.value
      = (roundHalfEven (x.value / 10 ^ digitPlace x.value k)
          - x.value / 10 ^ digitPlace x.value k) * 10 ^ digitPlace x.value k := by
    rw [sub_mul, div_mul_cancel₀ _ unit.ne', ← natural]
    rfl
  calc |(x.nearestDecimal k).value - x.value|
      = |(roundHalfEven (x.value / 10 ^ digitPlace x.value k) : ℚ)
          - x.value / 10 ^ digitPlace x.value k| * 10 ^ digitPlace x.value k := by
        rw [scaled, abs_mul, abs_of_pos unit]
    _ ≤ 1 / 2 * 10 ^ digitPlace x.value k :=
        mul_le_mul_of_nonneg_right (abs_roundHalfEven_sub_le _) unit.le
    _ ≤ 1 / 2 * (x.value * 10 ^ (1 - k : ℤ)) :=
        mul_le_mul_of_nonneg_left (digitPlace_unit_le positive k) (by norm_num)
    _ = x.value * 10 ^ (1 - k : ℤ) / 2 := by ring

theorem nearestDecimal_rounds {x : Binary64} (positive : 0 < x.value) :
    nearest (x.nearestDecimal 17).value = x.value := by
  have error := nearestDecimal_near positive 17
  have digits : (10 : ℚ) ^ (1 - (17 : ℕ) : ℤ) = 1 / 10000000000000000 := by norm_num
  have binary : (1 : ℚ) / 18100000000000000 ≤ 2 ^ (-54 : ℤ) := by norm_num
  rw [digits] at error
  generalize (x.nearestDecimal 17).value = q at error ⊢
  obtain ⟨low, high⟩ := abs_le.mp error
  have qPositive : 0 < q := by linarith
  have relative := mul_le_mul_of_nonneg_left binary qPositive.le
  apply nearest_eq_of_near qPositive positive x.rounded
  calc |q - x.value| ≤ x.value * (1 / 10000000000000000) / 2 := error
    _ ≤ q * (1 / 18100000000000000) := by linarith
    _ ≤ q * 2 ^ (-54 : ℤ) := relative

theorem shortest_rounds {x : Binary64} (positive : 0 < x.value) :
    nearest x.shortest.value = x.value := by
  unfold shortest
  cases found : (List.range 16).findSome? fun k => x.decimalWithDigits (k + 1) with
  | some d =>
      obtain ⟨k, _, chosen⟩ := List.exists_of_findSome?_eq_some found
      exact decimalWithDigits_rounds chosen
  | none => exact nearestDecimal_rounds positive

theorem shortest_digits_pos {x : Binary64} (positive : 0 < x.value) : 0 < x.shortest.digits := by
  apply Nat.pos_of_ne_zero
  intro zero
  have rounds := shortest_rounds positive
  rw [Scientific.value, zero, Nat.cast_zero, zero_mul, nearest_zero] at rounds
  exact positive.ne rounds

section ShortDecimal

variable {x : Binary64} {k n : ℕ}

theorem decimalWithDigits_place {d : Scientific} (found : x.decimalWithDigits k = some d) :
    d.place = digitPlace x.value k := by
  have member := List.mem_of_find?_eq_some found
  simp only [List.mem_cons, List.not_mem_nil, or_false] at member
  rcases member with rfl | rfl
  · rfl
  · split <;> rfl

/-- A decimal on the grid of the first `k` digits that reads back is found. -/
theorem decimalWithDigits_of_near (near : |x.value / 10 ^ digitPlace x.value k - n| < 1 / 2)
    (reads : nearest ((n : ℚ) * 10 ^ digitPlace x.value k) = x.value) :
    (x.decimalWithDigits k).isSome := by
  have digits : roundHalfEven (x.value / 10 ^ digitPlace x.value k) = n :=
    roundHalfEven_eq_of_near (by exact_mod_cast near)
  have first : (x.nearestDecimal k).value = (n : ℚ) * 10 ^ digitPlace x.value k := by
    rw [Scientific.value, nearestDecimal, digits, Int.toNat_natCast]
  unfold decimalWithDigits
  rw [List.find?_isSome]
  exact ⟨_, List.mem_cons_self, by rw [first]; exact decide_eq_true reads⟩

/-- The shortest decimal has no more digits than one that was found. -/
theorem shortest_place (positive : 0 < k) (short : k ≤ 16)
    (found : (x.decimalWithDigits k).isSome) :
    digitPlace x.value k ≤ x.shortest.place := by
  have searched : ((List.range 16).findSome? fun j => x.decimalWithDigits (j + 1)).isSome := by
    rw [List.findSome?_isSome_iff]
    exact ⟨k - 1, List.mem_range.mpr (by omega), by rwa [Nat.sub_add_cancel positive]⟩
  obtain ⟨d, chosen⟩ := Option.isSome_iff_exists.mp searched
  rw [shortest, chosen, Option.getD_some]
  obtain ⟨front, j, back, split, here, before⟩ := List.findSome?_eq_some_iff.mp chosen
  rw [decimalWithDigits_place here]
  have fewer : j + 1 ≤ k := by
    have listed : k - 1 ∈ front ++ j :: back := by
      rw [← split]
      exact List.mem_range.mpr (by omega)
    rcases List.mem_append.mp listed with earlier | later
    · have none_ := before (k - 1) earlier
      rw [Nat.sub_add_cancel positive] at none_
      rw [none_] at found
      cases found
    · have ordered : (front ++ j :: back).Pairwise (· < ·) := split ▸ List.pairwise_lt_range
      rcases List.mem_cons.mp later with same | after
      · omega
      · have less := List.rel_of_pairwise_cons (List.pairwise_append.mp ordered).2.1 after
        omega
  unfold digitPlace
  omega

/-- Two decimals on a grid of ten millionths that read as one number of at most a million are the
same. -/
theorem eq_of_grid {place : ℤ} {q r : ℚ} {m : ℕ} (fine : -7 ≤ place)
    (first : q = m * 10 ^ place) (second : r = n * 10 ^ place)
    (near : |q - r| ≤ 2 / 1000000000) : q = r := by
  have unit : (1 : ℚ) / 10000000 ≤ 10 ^ place := by
    have grown := zpow_le_zpow_right₀ (a := (10 : ℚ)) (by norm_num) fine
    norm_num at grown ⊢
    exact grown
  have positive : (0 : ℚ) < 10 ^ place := zpow_pos (by norm_num) _
  have apart : |(m : ℚ) - n| < 1 := by
    have scaled : |q - r| = |(m : ℚ) - n| * 10 ^ place := by
      rw [first, second, ← sub_mul, abs_mul, abs_of_pos positive]
    by_contra far
    have product := mul_le_mul (not_lt.mp far) unit (by norm_num) (abs_nonneg _)
    linarith
  have same : (m : ℤ) = n := by
    have whole : |(m : ℤ) - n| < 1 := by exact_mod_cast apart
    exact sub_eq_zero.mp (Int.abs_lt_one_iff.mp whole)
  rw [first, second, Nat.cast_inj.mpr (by exact_mod_cast same)]

theorem shortest_of_grid {q : ℚ} (reads : nearest q = x.value) (positive : 0 < x.value)
    (small : q ≤ 1000000) (nonneg : 0 ≤ q) (grid : q = n * 10 ^ digitPlace x.value k)
    (fine : -7 ≤ digitPlace x.value k) (some_ : 0 < k) (short : k ≤ 16) :
    x.shortest.value = q := by
  have unitPositive : (0 : ℚ) < 10 ^ digitPlace x.value k := zpow_pos (by norm_num) _
  have error := abs_nearest_sub_le_of_le (q := q) (by rw [abs_of_nonneg nonneg]; linarith)
  rw [reads] at error
  have unit : (1 : ℚ) / 10000000 ≤ 10 ^ digitPlace x.value k := by
    have grown := zpow_le_zpow_right₀ (a := (10 : ℚ)) (by norm_num) fine
    norm_num at grown ⊢
    exact grown
  have near : |x.value / 10 ^ digitPlace x.value k - n| < 1 / 2 := by
    have scaled : x.value / 10 ^ digitPlace x.value k - n
        = (x.value - q) / 10 ^ digitPlace x.value k := by
      rw [grid, sub_div, mul_div_cancel_right₀ _ unitPositive.ne']
    rw [scaled, abs_div, abs_of_pos unitPositive, div_lt_iff₀ unitPositive]
    linarith
  have coarser := shortest_place some_ short
    (decimalWithDigits_of_near near (by rw [← grid]; exact reads))
  have onGrid : x.shortest.value
      = (x.shortest.digits * 10 ^ (x.shortest.place - digitPlace x.value k).toNat : ℕ)
        * 10 ^ digitPlace x.value k := by
    have places : x.shortest.place
        = ((x.shortest.place - digitPlace x.value k).toNat : ℤ) + digitPlace x.value k := by
      omega
    rw [Scientific.value]
    conv_lhs => rw [places]
    rw [zpow_add₀ (by norm_num), zpow_natCast]
    push_cast
    ring
  have same := shortest_rounds positive
  have bounded : x.shortest.value ≤ 4000000 := by
    by_contra large
    have above := nearest_mono (not_le.mp large).le
    have below := nearest_mono (small.trans (show (1000000 : ℚ) ≤ 1000001 by norm_num))
    have upper : nearest 4000000 = 4000000 := by
      exact_mod_cast nearest_intCast (n := 4000000) (by norm_num)
    have lower : nearest 1000001 = 1000001 := by
      exact_mod_cast nearest_intCast (n := 1000001) (by norm_num)
    rw [same, upper] at above
    rw [reads, lower] at below
    linarith
  have own := abs_nearest_sub_le_of_le (q := x.shortest.value)
    (by rw [abs_of_nonneg (Scientific.value_nonneg _)]; exact bounded)
  rw [same] at own
  apply eq_of_grid fine onGrid grid
  rw [abs_le] at own error ⊢
  constructor <;> linarith

/-- A whole number of millionths, up to a million, is the shortest decimal of the number that it
reads as. -/
theorem shortest_of_millionths {q : ℚ} (reads : nearest q = x.value) (grid : q = n / 1000000)
    (positive : 0 < q) (small : q ≤ 1000000) : x.shortest.value = q := by
  have error := abs_nearest_sub_le_of_le (q := q) (by rw [abs_of_pos positive]; linarith)
  rw [reads] at error
  obtain ⟨low, high⟩ := abs_le.mp error
  have least : 1 / 1000000 ≤ q := by
    have counted : 0 < n := by
      apply Nat.pos_of_ne_zero
      intro none_
      rw [grid, none_] at positive
      norm_num at positive
    have one : (1 : ℚ) ≤ n := by exact_mod_cast counted
    rw [grid]
    linarith
  have xPositive : 0 < x.value := by linarith
  have lowest : -7 ≤ Int.log 10 x.value := by
    rw [← Int.zpow_le_iff_le_log (by decide) xPositive]
    norm_num
    linarith
  have highest : Int.log 10 x.value < 7 := by
    rw [← Int.lt_zpow_iff_log_lt (by decide) xPositive]
    norm_num
    linarith
  by_cases tiny : Int.log 10 x.value = -7
  · have place : digitPlace x.value 1 = -7 := by
      unfold digitPlace
      omega
    apply shortest_of_grid (n := n * 10) reads xPositive small positive.le _ place.ge (by decide)
      (by decide)
    rw [place, grid]
    push_cast
    norm_num
    ring
  · have place : digitPlace x.value (Int.log 10 x.value + 7).toNat = -6 := by
      unfold digitPlace
      omega
    apply shortest_of_grid (n := n) (k := (Int.log 10 x.value + 7).toNat) reads xPositive small
      positive.le _ (by omega) (by omega) (by omega)
    rw [place, grid]
    norm_num
    ring

end ShortDecimal

end Binary64

end TenantTrust.Library
