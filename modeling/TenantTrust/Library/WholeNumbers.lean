import TenantTrust.Library.NumberText

/-! A script engine writes a whole number below a thousand million million as itself. -/

namespace TenantTrust.Library.Binary64

variable {x : Binary64} {n : ℕ}

theorem shortest_of_natCast (whole : x.value = n) (some_ : 0 < n) (small : n < 1000000000000000) :
    x.shortest.value = n := by
  have positive : 0 < x.value := by
    rw [whole]
    exact_mod_cast some_
  have least : (0 : ℤ) ≤ Int.log 10 x.value := by
    rw [← Int.zpow_le_iff_le_log (by decide) positive, whole]
    exact_mod_cast some_
  have most : Int.log 10 x.value < 15 := by
    rw [← Int.lt_zpow_iff_log_lt (by decide) positive, whole]
    exact_mod_cast small
  have units : digitPlace x.value (Int.log 10 x.value + 1).toNat = 0 := by
    unfold digitPlace
    omega
  have coarser := shortest_place (x := x) (k := (Int.log 10 x.value + 1).toNat) (by omega)
    (by omega) (decimalWithDigits_of_near (n := n) (by rw [units, whole]; norm_num)
      (by rw [units, zpow_zero, mul_one, ← whole, x.rounded]))
  rw [units] at coarser
  -- the shortest decimal has no digits behind the point, so it is a whole number that reads as `n`
  have written : x.shortest.value = (x.shortest.digits * 10 ^ x.shortest.place.toNat : ℕ) := by
    have place : x.shortest.place = (x.shortest.place.toNat : ℤ) :=
      (Int.toNat_of_nonneg coarser).symm
    rw [Scientific.value]
    conv_lhs => rw [place]
    rw [zpow_natCast]
    push_cast
    rfl
  have rounds := shortest_rounds positive
  rw [written] at rounds ⊢
  generalize x.shortest.digits * 10 ^ x.shortest.place.toNat = w at rounds
  have below : w < 9007199254740992 := by
    by_contra large
    have above : (9007199254740991 : ℚ) ≤ w := by
      have bound : 9007199254740991 ≤ w := by omega
      exact_mod_cast bound
    have ordered := nearest_mono above
    have exact_ : nearest 9007199254740991 = 9007199254740991 := by
      exact_mod_cast nearest_intCast (n := 9007199254740991) (by norm_num)
    rw [rounds, exact_, whole] at ordered
    have bound : 9007199254740991 ≤ n := by exact_mod_cast ordered
    omega
  have same : nearest (w : ℚ) = w := by
    have integral := nearest_intCast (n := w) (by rw [Nat.abs_cast]; exact_mod_cast below)
    exact_mod_cast integral
  rw [same, whole] at rounds
  exact rounds

theorem numeral_of_natCast (whole : x.value = n) (small : n < 1000000000000000) :
    x.numeral.value = n := by
  rcases Nat.eq_zero_or_pos n with rfl | some_
  · exact numeral_value_natCast whole (by decide)
  · have positive : 0 < x.value := by
      rw [whole]
      exact_mod_cast some_
    rw [Numeral.value, numeral_of_nonneg positive.le, if_neg Bool.false_ne_true, numeral,
      if_neg positive.ne', if_neg (not_lt.mpr positive.le),
      Scientific.numeral_magnitude (shortest_digits_pos positive)]
    exact shortest_of_natCast whole some_ small

end TenantTrust.Library.Binary64
