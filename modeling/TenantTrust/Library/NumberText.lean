import Mathlib.Data.List.DropRight
import TenantTrust.Library.Scientific

/-! The text of a number in JSON: how a script engine writes a number, and how a numeral is read. -/

namespace TenantTrust.Library

/-- A numeral, split at its point and at its exponent. An exponent of zero is not written. -/
structure Numeral where
  negative : Bool
  whole : List Char
  fraction : List Char
  exponent : ℤ
  deriving DecidableEq, Repr

namespace Numeral

/-- The decimal that the digits of a numeral stand for, without its sign. -/
def magnitude (m : Numeral) : Scientific where
  digits := Nat.ofDigitChars 10 (m.whole ++ m.fraction) 0
  place := m.exponent - m.fraction.length

def value (m : Numeral) : ℚ := if m.negative then -m.magnitude.value else m.magnitude.value

def signText (negative : Bool) : List Char := if negative then ['-'] else []

def fractionText (fraction : List Char) : List Char :=
  if fraction = [] then [] else '.' :: fraction

def exponentText (exponent : ℤ) : List Char :=
  if exponent = 0 then []
  else 'e' :: (if exponent < 0 then '-' else '+') :: Nat.toDigits 10 exponent.natAbs

def text (m : Numeral) : List Char :=
  signText m.negative ++ m.whole ++ fractionText m.fraction ++ exponentText m.exponent

/-- The numerals of the JSON grammar. -/
structure WellFormed (m : Numeral) : Prop where
  whole_digits : ∀ c ∈ m.whole, c.isDigit
  fraction_digits : ∀ c ∈ m.fraction, c.isDigit
  whole_nonempty : m.whole ≠ []
  no_leading_zero : m.whole.head? = some '0' → m.whole = ['0']

/-- The digits that a text starts with, and what follows them. -/
def readDigits (text : List Char) : Option (List Char × List Char) :=
  match text.span Char.isDigit with
  | ([], _) => none
  | digits => some digits

def readSign : List Char → Bool × List Char
  | '-' :: rest => (true, rest)
  | text => (false, text)

def readWhole : List Char → Option (List Char × List Char)
  | '0' :: rest => some (['0'], rest)
  | text => readDigits text

def readFraction : List Char → Option (List Char × List Char)
  | '.' :: rest => readDigits rest
  | text => some ([], text)

def readExponentDigits (negative : Bool) (text : List Char) : Option (ℤ × List Char) :=
  (readDigits text).map fun (digits, rest) =>
    let size : ℤ := Nat.ofDigitChars 10 digits 0
    (if negative then -size else size, rest)

def readExponent : List Char → Option (ℤ × List Char)
  | c :: rest =>
      if c = 'e' ∨ c = 'E' then
        match rest with
        | '-' :: digits => readExponentDigits true digits
        | '+' :: digits => readExponentDigits false digits
        | digits => readExponentDigits false digits
      else some (0, c :: rest)
  | [] => some (0, [])

/-- The numeral at the start of a text. -/
def read (text : List Char) : Option (Numeral × List Char) := do
  let (negative, text) := readSign text
  let (whole, text) ← readWhole text
  let (fraction, text) ← readFraction text
  let (exponent, text) ← readExponent text
  return (⟨negative, whole, fraction, exponent⟩, text)

theorem text_head {m : Numeral} (wellFormed : m.WellFormed) :
    ∃ c tail, m.text = c :: tail ∧ (c = '-' ∨ c.isDigit) := by
  unfold text signText
  cases m.negative with
  | true => exact ⟨'-', _, rfl, Or.inl rfl⟩
  | false =>
      have nonempty := wellFormed.whole_nonempty
      have digits := wellFormed.whole_digits
      cases shape : m.whole with
      | nil => exact absurd shape nonempty
      | cons c more =>
          exact ⟨c, _, rfl, Or.inr (digits c (by rw [shape]; exact List.mem_cons_self))⟩

/-- What follows cannot be read as part of a numeral. -/
def Ends (rest : List Char) : Prop :=
  ∀ c ∈ rest.head?, c.isDigit = false ∧ c ≠ '.' ∧ c ≠ 'e' ∧ c ≠ 'E'

theorem readDigits_append {digits rest : List Char} (all : ∀ c ∈ digits, c.isDigit)
    (nonempty : digits ≠ []) (ends : ∀ c ∈ rest.head?, c.isDigit = false) :
    readDigits (digits ++ rest) = some (digits, rest) := by
  have stops : rest.takeWhile Char.isDigit = [] ∧ rest.dropWhile Char.isDigit = rest := by
    cases rest with
    | nil => exact ⟨rfl, rfl⟩
    | cons c rest =>
        have other := ends c rfl
        simp [other]
  unfold readDigits
  rw [List.span_eq_takeWhile_dropWhile, List.takeWhile_append_of_pos all,
    List.dropWhile_append_of_pos all, stops.1, stops.2, List.append_nil]
  cases digits with
  | nil => exact absurd rfl nonempty
  | cons => rfl

theorem readExponent_append {exponent : ℤ} {rest : List Char} (ends : Ends rest) :
    readExponent (exponentText exponent ++ rest) = some (exponent, rest) := by
  unfold exponentText
  split
  case isTrue absent =>
    subst absent
    cases rest with
    | nil => rfl
    | cons c rest =>
        obtain ⟨_, _, lower, upper⟩ := ends c rfl
        simp [readExponent, lower, upper]
  case isFalse present =>
    have digits : readDigits (Nat.toDigits 10 exponent.natAbs ++ rest)
        = some (Nat.toDigits 10 exponent.natAbs, rest) :=
      readDigits_append
        (fun c member => Nat.isDigit_of_mem_toDigits (by decide) (by decide) member)
        Nat.toDigits_ne_nil fun c first => (ends c first).1
    split
    case isTrue negative =>
      simp [readExponent, readExponentDigits, digits, Nat.ofDigitChars_ten_toDigits,
        abs_of_neg negative]
    case isFalse positive =>
      simp [readExponent, readExponentDigits, digits, Nat.ofDigitChars_ten_toDigits,
        abs_of_nonneg (not_lt.mp positive)]

theorem exponentText_head (exponent : ℤ) {rest : List Char} (ends : Ends rest) :
    ∀ c ∈ (exponentText exponent ++ rest).head?, c.isDigit = false ∧ c ≠ '.' := by
  unfold exponentText
  split
  · intro c first
    obtain ⟨digit, point, _⟩ := ends c first
    exact ⟨digit, point⟩
  · intro c first
    cases first
    decide

theorem readFraction_append {fraction rest : List Char} (all : ∀ c ∈ fraction, c.isDigit)
    (ends : ∀ c ∈ rest.head?, c.isDigit = false ∧ c ≠ '.') :
    readFraction (fractionText fraction ++ rest) = some (fraction, rest) := by
  unfold fractionText
  split
  case isTrue absent =>
    subst absent
    cases rest with
    | nil => rfl
    | cons c rest =>
        obtain ⟨_, point⟩ := ends c rfl
        simp [readFraction, point]
  case isFalse present =>
    exact readDigits_append all present fun c first => (ends c first).1

theorem fractionText_head (fraction : List Char) {rest : List Char}
    (ends : ∀ c ∈ rest.head?, c.isDigit = false ∧ c ≠ '.') :
    ∀ c ∈ (fractionText fraction ++ rest).head?, c.isDigit = false := by
  unfold fractionText
  split
  · exact fun c first => (ends c first).1
  · intro c first
    cases first
    decide

theorem readWhole_append {m : Numeral} (wellFormed : m.WellFormed) {rest : List Char}
    (ends : ∀ c ∈ rest.head?, c.isDigit = false) :
    readWhole (m.whole ++ rest) = some (m.whole, rest) := by
  have digits := readDigits_append wellFormed.whole_digits wellFormed.whole_nonempty ends
  have leading := wellFormed.no_leading_zero
  cases shape : m.whole with
  | nil => exact absurd shape wellFormed.whole_nonempty
  | cons c more =>
      rw [shape] at digits leading
      by_cases zero : c = '0'
      · rw [leading (by rw [zero]; rfl)]
        rfl
      · rw [List.cons_append] at digits ⊢
        rw [readWhole, digits]
        intro _ other
        exact zero (List.cons.inj other).1

theorem readSign_append {m : Numeral} (wellFormed : m.WellFormed) (rest : List Char) :
    readSign (signText m.negative ++ (m.whole ++ rest)) = (m.negative, m.whole ++ rest) := by
  cases sign : m.negative with
  | true => rfl
  | false =>
      have nonempty := wellFormed.whole_nonempty
      have digits := wellFormed.whole_digits
      cases shape : m.whole with
      | nil => exact absurd shape nonempty
      | cons c more =>
          have digit : c.isDigit := digits c (by rw [shape]; exact List.mem_cons_self)
          have unsigned : c ≠ '-' := by
            rintro rfl
            exact absurd digit (by decide)
          simp [signText, readSign, unsigned]

/-- Reading inverts writing. -/
theorem read_text {m : Numeral} (wellFormed : m.WellFormed) {rest : List Char}
    (ends : Ends rest) : read (m.text ++ rest) = some (m, rest) := by
  have exponentEnds := exponentText_head m.exponent ends
  have fractionEnds := fractionText_head m.fraction exponentEnds
  have sign := readSign_append wellFormed
    (fractionText m.fraction ++ (exponentText m.exponent ++ rest))
  unfold read text
  simp only [List.append_assoc]
  rw [sign]
  simp only [readWhole_append wellFormed fractionEnds, Option.bind_eq_bind, Option.bind_some,
    readFraction_append wellFormed.fraction_digits exponentEnds, readExponent_append ends]
  rfl

end Numeral

namespace Scientific

/-- The digits without the zeros they end in. -/
def significant (d : Scientific) : List Char :=
  (Nat.toDigits 10 d.digits).rdropWhile (· = '0')

/-- How many digits stand before the point. -/
def point (d : Scientific) : ℤ := (Nat.toDigits 10 d.digits).length + d.place

/-- How a script engine lays out the digits of a positive number. -/
def numeral (d : Scientific) (negative : Bool) : Numeral :=
  let digits := d.significant
  let n := d.point
  if digits.length ≤ n ∧ n ≤ 21 then
    ⟨negative, digits ++ List.replicate (n - digits.length).toNat '0', [], 0⟩
  else if 0 < n ∧ n ≤ 21 then ⟨negative, digits.take n.toNat, digits.drop n.toNat, 0⟩
  else if -6 < n ∧ n ≤ 0 then ⟨negative, ['0'], List.replicate (-n).toNat '0' ++ digits, 0⟩
  else ⟨negative, digits.take 1, digits.drop 1, n - 1⟩

theorem toDigits_head (n : ℕ) : (Nat.toDigits 10 n).head? = some '0' → n = 0 := by
  induction n using Nat.strong_induction_on with
  | _ n ih =>
      intro first
      by_cases small : n < 10
      · have only : ∀ digit < 10, Nat.digitChar digit = '0' → digit = 0 := by decide
        rw [Nat.toDigits_of_lt_base small] at first
        exact only n small (Option.some.inj first)
      · have large : 10 ≤ n := not_lt.mp small
        rw [Nat.toDigits_of_base_le (by decide) large,
          List.head?_append_of_ne_nil _ Nat.toDigits_ne_nil] at first
        have zero := ih (n / 10) (by omega) first
        omega

theorem significant_digits (d : Scientific) : ∀ c ∈ d.significant, c.isDigit := by
  intro c member
  apply Nat.isDigit_of_mem_toDigits (b := 10) (n := d.digits) (by decide) (by decide)
  exact (List.rdropWhile_prefix _ _).subset member

/-- The zeros that were left out. -/
theorem toDigits_eq_significant (d : Scientific) :
    ∃ zeros : ℕ, Nat.toDigits 10 d.digits = d.significant ++ List.replicate zeros '0' := by
  refine ⟨((Nat.toDigits 10 d.digits).rtakeWhile (· = '0')).length, ?_⟩
  have onlyZeros : (Nat.toDigits 10 d.digits).rtakeWhile (· = '0')
      = List.replicate ((Nat.toDigits 10 d.digits).rtakeWhile (· = '0')).length '0' := by
    apply List.eq_replicate_of_mem
    intro c member
    exact of_decide_eq_true (List.mem_rtakeWhile_imp (p := fun c => decide (c = '0')) member)
  rw [← onlyZeros]
  exact (List.rdropWhile_append_rtakeWhile).symm

theorem significant_head {d : Scientific} (positive : 0 < d.digits) :
    d.significant ≠ [] ∧ d.significant.head? ≠ some '0' := by
  obtain ⟨zeros, split⟩ := d.toDigits_eq_significant
  have leading : (Nat.toDigits 10 d.digits).head? ≠ some '0' := fun first =>
    positive.ne' (toDigits_head _ first)
  have nonempty : d.significant ≠ [] := by
    intro empty
    rw [empty, List.nil_append] at split
    cases zeros with
    | zero => exact Nat.toDigits_ne_nil split
    | succ => exact leading (by rw [split]; rfl)
  refine ⟨nonempty, ?_⟩
  rw [split, List.head?_append_of_ne_nil _ nonempty] at leading
  exact leading

/-- The value, read off the significant digits and the point. -/
theorem value_eq_significant (d : Scientific) :
    d.value = Nat.ofDigitChars 10 d.significant 0 * 10 ^ (d.point - d.significant.length) := by
  obtain ⟨zeros, split⟩ := d.toDigits_eq_significant
  have digits : d.digits = 10 ^ zeros * Nat.ofDigitChars 10 d.significant 0 := by
    rw [← Nat.ofDigitChars_replicate_zero, ← Nat.ofDigitChars_append, ← split,
      Nat.ofDigitChars_ten_toDigits]
  have point : d.point - d.significant.length = zeros + d.place := by
    rw [Scientific.point, split, List.length_append, List.length_replicate]
    push_cast
    ring
  rw [point, zpow_add₀ (by decide), zpow_natCast, value]
  conv_lhs => rw [digits]
  push_cast
  ring

theorem take_wellFormed {d : Scientific} (positive : 0 < d.digits) (negative : Bool) {k : ℕ}
    (some : 0 < k) (exponent : ℤ) :
    Numeral.WellFormed ⟨negative, d.significant.take k, d.significant.drop k, exponent⟩ := by
  obtain ⟨nonempty, leading⟩ := significant_head positive
  have digits := d.significant_digits
  refine ⟨fun c member => digits c (List.mem_of_mem_take member),
    fun c member => digits c (List.mem_of_mem_drop member), ?_, ?_⟩
  · simp [nonempty, some.ne']
  · intro first
    rw [List.head?_take, if_neg some.ne'] at first
    exact absurd first leading

theorem numeral_wellFormed {d : Scientific} (positive : 0 < d.digits) (negative : Bool) :
    (d.numeral negative).WellFormed := by
  obtain ⟨nonempty, leading⟩ := significant_head positive
  have digits := d.significant_digits
  have zeroDigit : ∀ {count : ℕ} {c : Char}, c ∈ List.replicate count '0' → c.isDigit := by
    intro count c member
    rw [List.eq_of_mem_replicate member]
    decide
  unfold numeral
  dsimp only
  split_ifs with integer within small
  · refine ⟨?_, by simp, by simp [nonempty], ?_⟩
    · intro c member
      rcases List.mem_append.mp member with found | found
      · exact digits c found
      · exact zeroDigit found
    · intro first
      rw [List.head?_append_of_ne_nil _ nonempty] at first
      exact absurd first leading
  · exact take_wellFormed positive negative (by omega) 0
  · refine ⟨?_, ?_, by simp, fun _ => rfl⟩
    · intro c member
      rw [List.mem_singleton.mp member]
      decide
    · intro c member
      rcases List.mem_append.mp member with found | found
      · exact zeroDigit found
      · exact digits c found
  · exact take_wellFormed positive negative (by decide) _

theorem numeral_magnitude {d : Scientific} (positive : 0 < d.digits) (negative : Bool) :
    (d.numeral negative).magnitude.value = d.value := by
  obtain ⟨nonempty, _⟩ := significant_head positive
  have length : 0 < d.significant.length := List.length_pos_iff.mpr nonempty
  rw [value_eq_significant d]
  unfold numeral
  dsimp only
  split_ifs with integer within small
  · have zeros : d.point - d.significant.length
        = ((d.point - d.significant.length).toNat : ℤ) := by omega
    rw [zeros, zpow_natCast]
    simp [Numeral.magnitude, value, Nat.ofDigitChars_append, Nat.ofDigitChars_replicate_zero,
      mul_comm]
  · have places : (0 : ℤ) - (d.significant.drop d.point.toNat).length
        = d.point - d.significant.length := by
      rw [List.length_drop]
      omega
    simp only [Numeral.magnitude, value, List.take_append_drop, places]
  · have places : (0 : ℤ) - (List.replicate (-d.point).toNat '0' ++ d.significant).length
        = d.point - d.significant.length := by
      rw [List.length_append, List.length_replicate]
      push_cast
      omega
    have leadingZeros : Nat.ofDigitChars 10
        (['0'] ++ (List.replicate (-d.point).toNat '0' ++ d.significant)) 0
          = Nat.ofDigitChars 10 d.significant 0 := by
      rw [List.singleton_append, ← List.cons_append, ← List.replicate_succ,
        Nat.ofDigitChars_append, Nat.ofDigitChars_replicate_zero, mul_zero]
    simp only [Numeral.magnitude, value, places, leadingZeros]
  · have places : d.point - 1 - (d.significant.drop 1).length
        = d.point - d.significant.length := by
      rw [List.length_drop]
      omega
    simp only [Numeral.magnitude, value, List.take_append_drop, places]

end Scientific

namespace Binary64

def numeral (x : Binary64) : Numeral :=
  if x.value = 0 then ⟨false, ['0'], [], 0⟩
  else if x.value < 0 then (-x).shortest.numeral true
  else x.shortest.numeral false

theorem numeral_wellFormed (x : Binary64) : x.numeral.WellFormed := by
  unfold numeral
  split_ifs with zero negative
  · have zeroDigit : ∀ c ∈ ['0'], c.isDigit = true := by
      intro c member
      rw [List.mem_singleton.mp member]
      rfl
    exact ⟨zeroDigit, by simp, by simp, fun _ => rfl⟩
  · exact Scientific.numeral_wellFormed (shortest_digits_pos (neg_pos.mpr negative)) true
  · have positive := lt_of_le_of_ne (not_lt.mp negative) (Ne.symm zero)
    exact Scientific.numeral_wellFormed (shortest_digits_pos positive) false

theorem numeral_negative (d : Scientific) (negative : Bool) :
    (d.numeral negative).negative = negative := by
  unfold Scientific.numeral
  dsimp only
  split_ifs <;> rfl

/-- The numeral of a number is nearest to that number. -/
theorem numeral_rounds (x : Binary64) : ofRat x.numeral.value = x := by
  have same : nearest x.numeral.value = x.value := by
    unfold numeral
    split_ifs with zero negative
    · rw [zero]
      simp [Numeral.value, Numeral.magnitude, Scientific.value, Nat.ofDigitChars_cons]
    · have positive : 0 < (-x).value := neg_pos.mpr negative
      have rounds := shortest_rounds positive
      rw [Numeral.value, numeral_negative, if_pos rfl,
        Scientific.numeral_magnitude (shortest_digits_pos positive), nearest_neg, rounds]
      exact neg_neg x.value
    · have positive := lt_of_le_of_ne (not_lt.mp negative) (Ne.symm zero)
      rw [Numeral.value, numeral_negative, if_neg Bool.false_ne_true,
        Scientific.numeral_magnitude (shortest_digits_pos positive), shortest_rounds positive]
  cases x
  simp only [ofRat, mk.injEq]
  exact same

theorem numeral_of_nonneg {x : Binary64} (nonneg : 0 ≤ x.value) : x.numeral.negative = false := by
  unfold numeral
  rw [if_neg (not_lt.mpr nonneg)]
  split_ifs
  · rfl
  · exact numeral_negative _ _

theorem numeral_value_nonneg {x : Binary64} (nonneg : 0 ≤ x.value) : 0 ≤ x.numeral.value := by
  rw [Numeral.value, numeral_of_nonneg nonneg, if_neg Bool.false_ne_true]
  exact Scientific.value_nonneg _

/-- The numerals of two numbers are ordered as the numbers are. -/
theorem numeral_value_mono {x y : Binary64} (ordered : x ≤ y) :
    x.numeral.value ≤ y.numeral.value := by
  rcases eq_or_lt_of_le ordered with rfl | less
  · exact le_rfl
  · by_contra greater
    have back := nearest_mono (not_le.mp greater).le
    have first := congrArg value (numeral_rounds x)
    have second := congrArg value (numeral_rounds y)
    change nearest _ = _ at first second
    rw [first, second] at back
    exact absurd less (not_lt.mpr back)

theorem numeral_value_strictMono {x y : Binary64} (less : x.value < y.value) :
    x.numeral.value < y.numeral.value := by
  apply lt_of_le_of_ne (numeral_value_mono (x := x) (y := y) less.le)
  intro same
  have rounds := numeral_rounds x
  rw [same, numeral_rounds y] at rounds
  rw [rounds] at less
  exact lt_irrefl _ less

/-- A whole number of millionths, up to a million, is written as itself. -/
theorem numeral_of_millionths {q : ℚ} {n : ℕ} (grid : q = n / 1000000) (small : q ≤ 1000000) :
    (ofRat q).numeral.value = q := by
  have nonneg : 0 ≤ q := by
    rw [grid]
    positivity
  have error := abs_nearest_sub_le_of_le (q := q) (by rw [abs_of_nonneg nonneg]; linarith)
  rcases eq_or_lt_of_le nonneg with zero | positive
  · rw [← zero, show ofRat 0 = ⟨0, nearest_zero⟩ by simp [ofRat, nearest_zero], numeral, if_pos rfl]
    simp [Numeral.value, Numeral.magnitude, Scientific.value, Nat.ofDigitChars_cons]
  · have counted : 0 < n := by
      apply Nat.pos_of_ne_zero
      intro none_
      rw [grid, none_] at positive
      norm_num at positive
    have least : (1 : ℚ) ≤ n := by exact_mod_cast counted
    obtain ⟨low, _⟩ := abs_le.mp error
    have xPositive : 0 < (ofRat q).value := by
      change 0 < nearest q
      rw [grid] at low ⊢
      linarith
    rw [Numeral.value, numeral_of_nonneg xPositive.le, if_neg Bool.false_ne_true, numeral,
      if_neg xPositive.ne', if_neg (not_lt.mpr xPositive.le),
      Scientific.numeral_magnitude (shortest_digits_pos xPositive)]
    exact shortest_of_millionths rfl grid positive small

theorem numeral_value_natCast {x : Binary64} {n : ℕ} (whole : x.value = n) (small : n ≤ 1000000) :
    x.numeral.value = n := by
  have same : ofRat n = x := by
    cases x with
    | mk value rounded =>
        change value = n at whole
        simp only [ofRat, mk.injEq]
        rw [← whole, rounded]
  have bound : (n : ℚ) ≤ 1000000 := by exact_mod_cast small
  have written := numeral_of_millionths (q := n) (n := n * 1000000)
    (by push_cast; ring) bound
  rwa [same] at written

theorem numeral_value_pos {x : Binary64} (positive : 0 < x.value) : 0 < x.numeral.value := by
  have zero : (⟨0, nearest_zero⟩ : Binary64).numeral.value = 0 := by
    have written := numeral_value_natCast (x := ⟨0, nearest_zero⟩) (n := 0) Nat.cast_zero.symm
      (Nat.zero_le _)
    exact written.trans Nat.cast_zero
  have less := numeral_value_strictMono (x := ⟨0, nearest_zero⟩) positive
  rwa [zero] at less

end Binary64

/-- A number of a script engine, without the one that is not a number. -/
inductive Number where
  | finite (value : Binary64) (bounded : |value.value| < 2 ^ 1024)
  | infinite (negative : Bool)
  deriving DecidableEq

namespace Number

def isFinite : Number → Bool
  | finite _ _ => true
  | infinite _ => false

def ofRat (q : ℚ) : Number :=
  if bounded : |(Binary64.ofRat q).value| < 2 ^ 1024 then finite (.ofRat q) bounded
  else infinite (q < 0)

/-- How a JSON text writes a number; it has no infinities. -/
def text : Number → List Char
  | finite value _ => value.numeral.text
  | infinite _ => ['n', 'u', 'l', 'l']

def read (text : List Char) : Option (Number × List Char) :=
  (Numeral.read text).map fun (m, rest) => (ofRat m.value, rest)

theorem text_head {x : Number} (finite : x.isFinite) :
    ∃ c tail, x.text = c :: tail ∧ (c = '-' ∨ c.isDigit) := by
  cases x with
  | infinite => exact absurd finite Bool.false_ne_true
  | finite value _ => exact Numeral.text_head value.numeral_wellFormed

theorem read_text {x : Number} (finite : x.isFinite) {rest : List Char}
    (ends : Numeral.Ends rest) : read (x.text ++ rest) = some (x, rest) := by
  cases x with
  | infinite => exact absurd finite Bool.false_ne_true
  | finite value bounded =>
      have rounds := value.numeral_rounds
      unfold read text
      rw [Numeral.read_text value.numeral_wellFormed ends, Option.map_some]
      simp only [ofRat, rounds, bounded, dif_pos]

end Number

end TenantTrust.Library
