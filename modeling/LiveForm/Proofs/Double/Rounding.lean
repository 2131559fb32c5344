import LiveForm.Double.Rounding
import Mathlib.Algebra.Order.Field.Power
import Mathlib.Algebra.Order.Floor.Semifield
import Mathlib.Data.Int.Log
import Mathlib.Data.Rat.Floor
import Mathlib.Tactic.FieldSimp
import Mathlib.Tactic.Linarith
import Mathlib.Tactic.NormNum
import Mathlib.Tactic.Positivity
import Mathlib.Tactic.Ring

/-!
# The nearest double of a rational number

`Double.nearest` rounds a non-negative rational number to a double, with the exponent given by the
logarithm and no quotient of natural numbers in sight. `Double.ofQuotient`, `Double.ofInt` and
`Double.ofDecimal` are this one function, each at the rational number that it is given, so two
spellings of one number are the same double whatever their digits, their exponents and the cut-offs
that the decimal reader takes. A finite double is the nearest one of its own magnitude.
-/

namespace LiveForm.Double

/-- A non-negative rational number rounded to a whole number, a tie going to the even one. -/
def nearestWhole (q : ℚ) : ℕ :=
  if 2 * (q - ⌊q⌋₊) < 1 then ⌊q⌋₊
  else if 1 < 2 * (q - ⌊q⌋₊) then ⌊q⌋₊ + 1
  else ⌊q⌋₊ + ⌊q⌋₊ % 2

/-- The exponent of the doubles around a positive rational number. -/
def gridExponent (q : ℚ) : ℤ := max (Int.log 2 q - 52) (-1074)

/-- The double nearest to `± q`, a tie going to the even significand. -/
def nearest (negative : Bool) (q : ℚ) : Double :=
  if q = 0 then finite (.zero negative)
  else ofParts negative (nearestWhole (q / 2 ^ gridExponent q)) (gridExponent q)

def Finite.magnitude (x : Finite) : ℚ := x.significand * 2 ^ x.exponent

variable {q : ℚ} {negative : Bool}

/-! ### Rounding to a whole number -/

theorem roundHalfEven_eq_nearestWhole (a : ℕ) {b : ℕ} (pos : 0 < b) :
    roundHalfEven a b = nearestWhole (a / b) := by
  have posQ : (0 : ℚ) < b := by exact_mod_cast pos
  have floor : ⌊(a : ℚ) / b⌋₊ = a / b := Nat.floor_div_eq_div a b
  have rest : 2 * ((a : ℚ) / b - (a / b : ℕ)) = (2 * (a % b) : ℕ) / b := by
    have split : (a : ℚ) = b * (a / b : ℕ) + (a % b : ℕ) := by
      exact_mod_cast (Nat.div_add_mod a b).symm
    nth_rewrite 1 [split]
    push_cast
    field_simp
    ring
  have below : 2 * ((a : ℚ) / b - (a / b : ℕ)) < 1 ↔ 2 * (a % b) < b := by
    rw [rest, div_lt_one posQ, Nat.cast_lt]
  have above : 1 < 2 * ((a : ℚ) / b - (a / b : ℕ)) ↔ b < 2 * (a % b) := by
    rw [rest, one_lt_div posQ, Nat.cast_lt]
  simp only [roundHalfEven, nearestWhole, floor, below, above]

@[simp] theorem nearestWhole_natCast (n : ℕ) : nearestWhole n = n := by
  simp [nearestWhole]

theorem nearestWhole_le {n : ℕ} (nonneg : 0 ≤ q) (le : q ≤ n) : nearestWhole q ≤ n := by
  rcases le.lt_or_eq with lt | rfl
  · have floor : ⌊q⌋₊ < n := (Nat.floor_lt nonneg).2 lt
    unfold nearestWhole
    split_ifs <;> omega
  · rw [nearestWhole_natCast]

theorem le_nearestWhole {n : ℕ} (le : (n : ℚ) ≤ q) : n ≤ nearestWhole q := by
  have floor : n ≤ ⌊q⌋₊ := Nat.le_floor le
  unfold nearestWhole
  split_ifs <;> omega

theorem nearestWhole_eq_zero (small : 2 * q < 1) : nearestWhole q = 0 := by
  have floor : ⌊q⌋₊ = 0 := Nat.floor_eq_zero.2 (by linarith)
  simp [nearestWhole, floor, small]

/-! ### The exponent -/

/-- A power of two moved to the side of a quotient where its exponent is a natural number. -/
theorem scaled_le_iff (a : ℕ) {b : ℕ} (pos : 0 < b) (k : ℤ) :
    (if 0 ≤ k then b * Nat.pow 2 k.toNat ≤ a else b ≤ a * Nat.pow 2 (-k).toNat) ↔
      (2 : ℚ) ^ k ≤ a / b := by
  have posQ : (0 : ℚ) < b := by exact_mod_cast pos
  rw [le_div_iff₀ posQ]
  split_ifs with sign
  · obtain ⟨n, rfl⟩ := Int.eq_ofNat_of_zero_le sign
    rw [Int.toNat_natCast, zpow_natCast, mul_comm]
    exact_mod_cast Iff.rfl
  · obtain ⟨n, rfl⟩ := Int.exists_eq_neg_ofNat (not_le.1 sign).le
    rw [neg_neg, Int.toNat_natCast, zpow_neg, zpow_natCast, inv_mul_le_iff₀ (by positivity),
      mul_comm]
    exact_mod_cast Iff.rfl

theorem binaryExponent_eq_log {a b : ℕ} (posA : 0 < a) (posB : 0 < b) :
    binaryExponent a b = Int.log 2 (a / b : ℚ) := by
  have posQ : (0 : ℚ) < a / b := by positivity
  set guess : ℤ := (a.log2 : ℤ) - b.log2 with hguess
  have lowA : (2 : ℚ) ^ (a.log2 : ℤ) ≤ a := by exact_mod_cast Nat.log2_self_le posA.ne'
  have highA : (a : ℚ) < 2 ^ (a.log2 + 1 : ℤ) := by exact_mod_cast Nat.lt_log2_self
  have lowB : (2 : ℚ) ^ (b.log2 : ℤ) ≤ b := by exact_mod_cast Nat.log2_self_le posB.ne'
  have highB : (b : ℚ) < 2 ^ (b.log2 + 1 : ℤ) := by exact_mod_cast Nat.lt_log2_self
  -- The bit lengths bound the quotient by `2 ^ (guess - 1)` and `2 ^ (guess + 1)`, which leaves the
  -- one comparison that is made.
  have atLeast : guess - 1 ≤ Int.log 2 (a / b : ℚ) := by
    refine (Int.zpow_le_iff_le_log (by norm_num) posQ).1 ?_
    calc (2 : ℚ) ^ (guess - 1) = 2 ^ (a.log2 : ℤ) / 2 ^ (b.log2 + 1 : ℤ) := by
          rw [← zpow_sub₀ (by norm_num)]; congr 1; omega
      _ ≤ a / b := by gcongr
  have atMost : Int.log 2 (a / b : ℚ) < guess + 1 := by
    refine (Int.lt_zpow_iff_log_lt (by norm_num) posQ).1 ?_
    calc (a / b : ℚ) < 2 ^ (a.log2 + 1 : ℤ) / 2 ^ (b.log2 : ℤ) :=
          div_lt_div₀ highA lowB (by positivity) (by positivity)
      _ = 2 ^ (guess + 1) := by rw [← zpow_sub₀ (by norm_num)]; congr 1; omega
  have reached := (scaled_le_iff a posB guess).trans
    (Int.zpow_le_iff_le_log (b := 2) (by norm_num) posQ)
  simp only [binaryExponent, ← hguess, reached]
  split_ifs <;> omega

/-- The significand that `ofQuotient` rounds to, on the grid of an exponent. -/
theorem significand_eq_nearestWhole (a : ℕ) {b : ℕ} (pos : 0 < b) (e : ℤ) :
    (if 0 ≤ e then roundHalfEven a (b * Nat.pow 2 e.toNat)
      else roundHalfEven (a * Nat.pow 2 (-e).toNat) b) = nearestWhole (a / b / 2 ^ e) := by
  split_ifs with sign
  · obtain ⟨n, rfl⟩ := Int.eq_ofNat_of_zero_le sign
    have scaled : 0 < b * 2 ^ n := by positivity
    rw [Int.toNat_natCast, Nat.pow_eq, roundHalfEven_eq_nearestWhole a scaled, zpow_natCast,
      div_div]
    push_cast
    rfl
  · obtain ⟨n, rfl⟩ := Int.exists_eq_neg_ofNat (not_le.1 sign).le
    rw [neg_neg, Int.toNat_natCast, Nat.pow_eq, roundHalfEven_eq_nearestWhole _ pos, zpow_neg,
      zpow_natCast, div_inv_eq_mul, div_mul_eq_mul_div]
    push_cast
    rfl

/-- A quotient rounds as the rational number that it is. -/
theorem ofQuotient_eq_nearest (negative : Bool) (a : ℕ) {b : ℕ} (pos : 0 < b) :
    ofQuotient negative a b = nearest negative (a / b) := by
  rcases Nat.eq_zero_or_pos a with rfl | posA
  · simp [ofQuotient, nearest]
  have posQ : (0 : ℚ) < a / b := by positivity
  rw [ofQuotient, nearest, if_neg posA.ne', if_neg posQ.ne', binaryExponent_eq_log posA pos,
    ← significand_eq_nearestWhole a pos, gridExponent]

/-! ### The ends of the range -/

/-- The significand on a number's own grid has at most 53 bits, and 53 of them but on the least
grid. -/
theorem nearestWhole_on_grid (pos : 0 < q) :
    nearestWhole (q / 2 ^ gridExponent q) ≤ 0x20000000000000 ∧
      (0x10000000000000 ≤ nearestWhole (q / 2 ^ gridExponent q) ∨ gridExponent q = -1074) := by
  have scale : (0 : ℚ) < 2 ^ gridExponent q := by positivity
  constructor
  · refine nearestWhole_le (by positivity) ((div_le_iff₀ scale).2 ?_)
    calc q ≤ 2 ^ (Int.log 2 q + 1) := (Int.lt_zpow_succ_log_self (by norm_num) q).le
      _ ≤ 2 ^ (53 + gridExponent q) :=
          zpow_le_zpow_right₀ one_le_two (by unfold gridExponent; omega)
      _ = (0x20000000000000 : ℕ) * 2 ^ gridExponent q := by
          rw [zpow_add₀ (by norm_num)]; norm_num
  · refine or_iff_not_imp_right.2 fun coarse => le_nearestWhole ((le_div_iff₀ scale).2 ?_)
    calc ((0x10000000000000 : ℕ) : ℚ) * 2 ^ gridExponent q = 2 ^ (52 + gridExponent q) := by
          rw [zpow_add₀ (by norm_num)]; norm_num
      _ = 2 ^ Int.log 2 q := by congr 1; unfold gridExponent at coarse ⊢; omega
      _ ≤ q := Int.zpow_log_le_self (by norm_num) pos

theorem ofParts_of_canonical {significand : ℕ} {exponent : ℤ}
    (canonical : Canonical significand exponent) :
    ofParts negative significand exponent =
      finite ⟨negative, significand, exponent, canonical⟩ := by
  have small : significand ≠ 0x20000000000000 := canonical.1.ne
  simp [ofParts, small, canonical]

theorem nearest_eq_infinite (large : 2 ^ (1024 : ℤ) ≤ q) :
    nearest negative q = .infinite negative := by
  have pos : 0 < q := lt_of_lt_of_le (by positivity) large
  have log : 1024 ≤ Int.log 2 q :=
    (Int.zpow_le_iff_le_log (by norm_num) pos).1 (by simpa using large)
  have exponent : 972 ≤ gridExponent q := by unfold gridExponent; omega
  rw [nearest, if_neg pos.ne', ofParts]
  split_ifs with carry <;> exact dif_neg fun canonical => by have := canonical.2.2.1; omega

theorem nearest_eq_zero (nonneg : 0 ≤ q) (small : q < 2 ^ (-1075 : ℤ)) :
    nearest negative q = finite (.zero negative) := by
  rcases nonneg.eq_or_lt with rfl | pos
  · rw [nearest, if_pos rfl]
  have log : Int.log 2 q < -1075 :=
    (Int.lt_zpow_iff_log_lt (by norm_num) pos).1 (by simpa using small)
  have exponent : gridExponent q = -1074 := by unfold gridExponent; omega
  have half : 2 * (q / 2 ^ (-1074 : ℤ)) < 1 := by
    rw [← mul_div_assoc, div_lt_one (by positivity)]
    calc 2 * q < 2 * 2 ^ (-1075 : ℤ) := by linarith
      _ = 2 ^ (-1074 : ℤ) := by
          rw [show (-1074 : ℤ) = 1 + -1075 from rfl, zpow_one_add₀ two_ne_zero]
  rw [nearest, if_neg pos.ne', exponent, nearestWhole_eq_zero half]
  exact ofParts_of_canonical (by decide)

theorem isFinite_nearest (nonneg : 0 ≤ q) (small : q < 2 ^ (1023 : ℤ)) :
    (nearest negative q).isFinite = true := by
  rcases nonneg.eq_or_lt with rfl | pos
  · rfl
  have log : Int.log 2 q < 1023 :=
    (Int.lt_zpow_iff_log_lt (by norm_num) pos).1 (by simpa using small)
  have least : -1074 ≤ gridExponent q := le_max_right _ _
  have greatest : gridExponent q ≤ 970 := by unfold gridExponent; omega
  obtain ⟨fits, full⟩ := nearestWhole_on_grid pos
  rw [nearest, if_neg pos.ne']
  by_cases carry : nearestWhole (q / 2 ^ gridExponent q) = 0x20000000000000
  · have canonical : Canonical 0x10000000000000 (gridExponent q + 1) :=
      ⟨by norm_num, by omega, by omega, .inl le_rfl⟩
    simp [ofParts, carry, canonical, isFinite]
  · rw [ofParts_of_canonical ⟨by omega, least, by omega, full⟩, isFinite]

/-! ### A double and its magnitude -/

theorem Finite.eq_zero_of_isZero {x : Finite} (zero : x.isZero = true) : x = .zero x.negative := by
  obtain ⟨negative, significand, exponent, canonical⟩ := x
  obtain rfl : significand = 0 := by simpa [isZero] using zero
  obtain ⟨-, -, -, normal | rfl⟩ := canonical
  · norm_num at normal
  · rfl

theorem Finite.gridExponent_magnitude {x : Finite} (pos : 0 < x.significand) :
    gridExponent x.magnitude = x.exponent := by
  obtain ⟨small, least, -, full⟩ := x.canonical
  have posQ : 0 < x.magnitude := by unfold magnitude; positivity
  have below : Int.log 2 x.magnitude < 53 + x.exponent := by
    refine (Int.lt_zpow_iff_log_lt (by norm_num) posQ).1 ?_
    have bits : (x.significand : ℚ) < 2 ^ (53 : ℤ) := by exact_mod_cast small
    rw [Nat.cast_ofNat, zpow_add₀ two_ne_zero, magnitude]
    gcongr
  have above (normal : 0x10000000000000 ≤ x.significand) :
      52 + x.exponent ≤ Int.log 2 x.magnitude := by
    refine (Int.zpow_le_iff_le_log (by norm_num) posQ).1 ?_
    have bits : (2 : ℚ) ^ (52 : ℤ) ≤ x.significand := by exact_mod_cast normal
    rw [Nat.cast_ofNat, zpow_add₀ two_ne_zero, magnitude]
    gcongr
  rw [gridExponent]
  rcases full with normal | subnormal
  · have := above normal
    omega
  · omega

/-- A finite double is the nearest one of its magnitude. -/
theorem nearest_magnitude (x : Finite) : nearest x.negative x.magnitude = finite x := by
  rcases Nat.eq_zero_or_pos x.significand with zero | pos
  · have same := Finite.eq_zero_of_isZero (x := x) (by simp [Finite.isZero, zero])
    rw [nearest, if_pos (by simp [Finite.magnitude, zero]), ← same]
  · have posQ : 0 < x.magnitude := by unfold Finite.magnitude; positivity
    have whole : x.magnitude / 2 ^ x.exponent = x.significand :=
      mul_div_cancel_right₀ _ (by positivity)
    rw [nearest, if_neg posQ.ne', Finite.gridExponent_magnitude pos, whole, nearestWhole_natCast,
      ofParts_of_canonical x.canonical]

/-! ### Integers and decimals -/

theorem ofInt_eq_nearest (n : ℤ) : ofInt n = nearest (n < 0) n.natAbs := by
  rw [ofInt, ofQuotient_eq_nearest _ _ one_pos, Nat.cast_one, div_one]

theorem isFinite_ofInt {n : ℤ} (small : n.natAbs < 2 ^ 64) : (ofInt n).isFinite = true := by
  rw [ofInt_eq_nearest]
  refine isFinite_nearest (by positivity) ?_
  calc (n.natAbs : ℚ) < 2 ^ (64 : ℤ) := by exact_mod_cast small
    _ ≤ 2 ^ (1023 : ℤ) := zpow_le_zpow_right₀ one_le_two (by norm_num)

/-- A decimal rounds as the rational number that it is: where the power of ten is not computed, the
number is beyond the end of the range. -/
theorem ofDecimal_eq_nearest (negative : Bool) (digits : ℕ) (exponent : ℤ) :
    ofDecimal negative digits exponent = nearest negative (digits * 10 ^ exponent) := by
  rcases Nat.eq_zero_or_pos digits with rfl | pos
  · simp [ofDecimal, nearest]
  rw [ofDecimal, if_neg pos.ne']
  split_ifs with overflow underflow sign
  · have one : (1 : ℚ) ≤ digits := by exact_mod_cast pos
    refine (nearest_eq_infinite ?_).symm
    have range : 2 ^ 1024 ≤ 10 ^ 310 := by decide +kernel
    calc (2 : ℚ) ^ (1024 : ℤ) ≤ 10 ^ (310 : ℤ) := by exact_mod_cast range
      _ ≤ 10 ^ exponent := zpow_le_zpow_right₀ (by norm_num) overflow.le
      _ ≤ digits * 10 ^ exponent := le_mul_of_one_le_left (by positivity) one
  · refine (nearest_eq_zero (by positivity) ?_).symm
    have range : 2 ^ 1075 < 10 ^ 330 := by decide +kernel
    -- The digits are counted by their bits, of which there are no fewer.
    have log : (digits : ℚ) < 10 ^ (digits.log2 + 1 : ℤ) := by
      have binary : digits < 2 ^ (digits.log2 + 1) := Nat.lt_log2_self
      exact_mod_cast binary.trans_le (Nat.pow_le_pow_left (by norm_num) _)
    calc (digits : ℚ) * 10 ^ exponent < 10 ^ (digits.log2 + 1 : ℤ) * 10 ^ exponent := by gcongr
      _ = 10 ^ (digits.log2 + 1 + exponent : ℤ) := (zpow_add₀ (by norm_num) _ _).symm
      _ ≤ 10 ^ (-330 : ℤ) := zpow_le_zpow_right₀ (by norm_num) (by omega)
      _ < 2 ^ (-1075 : ℤ) := by
          rw [zpow_neg, zpow_neg]
          exact inv_strictAnti₀ (by positivity) (by exact_mod_cast range)
  · obtain ⟨n, rfl⟩ := Int.eq_ofNat_of_zero_le sign
    rw [Int.toNat_natCast, Nat.pow_eq, ofQuotient_eq_nearest _ _ one_pos, zpow_natCast]
    push_cast
    rw [div_one]
  · obtain ⟨n, rfl⟩ := Int.exists_eq_neg_ofNat (not_le.1 sign).le
    rw [neg_neg, Int.toNat_natCast, Nat.pow_eq, ofQuotient_eq_nearest _ _ (by positivity), zpow_neg,
      zpow_natCast, ← div_eq_mul_inv]
    push_cast
    rfl

end LiveForm.Double
