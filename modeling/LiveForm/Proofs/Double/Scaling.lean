import LiveForm.Double.Scaling
import LiveForm.Proofs.Double.Numeral

/-!
# When reading step by step is exact

Each step rounds the exact result of its operation. Up to `10 ^ 22` a power of ten is a double
itself, and so is a whole number of at most 53 bits. For such a numeral only the last step rounds,
and it is read as the nearest double. Beyond that a numeral may be read as another one.
-/

namespace LiveForm

namespace Double

variable {negative : Bool}

namespace Finite

theorem ratio_snd_pos (x : Finite) : 0 < x.ratio.2 := by
  unfold ratio
  split_ifs
  · exact one_pos
  · exact Nat.pow_pos two_pos

theorem ratio_div_eq_magnitude (x : Finite) : (x.ratio.1 : ℚ) / x.ratio.2 = x.magnitude := by
  rw [ratio, magnitude]
  split_ifs with sign
  · obtain ⟨n, whole⟩ := Int.eq_ofNat_of_zero_le sign
    simp [whole]
  · obtain ⟨n, below⟩ := Int.exists_eq_neg_ofNat (not_le.1 sign).le
    simp [below, div_eq_mul_inv]

theorem mul_eq_nearest (x y : Finite) :
    x.mul y = nearest (x.negative != y.negative) (x.magnitude * y.magnitude) := by
  rw [mul, ofQuotient_eq_nearest _ _ (Nat.mul_pos x.ratio_snd_pos y.ratio_snd_pos),
    ← ratio_div_eq_magnitude, ← ratio_div_eq_magnitude, div_mul_div_comm]
  push_cast
  rfl

theorem div_eq_nearest (x y : Finite) (pos : 0 < y.magnitude) :
    x.div y = nearest (x.negative != y.negative) (x.magnitude / y.magnitude) := by
  have divisor : 0 < y.ratio.1 := by
    rw [← ratio_div_eq_magnitude] at pos
    have posQ := (div_pos_iff_of_pos_right (by exact_mod_cast y.ratio_snd_pos)).1 pos
    exact_mod_cast posQ
  rw [div, ofQuotient_eq_nearest _ _ (Nat.mul_pos x.ratio_snd_pos divisor),
    ← ratio_div_eq_magnitude, ← ratio_div_eq_magnitude, div_div_div_eq]
  push_cast
  rfl

/-- A number of at most 53 bits, shifted to the left, is a double. -/
theorem exists_magnitude (negative : Bool) {bits : ℕ} (short : bits < 2 ^ 53) {shift : ℕ}
    (low : shift ≤ 971) :
    ∃ x : Finite, x.negative = negative ∧ x.magnitude = bits * 2 ^ shift := by
  rcases Nat.eq_zero_or_pos bits with rfl | pos
  · exact ⟨.zero negative, rfl, by simp [zero, magnitude]⟩
  -- The bits are moved up until the highest of them is the fifty-third.
  have log : bits.log2 < 53 := (Nat.log2_lt pos.ne').2 short
  have shifted : bits * 2 ^ (52 - bits.log2) < 2 ^ 53 := by
    calc bits * 2 ^ (52 - bits.log2) < 2 ^ (bits.log2 + 1) * 2 ^ (52 - bits.log2) := by
          gcongr
          exact Nat.lt_log2_self
      _ = 2 ^ 53 := by rw [← pow_add]; congr 1; omega
  have full : 2 ^ 52 ≤ bits * 2 ^ (52 - bits.log2) := by
    calc 2 ^ 52 = 2 ^ bits.log2 * 2 ^ (52 - bits.log2) := by rw [← pow_add]; congr 1; omega
      _ ≤ bits * 2 ^ (52 - bits.log2) := by
          gcongr
          exact Nat.log2_self_le pos.ne'
  refine ⟨⟨negative, bits * 2 ^ (52 - bits.log2), shift - (52 - bits.log2 : ℕ),
    ⟨shifted, by omega, by omega, .inl full⟩⟩, rfl, ?_⟩
  rw [magnitude]
  push_cast
  rw [mul_assoc, ← zpow_natCast, ← zpow_add₀ two_ne_zero, ← zpow_natCast]
  congr 2
  omega

end Finite

theorem nearest_eq_finite {x : Finite} {q : ℚ} (sign : x.negative = negative)
    (same : x.magnitude = q) : nearest negative q = finite x := by
  rw [← sign, ← same, nearest_magnitude]

theorem exists_tenTo {k : ℕ} (small : k ≤ 22) :
    ∃ x : Finite, tenTo k = finite x ∧ x.negative = false ∧ x.magnitude = 10 ^ k := by
  have short : 5 ^ k < 2 ^ 53 := by
    calc 5 ^ k ≤ 5 ^ 22 := Nat.pow_le_pow_right (by norm_num) small
      _ < 2 ^ 53 := by norm_num
  obtain ⟨x, sign, shifted⟩ := Finite.exists_magnitude false short (show k ≤ 971 by omega)
  have power : x.magnitude = 10 ^ k := by
    rw [shifted]
    push_cast
    rw [← mul_pow]
    norm_num
  refine ⟨x, ?_, sign, power⟩
  rw [tenTo, ofDecimal_eq_nearest]
  exact nearest_eq_finite sign (by rw [power]; simp)

/-- A power of ten that is a double is multiplied in or divided out with one rounding. -/
theorem Finite.scale?_eq_nearest (x : Finite) {exponent : ℤ} (small : exponent.natAbs ≤ 22) :
    x.scale? exponent = (nearest x.negative (x.magnitude * 10 ^ exponent)).finite? := by
  rw [scale?]
  split_ifs with sign
  · obtain ⟨k, rfl⟩ := Int.eq_ofNat_of_zero_le sign
    obtain ⟨ten, power, positive, magnitude⟩ := exists_tenTo (k := k) (by omega)
    simp [raise?, show k ≤ 308 by omega, power, finite?, mul_eq_nearest, positive, magnitude]
  · obtain ⟨k, rfl⟩ := Int.exists_eq_neg_ofNat (not_le.1 sign).le
    obtain ⟨ten, power, positive, magnitude⟩ := exists_tenTo (k := k) (by omega)
    have pos : 0 < ten.magnitude := by rw [magnitude]; positivity
    have few : (- -(k : ℤ)).toNat = k := by omega
    rw [few, lower?, if_pos (by omega), power]
    simp [finite?, div_eq_nearest _ _ pos, positive, magnitude, div_eq_mul_inv]

end Double

namespace Numeral

theorem le_ofDigitChars (n : ℕ) (digits : List Char) : n ≤ Nat.ofDigitChars 10 digits n := by
  induction digits generalizing n with
  | nil => exact le_rfl
  | cons c rest ih =>
    rw [Nat.ofDigitChars_cons]
    exact le_trans (by omega) (ih _)

theorem appendDigits_eq {n : ℕ} {digits : List Char}
    (fits : Nat.ofDigitChars 10 digits n < 0x10000000000000000) :
    appendDigits n digits = (Nat.ofDigitChars 10 digits n, 0) := by
  induction digits generalizing n with
  | nil => rfl
  | cons c rest ih =>
    rw [Nat.ofDigitChars_cons] at fits ⊢
    rw [appendDigits, if_pos ((le_ofDigitChars _ rest).trans_lt fits), ih fits]

/-- A numeral of at most 53 bits that is scaled by at most 22 powers of ten is read as the nearest
double. -/
theorem stepwise?_eq_finite?_toDouble (n : Numeral)
    (short : digitsValue (n.whole ++ n.fraction.getD []) < 2 ^ 53)
    (small : (n.exponent.getD 0 - (n.fraction.getD []).length).natAbs ≤ 22) :
    n.stepwise? = n.toDouble.finite? := by
  have fits := short.trans (show 2 ^ 53 < 0x10000000000000000 by norm_num)
  rw [digitsValue_eq_ofDigitChars, Nat.ofDigitChars_append] at fits
  have whole := appendDigits_eq ((le_ofDigitChars _ _).trans_lt fits)
  have all := appendDigits_eq fits
  obtain ⟨x, sign, magnitude⟩ :=
    Double.Finite.exists_magnitude n.negative short (show 0 ≤ 971 by omega)
  rw [pow_zero, mul_one] at magnitude
  have exact : Double.ofQuotient n.negative (digitsValue (n.whole ++ n.fraction.getD [])) 1 =
      .finite x := by
    rw [Double.ofQuotient_eq_nearest _ _ one_pos, Nat.cast_one, div_one]
    exact Double.nearest_eq_finite sign magnitude
  rw [digitsValue_eq_ofDigitChars, Nat.ofDigitChars_append] at exact
  rw [toDouble_eq_nearest, value, ← magnitude, ← sign, ← x.scale?_eq_nearest small]
  simp [stepwise?, whole, all, exact, Double.finite?]

-- Without the point the digits have 57 bits, and are rounded before they are divided by ten.
example :
    let n : Numeral := ⟨none, "9007199254740993".toList, some ['0'], none⟩
    n.stepwise? ≠ n.toDouble.finite? := by
  decide +kernel

end Numeral

end LiveForm
