import LiveForm.Double.Shortest
import LiveForm.Proofs.Double.Rounding

/-!
# The shortest decimal reads back

Whatever the search for few digits comes to, the decimal of a finite double stands for that double:
a decimal that was found has been read back already, the exact one has the value of the double, and
moving zeros between the digits and the exponent changes no value.
-/

namespace LiveForm.Double

namespace Decimal

def value (d : Decimal) : ℚ := d.digits * 10 ^ d.exponent

theorem toDouble_eq_nearest (d : Decimal) (negative : Bool) :
    d.toDouble negative = nearest negative d.value :=
  ofDecimal_eq_nearest negative d.digits d.exponent

theorem value_shift {d : Decimal} (zero : d.digits % 10 = 0) :
    value ⟨d.digits / 10, d.exponent + 1⟩ = d.value := by
  have split : (d.digits : ℚ) = (d.digits / 10 : ℕ) * 10 := by
    exact_mod_cast (Nat.div_mul_cancel (Nat.dvd_of_mod_eq_zero zero)).symm
  rw [value, value, split, zpow_add_one₀ (by norm_num)]
  ring

@[simp] theorem value_normalize (bound : ℕ) (d : Decimal) :
    (d.normalize bound).value = d.value := by
  induction bound generalizing d with
  | zero => rfl
  | succ bound ih =>
    rw [normalize]
    split_ifs with trailing
    · rw [ih, value_shift trailing.2]
    · rfl

end Decimal

namespace Finite

theorem value_exactDecimal (x : Finite) : x.exactDecimal.value = x.magnitude := by
  rw [exactDecimal, magnitude]
  split_ifs with sign
  · obtain ⟨n, whole⟩ := Int.eq_ofNat_of_zero_le sign
    simp [Decimal.value, whole]
  · obtain ⟨n, whole⟩ := Int.exists_eq_neg_ofNat (not_le.1 sign).le
    have power : (-x.exponent).toNat = n := by omega
    have ten : (10 : ℚ) ^ n = 5 ^ n * 2 ^ n := by rw [← mul_pow]; norm_num
    rw [Decimal.value, power, whole, Nat.pow_eq, zpow_neg, zpow_neg, zpow_natCast, zpow_natCast,
      ten]
    push_cast
    field_simp

/-- What the search keeps has been read back. -/
theorem toDouble_of_candidate? {x : Finite} {tie : Tie} {k : ℤ} {d : Decimal}
    (found : x.candidate? tie k = some d) : d.toDouble x.negative = finite x := by
  rw [candidate?] at found
  dsimp only at found
  generalize neighbours x.ratio.1 x.ratio.2 k = next at found
  obtain ⟨below, above, side⟩ := next
  cases hitBelow : below.toDouble x.negative == finite x <;>
    cases hitAbove : above.toDouble x.negative == finite x <;>
    simp only [hitBelow, hitAbove] at found
  · cases found
  · obtain rfl := Option.some.inj found
    exact eq_of_beq hitAbove
  · obtain rfl := Option.some.inj found
    exact eq_of_beq hitBelow
  · -- Both read back, and it does not matter which of them the tie prefers.
    have either : d = below ∨ d = above := by
      split at found
      · exact .inl (Option.some.inj found).symm
      · exact .inr (Option.some.inj found).symm
      · cases tie with
        | toEven =>
          dsimp only at found
          split_ifs at found
          · exact .inl (Option.some.inj found).symm
          · exact .inr (Option.some.inj found).symm
        | up => exact .inr (Option.some.inj found).symm
    rcases either with rfl | rfl
    · exact eq_of_beq hitBelow
    · exact eq_of_beq hitAbove

/-- The decimal of a finite double stands for it. -/
theorem toDouble_shortest (x : Finite) (tie : Tie) :
    (x.shortest tie).toDouble x.negative = finite x := by
  rw [shortest]
  split_ifs with zero
  · rw [eq_zero_of_isZero zero]
    rfl
  · rw [Decimal.toDouble_eq_nearest, Decimal.value_normalize, ← Decimal.toDouble_eq_nearest]
    cases search : (List.range 17).findSome? fun n : ℕ =>
        x.candidate? tie (decimalExponent x.ratio.1 x.ratio.2 - n) with
    | none =>
      rw [Option.getD_none, Decimal.toDouble_eq_nearest, value_exactDecimal, nearest_magnitude]
    | some d =>
      obtain ⟨n, -, found⟩ := List.exists_of_findSome?_eq_some search
      exact toDouble_of_candidate? found

end Finite

end LiveForm.Double
