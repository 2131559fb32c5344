import LiveForm.Double.Basic

/-!
# Rounding a quotient to the nearest double

`Double.ofQuotient` is the one place where an exact value becomes a double: it takes a
quotient of natural numbers and picks the nearest representable value, a tie going to the
even significand. Integers and decimal numerals are read through it.
-/

namespace LiveForm.Double

/-- The quotient of `a` by `b` rounded to a whole number, a tie going to the even one. -/
def roundHalfEven (a b : Nat) : Nat :=
  let whole := a / b
  let rest := 2 * (a % b)
  if rest < b then whole
  else if b < rest then whole + 1
  else whole + whole % 2

/-- The exponent `k` with `2 ^ k ≤ a / b < 2 ^ (k + 1)`, for positive `a` and `b`. -/
def binaryExponent (a b : Nat) : Int :=
  let guess : Int := (a.log2 : Int) - b.log2
  let reached :=
    if 0 ≤ guess then b * Nat.pow 2 guess.toNat ≤ a else b ≤ a * Nat.pow 2 (-guess).toNat
  if reached then guess else guess - 1

/-- The value with the given parts, and infinity when they are too large for a finite one.
A significand of exactly `2 ^ 53`, as rounding up may leave it, moves into the exponent. -/
def ofParts (negative : Bool) (significand : Nat) (exponent : Int) : Double :=
  let (m, e) :=
    if significand = 0x20000000000000 then (0x10000000000000, exponent + 1)
    else (significand, exponent)
  if h : Canonical m e then finite ⟨negative, m, e, h⟩ else infinite negative

/-- The double nearest to `± a / b`, a tie going to the even significand. A magnitude beyond
the largest finite value by half a unit or more is infinite. -/
def ofQuotient (negative : Bool) (a b : Nat) : Double :=
  if a = 0 then finite (.zero negative)
  else
    let exponent := max (binaryExponent a b - 52) (-1074)
    let significand :=
      if 0 ≤ exponent then roundHalfEven a (b * Nat.pow 2 exponent.toNat)
      else roundHalfEven (a * Nat.pow 2 (-exponent).toNat) b
    ofParts negative significand exponent

def ofInt (n : Int) : Double := ofQuotient (n < 0) n.natAbs 1

/-- The double nearest to `± digits * 10 ^ exponent`. A value of `10 ^ 310` or more overflows and
one below `10 ^ -325` reads as zero, so the power of ten is computed only between those. -/
def ofDecimal (negative : Bool) (digits : Nat) (exponent : Int) : Double :=
  if digits = 0 then finite (.zero negative)
  else if 310 < exponent then infinite negative
  else if exponent < -(330 + digits.log2 : Int) then finite (.zero negative)
  else if 0 ≤ exponent then ofQuotient negative (digits * Nat.pow 10 exponent.toNat) 1
  else ofQuotient negative digits (Nat.pow 10 (-exponent).toNat)

@[simp] theorem ofInt_zero : ofInt 0 = finite (.zero false) := rfl

end LiveForm.Double
