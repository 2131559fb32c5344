/-!
# Binary64 numbers

A `Double` is a value of the 64-bit binary interchange format, written out as sign,
significand and exponent so that it can be reasoned about with natural numbers. The
significand and exponent of a finite value are canonical: two finite values are the same
bit pattern exactly when they are equal, and both zeros are present.

Order is the numeric one. It is false whenever a NaN takes part, and it does not tell the
two zeros apart.
-/

namespace LiveForm

namespace Double

/-- The significand is below `2 ^ 53`, and at least `2 ^ 52` but where the exponent is the least. -/
def Canonical (significand : Nat) (exponent : Int) : Prop :=
  significand < 0x20000000000000 ∧ -1074 ≤ exponent ∧ exponent ≤ 971 ∧
    (0x10000000000000 ≤ significand ∨ exponent = -1074)

instance (significand : Nat) (exponent : Int) : Decidable (Canonical significand exponent) :=
  inferInstanceAs (Decidable (_ ∧ _ ∧ _ ∧ (_ ∨ _)))

/-- A finite value, `± significand * 2 ^ exponent`. -/
structure Finite where
  negative : Bool
  significand : Nat
  exponent : Int
  canonical : Canonical significand exponent
  deriving DecidableEq

end Double

/-- A number of the 64-bit binary format. All NaNs count as one. -/
inductive Double where
  | nan
  | infinite (negative : Bool)
  | finite (value : Double.Finite)
  deriving DecidableEq

namespace Double

namespace Finite

/-- Zero of either sign. -/
def zero (negative : Bool) : Finite where
  negative := negative
  significand := 0
  exponent := -1074
  canonical := by decide

instance : Inhabited Finite := ⟨zero false⟩

def isZero (x : Finite) : Bool := x.significand == 0

/-- The magnitude counted in units of the least positive value, `2 ^ -1074`. -/
def units (x : Finite) : Nat := x.significand * Nat.pow 2 (x.exponent + 1074).toNat

/-- The signed count of units of `2 ^ -1074`; both zeros count as zero. -/
def signedUnits (x : Finite) : Int := if x.negative then -(x.units : Int) else x.units

/-- The magnitude as an exact quotient of two natural numbers. -/
def ratio (x : Finite) : Nat × Nat :=
  if 0 ≤ x.exponent then (x.significand * Nat.pow 2 x.exponent.toNat, 1)
  else (x.significand, Nat.pow 2 (-x.exponent).toNat)

def isWhole (x : Finite) : Bool := x.ratio.1 % x.ratio.2 == 0

def wholePart (x : Finite) : Nat := x.ratio.1 / x.ratio.2

def neg (x : Finite) : Finite := { x with negative := !x.negative }

@[simp] theorem neg_significand (x : Finite) : x.neg.significand = x.significand := rfl

@[simp] theorem neg_neg (x : Finite) : x.neg.neg = x := by
  cases x; simp [neg]

end Finite

def isFinite : Double → Bool
  | finite _ => true
  | _ => false

/-- Zero of either sign; a NaN is no zero. -/
def isZero : Double → Bool
  | finite x => x.isZero
  | _ => false

/-- The numeric order, false whenever a NaN takes part. -/
def le : Double → Double → Bool
  | nan, _ => false
  | _, nan => false
  | infinite n, infinite m => n || !m
  | infinite n, finite _ => n
  | finite _, infinite m => !m
  | finite x, finite y => x.signedUnits ≤ y.signedUnits

@[simp] theorem nan_le (y : Double) : nan.le y = false := rfl

@[simp] theorem le_nan (x : Double) : x.le nan = false := by cases x <;> rfl

end Double

end LiveForm
