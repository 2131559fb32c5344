import LiveForm.Double.Numeral

/-!
# Reading a numeral step by step

A numeral can be read without long numbers. Its digits are taken for a whole number as far as they
fit into 64 bits, the number is rounded to a double, and the double is multiplied or divided by the
double of a power of ten. Each step rounds. So a numeral with many digits or with a large exponent
may be read as a neighbour of the nearest double, and one that is just within the range as too
large.
-/

namespace LiveForm

namespace Double

def finite? : Double → Option Finite
  | finite x => some x
  | _ => none

def tenTo (k : Nat) : Double := ofDecimal false 1 k

namespace Finite

def mul (x y : Finite) : Double :=
  ofQuotient (x.negative != y.negative) (x.ratio.1 * y.ratio.1) (x.ratio.2 * y.ratio.2)

/-- The double nearest to the quotient; the divisor is not zero. -/
def div (x y : Finite) : Double :=
  ofQuotient (x.negative != y.negative) (x.ratio.1 * y.ratio.2) (x.ratio.2 * y.ratio.1)

/-- Multiplies by `10 ^ k`. There is no finite result for a larger power than `10 ^ 308`, but for
zero. -/
def raise? (x : Finite) (k : Nat) : Option Finite :=
  if k ≤ 308 then do (x.mul (← (tenTo k).finite?)).finite?
  else if x.isZero then some x
  else none

/-- Divides by `10 ^ k`, by no more than `10 ^ 308` at a time. -/
def lower? (x : Finite) (k : Nat) : Option Finite :=
  if k ≤ 308 then do (x.div (← (tenTo k).finite?)).finite?
  else if x.isZero then some x
  else do lower? (← (x.div (← (tenTo 308).finite?)).finite?) (k - 308)
termination_by k

def scale? (x : Finite) (exponent : Int) : Option Finite :=
  if 0 ≤ exponent then x.raise? exponent.toNat else x.lower? (-exponent).toNat

end Finite

end Double

namespace Numeral

/-- Appends decimal digits to a number while it fits into 64 bits, and counts the digits that are
left over. -/
def appendDigits (n : Nat) : List Char → Nat × Nat
  | [] => (n, 0)
  | c :: rest =>
    let longer := 10 * n + (c.toNat - '0'.toNat)
    if longer < 0x10000000000000000 then appendDigits longer rest else (n, rest.length + 1)

/-- The number that is written, read step by step. A digit that is left over before the point counts
as a zero, and one after the point not at all. -/
def stepwise? (n : Numeral) : Option Double.Finite := do
  let fraction := n.fraction.getD []
  let (whole, zeros) := appendDigits 0 n.whole
  let (digits, ignored) := appendDigits whole fraction
  let x ← (Double.ofQuotient n.negative digits 1).finite?
  x.scale? (n.exponent.getD 0 + zeros - (fraction.length - ignored : Nat))

end Numeral

end LiveForm
