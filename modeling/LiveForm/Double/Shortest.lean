import LiveForm.Double.Rounding

/-!
# The fewest digits that read back

`Finite.shortest` finds the shortest decimal that rounds back to a given double. For one
digit, two digits and so on it tries the two neighbours of the value on that decimal grid
and keeps those that read back; of two the nearer wins. If some decimal with that many
digits reads back, then so does one of the two neighbours, so no shorter decimal exists.

Every double is itself a terminating decimal, which is the answer should the search end
without a hit; seventeen digits are always enough.
-/

namespace LiveForm.Double

/-- A decimal magnitude `digits * 10 ^ exponent`. -/
structure Decimal where
  digits : Nat
  exponent : Int
  deriving DecidableEq, Inhabited

namespace Decimal

def toDouble (d : Decimal) (negative : Bool) : Double := ofDecimal negative d.digits d.exponent

/-- Moves trailing zeros of the digits into the exponent; at most `bound` of them. -/
def normalize : Nat → Decimal → Decimal
  | 0, d => d
  | bound + 1, d =>
    if d.digits ≠ 0 ∧ d.digits % 10 = 0 then normalize bound ⟨d.digits / 10, d.exponent + 1⟩ else d

def text (d : Decimal) : List Char := Nat.toDigits 10 d.digits

/-- The power of ten of the first digit. -/
def leading (d : Decimal) : Int := d.exponent + (d.text.length - 1 : Nat)

end Decimal

/-- Which of two equally near decimals is taken. -/
inductive Tie where
  /-- The one whose last digit is even. -/
  | toEven
  /-- The larger one. -/
  | up
  deriving DecidableEq

namespace Finite

/-- The value's exact decimal: a power of two below one is a power of five over one of ten. -/
def exactDecimal (x : Finite) : Decimal :=
  if 0 ≤ x.exponent then ⟨x.significand * Nat.pow 2 x.exponent.toNat, 0⟩
  else ⟨x.significand * Nat.pow 5 (-x.exponent).toNat, x.exponent⟩

/-- The power of ten of the first digit of `a / b`, both positive: a guess from the binary
logarithms, which is at most one too large, then a comparison. -/
def decimalExponent (a b : Nat) : Int :=
  let guess : Int := (((a.log2 : Int) - b.log2 + 1) * 30103) / 100000
  let reached (k : Int) : Bool :=
    if 0 ≤ k then b * Nat.pow 10 k.toNat ≤ a else b ≤ a * Nat.pow 10 (-k).toNat
  if reached (guess + 1) then guess + 1
  else if reached guess then guess
  else guess - 1

/-- The decimals next to `a / b` from below and from above with last digit at `10 ^ k`, and how
the value lies between them: below, at or above the middle. -/
def neighbours (a b : Nat) (k : Int) : Decimal × Decimal × Ordering :=
  let num := if 0 ≤ k then a else a * Nat.pow 10 (-k).toNat
  let den := if 0 ≤ k then b * Nat.pow 10 k.toNat else b
  let below := num / den
  (⟨below, k⟩, ⟨below + 1, k⟩, compare (2 * (num % den)) den)

/-- The candidate on the grid of `10 ^ k` that reads back, if there is one. -/
def candidate? (x : Finite) (tie : Tie) (k : Int) : Option Decimal :=
  let (a, b) := x.ratio
  let (below, above, side) := neighbours a b k
  let hit (d : Decimal) : Bool := d.toDouble x.negative == finite x
  match hit below, hit above with
  | false, false => none
  | true, false => some below
  | false, true => some above
  | true, true =>
    match side with
    | .lt => some below
    | .gt => some above
    | .eq =>
      match tie with
      | .toEven => if below.digits % 2 = 0 then some below else some above
      | .up => some above

/-- The decimal of fewest digits that reads back to a finite double, the nearest one of those. -/
def shortest (tie : Tie) (x : Finite) : Decimal :=
  if x.isZero then ⟨0, 0⟩
  else
    let (a, b) := x.ratio
    let first := decimalExponent a b
    let found := (List.range 17).findSome? fun (n : Nat) => x.candidate? tie (first - (n : Int))
    (found.getD x.exactDecimal).normalize 800

end Finite

end LiveForm.Double
