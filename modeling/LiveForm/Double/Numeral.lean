import LiveForm.Double.Rounding

/-!
# Decimal numerals

A `Numeral` is the shape of a written number: a sign, the digits before and after a point, and
a power of ten. `Numeral.scan?` reads the most liberal form, in which either side of the point
may lack digits; stricter formats add their own conditions. Only ASCII digits count.
-/

namespace LiveForm

/-- A number as it is written. -/
structure Numeral where
  /-- The written sign: `some true` for a minus, `some false` for a plus. -/
  sign : Option Bool
  /-- The digits before the point. -/
  whole : List Char
  /-- The digits after the point, if there is one. -/
  fraction : Option (List Char)
  /-- The power of ten, if there is one. -/
  exponent : Option Int
  deriving DecidableEq

namespace Numeral

def digitsValue (digits : List Char) : Nat :=
  digits.foldl (fun n c => 10 * n + (c.toNat - '0'.toNat)) 0

def takeSign : List Char → Option Bool × List Char
  | '-' :: rest => (some true, rest)
  | '+' :: rest => (some false, rest)
  | rest => (none, rest)

/-- The exponent after its mark: a sign and at least one digit, up to the end. -/
def scanExponent? (text : List Char) : Option Int :=
  let (sign, digits) := takeSign text
  if digits ≠ [] ∧ digits.all Char.isDigit then
    some (if sign = some true then -(digitsValue digits : Int) else digitsValue digits)
  else none

/-- What stands after the digits before and after the point: nothing or an exponent. -/
def finish? (sign : Option Bool) (whole : List Char) (fraction : Option (List Char)) :
    List Char → Option Numeral
  | [] => some ⟨sign, whole, fraction, none⟩
  | c :: rest =>
    if c = 'e' ∨ c = 'E' then
      (scanExponent? rest).map fun exponent => ⟨sign, whole, fraction, some exponent⟩
    else none

/-- Reads a whole text as a numeral. There must be a digit before or after the point. -/
def scan? (text : List Char) : Option Numeral :=
  let (sign, unsigned) := takeSign text
  let whole := unsigned.takeWhile Char.isDigit
  match unsigned.dropWhile Char.isDigit with
  | '.' :: rest =>
    let fraction := rest.takeWhile Char.isDigit
    if whole = [] ∧ fraction = [] then none
    else finish? sign whole (some fraction) (rest.dropWhile Char.isDigit)
  | rest => if whole = [] then none else finish? sign whole none rest

def negative (n : Numeral) : Bool := n.sign = some true

/-- Neither a point nor an exponent is written. -/
def isInteger (n : Numeral) : Bool := n.fraction.isNone && n.exponent.isNone

/-- The double nearest to the number that is written. -/
def toDouble (n : Numeral) : Double :=
  let fraction := n.fraction.getD []
  Double.ofDecimal n.negative (digitsValue (n.whole ++ fraction))
    (n.exponent.getD 0 - fraction.length)

end Numeral

/-- The number that a whole text writes, in any of the forms a person may type: a decimal
numeral, an infinity or a NaN. -/
def Double.read? (text : String) : Option Double :=
  match Numeral.scan? text.toList with
  | some n => some n.toDouble
  | none =>
    let (sign, word) := Numeral.takeSign text.toList
    let word := String.ofList (word.map Char.toLower)
    if word = "inf" ∨ word = "infinity" then some (.infinite (sign = some true))
    else if word = "nan" then some .nan
    else none

end LiveForm
