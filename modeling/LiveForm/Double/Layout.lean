import LiveForm.Double.Shortest

/-!
# Layouts of a decimal

A `Layout` is the set of choices that turn the shortest digits of a double into text: which
magnitudes are written positionally, whether a whole number keeps a `.0`, how an exponent is
signed, and what stands for the values that have no digits.
-/

namespace LiveForm.Double

/-- The choices of one way of writing doubles. -/
structure Layout where
  tie : Tie
  /-- The powers of ten of the first digit that are written positionally. -/
  positional : Int → Bool
  /-- A positional whole number ends in `.0`. -/
  keepsPoint : Bool
  /-- The mark before a non-negative exponent. -/
  plusMark : String
  nan : String
  infinity : String
  minusInfinity : String

namespace Layout

/-- `1234` with the point after `whole` digits: `12.34`, with zeros supplied on either side. -/
def pointed (layout : Layout) (digits : List Char) (whole : Int) : List Char :=
  let point : List Char := if layout.keepsPoint then ['.', '0'] else []
  if whole ≤ 0 then ['0', '.'] ++ List.replicate (-whole).toNat '0' ++ digits
  else
    let n := whole.toNat
    if digits.length ≤ n then digits ++ List.replicate (n - digits.length) '0' ++ point
    else digits.take n ++ '.' :: digits.drop n

/-- One digit, the others after a point, and the power of ten of the first. -/
def scientific (layout : Layout) (digits : List Char) (power : Int) : List Char :=
  let mantissa : List Char :=
    match digits with
    | [] => []
    | [d] => [d]
    | d :: rest => d :: '.' :: rest
  let exponent := (if 0 ≤ power then layout.plusMark else "-") ++ toString power.natAbs
  mantissa ++ 'e' :: exponent.toList

def magnitude (layout : Layout) (d : Decimal) : List Char :=
  if layout.positional d.leading then layout.pointed d.text (d.leading + 1)
  else layout.scientific d.text d.leading

def finiteText (layout : Layout) (x : Finite) : String :=
  let digits := layout.magnitude (x.shortest layout.tie)
  String.ofList (if x.negative then '-' :: digits else digits)

def text (layout : Layout) : Double → String
  | .nan => layout.nan
  | .infinite false => layout.infinity
  | .infinite true => layout.minusInfinity
  | .finite x => layout.finiteText x

end Layout

/-- The text of doubles in documents: positional from `0.00001` up to sixteen whole digits and
always with a fraction there, scientific with a signed exponent elsewhere. A value that is not
finite has no such text. -/
def Layout.document : Layout where
  tie := .toEven
  positional d := -5 ≤ d && d ≤ 15
  keepsPoint := true
  plusMark := "+"
  nan := "null"
  infinity := "null"
  minusInfinity := "null"

/-- Positional text for every magnitude, whole numbers without a point. -/
def Layout.plain : Layout where
  tie := .up
  positional _ := true
  keepsPoint := false
  plusMark := ""
  nan := "NaN"
  infinity := "inf"
  minusInfinity := "-inf"

/-- The text of a double in the description of a schema: positional from `0.0001` up to sixteen
whole digits and always with a fraction there, scientific elsewhere, with no mark before a
non-negative exponent. -/
def Layout.description : Layout where
  tie := .up
  positional d := -4 ≤ d && d ≤ 15
  keepsPoint := true
  plusMark := ""
  nan := "NaN"
  infinity := "inf"
  minusInfinity := "-inf"

/-- A threshold the way a user wrote it: a whole number below `10 ^ 15` as an integer, so that
`5.0` reads `5` and both zeros read `0`; any other value positionally. -/
def thresholdText : Double → String
  | .finite x =>
    if x.isWhole && decide (x.wholePart < 1000000000000000) then
      if x.negative && x.wholePart != 0 then "-" ++ toString x.wholePart else toString x.wholePart
    else Layout.plain.finiteText x
  | x => Layout.plain.text x

end LiveForm.Double
