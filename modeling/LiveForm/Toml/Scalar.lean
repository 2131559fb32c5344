import LiveForm.Double.Numeral
import LiveForm.Json.Parser
import LiveForm.Toml.Basic

/-!
# Scalars of TOML

The values that are written without quotes: Booleans, integers in four bases, floating-point
numbers, dates and times. Underscores may separate digits. Integers must fit 128 bits and numbers
the range of doubles.
-/

namespace LiveForm.Toml

/-- The characters of which such a value is made. -/
def isScalarChar (c : Char) : Bool :=
  c.isAlphanum || c = '+' || c = '-' || c = '_' || c = '.' || c = ':'

/-- Digits with single underscores between them; gives the digits alone. -/
def digits? (isDigit : Char → Bool) : List Char → Option (List Char)
  | [] => none
  | [c] => if isDigit c then some [c] else none
  | c :: '_' :: rest => if isDigit c then (digits? isDigit rest).map (c :: ·) else none
  | c :: rest => if isDigit c then (digits? isDigit rest).map (c :: ·) else none

/-- The value of digits in a base. -/
def valueIn (base : Nat) (digits : List Char) : Nat :=
  digits.foldl (fun n c => base * n + (Json.Token.hexValue? c).getD 0) 0

/-- An integer of a base other than ten, after its mark. -/
def isBasedInteger (base : Nat) (text : List Char) : Bool :=
  let isDigit (c : Char) := (Json.Token.hexValue? c).any (· < base)
  (digits? isDigit text).any fun digits => valueIn base digits < Nat.pow 2 128

/-- The whole part of a decimal number: no zero in front of other digits. -/
def wholePart? (text : List Char) : Option (List Char) := do
  let digits ← digits? Char.isDigit text
  if text.head? = some '0' ∧ text.length ≠ 1 then none else some digits

/-- The decimal exponent of a number, after its mark. -/
def exponent? (text : List Char) : Option Int := do
  let (sign, text) := Numeral.takeSign text
  let digits ← digits? Char.isDigit text
  return if sign = some true then -(valueIn 10 digits : Int) else valueIn 10 digits

/-- A decimal number without its sign. -/
def isDecimal (negative : Bool) (text : List Char) : Bool :=
  let isPlain (c : Char) := c.isDigit || c = '_'
  let isMark (c : Char) := c = 'e' || c = 'E'
  let whole := text.takeWhile isPlain
  let finite (whole fraction : List Char) (exponent : Int) : Bool :=
    let digits := valueIn 10 (whole ++ fraction)
    (Double.ofDecimal negative digits (exponent - fraction.length)).isFinite
  match wholePart? whole, text.dropWhile isPlain with
  | none, _ => false
  | some digits, [] =>
    let n := valueIn 10 digits
    if negative then n ≤ Nat.pow 2 127 else n < Nat.pow 2 128
  | some digits, '.' :: rest =>
    match digits? Char.isDigit (rest.takeWhile isPlain), rest.dropWhile isPlain with
    | none, _ => false
    | some fraction, [] => finite digits fraction 0
    | some fraction, c :: rest => isMark c && (exponent? rest).any (finite digits fraction)
  | some digits, c :: rest => isMark c && (exponent? rest).any (finite digits [])

/-- A number in any of its forms. -/
def isNumber (text : List Char) : Bool :=
  match text with
  | '0' :: 'x' :: digits => isBasedInteger 16 digits
  | '0' :: 'o' :: digits => isBasedInteger 8 digits
  | '0' :: 'b' :: digits => isBasedInteger 2 digits
  | text =>
    let (sign, text) := Numeral.takeSign text
    text = ['i', 'n', 'f'] || text = ['n', 'a', 'n'] || isDecimal (sign = some true) text

/-- A number of exactly `n` digits within bounds, and what follows it. -/
def fixed? (n lo hi : Nat) (text : List Char) : Option (Nat × List Char) :=
  let digits := text.take n
  let value := Numeral.digitsValue digits
  if digits.length = n ∧ digits.all Char.isDigit ∧ lo ≤ value ∧ value ≤ hi then
    some (value, text.drop n)
  else none

def daysIn (year month : Nat) : Nat :=
  let leap := year % 4 = 0 && (year % 100 ≠ 0 || year % 400 = 0)
  if month = 2 then if leap then 29 else 28
  else if month = 4 ∨ month = 6 ∨ month = 9 ∨ month = 11 then 30
  else 31

/-- What follows a character that must come next. -/
def expect? (c : Char) : List Char → Option (List Char)
  | d :: rest => if d = c then some rest else none
  | [] => none

def date? (text : List Char) : Option (List Char) := do
  let (year, text) ← fixed? 4 0 9999 text
  let (month, text) ← fixed? 2 1 12 (← expect? '-' text)
  let (_, text) ← fixed? 2 1 (daysIn year month) (← expect? '-' text)
  return text

/-- What follows the fraction of a second, if there is one. -/
def fraction? : List Char → Option (List Char)
  | '.' :: rest =>
    if (rest.takeWhile Char.isDigit).isEmpty then none else some (rest.dropWhile Char.isDigit)
  | text => some text

/-- What follows a time of day, whose seconds may be left out. -/
def time? (text : List Char) : Option (List Char) := do
  let (_, text) ← fixed? 2 0 23 text
  let (_, text) ← fixed? 2 0 59 (← expect? ':' text)
  match text with
  | ':' :: text =>
    let (_, text) ← fixed? 2 0 60 text
    fraction? text
  | text => some text

/-- An offset from universal time, or none, up to the end. -/
def isOffset (text : List Char) : Bool :=
  match text with
  | [] => true
  | [c] => c = 'Z' || c = 'z'
  | c :: text =>
    (c = '+' || c = '-') &&
      ((do
        let (_, text) ← fixed? 2 0 23 text
        let (_, text) ← fixed? 2 0 59 (← expect? ':' text)
        return text.isEmpty) : Option Bool).getD false

/-- A date, a time, or both with or without an offset. -/
def isDatetime (text : List Char) : Bool :=
  match date? text with
  | some [] => true
  | some (mark :: text) => (mark = 'T' || mark = 't') && (time? text).any isOffset
  | none => (time? text).any List.isEmpty

/-- The value that a row of scalar characters writes. -/
def scalarOf? (text : List Char) : Option Toml :=
  if text = ['t', 'r', 'u', 'e'] then some (.boolean true)
  else if text = ['f', 'a', 'l', 's', 'e'] then some (.boolean false)
  else if isDatetime text then some .datetime
  else if isNumber text then some .scalar
  else none

/-- A value without quotes, and what follows it. A space may stand between a date and a time. -/
def scalar? (text : List Char) : Option (Toml × List Char) :=
  let first := text.takeWhile isScalarChar
  let rest := text.dropWhile isScalarChar
  match date? first, rest with
  | some [], ' ' :: c :: more =>
    if c.isDigit then
      let second := (c :: more).takeWhile isScalarChar
      (scalarOf? (first ++ 'T' :: second)).map fun v => (v, (c :: more).dropWhile isScalarChar)
    else some (.datetime, rest)
  | _, _ => (scalarOf? first).map fun v => (v, rest)

end LiveForm.Toml
