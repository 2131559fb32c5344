import LiveForm.Double.Numeral
import LiveForm.Json.Basic
import LiveForm.Text.Blank

/-!
# Readings of a control's value

A control holds any JSON value. Rules and dependencies read it in four ways: whether it counts as
absent, whether it enables what depends on it, as a number, and as a text. Absent and truthy are
not opposites: zero is present but not truthy, and an empty object is absent but truthy.
-/

namespace LiveForm.Json

/-- Absent for a required field: `null`, `false`, and the empty text, list and mapping. Numbers are
always present. -/
def isAbsent : Json → Bool
  | null => true
  | bool b => !b
  | number _ => false
  | string s => s.isEmpty
  | array items => items.isEmpty
  | object entries => entries.isEmpty

/-- Enables what depends on it: everything but `null`, `false`, zero and the empty text and list. -/
def isTruthy : Json → Bool
  | null => false
  | bool b => b
  | number n => !n.toDouble.isZero
  | string s => !s.isEmpty
  | array items => !items.isEmpty
  | object _ => true

/-- The finite number that a text writes between blanks. -/
def numberInText? (s : String) : Option Double :=
  (Double.read? (Text.trim s)).filter Double.isFinite

/-- The number that a value stands for: a number itself, or a text that writes a finite one. -/
def asNumber? : Json → Option Double
  | number n => some n.toDouble
  | string s => numberInText? s
  | _ => none

/-- The text that a value stands for: a text itself, or the text of a number. -/
def asText? : Json → Option String
  | string s => some s
  | number n => some n.text
  | _ => none

/-- The number of characters of a text. -/
def textLength? : Json → Option Nat
  | string s => some s.length
  | _ => none

@[simp] theorem isTruthy_null : isTruthy null = false := rfl

@[simp] theorem isTruthy_bool (b : Bool) : isTruthy (bool b) = b := rfl

@[simp] theorem isAbsent_number (n : Number) : isAbsent (number n) = false := rfl

@[simp] theorem asNumber?_number (n : Number) : asNumber? (number n) = some n.toDouble := rfl

@[simp] theorem asText?_string (s : String) : asText? (string s) = some s := rfl

end LiveForm.Json
