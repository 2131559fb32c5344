import LiveForm.Json.Basic

/-!
# Field types

The kind of input that a field asks for. The type fixes the value of an untouched control and
whether the field offers a list of options.
-/

namespace LiveForm

/-- The kind of input of a field. -/
inductive FieldType where
  | text
  | textarea
  | date
  | dropdown
  | multiselect
  | checkbox
  | number
  | password
  deriving DecidableEq, Repr, Inhabited

namespace FieldType

def all : List FieldType :=
  [text, textarea, date, dropdown, multiselect, checkbox, number, password]

def name : FieldType → String
  | text => "text"
  | textarea => "textarea"
  | date => "date"
  | dropdown => "dropdown"
  | multiselect => "multiselect"
  | checkbox => "checkbox"
  | number => "number"
  | password => "password"

def named? (name : String) : Option FieldType := all.find? fun t => t.name = name

/-- The value of an untouched control. -/
def defaultValue : FieldType → Json
  | checkbox => .bool false
  | multiselect => .array []
  | _ => .string ""

/-- The field offers a fixed list of options. -/
def hasOptions : FieldType → Bool
  | dropdown => true
  | multiselect => true
  | _ => false

@[simp] theorem named?_name (t : FieldType) : named? t.name = some t := by cases t <;> decide

end FieldType

end LiveForm
