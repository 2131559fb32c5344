import LiveForm.Schema.FieldType

/-!
# Schemas

A `Schema` is an ordered list of field declarations with an optional title. It is plain data: any
list of fields is a schema, also one with duplicate names, with fields that depend on nothing that
exists or on each other. What a form makes of such a schema is settled where forms are compiled;
what a loader refuses, where documents are loaded.
-/

namespace LiveForm

/-- The optional constraints of a field. -/
structure Validation where
  /-- A pattern that must match somewhere in the value. -/
  pattern : Option String := none
  /-- Shown in place of every default message but the one of a required field. -/
  message : Option String := none
  minLength : Option Nat := none
  maxLength : Option Nat := none
  min : Option Double := none
  max : Option Double := none
  deriving DecidableEq, Inhabited

/-- The declaration of one input. -/
structure Field where
  label : String
  /-- The name of the control and the key of the submitted value. -/
  name : String
  type : FieldType
  required : Bool := false
  readonly : Bool := false
  hidden : Bool := false
  disabled : Bool := false
  options : List String := []
  /-- The field whose truthy value enables this one. -/
  dependsOn : Option String := none
  validation : Option Validation := none
  placeholder : Option String := none
  deriving DecidableEq, Inhabited

/-- A list of declarations with an optional title. -/
structure Schema where
  title : Option String := none
  fields : List Field
  deriving DecidableEq, Inhabited

namespace Field

/-- The message that replaces the default ones. -/
def customMessage? (f : Field) : Option String := f.validation.bind Validation.message

end Field

namespace Schema

def field? (s : Schema) (name : String) : Option Field := s.fields.find? fun f => f.name = name

def isEmpty (s : Schema) : Bool := s.fields.isEmpty

def names (s : Schema) : List String := s.fields.map Field.name

end Schema

end LiveForm
