import LiveForm.Decode.Basic
import LiveForm.Schema.Basic

/-!
# Schemas as documents

How a schema is written as a JSON value and read back. Attributes that are absent or empty are not
written; a threshold that is not finite is written as `null`, which reads as no threshold.
-/

namespace LiveForm

/-- The entry of an attribute that is left out when there is nothing to write. -/
def Json.optionalEntry {α : Type} (key : String) (write : α → Json) :
    Option α → Json.Entries
  | none => []
  | some a => [(key, write a)]

def FieldType.decode : Decoder FieldType :=
  .choice FieldType.named? (FieldType.all.map FieldType.name)

def FieldType.toJson (t : FieldType) : Json := .string t.name

namespace Validation

def toJson (v : Validation) : Json :=
  .object <|
    Json.optionalEntry "pattern" .string v.pattern ++
    Json.optionalEntry "message" .string v.message ++
    Json.optionalEntry "minLength" .ofNat v.minLength ++
    Json.optionalEntry "maxLength" .ofNat v.maxLength ++
    Json.optionalEntry "min" .ofDouble v.min ++
    Json.optionalEntry "max" .ofDouble v.max

namespace Attr

def pattern : Attribute (Option String) := .optional "pattern" .string
def message : Attribute (Option String) := .optional "message" .string
def minLength : Attribute (Option Nat) := .optional "minLength" .count
def maxLength : Attribute (Option Nat) := .optional "maxLength" .count
def min : Attribute (Option Double) := .optional "min" .double
def max : Attribute (Option Double) := .optional "max" .double

end Attr

def decode : Decoder Validation := fun value => do
  let r ← Record.enter "FieldValidation" [Attr.pattern.check, Attr.message.check,
    Attr.minLength.check, Attr.maxLength.check, Attr.min.check, Attr.max.check] value
  let pattern ← r.take 0 Attr.pattern
  let message ← r.take 1 Attr.message
  let minLength ← r.take 2 Attr.minLength
  let maxLength ← r.take 3 Attr.maxLength
  let min ← r.take 4 Attr.min
  let max ← r.take 5 Attr.max
  r.finish
  return { pattern, message, minLength, maxLength, min, max }

end Validation

namespace Field

def toJson (f : Field) : Json :=
  .object <|
    [("label", .string f.label), ("name", .string f.name), ("type", f.type.toJson),
      ("required", .bool f.required), ("readonly", .bool f.readonly),
      ("hidden", .bool f.hidden), ("disabled", .bool f.disabled)] ++
    (if f.options.isEmpty then [] else [("options", .ofStrings f.options)]) ++
    Json.optionalEntry "dependsOn" .string f.dependsOn ++
    Json.optionalEntry "validation" Validation.toJson f.validation ++
    Json.optionalEntry "placeholder" .string f.placeholder

namespace Attr

def label : Attribute String := .required "label" .string
def name : Attribute String := .required "name" .string
def type : Attribute FieldType := .required "type" FieldType.decode
def required : Attribute Bool := .defaulted "required" false (.nullOr false .boolean)
def readonly : Attribute Bool := .defaulted "readonly" false (.nullOr false .boolean)
def hidden : Attribute Bool := .defaulted "hidden" false (.nullOr false .boolean)
def disabled : Attribute Bool := .defaulted "disabled" false (.nullOr false .boolean)
def options : Attribute (List String) := .defaulted "options" [] (.nullOr [] (.list .string))
def dependsOn : Attribute (Option String) := .optional "dependsOn" .string
def validation : Attribute (Option Validation) := .optional "validation" Validation.decode
def placeholder : Attribute (Option String) := .optional "placeholder" .string

end Attr

def decode : Decoder Field := fun value => do
  let r ← Record.enter "Field" [Attr.label.check, Attr.name.check, Attr.type.check,
    Attr.required.check, Attr.readonly.check, Attr.hidden.check, Attr.disabled.check,
    Attr.options.check, Attr.dependsOn.check, Attr.validation.check, Attr.placeholder.check] value
  let label ← r.take 0 Attr.label
  let name ← r.take 1 Attr.name
  let type ← r.take 2 Attr.type
  let required ← r.take 3 Attr.required
  let readonly ← r.take 4 Attr.readonly
  let hidden ← r.take 5 Attr.hidden
  let disabled ← r.take 6 Attr.disabled
  let options ← r.take 7 Attr.options
  let dependsOn ← r.take 8 Attr.dependsOn
  let validation ← r.take 9 Attr.validation
  let placeholder ← r.take 10 Attr.placeholder
  r.finish
  return { label, name, type, required, readonly, hidden, disabled, options, dependsOn,
           validation, placeholder }

end Field

namespace Schema

def toJson (s : Schema) : Json :=
  .object <| Json.optionalEntry "title" .string s.title ++
    [("fields", .array (s.fields.map Field.toJson))]

namespace Attr

def title : Attribute (Option String) := .optional "title" .string
def fields : Attribute (List Field) := .required "fields" (.list Field.decode)

end Attr

def decode : Decoder Schema := fun value => do
  let r ← Record.enter "FormSchema" [Attr.title.check, Attr.fields.check] value
  let title ← r.take 0 Attr.title
  let fields ← r.take 1 Attr.fields
  r.finish
  return { title, fields }

end Schema

end LiveForm
