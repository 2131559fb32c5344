import LiveForm.Form.Message
import LiveForm.Schema.Codec

/-!
# Snapshots

A snapshot is what a view needs to show a form once: for each field its declaration and the state
of its control. It is plain data and has a written form.
-/

namespace LiveForm

/-- A field together with the state of its control. -/
structure FieldView where
  name : String
  label : String
  type : FieldType
  placeholder : Option String
  /-- The options of a field that offers a list, none for any other. -/
  options : List String
  hidden : Bool
  readonly : Bool
  required : Bool
  value : Json
  disabled : Bool
  touched : Bool
  errors : List RuleKind
  /-- The message to show, empty when there is none. -/
  message : String
  deriving Inhabited

structure Snapshot where
  title : Option String
  fields : List FieldView
  /-- An attempt to submit would succeed. -/
  valid : Bool
  deriving Inhabited

namespace FieldView

def ofControl (field : Field) (c : Control) : FieldView where
  name := field.name
  label := field.label
  type := field.type
  placeholder := field.placeholder
  options := if field.type.hasOptions then field.options else []
  hidden := field.hidden
  readonly := field.readonly
  required := field.required
  value := c.value
  disabled := c.disabled
  touched := c.touched
  errors := c.errors
  message := c.errorMessage field

def toJson (v : FieldView) : Json :=
  .object <|
    [("name", .string v.name), ("label", .string v.label), ("type", v.type.toJson)] ++
    Json.optionalEntry "placeholder" .string v.placeholder ++
    (if v.options.isEmpty then [] else [("options", .ofStrings v.options)]) ++
    [("hidden", .bool v.hidden), ("readonly", .bool v.readonly),
      ("required", .bool v.required), ("value", v.value), ("disabled", .bool v.disabled),
      ("touched", .bool v.touched), ("errors", .array (v.errors.map RuleKind.toJson)),
      ("message", .string v.message)]

namespace Attr

def name : Attribute String := .required "name" .string
def label : Attribute String := .required "label" .string
def type : Attribute FieldType := .required "type" FieldType.decode
def placeholder : Attribute (Option String) := .nullable "placeholder" .string
def options : Attribute (List String) := .defaulted "options" [] (.list .string)
def hidden : Attribute Bool := .required "hidden" .boolean
def readonly : Attribute Bool := .required "readonly" .boolean
def required : Attribute Bool := .required "required" .boolean
def value : Attribute Json := .required "value" .any
def disabled : Attribute Bool := .required "disabled" .boolean
def touched : Attribute Bool := .required "touched" .boolean
def errors : Attribute (List RuleKind) := .required "errors" (.list RuleKind.decode)
def message : Attribute String := .required "message" .string

end Attr

def decode : Decoder FieldView := fun written => do
  let r ← Record.enter "FieldSnapshot" [Attr.name.check, Attr.label.check, Attr.type.check,
    Attr.placeholder.check, Attr.options.check, Attr.hidden.check, Attr.readonly.check,
    Attr.required.check, Attr.value.check, Attr.disabled.check, Attr.touched.check,
    Attr.errors.check, Attr.message.check] written
  let name ← r.take 0 Attr.name
  let label ← r.take 1 Attr.label
  let type ← r.take 2 Attr.type
  let placeholder ← r.take 3 Attr.placeholder
  let options ← r.take 4 Attr.options
  let hidden ← r.take 5 Attr.hidden
  let readonly ← r.take 6 Attr.readonly
  let required ← r.take 7 Attr.required
  let value ← r.take 8 Attr.value
  let disabled ← r.take 9 Attr.disabled
  let touched ← r.take 10 Attr.touched
  let errors ← r.take 11 Attr.errors
  let message ← r.take 12 Attr.message
  r.finish
  return { name, label, type, placeholder, options, hidden, readonly, required, value, disabled,
           touched, errors, message }

end FieldView

namespace Snapshot

def toJson (s : Snapshot) : Json :=
  .object [("title", (s.title.map Json.string).getD .null),
    ("fields", .array (s.fields.map FieldView.toJson)), ("valid", .bool s.valid)]

namespace Attr

def title : Attribute (Option String) := .nullable "title" .string
def fields : Attribute (List FieldView) := .required "fields" (.list FieldView.decode)
def valid : Attribute Bool := .required "valid" .boolean

end Attr

def decode : Decoder Snapshot := fun written => do
  let r ← Record.enter "FormSnapshot"
    [Attr.title.check, Attr.fields.check, Attr.valid.check] written
  let title ← r.take 0 Attr.title
  let fields ← r.take 1 Attr.fields
  let valid ← r.take 2 Attr.valid
  r.finish
  return { title, fields, valid }

end Snapshot

/-- The snapshot of a form, field by field in the order of a schema. Fields without a control are
left out. -/
def Form.snapshot (f : Form) (schema : Schema) : Snapshot where
  title := schema.title
  fields := schema.fields.filterMap fun field =>
    (f.control? field.name).map (FieldView.ofControl field)
  valid := f.isValid

end LiveForm
