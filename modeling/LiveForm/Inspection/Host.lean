import LiveForm.Host.Basic
import LiveForm.Inspection.Basic

/-!
# The inspection of a host

How observers, forms, schemas and hosts look when they are laid out on one line.
-/

namespace LiveForm

open Inspection

namespace Number

def inspect (n : Number) : Inspection := .tuple "Number" [.word n.text]

end Number

namespace Double

def inspect (x : Double) : Inspection := .word (Layout.description.text x)

end Double

namespace Json

mutual

def inspect : Json → Inspection
  | .null => .word "Null"
  | .bool b => .tuple "Bool" [.boolean b]
  | .number n => n.inspect
  | .string s => .tuple "String" [.text s]
  | .array items => .labelled "Array" (.list (inspectItems items))
  | .object entries => .labelled "Object" (.mapping (inspectEntries entries))

def inspectItems : List Json → List Inspection
  | [] => []
  | item :: rest => inspect item :: inspectItems rest

def inspectEntries : List (String × Json) → List (Inspection × Inspection)
  | [] => []
  | (key, value) :: rest => (.text key, inspect value) :: inspectEntries rest

end

end Json

def capitalized (name : String) : Inspection := .word name.capitalize

def FieldType.inspect (t : FieldType) : Inspection := capitalized t.name

def RuleKind.inspect (k : RuleKind) : Inspection := capitalized k.name

def Validation.inspect (v : Validation) : Inspection :=
  .record "FieldValidation" [("pattern", .optional .text v.pattern),
    ("message", .optional .text v.message), ("min_length", .optional .natural v.minLength),
    ("max_length", .optional .natural v.maxLength), ("min", .optional Double.inspect v.min),
    ("max", .optional Double.inspect v.max)]

def Field.inspect (f : Field) : Inspection :=
  .record "Field" [("label", .text f.label), ("name", .text f.name),
    ("field_type", f.type.inspect), ("required", .boolean f.required),
    ("readonly", .boolean f.readonly), ("hidden", .boolean f.hidden),
    ("disabled", .boolean f.disabled), ("options", .list (f.options.map .text)),
    ("depends_on", .optional .text f.dependsOn),
    ("validation", .optional Validation.inspect f.validation),
    ("placeholder", .optional .text f.placeholder)]

def Schema.inspect (s : Schema) : Inspection :=
  .record "FormSchema" [("title", .optional .text s.title),
    ("fields", .list (s.fields.map Field.inspect))]

def Rule.inspect (r : Rule) : Inspection :=
  let name := r.kind.name.capitalize
  match r with
  | .required => .word name
  | .pattern p => .tuple name [.tuple "Regex" [.text p.source]]
  | .minLength bound => .tuple name [.natural bound]
  | .maxLength bound => .tuple name [.natural bound]
  | .min bound => .tuple name [bound.inspect]
  | .max bound => .tuple name [bound.inspect]

def ObserverId.inspect (id : ObserverId) : Inspection := .tuple "ObserverId" [.natural id.number]

def Listener.inspect : Listener → Inspection
  | .gate dependent => .record "Gate" [("dependent", .text dependent)]
  | .callback _ => .word "Callback(..)"

def ObserverList.inspect (l : ObserverList) : Inspection :=
  .record "ObserverList" [("next_id", .natural l.nextNumber),
    ("entries", .list (l.entries.map fun e => .tuple "" [e.1.inspect, e.2.inspect]))]

def Control.inspect (c : Control) : Inspection :=
  .record "Control" [("name", .text c.name), ("field_type", c.type.inspect),
    ("value", c.value.inspect), ("disabled", .boolean c.disabled), ("touched", .boolean c.touched),
    ("dirty", .boolean c.dirty), ("rules", .list (c.rules.map Rule.inspect)),
    ("errors", .list (c.errors.map RuleKind.inspect)), ("observers", c.observers.inspect)]

/-- The controls, the place of each name among them, and the names that are notifying. -/
def Form.inspect (f : Form) : Inspection :=
  .record "FormState" [("controls", .list (f.controls.map Control.inspect)),
    ("index", .mapping (f.index.map fun e => (.text e.1, .natural e.2))),
    ("notifying", .set (f.notifying.map .text))]

def LoaderOptions.inspect (o : LoaderOptions) : Inspection :=
  .record "LoaderOptions" [("require_title", .boolean o.requireTitle),
    ("reject_dependency_cycles", .boolean o.rejectCycles)]

def SubmitOptions.inspect (o : SubmitOptions) : Inspection :=
  .record "SubmitOptions" [("include_disabled", .boolean o.includeDisabled)]

def Host.inspect (h : Host) : Inspection :=
  .record "FormHost" [("schema", .optional Schema.inspect h.schema),
    ("initial_values", .mapping (h.initialValues.map fun e => (.text e.1, e.2.inspect))),
    ("form", .optional Form.inspect h.form),
    ("loader", .record "SchemaLoader" [("options", h.loader.inspect)]),
    ("submit_options", h.submission.inspect),
    ("handler", .optional (fun _ => .text "..") h.handler)]

end LiveForm
