import LiveForm.Form.Event

/-!
# Compiling forms

`Form.compile` makes one control for each field, in the order of the fields, with its rules and its
starting value: the initial value under its name, if there is one, or else the value of an untouched
control. Then every field that depends on another is wired to it. Compiling never fails. Of several
declarations of one name the last counts, at the place of the first.
-/

namespace LiveForm

/-- The control of a field. -/
def Control.ofField (field : Field) (initial : Json.Entries) : Control :=
  .new field.name field.type ((initial.get? field.name).getD field.type.defaultValue)
    field.disabled field.rules

namespace Form

/-- Puts a control in the place of the one with its name, or at the end. -/
def insert (f : Form) (c : Control) : Form :=
  match f.place? c.name with
  | some place => { f with controls := f.controls.set place c }
  | none => { f with controls := f.controls ++ [c], index := f.index ++ [(c.name, f.size)] }

/-- The report of a pattern that gives no rule. -/
def patternEvents (field : Field) : List Event :=
  field.skippedPattern?.toList.map (.patternSkipped field.name)

/-- Adds the control of a field. -/
def declare (initial : Json.Entries) (f : Form) (field : Field) : Outcome :=
  let c := Control.ofField field initial
  ⟨f.insert c,
    patternEvents field ++ (if f.contains c.name then [.redeclared c.name] else [])⟩

/-- Makes a field depend on a parent whose value is given: registers the gate and, unless the value
is truthy, disables the field without resetting it. -/
def wireTo (f : Form) (name parent : String) (value : Json) : Outcome :=
  match f.register parent (.gate name) with
  | .error e => .event f (.gateRefused name e)
  | .ok (_, f) =>
    if value.isTruthy then .still f
    else
      match f.setDisabled name true with
      | .ok f => .still f
      | .error e => .event f (.initialGateSkipped name e)

/-- Wires a field to the one it depends on. A parent that does not exist leaves it free. -/
def wire (f : Form) (field : Field) : Outcome :=
  match field.dependsOn with
  | none => .still f
  | some parent =>
    match f.value? parent with
    | none => .event f (.dependencyIgnored field.name parent)
    | some value => f.wireTo field.name parent value

/-- The form of a schema, with initial values by name. -/
def compile (schema : Schema) (initial : Json.Entries) : Outcome :=
  let declared := (Outcome.still {}).forEach schema.fields (declare initial)
  let wired := declared.forEach schema.fields wire
  wired.andThen fun f => .event f (.compiled f.size)

end Form

end LiveForm
