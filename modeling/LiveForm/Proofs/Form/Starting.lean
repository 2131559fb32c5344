import LiveForm.Proofs.Form.Calling
import LiveForm.Proofs.Form.Rechecking

/-!
# What a compiled form starts with

`Schema.startingControl` gives the control of a field without declaring or wiring anything: its
value from the initial values or its type, its flag from the declarations of its name and from the
values that their parents start with, its gates from the fields that depend on it. Compiling makes
these controls, one for each name at the place of its first declaration and from its last one,
whatever the schema: names may repeat, and fields may depend on later fields, on themselves, on each
other or on nothing that exists.

All that wiring reads are values, and it writes none. So it does not matter which parents have been
wired when a field is.
-/

namespace LiveForm

def Field.startingValue (field : Field) (initial : Json.Entries) : Json :=
  (initial.get? field.name).getD field.type.defaultValue

namespace Schema

def startingValue? (s : Schema) (initial : Json.Entries) (name : String) : Option Json :=
  (s.declaration? name).map (·.startingValue initial)

/-- Some declaration of a name depends on a field that starts with a value that enables nothing. -/
def startsGated (s : Schema) (initial : Json.Entries) (name : String) : Bool :=
  s.fields.any fun field => field.name = name &&
    (field.dependsOn.bind (s.startingValue? initial)).any fun value => !value.isTruthy

/-- The gates of the fields that depend on a name, with the handles from zero on. -/
def startingObservers (s : Schema) (name : String) : ObserverList where
  nextNumber := (s.dependents name).length
  entries := (s.dependents name).zipIdx.map fun (field, number) => (⟨number⟩, .gate field.name)

/-- The control that a field starts with, if its declaration is the last with its name. -/
def startingControl (s : Schema) (initial : Json.Entries) (field : Field) : Control :=
  let value := field.startingValue initial
  let disabled := field.disabled || s.startsGated initial field.name
  { name := field.name
    type := field.type
    value := value
    disabled := disabled
    touched := false
    dirty := false
    rules := field.rules
    errors := if disabled then [] else Rule.failing field.rules value
    observers := s.startingObservers field.name }

end Schema

namespace Form

variable {f : Form} {schema : Schema} {initial : Json.Entries}

section Declaring

theorem value?_declared (schema : Schema) (initial : Json.Entries) :
    (declared schema initial).value? = schema.startingValue? initial := by
  funext name
  rw [value?, control?_declared, Option.map_map]
  rfl

/-- A declaration reads the initial value under its own name only. -/
theorem declare_filter_initial {names : List String} {field : Field} (known : field.name ∈ names) :
    f.declare (initial.filter fun e => e.1 ∈ names) field = f.declare initial field := by
  have same : Json.Entries.get? (initial.filter fun e => e.1 ∈ names) field.name =
      initial.get? field.name := by
    rw [Json.Entries.get?, List.find?_filter, Json.Entries.get?]
    congr 2
    funext e
    by_cases here : e.1 = field.name <;> simp [here, known]
  rw [declare, declare, Control.ofField, Control.ofField, same]

end Declaring

section Wiring

theorem value?_update {change : Control → Control} (keeps : ∀ c, (change c).value = c.value)
    (f : Form) (name : String) : (f.update name change).value? = f.value? := by
  have read : ∀ g : Form, ∀ other, g.value? other =
      (g.place? other).bind fun place => (g.controls.map Control.value)[place]? := by
    intro g other
    simp only [value?, control?, Option.map_bind, Function.comp_def, List.getElem?_map]
  funext other
  rw [read, read, place?_update, map_controls_update keeps]

theorem value?_setDisabled {f' : Form} {name : String} {disabled : Bool}
    (done : f.setDisabled name disabled = .ok f') : f'.value? = f.value? := by
  unfold setDisabled change at done
  split at done
  · obtain rfl := Except.ok.inj done
    exact value?_update (fun c => c.value_setDisabled disabled) f name
  · cases done

theorem value?_register {f' : Form} {name : String} {listener : Listener} {id : ObserverId}
    (done : f.register name listener = .ok (id, f')) : f'.value? = f.value? := by
  unfold register at done
  split at done
  · obtain ⟨-, rfl⟩ := Prod.mk.inj (Except.ok.inj done)
    have keeps : ∀ c : Control, (c.register listener).value = c.value := fun _ => rfl
    exact value?_update keeps f name
  · cases done

/-- Wiring a field changes no value, in whatever form. -/
theorem value?_wire (f : Form) (field : Field) : (f.wire field).form.value? = f.value? := by
  unfold wire
  split
  case h_1 => rfl
  case h_2 parent =>
    split
    case h_1 => rfl
    case h_2 value _ =>
      unfold wireTo
      split
      case h_1 => rfl
      case h_2 id g registered =>
        split
        case isTrue => exact value?_register registered
        case isFalse =>
          split
          case h_1 g' disabled =>
            exact (value?_setDisabled disabled).trans (value?_register registered)
          case h_2 => exact value?_register registered

/-- A field is blocked by the value that its parent starts with. -/
theorem blocks_declared (schema : Schema) (initial : Json.Entries) (field : Field) :
    (declared schema initial).blocks field =
      (field.dependsOn.bind (schema.startingValue? initial)).any fun value => !value.isTruthy := by
  rw [blocks, value?_declared]
  cases field.dependsOn.bind (schema.startingValue? initial) <;> rfl

/-- The declared control of a field becomes its starting control when all fields are wired. -/
theorem wired_ofField (schema : Schema) (initial : Json.Entries) (field : Field) :
    (declared schema initial).wired schema.fields (.ofField field initial) =
      schema.startingControl initial field := by
  have gated : (schema.fields.any fun other => other.name = (Control.ofField field initial).name &&
      (declared schema initial).blocks other) = schema.startsGated initial field.name := by
    simp only [blocks_declared]
    rfl
  have observers : gatesAdded schema.fields (Control.ofField field initial).name
      (Control.ofField field initial).observers = schema.startingObservers field.name := by
    show gatesAdded schema.fields field.name {} = _
    rw [gatesAdded_eq]
    simp [Schema.startingObservers, Schema.dependents]
  rw [wired, gated, observers, Schema.startingControl]
  cases schema.startsGated initial field.name <;> cases disabled : field.disabled <;>
    simp [Control.ofField, Control.new, Control.setDisabled, Control.revalidate, Control.errorsOf,
      Field.startingValue, disabled]

end Wiring

theorem Outcome.forEach_congr {α : Type} {items : List α} {next next' : Form → α → Outcome}
    (same : ∀ f, ∀ a ∈ items, next f a = next' f a) (o : Outcome) :
    o.forEach items next = o.forEach items next' :=
  List.foldl_ext _ _ o fun o a member => congrArg
    (fun after : Outcome => (⟨after.form, o.trace ++ after.trace⟩ : Outcome)) (same o.form a member)

/-- A name leads to the control that its last declaration starts with. -/
theorem control?_compile_start (schema : Schema) (initial : Json.Entries) (name : String) :
    (compile schema initial).form.control? name =
      (schema.declaration? name).map (schema.startingControl initial) := by
  rw [compile_form_eq, control?_mapControls, control?_declared, Option.map_map]
  exact Option.map_congr fun field _ => wired_ofField schema initial field

/-- Every compiled control is the one that the last declaration of its name starts with. -/
theorem eq_startingControl {c : Control} (member : c ∈ (compile schema initial).form.controls) :
    ∃ field, schema.declaration? c.name = some field ∧
      c = schema.startingControl initial field := by
  have found := (compile_sound schema initial).consistent.control?_name member
  rw [control?_compile_start] at found
  obtain ⟨field, last, rfl⟩ := Option.map_eq_some_iff.mp found
  exact ⟨field, last, rfl⟩

/-- Compiling makes one control for each name, at the place of its first declaration: the control
that its last declaration starts with. No control is found under any other name. Initial values
without a field are not read, and wiring a field changes no value, whatever was wired before. -/
theorem compile_starts (schema : Schema) (initial : Json.Entries) :
    let start := (compile schema initial).form
    start.names = schema.names.eraseDups ∧
      (∀ c ∈ start.controls, ∃ field, schema.declaration? c.name = some field ∧
        c = schema.startingControl initial field) ∧
      (∀ name, start.control? name =
        (schema.declaration? name).map (schema.startingControl initial)) ∧
      compile schema (initial.filter fun e => e.1 ∈ schema.names) = compile schema initial ∧
      ∀ (f : Form) (field : Field), (f.wire field).form.value? = f.value? := by
  intro start
  refine ⟨?_, fun c => eq_startingControl, control?_compile_start schema initial, ?_, value?_wire⟩
  · rw [show start = _ from compile_form_eq schema initial, names_mapControls (name_wired _ _),
      names_declared]
  · have declares : ∀ (f : Form), ∀ field ∈ schema.fields,
        f.declare (initial.filter fun e => e.1 ∈ schema.names) field =
          f.declare initial field := by
      intro f field member
      exact declare_filter_initial (List.mem_map_of_mem member)
    rw [compile, compile, Outcome.forEach_congr declares]

/-- The code is a text, since that is its later declaration, in the place of the earlier one. Its
kind has no value yet, so the code is disabled and does not report that it is too short. -/
theorem compile_starts_redeclared :
    let start := (compile redeclared [("code", .string "no"), ("size", .null)]).form
    start.names = ["code", "kind"] ∧ ∃ c, start.control? "code" = some c ∧ c.type = .text ∧
      c.value = .string "no" ∧ c.disabled = true ∧ c.errors = [] ∧
      c.observers.entries = [(⟨0⟩, .gate "kind")] := by
  obtain ⟨names, -, found, -⟩ :=
    compile_starts redeclared [("code", .string "no"), ("size", .null)]
  exact ⟨names, _, found "code", rfl, rfl, rfl, rfl, rfl⟩

end Form

end LiveForm
