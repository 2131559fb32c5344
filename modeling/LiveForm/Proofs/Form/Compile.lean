import LiveForm.Proofs.Form.Declaring
import LiveForm.Proofs.Form.Wiring

/-!
# Compiled forms

A compiled form is the declared one with all of its fields wired, and it is sound for every schema.
With distinct names there is one control for each field, in order; the children of a field are
those that depend on it, and a field is disabled at first when it is declared so or when the value
of its parent enables nothing.
-/

namespace LiveForm

namespace Form

variable {c : Control} {schema : Schema}

theorem Outcome.form_forEach {α : Type} (o : Outcome) (items : List α)
    (next : Form → α → Outcome) :
    (o.forEach items next).form = items.foldl (fun f a => (next f a).form) o.form := by
  induction items generalizing o with
  | nil => rfl
  | cons a rest ih => exact ih (o.andThen (next · a))

theorem compile_form_eq_foldl (schema : Schema) (initial : Json.Entries) :
    (compile schema initial).form =
      schema.fields.foldl (fun f field => (f.wire field).form) (declared schema initial) := by
  rw [compile, Outcome.form_andThen, Outcome.form_event, Outcome.form_forEach,
    Outcome.form_forEach]
  rfl

/-- A compiled form is the declared one with all fields wired. -/
theorem compile_form_eq (schema : Schema) (initial : Json.Entries) :
    (compile schema initial).form =
      (declared schema initial).mapControls ((declared schema initial).wired schema.fields) := by
  rw [compile_form_eq_foldl]
  apply foldl_wire schema.fields (declared_unwired schema initial).sound
  intro field member
  exact (mem_names_declared schema initial field.name).mpr (List.mem_map_of_mem member)

/-- Every compiled form is sound. -/
theorem compile_sound (schema : Schema) (initial : Json.Entries) :
    (compile schema initial).form.Sound := by
  rw [compile_form_eq]
  apply (declared_unwired schema initial).sound.wired
  intro field member
  exact (mem_names_declared schema initial field.name).mpr (List.mem_map_of_mem member)

theorem mem_names_compile (schema : Schema) (initial : Json.Entries) (name : String) :
    name ∈ (compile schema initial).form.names ↔ name ∈ schema.names := by
  rw [compile_form_eq, names_mapControls (name_wired _ _), mem_names_declared]

theorem control?_compile_eq_none {name : String} (unknown : name ∉ schema.names)
    (initial : Json.Entries) : (compile schema initial).form.control? name = none :=
  (compile_sound schema initial).consistent.control?_eq_none_iff.mpr
    (mt (mem_names_compile schema initial name).mp unknown)

/-- Wiring takes the values as they are declared. -/
theorem value?_compile (schema : Schema) (initial : Json.Entries) :
    (compile schema initial).form.value? = (declared schema initial).value? := by
  rw [compile_form_eq]
  exact value?_mapControls (value_wired _ _)

theorem controls_compile (distinct : schema.names.Nodup) (initial : Json.Entries) :
    (compile schema initial).form.controls = schema.fields.map fun field =>
      (declared schema initial).wired schema.fields (Control.ofField field initial) := by
  rw [compile_form_eq, controls_mapControls, controls_declared distinct, List.map_map]
  rfl

/-- A control starts with the initial value under its name, if there is one, or else with the value
of an untouched control. -/
theorem value?_compile_eq_some_iff (distinct : schema.names.Nodup) (initial : Json.Entries)
    {name : String} {value : Json} :
    (compile schema initial).form.value? name = some value ↔
      ∃ field ∈ schema.fields, field.name = name ∧
        (initial.get? name).getD field.type.defaultValue = value := by
  have consistent := (compile_sound schema initial).consistent
  simp only [value?, Option.map_eq_some_iff, consistent.control?_eq_some_iff,
    controls_compile distinct, List.mem_map]
  constructor
  · rintro ⟨_, ⟨⟨field, declaredField, rfl⟩, rfl⟩, rfl⟩
    refine ⟨field, declaredField, (name_wired _ _ (.ofField field initial)).symm, ?_⟩
    rw [name_wired, value_wired]
    rfl
  · rintro ⟨field, declaredField, rfl, rfl⟩
    exact ⟨_, ⟨⟨field, declaredField, rfl⟩, name_wired _ _ (.ofField field initial)⟩,
      value_wired _ _ (.ofField field initial)⟩

/-- The names, the types and the rules are those of the fields. -/
theorem fixedParts_compile (distinct : schema.names.Nodup) (initial : Json.Entries) :
    (compile schema initial).form.fixedParts =
      schema.fields.map fun field => (field.name, field.type, field.rules) := by
  rw [fixedParts, controls_compile distinct, List.map_map]
  exact List.map_congr_left fun field _ => fixed_wired _ _ _

/-- The observers of a compiled control are the gates of the fields that depend on it. -/
theorem observers_compile (schema : Schema) (initial : Json.Entries)
    (member : c ∈ (compile schema initial).form.controls) :
    c.observers = gatesAdded schema.fields c.name {} := by
  rw [compile_form_eq] at member
  obtain ⟨d, before, rfl⟩ := List.mem_map.mp member
  rw [observers_wired, name_wired, (declared_unwired schema initial).unobserved d before]

theorem keyed_compile (schema : Schema) (initial : Json.Entries)
    (member : c ∈ (compile schema initial).form.controls) : c.observers.Keyed := by
  rw [observers_compile schema initial member]
  exact gatesAdded_keeps (fun _ _ keyed => keyed.register _) schema.fields c.name .empty

theorem mem_children_compile (schema : Schema) (initial : Json.Entries) (parent child : String) :
    child ∈ (compile schema initial).form.children parent ↔
      parent ∈ schema.names ∧ ∃ field ∈ schema.fields, field.dependsOn = some parent ∧
        field.name = child := by
  have consistent := (compile_sound schema initial).consistent
  rw [← mem_names_compile schema initial, children]
  cases found : (compile schema initial).form.control? parent with
  | none => simp [consistent.control?_eq_none_iff.mp found]
  | some c =>
    obtain ⟨member, rfl⟩ := consistent.control?_eq_some_iff.mp found
    have known := consistent.mem_names_of_control? found
    rw [Option.elim_some, observers_compile schema initial member, gateTargets_gatesAdded]
    simp [known, ObserverList.gateTargets, and_assoc]

/-- With distinct names the parent of a field is the one that it names. -/
theorem mem_children_compile_iff (distinct : schema.names.Nodup) (initial : Json.Entries)
    {field : Field} (declared : field ∈ schema.fields) (parent : String) :
    field.name ∈ (compile schema initial).form.children parent ↔
      parent ∈ schema.names ∧ field.dependsOn = some parent := by
  rw [mem_children_compile]
  refine and_congr_right fun _ => ⟨?_, fun depends => ⟨field, declared, depends, rfl⟩⟩
  rintro ⟨other, member, depends, same⟩
  exact List.inj_on_of_nodup_map distinct member declared same ▸ depends

/-- The control of a field is the declared one, wired with all fields. -/
theorem control?_compile_eq (distinct : schema.names.Nodup) (initial : Json.Entries) {field : Field}
    (declaredField : field ∈ schema.fields) :
    (compile schema initial).form.control? field.name =
      some ((declared schema initial).wired schema.fields (.ofField field initial)) := by
  refine (compile_sound schema initial).consistent.control?_eq_some_iff.mpr
    ⟨?_, name_wired _ _ (.ofField field initial)⟩
  rw [controls_compile distinct]
  exact List.mem_map_of_mem declaredField

/-- The control of a field is disabled at first when the field says so or when its parent has a
value that enables nothing. -/
theorem control?_compile (distinct : schema.names.Nodup) (initial : Json.Entries) {field : Field}
    (declaredField : field ∈ schema.fields) :
    ∃ c, (compile schema initial).form.control? field.name = some c ∧
      c.disabled = (field.disabled || (compile schema initial).form.blocks field) := by
  refine ⟨_, control?_compile_eq distinct initial declaredField, ?_⟩
  have only : ∀ other ∈ schema.fields, other.name = field.name → other = field :=
    fun other member same => List.inj_on_of_nodup_map distinct member declaredField same
  have blocks : (schema.fields.any fun other =>
      other.name = field.name && (declared schema initial).blocks other) =
      (declared schema initial).blocks field := by
    rw [Bool.eq_iff_iff, List.any_eq_true]
    constructor
    · rintro ⟨other, member, blocked⟩
      obtain ⟨same, blocked⟩ := Bool.and_eq_true_iff.mp blocked
      exact only other member (of_decide_eq_true same) ▸ blocked
    · exact fun blocked => ⟨field, declaredField, by simp [blocked]⟩
  rw [disabled_wired]
  show (field.disabled || schema.fields.any _) = _
  rw [Form.blocks, value?_compile]
  exact congrArg (field.disabled || ·) blocks

end Form

end LiveForm
