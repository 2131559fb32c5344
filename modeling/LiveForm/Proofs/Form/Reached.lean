import LiveForm.Proofs.Form.Compile

/-!
# Reached forms

The forms that a host can have in hand: compiled from any schema, with any initial values, and
then taken through any actions. They are sound, so a write by the user settles in each of them,
whatever was registered or removed in between and however the dependencies are tangled.
-/

namespace LiveForm

namespace Form

/-- The form of a schema after some actions. -/
def reached (schema : Schema) (initial : Json.Entries) (actions : List Action) : Form :=
  ((compile schema initial).form.run actions).form

variable {schema : Schema}

theorem reached_sound (schema : Schema) (initial : Json.Entries) (actions : List Action) :
    (reached schema initial actions).Sound :=
  (compile_sound schema initial).run actions

/-- The names, the types and the rules of the controls are those of the fields for good. -/
theorem fixedParts_reached (distinct : schema.names.Nodup) (initial : Json.Entries)
    (actions : List Action) :
    (reached schema initial actions).fixedParts =
      schema.fields.map fun field => (field.name, field.type, field.rules) := by
  rw [reached, (compile_sound schema initial).fixedParts_run, fixedParts_compile distinct]

theorem names_eq_of_fixedParts (f : Form) : f.names = f.fixedParts.map Prod.fst := by
  simp [names, fixedParts, Control.fixed]

/-- With distinct names the controls stand in the order of the fields. -/
theorem names_reached (distinct : schema.names.Nodup) (initial : Json.Entries)
    (actions : List Action) : (reached schema initial actions).names = schema.names := by
  rw [names_eq_of_fixedParts, fixedParts_reached distinct, List.map_map]
  rfl

theorem mem_names_reached (schema : Schema) (initial : Json.Entries) (actions : List Action)
    (name : String) : name ∈ (reached schema initial actions).names ↔ name ∈ schema.names := by
  rw [names_eq_of_fixedParts, reached, (compile_sound schema initial).fixedParts_run,
    ← names_eq_of_fixedParts, mem_names_compile]

theorem control?_reached_eq_none {name : String} (unknown : name ∉ schema.names)
    (initial : Json.Entries) (actions : List Action) :
    (reached schema initial actions).control? name = none :=
  (reached_sound schema initial actions).consistent.control?_eq_none_iff.mpr
    (mt (mem_names_reached schema initial actions name).mp unknown)

/-- In every reached form a write by the user settles when it is made on a control: it succeeds and
leaves the settled form. On any other name it is refused and changes nothing. -/
theorem setValue_settles (schema : Schema) (initial : Json.Entries) (actions : List Action)
    (name : String) (value : Json) :
    let f := reached schema initial actions
    if f.contains name then
      ∃ o, f.setValue name value = .ok o ∧ o.form = f.mapControls (f.settled name value)
    else
      f.setValue name value = .error (.unknownControl name) ∧
        (f.perform (.setValue name value)).form = f := by
  intro f
  have sound : f.Sound := reached_sound schema initial actions
  split
  case isTrue contained =>
    have known : name ∈ f.names := sound.consistent.contains_iff.mp contained
    obtain ⟨o, done, settles, -⟩ := sound.setValue_eq_ok known value
    exact ⟨o, done, settles⟩
  case isFalse missing =>
    have unknown : name ∉ f.names := mt sound.consistent.contains_iff.mpr missing
    have refused := setValue_eq_error sound.consistent unknown value
    refine ⟨refused, ?_⟩
    rw [perform, refused]
    rfl

end Form

end LiveForm
