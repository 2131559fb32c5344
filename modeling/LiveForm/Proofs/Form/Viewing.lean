import LiveForm.Form.Snapshot
import LiveForm.Proofs.Form.Attempting
import LiveForm.Proofs.Form.Explaining

/-!
# What a snapshot shows

A snapshot goes through the fields of a schema and looks each control up by its name, while an
attempt to submit goes through the controls. In a reached form both meet the same controls in the
same order: the entries of the snapshot have the standings of the controls, and these are all that
an attempt reads. So what a view shows as valid is what is submitted, and what it shows with failing
rules is what is rejected.
-/

namespace LiveForm

def FieldView.standing (entry : FieldView) : Standing where
  name := entry.name
  value := entry.value
  disabled := entry.disabled
  errors := entry.errors

namespace Control

variable {c : Control} {field : Field}

/-- A message is about a failing rule of a control that is enabled and was touched. -/
theorem UpToDate.of_errorMessage_ne_empty (upToDate : c.UpToDate)
    (speaks : c.errorMessage field ≠ "") :
    c.touched = true ∧ c.disabled = false ∧ c.errors ≠ [] := by
  have touched : c.touched = true := by
    by_contra untouched
    rw [errorMessage, if_neg untouched] at speaks
    exact speaks rfl
  have fails : c.errors ≠ [] := ((errorMessage_ne_empty_iff touched).mp speaks).1
  refine ⟨touched, ?_, fails⟩
  cases disabled : c.disabled with
  | false => rfl
  | true =>
    rw [UpToDate, errorsOf, if_pos disabled] at upToDate
    exact absurd upToDate fails

end Control

namespace Form

/-- An entry of a snapshot shows a field together with the state of its control, and says what the
form says about the field. -/
structure Shows (f : Form) (entry : FieldView) (field : Field) (c : Control) : Prop where
  control : f.control? field.name = some c
  name : entry.name = field.name
  value : entry.value = c.value
  disabled : entry.disabled = c.disabled
  touched : entry.touched = c.touched
  errors : entry.errors = c.errors
  message : entry.message = f.errorMessage field

variable {f : Form} {schema : Schema} {c : Control} {field : Field}

theorem errorMessage_of_control? (found : f.control? field.name = some c) :
    f.errorMessage field = c.errorMessage field := by
  rw [errorMessage, found]

theorem shows_ofControl (found : f.control? field.name = some c) :
    f.Shows (.ofControl field c) field c where
  control := found
  name := rfl
  value := rfl
  disabled := rfl
  touched := rfl
  errors := rfl
  message := (errorMessage_of_control? found).symm

theorem shows_fields {fields : List Field}
    (known : ∀ field ∈ fields, ∃ c, f.control? field.name = some c) :
    List.Forall₂ (fun entry field => ∃ c, f.Shows entry field c)
      (fields.filterMap fun field => (f.control? field.name).map (FieldView.ofControl field))
      fields := by
  induction fields with
  | nil => exact .nil
  | cons field rest ih =>
    obtain ⟨⟨c, found⟩, others⟩ := List.forall_mem_cons.mp known
    rw [List.filterMap_cons_some (by rw [found, Option.map_some])]
    exact .cons ⟨c, shows_ofControl found⟩ (ih others)

theorem Consistent.standings_snapshot (consistent : f.Consistent) (names : f.names = schema.names) :
    (f.snapshot schema).fields.map FieldView.standing = f.standings := by
  rw [standings, consistent.map_controls, names, Schema.names, List.filterMap_map, snapshot,
    List.map_filterMap]
  apply List.filterMap_congr
  intro field _
  rw [Function.comp_apply]
  cases found : f.control? field.name with
  | none => rfl
  | some c =>
    have named := (consistent.control?_eq_some_iff.mp found).2
    simp only [Option.map_some, FieldView.standing, FieldView.ofControl, Control.standing, named]

/-- The snapshot of a reached form has an entry for each field of the schema, in order, with the
state of its control and its message. It counts as valid exactly when an attempt to submit succeeds,
which is when no entry has a failing rule; otherwise the entries with failing rules are those that
the attempt names, in the same order. There is nothing to say about a field unless its control was
touched, is enabled and fails a rule. -/
theorem snapshot_agrees (distinct : schema.names.Nodup) (initial : Json.Entries)
    (actions : List Action) (options : SubmitOptions) :
    let f := reached schema initial actions
    let view := f.snapshot schema
    let result := (f.submit options).result
    List.Forall₂ (fun entry field => ∃ c, f.Shows entry field c) view.fields schema.fields ∧
      (view.valid = true ↔ result.isSubmitted = true) ∧
      (view.valid = true ↔ ∀ entry ∈ view.fields, entry.errors = []) ∧
      (∀ invalid, result = .rejected invalid →
        (view.fields.filter fun entry => !entry.errors.isEmpty).map FieldView.name = invalid) ∧
      ∀ entry ∈ view.fields, entry.message ≠ "" →
        entry.touched = true ∧ entry.disabled = false ∧ entry.errors ≠ [] := by
  intro f view result
  have sound : f.Sound := reached_sound schema initial actions
  have shown : List.Forall₂ (fun entry field => ∃ c, f.Shows entry field c) view.fields
      schema.fields := by
    apply shows_fields
    intro field declared
    obtain ⟨c, found, -⟩ := control?_reached distinct initial actions declared
    exact ⟨c, found⟩
  have standings : view.fields.map FieldView.standing = f.standings :=
    sound.consistent.standings_snapshot (names_reached distinct initial actions)
  refine ⟨shown, ?_, ?_, ?_, ?_⟩
  · rw [show result.isSubmitted = f.isValid from isSubmitted_submit f options]
    rfl
  · rw [show view.valid = f.isValid from rfl, isValid_eq_standings, ← standings, List.all_map,
      List.all_eq_true]
    simp only [Function.comp_apply, FieldView.standing, List.isEmpty_iff]
  · intro invalid rejected
    have unsubmitted : ¬ f.isValid = true := by
      rw [← isSubmitted_submit f options, show (f.submit options).result = _ from rejected]
      exact Bool.false_ne_true
    have named := (submit_of_not_valid unsubmitted options).1
    obtain rfl := Submission.rejected.inj (rejected.symm.trans named)
    rw [invalidControls_eq_standings, ← standings, List.filter_map, List.map_map]
    rfl
  · intro entry member speaks
    obtain ⟨field, -, here⟩ := List.mem_filterMap.mp member
    obtain ⟨c, found, rfl⟩ := Option.map_eq_some_iff.mp here
    exact (sound.upToDate c (mem_controls_of_control? found)).of_errorMessage_ne_empty speaks

theorem snapshot_agrees_purchase :
    let f := reached purchase [] [.setValue "other" (.bool true), .submit {}]
    let view := f.snapshot purchase
    purchase.names.Nodup ∧ (f.submit {}).result = .rejected ["amount"] ∧
      (view.fields.filter fun entry => !entry.errors.isEmpty).map FieldView.name = ["amount"] ∧
      view.fields.map FieldView.message = ["", "Amount is required."] := by
  intro f view
  have distinct : purchase.names.Nodup := by decide
  have rejected : (f.submit {}).result = .rejected ["amount"] := rfl
  obtain ⟨-, -, -, named, -⟩ :=
    snapshot_agrees distinct [] [.setValue "other" (.bool true), .submit {}] {}
  exact ⟨distinct, rejected, named ["amount"] rejected, rfl⟩

end Form

end LiveForm
