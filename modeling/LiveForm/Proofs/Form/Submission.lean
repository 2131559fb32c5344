import LiveForm.Proofs.Form.Reached
import LiveForm.Proofs.Rule.Constraint

/-!
# What a submission lets through

A submission looks only at the failing kinds that the controls carry. In a reached form these are up
to date and the rules are those of the fields, so the form is submitted exactly when the values of
the enabled controls satisfy what the schema declares, and otherwise the fields that do not are
named.
-/

namespace LiveForm

namespace Form

/-- The control of a field is disabled, or its value satisfies what the field declares. -/
def Meets (f : Form) (field : Field) : Prop :=
  ∃ c, f.control? field.name = some c ∧ (c.disabled = false → field.SatisfiedBy c.value)

/-- The control of a field is enabled, and its value does not satisfy what the field declares. -/
def Violates (f : Form) (field : Field) : Prop :=
  ∃ c, f.control? field.name = some c ∧ c.disabled = false ∧ ¬ field.SatisfiedBy c.value

instance (f : Form) (field : Field) : Decidable (f.Violates field) :=
  decidable_of_iff
    ((f.control? field.name).any fun c => !c.disabled && !decide (field.SatisfiedBy c.value)) <| by
      simp [Option.any_eq_true, Violates]

/-- What the control of a field has to do with it. -/
structure Serves (c : Control) (field : Field) : Prop where
  upToDate : c.UpToDate
  fixed : c.fixed = (field.name, field.type, field.rules)

variable {f : Form} {c : Control} {field : Field}

theorem Serves.name_eq (serves : Serves c field) : c.name = field.name :=
  congrArg Prod.fst serves.fixed

theorem Serves.type_eq (serves : Serves c field) : c.type = field.type :=
  congrArg (·.2.1) serves.fixed

theorem Serves.rules_eq (serves : Serves c field) : c.rules = field.rules :=
  congrArg (·.2.2) serves.fixed

theorem Serves.isValid_iff (serves : Serves c field) :
    c.isValid = true ↔ (c.disabled = false → field.SatisfiedBy c.value) := by
  rw [Control.isValid, List.isEmpty_iff, serves.upToDate, Control.errorsOf, serves.rules_eq]
  cases c.disabled with
  | true => simp
  | false => simpa using field.failing_rules_eq_nil_iff c.value

/-- A field is violated when its control is not valid. -/
theorem Serves.violates_iff (serves : Serves c field) (consistent : f.Consistent)
    (member : c ∈ f.controls) : f.Violates field ↔ c.isValid = false := by
  have found : f.control? field.name = some c :=
    consistent.control?_eq_some_iff.mpr ⟨member, serves.name_eq⟩
  rw [← Bool.not_eq_true, serves.isValid_iff, Classical.not_imp, Violates, found]
  simp

theorem Serves.meets_iff (serves : Serves c field) (consistent : f.Consistent)
    (member : c ∈ f.controls) : f.Meets field ↔ ¬ f.Violates field := by
  have found : f.control? field.name = some c :=
    consistent.control?_eq_some_iff.mpr ⟨member, serves.name_eq⟩
  rw [serves.violates_iff consistent member, Bool.not_eq_false, serves.isValid_iff, Meets, found]
  simp

/-- Controls that serve fields in their order are chosen together with them. -/
theorem map_name_filter_eq {controls : List Control} {fields : List Field} {chosen : Control → Bool}
    {wanted : Field → Prop} [DecidablePred wanted]
    (serves : List.Forall₂ (fun c field => Serves c field ∧ (wanted field ↔ chosen c = true))
      controls fields) :
    (controls.filter chosen).map Control.name = (fields.filter (wanted ·)).map Field.name := by
  induction serves with
  | nil => rfl
  | cons first _ ih =>
    obtain ⟨serves, same⟩ := first
    simp only [List.filter_cons, same, decide_eq_true_eq]
    split
    · rw [List.map_cons, List.map_cons, ih, serves.name_eq]
    · exact ih

variable {schema : Schema}

/-- The controls of a reached form serve the fields in their order. -/
theorem serves_reached (distinct : schema.names.Nodup) (initial : Json.Entries)
    (actions : List Action) :
    List.Forall₂ (fun c field => Serves c field ∧ c ∈ (reached schema initial actions).controls)
      (reached schema initial actions).controls schema.fields := by
  have sound := reached_sound schema initial actions
  have same := fixedParts_reached distinct initial actions
  have pairs : List.Forall₂ (fun c field => Control.fixed c = (field.name, field.type, field.rules))
      (reached schema initial actions).controls schema.fields := by
    rw [← List.forall₂_map_right_iff, ← List.forall₂_map_left_iff, List.forall₂_eq_eq_eq]
    exact same
  refine List.forall₂_iff_get.mpr ⟨pairs.length_eq, ?_⟩
  intro i inside inside'
  have member := List.get_mem (reached schema initial actions).controls ⟨i, inside⟩
  exact ⟨⟨sound.upToDate _ member, pairs.get inside inside'⟩, member⟩

theorem exists_serves_reached (distinct : schema.names.Nodup) (initial : Json.Entries)
    (actions : List Action) (declared : field ∈ schema.fields) :
    ∃ c, Serves c field ∧ c ∈ (reached schema initial actions).controls := by
  obtain ⟨i, inside, rfl⟩ := List.mem_iff_getElem.mp declared
  have pairs := serves_reached distinct initial actions
  have inside' : i < (reached schema initial actions).controls.length :=
    pairs.length_eq.symm ▸ inside
  exact ⟨_, pairs.get inside' inside⟩

theorem control?_reached (distinct : schema.names.Nodup) (initial : Json.Entries)
    (actions : List Action) (declared : field ∈ schema.fields) :
    ∃ c, (reached schema initial actions).control? field.name = some c ∧ Serves c field := by
  obtain ⟨c, serves, member⟩ := exists_serves_reached distinct initial actions declared
  refine ⟨c, ?_, serves⟩
  exact (reached_sound schema initial actions).consistent.control?_eq_some_iff.mpr
    ⟨member, serves.name_eq⟩

/-- A valid form hands over its data and stays as it is. -/
theorem submit_of_valid (valid : f.isValid = true) (options : SubmitOptions) :
    (f.submit options).result = .submitted (f.dataFor options) ∧
      (f.submit options).outcome.form = f := by
  rw [submit, if_pos valid]
  exact ⟨rfl, rfl⟩

/-- Any other form is rejected, which touches every control. -/
theorem submit_of_not_valid (invalid : ¬ f.isValid = true) (options : SubmitOptions) :
    (f.submit options).result = .rejected f.invalidControls ∧
      (f.submit options).outcome.form = f.touchAll := by
  rw [submit, if_neg invalid]
  exact ⟨rfl, rfl⟩

/-- An attempt hands over data when no rule of an enabled control fails. -/
theorem isSubmitted_submit (f : Form) (options : SubmitOptions) :
    (f.submit options).result.isSubmitted = f.isValid := by
  cases valid : f.isValid with
  | true => rw [(submit_of_valid valid options).1, Submission.isSubmitted]
  | false =>
    rw [(submit_of_not_valid (Bool.not_eq_true _ ▸ valid) options).1, Submission.isSubmitted]

theorem isValid_iff_invalidControls_eq_nil : f.isValid = true ↔ f.invalidControls = [] := by
  simp [isValid, invalidControls, List.filter_eq_nil_iff]

/-- The fields that are violated are the ones that the form calls invalid. -/
theorem invalidControls_reached (distinct : schema.names.Nodup) (initial : Json.Entries)
    (actions : List Action) :
    let f := reached schema initial actions
    f.invalidControls = (schema.fields.filter (f.Violates ·)).map Field.name := by
  intro f
  have consistent := (reached_sound schema initial actions).consistent
  refine map_name_filter_eq ((serves_reached distinct initial actions).imp ?_)
  rintro c field ⟨serves, member⟩
  refine ⟨serves, ?_⟩
  rw [serves.violates_iff consistent member, Bool.not_eq_true']

/-- A reached form is submitted exactly when every field of the schema is met. A form that is
rejected names the violated fields, of which there is at least one, in the order of the schema. -/
theorem submit_forwards_iff (distinct : schema.names.Nodup) (initial : Json.Entries)
    (actions : List Action) (options : SubmitOptions) :
    let f := reached schema initial actions
    let result := (f.submit options).result
    (result.isSubmitted = true ↔ ∀ field ∈ schema.fields, f.Meets field) ∧
      ∀ invalid, result = .rejected invalid →
        invalid = (schema.fields.filter (f.Violates ·)).map Field.name ∧ invalid ≠ [] := by
  intro f result
  have violated := invalidControls_reached distinct initial actions
  have met : f.isValid = true ↔ ∀ field ∈ schema.fields, f.Meets field := by
    rw [isValid_iff_invalidControls_eq_nil, violated, List.map_eq_nil_iff, List.filter_eq_nil_iff]
    apply forall₂_congr
    intro field declared
    obtain ⟨c, serves, member⟩ := exists_serves_reached distinct initial actions declared
    rw [decide_eq_true_eq]
    exact (serves.meets_iff (reached_sound schema initial actions).consistent member).symm
  cases valid : f.isValid with
  | true =>
    have submitted : result = .submitted (f.dataFor options) := by
      simp only [result, submit, valid, if_true]
    rw [submitted]
    refine ⟨iff_of_true rfl (met.mp valid), ?_⟩
    intro invalid rejected
    cases rejected
  | false =>
    have rejected : result = .rejected f.invalidControls := by
      simp only [result, submit, valid, Bool.false_eq_true, if_false]
    rw [rejected]
    refine ⟨iff_of_false Bool.false_ne_true ?_, ?_⟩
    · intro all
      simp [met.mpr all] at valid
    · intro invalid same
      obtain rfl := Submission.rejected.inj same
      refine ⟨violated, ?_⟩
      intro none
      simp [isValid_iff_invalidControls_eq_nil.mpr none] at valid

def purchase : Schema where
  fields := [
    { label := "Other amount", name := "other", type := .checkbox },
    { label := "Amount", name := "amount", type := .number, required := true,
      dependsOn := some "other" }]

theorem submit_forwards_iff_purchase :
    let f := reached purchase [] [.setValue "other" (.bool true)]
    purchase.names.Nodup ∧ (f.submit {}).result = .rejected ["amount"] ∧
      ["amount"] = (purchase.fields.filter (f.Violates ·)).map Field.name :=
  ⟨by decide, rfl,
    ((submit_forwards_iff (by decide) [] [.setValue "other" (.bool true)] {}).2 ["amount"] rfl).1⟩

end Form

end LiveForm
