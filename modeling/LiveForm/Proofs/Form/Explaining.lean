import LiveForm.Form.Message
import LiveForm.Proofs.Form.Submission

/-!
# What a rejected form says

A rejection touches every control, so afterwards the controls with a failing rule have a message and
no others do. The default texts are never empty. A custom message is shown as it is declared, and
one that is the empty text leaves the failures that it stands in for without a word: then only a
required value that is absent is complained about.
-/

namespace LiveForm

namespace Control

variable {c : Control} {field : Field}

theorem firstError?_eq_none_iff : c.firstError? = none ↔ c.errors = [] := by
  rw [firstError?, List.find?_eq_none, List.eq_nil_iff_forall_not_mem]
  simp [hasError]

theorem firstError?_eq_required_iff : c.firstError? = some .required ↔ .required ∈ c.errors := by
  constructor
  · intro first
    simpa [hasError] using List.find?_some first
  · intro fails
    rw [firstError?, RuleKind.all, List.find?_cons_of_pos (by simpa [hasError] using fails)]

theorem defaultMessage_ne_empty (c : Control) (label : String) (kind : RuleKind) :
    c.defaultMessage label kind ≠ "" := by
  cases kind <;> simp [defaultMessage]

/-- A touched control says something when a rule fails, unless it is to say the empty text. -/
theorem errorMessage_ne_empty_iff (touched : c.touched = true) :
    c.errorMessage field ≠ "" ↔
      c.errors ≠ [] ∧ (field.customMessage? = some "" → .required ∈ c.errors) := by
  rw [errorMessage, if_pos touched]
  cases first : c.firstError? with
  | none => simp [firstError?_eq_none_iff.mp first]
  | some kind =>
    have fails : c.errors ≠ [] := by
      rw [Ne, ← firstError?_eq_none_iff, first]
      exact Option.some_ne_none kind
    rw [← firstError?_eq_required_iff, first, Option.some.injEq]
    cases kind <;> cases field.customMessage? <;> simp [fails, defaultMessage_ne_empty]

/-- A control fails to be present when its value is absent and a rule fails at all. -/
theorem UpToDate.required_mem_errors_iff (upToDate : c.UpToDate) (fails : c.errors ≠ []) :
    .required ∈ c.errors ↔ c.value.isAbsent = true := by
  rw [UpToDate, errorsOf] at upToDate
  split at upToDate
  case isTrue => exact absurd upToDate fails
  case isFalse =>
    rw [upToDate] at fails ⊢
    exact Rule.required_mem_failing_iff fails

end Control

namespace Form

variable {f : Form} {schema : Schema}

theorem form_submit_of_rejected {options : SubmitOptions} {invalid : List String}
    (rejected : (f.submit options).result = .rejected invalid) :
    (f.submit options).outcome.form = f.mapControls Control.markTouched := by
  by_cases valid : f.isValid = true
  · rw [(submit_of_valid valid options).1] at rejected
    cases rejected
  · exact (submit_of_not_valid valid options).2

/-- After a rejection a field of the schema has a message exactly when a rule of its control fails,
which is when the field is violated, and the message is not to be the empty text. -/
theorem rejection_explains (distinct : schema.names.Nodup) (initial : Json.Entries)
    (actions : List Action) (options : SubmitOptions) :
    let attempt := (reached schema initial actions).submit options
    let after := attempt.outcome.form
    ∀ invalid, attempt.result = .rejected invalid → ∀ field ∈ schema.fields,
      ∃ c, after.control? field.name = some c ∧ (c.errors ≠ [] ↔ after.Violates field) ∧
        (after.errorMessage field ≠ "" ↔
          c.errors ≠ [] ∧ (field.customMessage? = some "" → c.value.isAbsent = true)) := by
  intro attempt after invalid rejected field declared
  obtain ⟨c, serves, member⟩ := exists_serves_reached distinct initial actions declared
  have sound := reached_sound schema initial actions
  have touched : after = (reached schema initial actions).mapControls Control.markTouched :=
    form_submit_of_rejected rejected
  have consistent : after.Consistent := (sound.perform (.submit options)).consistent
  have servesAfter : Serves c.markTouched field := ⟨serves.upToDate, serves.fixed⟩
  have memberAfter : c.markTouched ∈ after.controls := by
    rw [touched]
    exact List.mem_map_of_mem member
  have found : after.control? field.name = some c.markTouched :=
    consistent.control?_eq_some_iff.mpr ⟨memberAfter, servesAfter.name_eq⟩
  refine ⟨c.markTouched, found, ?_, ?_⟩
  · rw [servesAfter.violates_iff consistent memberAfter, Control.isValid,
      List.isEmpty_eq_false_iff]
  · have message : after.errorMessage field = c.markTouched.errorMessage field := by
      rw [errorMessage, found]
    rw [message, Control.errorMessage_ne_empty_iff rfl]
    refine and_congr_right fun fails => imp_congr_right fun _ => ?_
    exact servesAfter.upToDate.required_mem_errors_iff fails

/-- A code that is asked for, with nothing to say about one that is too short. -/
def codeField : Field where
  label := "Code"
  name := "code"
  type := .text
  required := true
  validation := some { minLength := some 3, message := some "" }

def terse : Schema where
  fields := [codeField]

theorem rejection_explains_terse :
    let attempt := (reached terse [] []).submit {}
    let after := attempt.outcome.form
    terse.names.Nodup ∧ attempt.result = .rejected ["code"] ∧
      after.errorMessage codeField = "Code is required." ∧
      ∃ c, after.control? "code" = some c ∧ (c.errors ≠ [] ↔ after.Violates codeField) ∧
        (after.errorMessage codeField ≠ "" ↔
          c.errors ≠ [] ∧ (codeField.customMessage? = some "" → c.value.isAbsent = true)) := by
  have distinct : terse.names.Nodup := by decide
  exact ⟨distinct, rfl, rfl,
    rejection_explains distinct [] [] {} ["code"] rfl codeField (List.mem_singleton.mpr rfl)⟩

/-- Not every failure is explained after a rejection: this code is too short, and nothing says
so. -/
theorem not_rejection_explains :
    ¬ ∀ (schema : Schema) (initial : Json.Entries) (actions : List Action)
      (options : SubmitOptions), schema.names.Nodup →
      let attempt := (reached schema initial actions).submit options
      let after := attempt.outcome.form
      ∀ invalid, attempt.result = .rejected invalid → ∀ field ∈ schema.fields,
        ∃ c, after.control? field.name = some c ∧
          (after.errorMessage field ≠ "" ↔ c.errors ≠ []) := by
  intro explains
  obtain ⟨c, found, explained⟩ := explains terse [("code", .string "ab")] [] {} (by decide)
    ["code"] rfl codeField (List.mem_singleton.mpr rfl)
  have fails : some [.minLength] = some c.errors := congrArg (Option.map Control.errors) found
  have speaks := explained.mpr (by simp [← Option.some.inj fails])
  exact speaks rfl

end Form

end LiveForm
