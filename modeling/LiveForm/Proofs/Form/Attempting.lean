import LiveForm.Proofs.Decode
import LiveForm.Proofs.Form.Standing
import LiveForm.Proofs.Form.Submission

/-!
# What an attempt to submit does

An attempt hands over data or touches every control, and does nothing else. The data are gathered
entry by entry under the names of the controls. These are distinct whatever the schema, so no entry
takes the place of another one, and the data keep the order of the controls. A touch changes nothing
that an attempt reads, so a second attempt comes to the same as the first and leaves the form alone.
-/

namespace LiveForm

namespace Form

def handedOver (f : Form) (options : SubmitOptions) : List Control :=
  f.controls.filter fun c => options.includeDisabled || !c.disabled

variable {f : Form}

theorem dataFor_eq_collect (f : Form) (options : SubmitOptions) :
    f.dataFor options = .collect ((f.handedOver options).map entry) := by
  rw [dataFor, handedOver]
  cases options.includeDisabled with
  | true => simp [rawValues]
  | false => simp [enabledValues]

/-- Under distinct names no value takes the place of another one. -/
theorem Consistent.dataFor_eq_map (consistent : f.Consistent) (options : SubmitOptions) :
    f.dataFor options = (f.handedOver options).map entry := by
  rw [dataFor_eq_collect]
  exact consistent.collect_map_entry List.filter_sublist

theorem Consistent.keys_dataFor (consistent : f.Consistent) (options : SubmitOptions) :
    (f.dataFor options).keys = (f.handedOver options).map Control.name := by
  rw [consistent.dataFor_eq_map, keys_map_entry]

theorem Consistent.keys_dataFor_nodup (consistent : f.Consistent) (options : SubmitOptions) :
    (f.dataFor options).keys.Nodup := by
  rw [consistent.keys_dataFor]
  exact consistent.names_nodup.sublist (List.filter_sublist.map Control.name)

/-- The data have the value of each control that is handed over under its name, and nothing else. -/
theorem Consistent.get?_dataFor (consistent : f.Consistent) (options : SubmitOptions)
    (name : String) :
    (f.dataFor options).get? name =
      ((f.control? name).filter fun c => options.includeDisabled || !c.disabled).map
        Control.value := by
  ext value
  rw [Json.Entries.get?_eq_some_iff (consistent.keys_dataFor_nodup options),
    consistent.dataFor_eq_map, List.mem_map, Option.map_eq_some_iff]
  apply exists_congr
  intro c
  rw [handedOver, List.mem_filter, Option.filter_eq_some_iff, consistent.control?_eq_some_iff,
    entry, Prod.mk.injEq]
  tauto

theorem standings_touchAll (f : Form) : f.touchAll.standings = f.standings := by
  rw [standings, touchAll, List.map_map]
  rfl

theorem touchAll_touchAll (f : Form) : f.touchAll.touchAll = f.touchAll := by
  simp only [touchAll, List.map_map]
  rfl

/-- An attempt leaves all that an attempt reads. -/
theorem standings_submit (f : Form) (options : SubmitOptions) :
    (f.submit options).outcome.form.standings = f.standings := by
  by_cases valid : f.isValid = true
  · rw [(submit_of_valid valid options).2]
  · rw [(submit_of_not_valid valid options).2, standings_touchAll]

/-- A second attempt has the result of the first and changes nothing. -/
theorem submit_again (f : Form) (options : SubmitOptions) :
    let after := (f.submit options).outcome.form
    (after.submit options).result = (f.submit options).result ∧
      (after.submit options).outcome.form = after := by
  intro after
  have standings : after.standings = f.standings := standings_submit f options
  refine ⟨by rw [result_submit, result_submit, standings], ?_⟩
  have sameVerdict : after.isValid = f.isValid := by
    rw [isValid_eq_standings, isValid_eq_standings, standings]
  by_cases valid : f.isValid = true
  · exact (submit_of_valid (sameVerdict.trans valid) options).2
  · have touched : after = f.touchAll := (submit_of_not_valid valid options).2
    rw [(submit_of_not_valid (sameVerdict ▸ valid) options).2, touched, touchAll_touchAll]

/-- In every reached form an accepted attempt leaves the form as it is and hands over the values of
the controls in their order, each under its name and none twice, as they come together when they are
gathered one by one. A rejected attempt touches every control and does nothing else, and names the
controls that are invalid then. Either way a second attempt comes to the same and changes
nothing. -/
theorem submit_hands_over (schema : Schema) (initial : Json.Entries) (actions : List Action)
    (options : SubmitOptions) :
    let f := reached schema initial actions
    let attempt := f.submit options
    let after := attempt.outcome.form
    (match attempt.result with
      | .submitted data =>
        after = f ∧ data.keys = (f.handedOver options).map Control.name ∧ data.keys.Nodup ∧
          (∀ name, data.get? name =
            ((f.control? name).filter fun c => options.includeDisabled || !c.disabled).map
              Control.value) ∧
          data = Json.Entries.collect ((f.handedOver options).map entry)
      | .rejected invalid =>
        after = { f with controls := f.controls.map fun c => { c with touched := true } } ∧
          attempt.result.data? = none ∧ invalid = after.invalidControls ∧ invalid ≠ []) ∧
      (after.submit options).result = attempt.result ∧
      (after.submit options).outcome.form = after := by
  intro f attempt after
  have consistent : f.Consistent := (reached_sound schema initial actions).consistent
  refine ⟨?_, submit_again f options⟩
  by_cases valid : f.isValid = true
  · obtain ⟨submitted, same⟩ := submit_of_valid valid options
    have distinct := consistent.keys_dataFor_nodup options
    simp only [attempt, after, submitted, same]
    exact ⟨trivial, consistent.keys_dataFor options, distinct, consistent.get?_dataFor options,
      dataFor_eq_collect f options⟩
  · obtain ⟨rejected, touched⟩ := submit_of_not_valid valid options
    have named : f.invalidControls = f.touchAll.invalidControls := by
      rw [invalidControls_eq_standings, invalidControls_eq_standings, standings_touchAll]
    simp only [attempt, after, rejected, touched]
    exact ⟨rfl, rfl, named, mt isValid_iff_invalidControls_eq_nil.mpr valid⟩

end Form

end LiveForm
