import LiveForm.Proofs.Form.Settling
import LiveForm.Proofs.Observer

/-!
# Runs of actions

On a sound form every action is a map over the controls. `Form.effect` says what the action does to
each of them, and everything that a run preserves is read off there: a run keeps a form sound, and
it keeps the names, the types and the rules of the controls in their order.
-/

namespace LiveForm

namespace Control

/-- What the compiler of forms fixes for good. -/
def fixed (c : Control) : String × FieldType × List Rule := (c.name, c.type, c.rules)

theorem fixed_setDisabled (c : Control) (disabled : Bool) :
    (c.setDisabled disabled).fixed = c.fixed := by
  unfold setDisabled
  split <;> rfl

end Control

namespace Form

/-- What an action does to each control of a sound form. -/
noncomputable def effect (f : Form) : Action → Control → Control
  | .setValue name value => f.settled name value
  | .setValueSilently name value => Control.at name (·.write value)
  | .touch name => Control.at name Control.markTouched
  | .touchAll => Control.markTouched
  | .subscribe name tag => Control.at name (·.register (.callback tag))
  | .unsubscribe name id => Control.at name (·.unregister id)
  | .submit _ => if f.isValid then id else Control.markTouched

variable {f : Form} {name : String}

theorem settled_of_unknown (consistent : f.Consistent) (unknown : name ∉ f.names) (value : Json)
    {c : Control} (member : c ∈ f.controls) : f.settled name value c = c := by
  have childless : f.children name = [] := by
    rw [children, consistent.control?_eq_none_iff.mpr unknown]
    rfl
  apply settled_of_elsewhere
  · rintro rfl
    exact unknown (List.mem_map_of_mem member)
  · intro _ below
    obtain ⟨child, gated, -⟩ := Relation.TransGen.head'_iff.mp below
    simp [childless] at gated
  · intro _ gated
    simp [childless] at gated

theorem mapControls_at_of_unknown (unknown : name ∉ f.names) (change : Control → Control) :
    f.mapControls (Control.at name change) = f := by
  apply mapControls_eq_self
  intro c member
  apply Control.at_eq_of_name_ne
  rintro rfl
  exact unknown (List.mem_map_of_mem member)

/-- A change that is refused on an unknown name is a map all the same. -/
theorem orStill_change (consistent : f.Consistent) (name : String) (change : Control → Control) :
    (f.orStill ((f.change name change).map .still)).form =
      f.mapControls (Control.at name change) := by
  by_cases known : name ∈ f.names
  · rw [consistent.change_eq_ok known]
    rfl
  · rw [consistent.change_eq_error known, mapControls_at_of_unknown known]
    rfl

/-- Every action is a map over the controls. -/
theorem perform_form_eq (sound : f.Sound) (a : Action) :
    (f.perform a).form = f.mapControls (f.effect a) := by
  have consistent := sound.consistent
  cases a with
  | setValue name value =>
    by_cases known : name ∈ f.names
    · obtain ⟨o, done, form_eq, -⟩ := sound.setValue_eq_ok known value
      rw [perform, done]
      exact form_eq
    · rw [perform, setValue_eq_error consistent known]
      exact (mapControls_eq_self fun c member =>
        settled_of_unknown consistent known value member).symm
  | setValueSilently name value => exact orStill_change consistent name (·.write value)
  | touch name => exact orStill_change consistent name Control.markTouched
  | touchAll => rfl
  | subscribe name tag =>
    rw [perform, subscribe, register]
    cases found : f.control? name with
    | none =>
      have unknown := consistent.control?_eq_none_iff.mp found
      exact (mapControls_at_of_unknown unknown _).symm
    | some c => exact consistent.update_eq name _
  | unsubscribe name id =>
    rw [perform, unsubscribe]
    cases found : f.control? name with
    | none =>
      have unknown := consistent.control?_eq_none_iff.mp found
      exact (mapControls_at_of_unknown unknown _).symm
    | some c => exact consistent.update_eq name _
  | submit options =>
    rw [perform, submit, effect]
    split
    · exact (mapControls_eq_self fun _ _ => rfl).symm
    · rfl

/-- What the settled control keeps of the control before. -/
theorem settled_keeps {α : Type} (part : Control → α)
    (keeps : ∀ (c : Control) (value : Json) (disabled dirty : Bool) (errors : List RuleKind),
      part { c with
        value := value, disabled := disabled, dirty := dirty, errors := errors } = part c)
    (value : Json) (c : Control) : part (f.settled name value c) = part c := by
  unfold settled
  split
  · exact keeps c _ _ _ _
  · split
    · exact keeps c _ _ _ _
    · split
      · exact keeps c _ _ _ _
      · rfl

theorem upToDate_settled (value : Json) {c : Control} (upToDate : c.UpToDate) :
    (f.settled name value c).UpToDate := by
  unfold settled
  split
  · exact rfl
  · split
    · exact rfl
    · split
      · exact rfl
      · exact upToDate

/-- No action changes the name, the type or the rules of a control. -/
theorem fixed_effect (f : Form) (a : Action) (c : Control) :
    (f.effect a c).fixed = c.fixed := by
  cases a with
  | setValue name value => exact settled_keeps Control.fixed (fun _ _ _ _ _ => rfl) value c
  | setValueSilently name value => exact Control.at_keeps Control.fixed fun _ => rfl
  | touch name => exact Control.at_keeps Control.fixed fun _ => rfl
  | touchAll => rfl
  | subscribe name tag => exact Control.at_keeps Control.fixed fun _ => rfl
  | unsubscribe name id => exact Control.at_keeps Control.fixed fun _ => rfl
  | submit options =>
    rw [effect]
    split <;> rfl

theorem name_effect (f : Form) (a : Action) (c : Control) : (f.effect a c).name = c.name :=
  congrArg Prod.fst (fixed_effect f a c)

/-- The observers of a control after an action are the same, or those with a new callback, or those
without a registration. -/
theorem observers_effect_cases {P : ObserverList → Prop} (f : Form) (a : Action) (c : Control)
    (kept : P c.observers)
    (registered : ∀ name tag, a = .subscribe name tag → P (c.observers.register (.callback tag)))
    (removed : ∀ name id, a = .unsubscribe name id → c.name = name →
      P (c.observers.unregister id)) :
    P (f.effect a c).observers := by
  cases a with
  | setValue name value =>
    rw [effect, settled_keeps Control.observers fun _ _ _ _ _ => rfl]
    exact kept
  | setValueSilently name value => exact Control.at_cases (P := fun c => P c.observers) kept kept
  | touch name => exact Control.at_cases (P := fun c => P c.observers) kept kept
  | touchAll => exact kept
  | subscribe name tag =>
    exact Control.at_cases (P := fun c => P c.observers) (registered name tag rfl) kept
  | unsubscribe name id =>
    rw [effect, Control.at]
    split
    case isTrue here => exact removed name id rfl here
    case isFalse => exact kept
  | submit options =>
    rw [effect]
    split <;> exact kept

theorem gateTargets_effect_sublist (f : Form) (a : Action) (c : Control) :
    (f.effect a c).observers.gateTargets.Sublist c.observers.gateTargets :=
  observers_effect_cases (P := fun l => l.gateTargets.Sublist c.observers.gateTargets) f a c
    (List.Sublist.refl _) (fun _ tag _ => by simp)
    fun _ id _ _ => ObserverList.gateTargets_unregister_sublist c.observers id

theorem upToDate_effect (f : Form) (a : Action) {c : Control} (upToDate : c.UpToDate) :
    (f.effect a c).UpToDate := by
  cases a with
  | setValue name value => exact upToDate_settled value upToDate
  | setValueSilently name value =>
    exact Control.at_cases (P := Control.UpToDate) (c.upToDate_write value) upToDate
  | touch name => exact Control.at_cases (P := Control.UpToDate) upToDate upToDate
  | touchAll => exact upToDate
  | subscribe name tag => exact Control.at_cases (P := Control.UpToDate) upToDate upToDate
  | unsubscribe name id => exact Control.at_cases (P := Control.UpToDate) upToDate upToDate
  | submit options =>
    rw [effect]
    split <;> exact upToDate

/-- An action keeps a form sound. -/
theorem Sound.perform (sound : f.Sound) (a : Action) : (f.perform a).form.Sound := by
  rw [perform_form_eq sound]
  exact sound.mapControls (name_effect f a) (fun c => (gateTargets_effect_sublist f a c).subset)
    fun c => upToDate_effect f a

@[simp] theorem run_nil (f : Form) : f.run [] = .still f := rfl

theorem run_cons (f : Form) (a : Action) (rest : List Action) :
    f.run (a :: rest) = (f.perform a).andThen (·.run rest) := by
  rw [run, Outcome.forEach_cons, Outcome.forEach_eq_andThen]
  simp [Outcome.andThen, Outcome.still, run]

theorem run_concat (f : Form) (actions : List Action) (a : Action) :
    (f.run (actions ++ [a])).form = ((f.run actions).form.perform a).form := by
  simp [run, Outcome.forEach, List.foldl_append]

/-- What every action keeps is kept by a run, which keeps the form sound as well. -/
theorem Sound.run_keeps {P : Form → Prop}
    (step : ∀ {f : Form} (a : Action), f.Sound → P f → P (f.perform a).form) (sound : f.Sound)
    (start : P f) (actions : List Action) :
    (f.run actions).form.Sound ∧ P (f.run actions).form := by
  induction actions generalizing f with
  | nil => exact ⟨sound, start⟩
  | cons a rest ih =>
    rw [run_cons]
    exact ih (sound.perform a) (step a sound start)

theorem Sound.run (sound : f.Sound) (actions : List Action) : (f.run actions).form.Sound :=
  (sound.run_keeps (P := fun _ => True) (fun _ _ _ => trivial) trivial actions).1

def fixedParts (f : Form) : List (String × FieldType × List Rule) := f.controls.map Control.fixed

theorem Sound.fixedParts_run (sound : f.Sound) (actions : List Action) :
    (f.run actions).form.fixedParts = f.fixedParts := by
  refine (sound.run_keeps (P := fun g => g.fixedParts = f.fixedParts) ?_ rfl actions).2
  intro g a sound same
  rw [perform_form_eq sound, ← same]
  simp [fixedParts, fixed_effect]

end Form

end LiveForm
