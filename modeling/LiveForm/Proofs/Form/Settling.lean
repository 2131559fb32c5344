import LiveForm.Proofs.Form.Cascade

/-!
# The settled form after a write

Between the operations of a host a form is consistent, nobody is notifying, and every control knows
which of its rules fail: it is `Sound`. A write by the user takes a sound form to the form that
`Form.settled` describes control by control, whatever the gates look like: below a truthy value the
children are enabled, below any other value the descendants are reset and disabled, among them the
written control itself when it is on a cycle, and nothing else changes.
-/

namespace LiveForm

/-- The failing kinds are those of the rules and the value, none when disabled. -/
def Control.UpToDate (c : Control) : Prop := c.errors = errorsOf c.rules c.value c.disabled

namespace Control

theorem upToDate_write (c : Control) (value : Json) : (c.write value).UpToDate := rfl

/-- The flag is compared first, so a control that is up to date stays so without a new look at its
rules. -/
theorem UpToDate.setDisabled_eq {c : Control} (upToDate : c.UpToDate) (disabled : Bool) :
    c.setDisabled disabled =
      { c with disabled := disabled, errors := errorsOf c.rules c.value disabled } := by
  unfold setDisabled
  split
  case isTrue same =>
    subst same
    rw [← upToDate]
  case isFalse => rfl

theorem UpToDate.setDisabled {c : Control} (upToDate : c.UpToDate) (disabled : Bool) :
    (c.setDisabled disabled).UpToDate := by
  rw [upToDate.setDisabled_eq]
  rfl

end Control

namespace Form

/-- What a form is between the operations of a host. -/
structure Sound (f : Form) : Prop where
  consistent : f.Consistent
  idle : f.notifying = []
  upToDate : ∀ c ∈ f.controls, c.UpToDate

/-- A map that keeps the names, adds no gates and keeps the failing kinds up to date. -/
theorem Sound.mapControls {f : Form} {change : Control → Control} (sound : f.Sound)
    (keeps : ∀ c, (change c).name = c.name)
    (gates : ∀ c, (change c).observers.gateTargets ⊆ c.observers.gateTargets)
    (upToDate : ∀ c, c.UpToDate → (change c).UpToDate) : (f.mapControls change).Sound where
  consistent := sound.consistent.mapControls keeps gates
  idle := sound.idle
  upToDate changed member := by
    obtain ⟨c, before, rfl⟩ := List.mem_map.mp member
    exact upToDate c (sound.upToDate c before)

open Classical in
/-- A control after a value was written by the user to the control with a name. -/
noncomputable def settled (f : Form) (name : String) (value : Json) (c : Control) : Control :=
  if value.isTruthy = false ∧ f.Descends name c.name then
    { c with
      value := c.type.defaultValue, disabled := true, errors := []
      dirty := c.dirty || decide (c.name = name) }
  else if value.isTruthy = true ∧ c.name ∈ f.children name then
    let kept := if c.name = name then value else c.value
    { c with
      value := kept, disabled := false, errors := Rule.failing c.rules kept
      dirty := c.dirty || decide (c.name = name) }
  else if c.name = name then
    { c with
      value := value, errors := Control.errorsOf c.rules value c.disabled, dirty := true }
  else c

variable {f : Form} {name : String}

theorem settled_of_elsewhere {value : Json} {c : Control} (elsewhere : c.name ≠ name)
    (aside : value.isTruthy = false → ¬ f.Descends name c.name)
    (notChild : value.isTruthy = true → c.name ∉ f.children name) :
    f.settled name value c = c := by
  rw [settled, if_neg fun h => aside h.1 h.2, if_neg fun h => notChild h.1 h.2, if_neg elsewhere]

/-- The written control before it tells anyone. -/
def written (value : Json) (c : Control) : Control := c.markDirty.write value

theorem name_at_written (value : Json) (c : Control) :
    (Control.at name (written value) c).name = c.name :=
  Control.at_keeps Control.name fun _ => rfl

theorem type_at_written (value : Json) (c : Control) :
    (Control.at name (written value) c).type = c.type :=
  Control.at_keeps Control.type fun _ => rfl

theorem observers_at_written (value : Json) (c : Control) :
    (Control.at name (written value) c).observers = c.observers :=
  Control.at_keeps Control.observers fun _ => rfl

/-- The settled control is the written one, brought in line with the gates that the value opens or
closes. -/
theorem settled_eq {value : Json} {c : Control} {names : List String} (upToDate : c.UpToDate)
    (affected : ∀ n, n ∈ names ↔
      if value.isTruthy then n ∈ f.children name else f.Descends name n) :
    f.settled name value c =
      if c.name ∈ names then (Control.at name (written value) c).gate value.isTruthy
      else Control.at name (written value) c := by
  have start : (Control.at name (written value) c).UpToDate := by
    unfold Control.at
    split
    · exact Control.upToDate_write c.markDirty value
    · exact upToDate
  have inside := affected c.name
  cases truthy : value.isTruthy with
  | true =>
    rw [Control.gate_true, start.setDisabled_eq, settled, if_neg (by simp [truthy])]
    simp only [truthy, if_true] at inside
    by_cases child : c.name ∈ f.children name <;> by_cases here : c.name = name <;>
      simp_all [Control.at, written, Control.markDirty, Control.write, Control.revalidate,
        Control.errorsOf]
  | false =>
    simp only [truthy, Bool.false_eq_true, if_false] at inside
    rw [Control.gate_false, settled]
    by_cases below : f.Descends name c.name
    · rw [if_pos ⟨truthy, below⟩, if_pos (inside.mpr below)]
      by_cases here : c.name = name <;>
        simp [Control.at, written, Control.markDirty, Control.write, Control.revalidate, here]
    · rw [if_neg fun h => below h.2, if_neg (mt inside.mp below), if_neg (by simp [truthy])]
      rfl

theorem consistent_written (consistent : f.Consistent) (name : String) (value : Json) :
    (f.mapControls (Control.at name (written value))).Consistent := by
  apply consistent.mapControls (name_at_written value)
  intro c
  rw [observers_at_written]
  exact List.Subset.refl _

theorem children_written (f : Form) (name : String) (value : Json) :
    (f.mapControls (Control.at name (written value))).children = f.children :=
  children_mapControls fun c _ => congrArg ObserverList.gateTargets (observers_at_written value c)

/-- A write by the user is a notification of the written control. -/
theorem Consistent.setValue_eq_notify (consistent : f.Consistent) (known : name ∈ f.names)
    (value : Json) : f.setValue name value =
      .ok ((f.mapControls (Control.at name (written value))).notify name) := by
  rw [setValue, consistent.change_eq_ok known]
  rfl

/-- A write by the user succeeds on every control, tells it and whoever is reached, and leaves the
settled form. -/
theorem Sound.setValue_eq_ok (sound : f.Sound) (known : name ∈ f.names) (value : Json) :
    ∃ o, f.setValue name value = .ok o ∧ o.form = f.mapControls (f.settled name value) ∧
      (f.mapControls (Control.at name (written value))).Spread name value.isTruthy o := by
  obtain ⟨c, found⟩ := sound.consistent.exists_control known
  have spread : (f.mapControls (Control.at name (written value))).Spread name value.isTruthy _ :=
    notify_spread (consistent_written sound.consistent name value) sound.idle
      (sound.consistent.control?_mapControls_at found (written value))
  have affected := spread.mem_children_told_iff sound.idle
  have form_eq := spread.form_eq
  simp only [children_written, Descends] at affected form_eq
  refine ⟨_, sound.consistent.setValue_eq_notify known value, form_eq.trans ?_, spread⟩
  rw [gateAll, mapControls_mapControls]
  apply mapControls_congr
  intro c member
  rw [name_at_written, settled_eq (sound.upToDate c member) affected]

theorem setValue_eq_error (consistent : f.Consistent) (unknown : name ∉ f.names) (value : Json) :
    f.setValue name value = .error (.unknownControl name) := by
  rw [setValue, consistent.change_eq_error unknown]
  rfl

end Form

end LiveForm
