import LiveForm.Proofs.Form.Run

/-!
# What operations tell

Only a write by the user makes controls tell values, and all values of one write are alike: truthy,
or not. An operation therefore leaves every control enabled as the last value says that it made a
parent of the control tell, and leaves the value of a control like the last one that it made the
control tell, if it did not write the value silently.
-/

namespace LiveForm

namespace Form

def Outcome.lastTold? (o : Outcome) (name : String) : Option Json :=
  ((o.notifications.filter fun n => n.1 = name).getLast?).map Prod.snd

def lastTruthy? (history : List (String × Json)) (among : String → Bool) : Option Bool :=
  ((history.filter fun n => among n.1).getLast?).map fun n => n.2.isTruthy

theorem lastTruthy?_append (before after : List (String × Json)) (among : String → Bool) :
    lastTruthy? (before ++ after) among =
      (lastTruthy? after among).or (lastTruthy? before among) := by
  rw [lastTruthy?, List.filter_append, List.getLast?_append, Option.map_or]
  rfl

/-- Of values that are all alike the last one is like all others. -/
theorem lastTruthy?_of_alike {o : Outcome} {opened : Bool} {among : String → Bool} {reached : Prop}
    [Decidable reached] (alike : ∀ n ∈ o.notifications, n.2.isTruthy = opened)
    (iff : (∃ name ∈ o.told, among name = true) ↔ reached) :
    lastTruthy? o.notifications among = if reached then some opened else none := by
  unfold lastTruthy?
  cases last : (o.notifications.filter fun n => among n.1).getLast? with
  | none =>
    have nobody := List.filter_eq_nil_iff.mp (List.getLast?_eq_none_iff.mp last)
    rw [if_neg]
    · rfl
    · rw [← iff]
      rintro ⟨name, told, inside⟩
      obtain ⟨n, member, rfl⟩ := List.mem_map.mp told
      exact nobody n member inside
  | some n =>
    obtain ⟨member, inside⟩ := List.mem_filter.mp (List.mem_of_getLast? last)
    rw [if_pos (iff.mp ⟨n.1, List.mem_map_of_mem member, inside⟩), Option.map_some, alike n member]

theorem lastTruthy?_eq_map_lastTold? (o : Outcome) (name : String) :
    lastTruthy? o.notifications (· = name) = (o.lastTold? name).map Json.isTruthy := by
  rw [Outcome.lastTold?, Option.map_map]
  rfl

variable {f : Form} {name : String} {value : Json} {c : Control}

/-- A write by the user enables or disables the controls that its gates reach. -/
theorem disabled_settled {names : List String}
    (affected : ∀ n, n ∈ names ↔ if value.isTruthy then n ∈ f.children name else f.Descends name n)
    (c : Control) :
    (f.settled name value c).disabled = if c.name ∈ names then !value.isTruthy else c.disabled := by
  have inside := affected c.name
  unfold settled
  cases truthy : value.isTruthy with
  | true =>
    simp only [truthy, if_true] at inside
    by_cases child : c.name ∈ f.children name <;> rcases eq_or_ne c.name name with rfl | here <;>
      simp [*]
  | false =>
    simp only [truthy, Bool.false_eq_true, if_false] at inside
    by_cases below : f.Descends name c.name <;> rcases eq_or_ne c.name name with rfl | here <;>
      simp [*]

/-- A write by the user leaves values that are truthy or not as the written one wherever it is
told, and no other value changes. -/
theorem isTruthy_settled {names : List String}
    (told : ∀ n, n ∈ names ↔ n = name ∨ (value.isTruthy = false ∧ f.Descends name n))
    (c : Control) :
    (f.settled name value c).value.isTruthy =
      if c.name ∈ names then value.isTruthy else c.value.isTruthy := by
  have inside := told c.name
  unfold settled
  cases truthy : value.isTruthy with
  | true =>
    simp only [truthy, Bool.true_eq_false, false_and, or_false] at inside
    by_cases child : c.name ∈ f.children name <;> rcases eq_or_ne c.name name with rfl | here <;>
      simp [*]
  | false =>
    simp only [truthy, true_and] at inside
    by_cases below : f.Descends name c.name <;> rcases eq_or_ne c.name name with rfl | here <;>
      simp [*, FieldType.isTruthy_defaultValue]

/-- A write by the user tells only values that are truthy or not as the written one, and reaches
below it. -/
theorem perform_setValue_told (sound : f.Sound) (known : name ∈ f.names) (value : Json) :
    let o := f.perform (.setValue name value)
    (∀ n ∈ o.notifications, n.2.isTruthy = value.isTruthy) ∧
      (∀ n, n ∈ o.told ↔ n = name ∨ (value.isTruthy = false ∧ f.Descends name n)) ∧
      ∀ n, n ∈ o.told.flatMap f.children ↔
        if value.isTruthy then n ∈ f.children name else f.Descends name n := by
  obtain ⟨o, done, -, spread⟩ := sound.setValue_eq_ok known value
  have told := spread.mem_told_iff sound.idle
  have affected := spread.mem_children_told_iff sound.idle
  simp only [children_written, Descends] at told affected
  rw [perform, done]
  exact ⟨spread.alike, told, affected⟩

/-- On the way of an action other than a write by the user there is at most the report of a
submission. -/
theorem eq_submission_of_mem_trace {a : Action} (quiet : ∀ name value, a ≠ .setValue name value)
    {e : Event} (member : e ∈ (f.perform a).trace) :
    ∃ n, e = .submissionRejected n ∨ e = .submissionAccepted n := by
  have orStill_map : ∀ {α : Type} (r : Except FormError α) (next : α → Form),
      (f.orStill (r.map fun x => .still (next x))).trace = [] := by
    intro α r next
    cases r <;> rfl
  cases a with
  | setValue name value => exact absurd rfl (quiet name value)
  | setValueSilently name value => exact absurd (orStill_map _ id ▸ member) List.not_mem_nil
  | touch name => exact absurd (orStill_map _ id ▸ member) List.not_mem_nil
  | touchAll => exact absurd member List.not_mem_nil
  | subscribe name tag => exact absurd (orStill_map _ Prod.snd ▸ member) List.not_mem_nil
  | unsubscribe name id => exact absurd member List.not_mem_nil
  | submit options =>
    rw [perform, submit] at member
    split at member
    · exact ⟨_, .inr (List.mem_singleton.mp member)⟩
    · exact ⟨_, .inl (List.mem_singleton.mp member)⟩

/-- Nothing but a write by the user tells a value. -/
theorem notifications_perform_eq_nil {a : Action} (quiet : ∀ name value, a ≠ .setValue name value) :
    (f.perform a).notifications = [] := by
  refine List.filterMap_eq_nil_iff.mpr ?_
  intro e member
  obtain ⟨n, rfl | rfl⟩ := eq_submission_of_mem_trace quiet member <;> rfl

theorem calls_perform_eq_nil {a : Action} (quiet : ∀ name value, a ≠ .setValue name value) :
    (f.perform a).calls = [] := by
  refine List.filterMap_eq_nil_iff.mpr ?_
  intro e member
  obtain ⟨n, rfl | rfl⟩ := eq_submission_of_mem_trace quiet member <;> rfl

theorem effect_keeps {α : Type} (part : Control → α)
    (keeps : ∀ (c : Control) (touched : Bool) (observers : ObserverList),
      part { c with touched := touched, observers := observers } = part c)
    {a : Action} (quiet : ∀ name value, a ≠ .setValue name value)
    (silent : ∀ value, a = .setValueSilently c.name value → part (c.write value) = part c) :
    part (f.effect a c) = part c := by
  cases a with
  | setValue name value => exact absurd rfl (quiet name value)
  | setValueSilently name value =>
    rw [effect, Control.at]
    split
    case isTrue here => exact silent value (here ▸ rfl)
    case isFalse => rfl
  | touch name => exact Control.at_keeps part fun c => keeps c true c.observers
  | touchAll => exact keeps c true c.observers
  | subscribe name tag => exact Control.at_keeps part fun c => keeps c c.touched _
  | unsubscribe name id => exact Control.at_keeps part fun c => keeps c c.touched _
  | submit options =>
    rw [effect]
    split
    · rfl
    · exact keeps c true c.observers

/-- An action leaves a control enabled or disabled as the last value says that it made a parent of
the control tell. -/
theorem disabled_effect (sound : f.Sound) (a : Action) (member : c ∈ f.controls) :
    (!(f.effect a c).disabled) = (lastTruthy? (f.perform a).notifications
      fun n => c.name ∈ f.children n).getD !c.disabled := by
  by_cases quiet : ∀ name value, a ≠ .setValue name value
  · rw [notifications_perform_eq_nil quiet]
    exact congrArg (!·) (effect_keeps Control.disabled (fun _ _ _ => rfl) quiet fun _ _ => rfl)
  · push Not at quiet
    obtain ⟨name, value, rfl⟩ := quiet
    by_cases known : name ∈ f.names
    · obtain ⟨alike, -, affected⟩ := perform_setValue_told sound known value
      have reached : (∃ n ∈ (f.perform (.setValue name value)).told,
          decide (c.name ∈ f.children n) = true) ↔
          c.name ∈ (f.perform (.setValue name value)).told.flatMap f.children := by
        simp [List.mem_flatMap]
      rw [lastTruthy?_of_alike alike reached, effect, disabled_settled affected]
      split <;> simp
    · rw [perform, setValue_eq_error sound.consistent known, effect,
        settled_of_unknown sound.consistent known value member]
      rfl

/-- An action leaves the value of a control truthy or not as the last one that it made the control
tell, unless the value is written silently. -/
theorem isTruthy_effect (sound : f.Sound) {a : Action} (member : c ∈ f.controls)
    (loud : ∀ value, a ≠ .setValueSilently c.name value) :
    (f.effect a c).value.isTruthy = (lastTruthy? (f.perform a).notifications
      (· = c.name)).getD c.value.isTruthy := by
  by_cases quiet : ∀ name value, a ≠ .setValue name value
  · rw [notifications_perform_eq_nil quiet]
    have kept : (f.effect a c).value = c.value :=
      effect_keeps Control.value (fun _ _ _ => rfl) quiet fun value same => absurd same (loud value)
    exact congrArg Json.isTruthy kept
  · push Not at quiet
    obtain ⟨name, value, rfl⟩ := quiet
    by_cases known : name ∈ f.names
    · obtain ⟨alike, told, -⟩ := perform_setValue_told sound known value
      have reached : (∃ n ∈ (f.perform (.setValue name value)).told, decide (n = c.name) = true) ↔
          c.name ∈ (f.perform (.setValue name value)).told := by
        simp
      rw [lastTruthy?_of_alike alike reached, effect, isTruthy_settled told]
      split <;> rfl
    · rw [perform, setValue_eq_error sound.consistent known, effect,
        settled_of_unknown sound.consistent known value member]
      rfl

end Form

end LiveForm
