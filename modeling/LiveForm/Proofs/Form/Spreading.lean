import LiveForm.Proofs.Form.Consistency
import Mathlib.Data.List.Perm.Subperm

/-!
# Induction over a spreading value

`Form.notifyWithin` calls itself through the gates of a control, with a bound on the nesting. The
bound is never used up: every nested notification adds a name of a control that was not notifying
before, and a form has only so many names. `SpreadRules` lists what a notification can do when the
bound is out of the way, one rule for each way; `notifyWithin_spreads` is the induction. A property
of spreading is proved by giving its rules.

A spreading value changes the values, the disabled flags and the failing kinds of controls.
`Form.Kept` says that a form differs from another one in these only.
-/

namespace LiveForm

/-- A control without what a spreading value may change. -/
def Control.frame (c : Control) : Control :=
  { c with value := .null, disabled := false, errors := [] }

namespace Control

@[simp] theorem frame_write (c : Control) (value : Json) : (c.write value).frame = c.frame := rfl

@[simp] theorem frame_reset (c : Control) : c.reset.frame = c.frame := rfl

@[simp] theorem frame_setDisabled (c : Control) (disabled : Bool) :
    (c.setDisabled disabled).frame = c.frame := by
  unfold setDisabled; split <;> rfl

variable {c c' : Control}

theorem name_eq_of_frame_eq (same : c.frame = c'.frame) : c.name = c'.name :=
  show c.frame.name = c'.frame.name from congrArg name same

theorem gateTargets_eq_of_frame_eq (same : c.frame = c'.frame) :
    c.observers.gateTargets = c'.observers.gateTargets :=
  show c.frame.observers.gateTargets = c'.frame.observers.gateTargets from same ▸ rfl

end Control

namespace Form

/-- A form differs from another one only in what a spreading value may change. -/
def Kept (f f' : Form) : Prop :=
  ∃ change : Control → Control, f' = f.mapControls change ∧ ∀ c, (change c).frame = c.frame

namespace Kept

variable {f f' f'' : Form}

theorem refl (f : Form) : f.Kept f :=
  ⟨id, (mapControls_eq_self fun _ _ => rfl).symm, fun _ => rfl⟩

theorem trans (first : f.Kept f') (second : f'.Kept f'') : f.Kept f'' := by
  obtain ⟨change, rfl, keeps⟩ := first
  obtain ⟨further, rfl, keepsFurther⟩ := second
  exact ⟨_, mapControls_mapControls f change further,
    fun c => (keepsFurther (change c)).trans (keeps c)⟩

/-- A change of one control's value, flag or failing kinds. -/
theorem mapControls_at (f : Form) (name : String) {change : Control → Control}
    (keeps : ∀ c, (change c).frame = c.frame) : f.Kept (f.mapControls (Control.at name change)) :=
  ⟨_, rfl, fun _ => Control.at_keeps Control.frame keeps⟩

theorem reset (f : Form) (name : String) :
    f.Kept (f.mapControls (Control.at name Control.reset)) :=
  mapControls_at f name Control.frame_reset

theorem setDisabled (f : Form) (name : String) (disabled : Bool) :
    f.Kept (f.mapControls (Control.at name (·.setDisabled disabled))) :=
  mapControls_at f name fun c => c.frame_setDisabled disabled

/-- A gate that closes, with what happens between the reset and the end. -/
theorem closed {name : String} (kept : (f.mapControls (Control.at name Control.reset)).Kept f') :
    f.Kept (f'.mapControls (Control.at name (·.setDisabled true))) :=
  ((reset f name).trans kept).trans (setDisabled f' name true)

theorem names_eq (kept : f.Kept f') : f'.names = f.names := by
  obtain ⟨change, rfl, keeps⟩ := kept
  exact names_mapControls fun c => Control.name_eq_of_frame_eq (keeps c)

theorem notifying_eq (kept : f.Kept f') : f'.notifying = f.notifying := by
  obtain ⟨change, rfl, -⟩ := kept
  rfl

theorem size_eq (kept : f.Kept f') : f'.size = f.size := by
  obtain ⟨change, rfl, -⟩ := kept
  exact size_mapControls f change

theorem children_eq (kept : f.Kept f') : f'.children = f.children := by
  obtain ⟨change, rfl, keeps⟩ := kept
  exact children_mapControls fun c _ => Control.gateTargets_eq_of_frame_eq (keeps c)

theorem consistent (kept : f.Kept f') (consistent : f.Consistent) : f'.Consistent := by
  obtain ⟨change, rfl, keeps⟩ := kept
  apply consistent.mapControls (fun c => Control.name_eq_of_frame_eq (keeps c))
  intro c
  rw [Control.gateTargets_eq_of_frame_eq (keeps c)]
  exact List.Subset.refl _

/-- What is kept while a control notifies is kept of the form before and after. -/
theorem leave {name : String} (kept : (f.enter name).Kept f') : f.Kept (f'.leave name) := by
  obtain ⟨change, rfl, keeps⟩ := kept
  exact ⟨change, by simp [Form.leave, Form.enter, mapControls], keeps⟩

end Kept

/-- While a control waits to begin, fewer are notifying than there are. -/
theorem length_notifying_lt {f : Form} {name : String} (distinct : f.notifying.Nodup)
    (inside : ∀ n ∈ f.notifying, n ∈ f.names) (known : name ∈ f.names)
    (fresh : name ∉ f.notifying) : f.notifying.length < f.size := by
  have all : (name :: f.notifying).Nodup := List.nodup_cons.mpr ⟨fresh, distinct⟩
  have controls : name :: f.notifying ⊆ f.names := List.cons_subset.mpr ⟨known, inside⟩
  have shorter : f.notifying.length + 1 ≤ f.names.length :=
    (List.subperm_of_subset all controls).length_le
  rwa [names, List.length_map] at shorter

/-- A consistent form with room for a number of notifications inside each other. -/
structure Ready (f : Form) (depth : Nat) : Prop where
  consistent : f.Consistent
  distinct : f.notifying.Nodup
  known : ∀ name ∈ f.notifying, name ∈ f.names
  room : f.size ≤ depth + f.notifying.length

namespace Ready

variable {f f' : Form} {depth : Nat} {name : String}

theorem of_kept (ready : f.Ready depth) (kept : f.Kept f') : f'.Ready depth where
  consistent := kept.consistent ready.consistent
  distinct := by
    rw [kept.notifying_eq]
    exact ready.distinct
  known := by
    rw [kept.notifying_eq, kept.names_eq]
    exact ready.known
  room := by
    rw [kept.size_eq, kept.notifying_eq]
    exact ready.room

theorem depth_ne_zero (ready : f.Ready depth) (known : name ∈ f.names)
    (fresh : name ∉ f.notifying) : depth ≠ 0 := by
  have fewer := length_notifying_lt ready.distinct ready.known known fresh
  have room := ready.room
  omega

theorem enter (ready : f.Ready (depth + 1)) (known : name ∈ f.names) (fresh : name ∉ f.notifying) :
    (f.enter name).Ready depth where
  consistent := ⟨ready.consistent.1, ready.consistent.2⟩
  distinct := List.nodup_cons.mpr ⟨fresh, ready.distinct⟩
  known := List.forall_mem_cons.mpr ⟨known, ready.known⟩
  room := by
    have room := ready.room
    show f.size ≤ depth + (f.notifying.length + 1)
    omega

end Ready

/-- What a value that spreads can do: rules for a property of notifications, `Told`, and one of
the gates that are still to be applied, `Gated`. -/
structure SpreadRules (Told : Form → String → Outcome → Prop)
    (Gated : Form → Json → List String → Outcome → Prop) : Prop where
  /-- A control that is notifying does not begin again. -/
  suppressed : ∀ {f : Form} {name : String}, f.Consistent → name ∈ f.notifying →
    Told f name (.event f (.suppressed name))
  /-- Any other control begins, applies its gates, calls its callbacks and ends. -/
  begun : ∀ {f : Form} {name : String} {c : Control} {o : Outcome}, f.Consistent →
    f.control? name = some c → name ∉ f.notifying → (f.enter name).Kept o.form →
    Gated (f.enter name) c.value c.observers.gateTargets o →
    Told f name ⟨o.form.leave name,
      .notified name c.value :: (o.trace ++ o.form.deliveries name c.value)⟩
  /-- There is no gate left. -/
  done : ∀ {f : Form} {value : Json}, Gated f value [] (.still f)
  /-- A truthy value enables the dependent control. -/
  opens : ∀ {f : Form} {value : Json} {dependent : String} {rest : List String} {o : Outcome},
    f.Consistent → dependent ∈ f.names → value.isTruthy = true →
    Gated (f.mapControls (Control.at dependent (·.setDisabled false))) value rest o →
    Gated f value (dependent :: rest) o
  /-- Any other value resets it, lets it notify, and disables it. -/
  closes : ∀ {f : Form} {value : Json} {dependent : String} {rest : List String}
    {first o : Outcome}, f.Consistent → dependent ∈ f.names → value.isTruthy = false →
    (f.mapControls (Control.at dependent Control.reset)).Kept first.form →
    Told (f.mapControls (Control.at dependent Control.reset)) dependent first →
    Gated (first.form.mapControls (Control.at dependent (·.setDisabled true))) value rest o →
    Gated f value (dependent :: rest) ⟨o.form, first.trace ++ o.trace⟩

variable {f : Form} {value : Json} {dependent : String}

theorem applyGate_of_truthy (consistent : f.Consistent) (known : dependent ∈ f.names)
    (truthy : value.isTruthy = true) (notify : Form → String → Outcome) :
    applyGate notify value f dependent =
      .still (f.mapControls (Control.at dependent (·.setDisabled false))) := by
  rw [applyGate, if_pos truthy, setDisabled, consistent.change_eq_ok known]

/-- The last step of a gate that closes does not fail either, since the notification in between
keeps the names. -/
theorem applyGate_of_not_truthy (consistent : f.Consistent) (known : dependent ∈ f.names)
    (falsy : value.isTruthy = false) {notify : Form → String → Outcome} {first : Outcome}
    (told : notify (f.mapControls (Control.at dependent Control.reset)) dependent = first)
    (kept : (f.mapControls (Control.at dependent Control.reset)).Kept first.form) :
    applyGate notify value f dependent =
      ⟨first.form.mapControls (Control.at dependent (·.setDisabled true)), first.trace⟩ := by
  have keptAll : f.Kept first.form := (Kept.reset f dependent).trans kept
  have known' : dependent ∈ first.form.names := by
    rw [keptAll.names_eq]
    exact known
  rw [applyGate, if_neg (by simp [falsy]), resetAndNotify, consistent.change_eq_ok known]
  simp only [Except.map, told, Outcome.andThen, setDisabled,
    (keptAll.consistent consistent).change_eq_ok known', Outcome.still, List.append_nil]

theorem Outcome.forEach_eq_andThen {α : Type} (o : Outcome) (items : List α)
    (next : Form → α → Outcome) :
    o.forEach items next = o.andThen fun f => (still f).forEach items next := by
  induction items generalizing o with
  | nil => simp [andThen, still]
  | cons a rest ih =>
    calc o.forEach (a :: rest) next
        = (o.andThen (next · a)).andThen fun f => (still f).forEach rest next := ih _
      _ = o.andThen fun f =>
            ((still f).andThen (next · a)).andThen fun f => (still f).forEach rest next := by
          simp [andThen, still]
      _ = o.andThen fun f => (still f).forEach (a :: rest) next :=
          congrArg o.andThen (funext fun f => (ih _).symm)

theorem notifyWithin_of_notifying {name : String} {c : Control}
    (found : f.control? name = some c) (busy : name ∈ f.notifying) (depth : Nat) :
    notifyWithin depth f name = .event f (.suppressed name) := by
  cases depth <;> simp [notifyWithin, found, busy]

theorem notifyWithin_of_fresh {name : String} {c : Control} {o : Outcome} {depth : Nat}
    (found : f.control? name = some c) (fresh : name ∉ f.notifying)
    (gated : (Outcome.still (f.enter name)).forEach c.observers.gateTargets
      (applyGate (notifyWithin depth) c.value) = o) :
    notifyWithin (depth + 1) f name =
      ⟨o.form.leave name,
        .notified name c.value :: (o.trace ++ o.form.deliveries name c.value)⟩ := by
  rw [notifyWithin, found]
  simp only [if_neg fresh]
  rw [Outcome.forEach_eq_andThen]
  simp only [Outcome.andThen, gated, List.cons_append, List.nil_append]

variable {Told : Form → String → Outcome → Prop}
  {Gated : Form → Json → List String → Outcome → Prop} {depth : Nat}

/-- The gates of a control follow the rules when the notifications inside them do. -/
theorem SpreadRules.gates (rules : SpreadRules Told Gated)
    (told : ∀ {f : Form} {name : String}, f.Ready depth → name ∈ f.names →
      Told f name (notifyWithin depth f name) ∧ f.Kept (notifyWithin depth f name).form)
    (value : Json) (targets : List String) (ready : f.Ready depth)
    (known : ∀ d ∈ targets, d ∈ f.names) :
    Gated f value targets
        ((Outcome.still f).forEach targets (applyGate (notifyWithin depth) value)) ∧
      f.Kept ((Outcome.still f).forEach targets (applyGate (notifyWithin depth) value)).form := by
  induction targets generalizing f with
  | nil => exact ⟨rules.done, Kept.refl f⟩
  | cons d rest ih =>
    have dKnown := known d List.mem_cons_self
    have restKnown : ∀ {f' : Form}, f.Kept f' → ∀ t ∈ rest, t ∈ f'.names := by
      intro f' kept t member
      rw [kept.names_eq]
      exact known t (List.mem_cons_of_mem d member)
    rw [Outcome.forEach_cons, Outcome.forEach_eq_andThen]
    cases truthy : value.isTruthy with
    | true =>
      have kept := Kept.setDisabled f d false
      obtain ⟨gated, keptRest⟩ := ih (ready.of_kept kept) (restKnown kept)
      have first := applyGate_of_truthy ready.consistent dKnown truthy (notifyWithin depth)
      simp only [Outcome.andThen, Outcome.still, List.nil_append] at first gated keptRest ⊢
      rw [first]
      exact ⟨rules.opens ready.consistent dKnown truthy gated, kept.trans keptRest⟩
    | false =>
      have keptReset := Kept.reset f d
      have dKnown' : d ∈ (f.mapControls (Control.at d Control.reset)).names := by
        rw [keptReset.names_eq]
        exact dKnown
      obtain ⟨toldFirst, keptTold⟩ := told (ready.of_kept keptReset) dKnown'
      have first := applyGate_of_not_truthy ready.consistent dKnown truthy rfl keptTold
      have kept := keptTold.closed
      obtain ⟨gated, keptRest⟩ := ih (ready.of_kept kept) (restKnown kept)
      have closed := rules.closes ready.consistent dKnown truthy keptTold toldFirst gated
      simp only [Outcome.andThen, Outcome.still, List.nil_append] at first closed keptRest ⊢
      rw [first]
      exact ⟨closed, kept.trans keptRest⟩

/-- The induction: whatever follows the rules holds of every notification with enough room, which
moreover keeps the rest of the form. -/
theorem notifyWithin_spreads (rules : SpreadRules Told Gated) (depth : Nat) {f : Form}
    {name : String} (ready : f.Ready depth) (known : name ∈ f.names) :
    Told f name (notifyWithin depth f name) ∧ f.Kept (notifyWithin depth f name).form := by
  induction depth generalizing f name with
  | zero =>
    obtain ⟨c, found⟩ := ready.consistent.exists_control known
    by_cases busy : name ∈ f.notifying
    · rw [notifyWithin_of_notifying found busy]
      exact ⟨rules.suppressed ready.consistent busy, Kept.refl f⟩
    · exact absurd rfl (ready.depth_ne_zero known busy)
  | succ depth ih =>
    obtain ⟨c, found⟩ := ready.consistent.exists_control known
    by_cases busy : name ∈ f.notifying
    · rw [notifyWithin_of_notifying found busy]
      exact ⟨rules.suppressed ready.consistent busy, Kept.refl f⟩
    · obtain ⟨member, -⟩ := ready.consistent.control?_eq_some_iff.mp found
      obtain ⟨gated, kept⟩ := rules.gates ih c.value c.observers.gateTargets
        (ready.enter known busy) (ready.consistent.gated_mem_names c member)
      rw [notifyWithin_of_fresh found busy rfl]
      exact ⟨rules.begun ready.consistent found busy kept gated, kept.leave⟩

end Form

end LiveForm
