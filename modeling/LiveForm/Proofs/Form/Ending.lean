import LiveForm.Proofs.Form.Reached

/-!
# A spreading value comes to an end

`Form.notifyWithin` is given a bound on the nesting, so that it ends says nothing yet. Here a
spreading value is told once more, as a relation that knows no bound: a control that tells its
observers, and gates that are applied one after another, end with an outcome when all that they
start has ended. A nesting depth comes with it, the number of controls that were telling inside each
other at the deepest place.

In every reached form a write on a control ends in this sense, with no more nested controls than
the form has, however the dependencies are tangled. Any bound from the depth on gives the same
outcome. And whatever notification is made, from whatever form, it changes nothing but the values,
the flags and the failing kinds of controls. In particular whoever was notifying before is notifying
afterwards and nobody else; so no control is muted by what happened before.
-/

namespace LiveForm.Form

inductive Task where
  /-- A control tells its observers its value. -/
  | tell (name : String)
  /-- Dependent controls are brought in line with a value. -/
  | apply (value : Json) (dependents : List String)

/-- A task ends with an outcome, and so many controls were telling their observers inside each
other. -/
inductive Ends : (depth : Nat) → Form → Task → Outcome → Prop where
  | missing {f : Form} {name : String} :
      f.control? name = none → Ends 0 f (.tell name) (.still f)
  | suppressed {f : Form} {name : String} {c : Control} :
      f.control? name = some c → name ∈ f.notifying →
      Ends 0 f (.tell name) (.event f (.suppressed name))
  | begun {depth : Nat} {f : Form} {name : String} {c : Control} {o : Outcome} :
      f.control? name = some c → name ∉ f.notifying →
      Ends depth (f.enter name) (.apply c.value c.observers.gateTargets) o →
      Ends (depth + 1) f (.tell name)
        ⟨o.form.leave name,
          .notified name c.value :: (o.trace ++ o.form.deliveries name c.value)⟩
  | done {f : Form} {value : Json} : Ends 0 f (.apply value []) (.still f)
  | skips {depth : Nat} {f : Form} {value : Json} {dependent : String} {rest : List String}
      {o : Outcome} :
      f.contains dependent = false → Ends depth f (.apply value rest) o →
      Ends depth f (.apply value (dependent :: rest))
        ⟨o.form, .gateSkipped dependent (.unknownControl dependent) :: o.trace⟩
  | opens {depth : Nat} {f enabled : Form} {value : Json} {dependent : String}
      {rest : List String} {o : Outcome} :
      value.isTruthy = true → f.setDisabled dependent false = .ok enabled →
      Ends depth enabled (.apply value rest) o →
      Ends depth f (.apply value (dependent :: rest)) o
  | closes {inner outer : Nat} {f reset disabled : Form} {value : Json} {dependent : String}
      {rest : List String} {first o : Outcome} :
      value.isTruthy = false → f.change dependent Control.reset = .ok reset →
      Ends inner reset (.tell dependent) first →
      first.form.setDisabled dependent true = .ok disabled →
      Ends outer disabled (.apply value rest) o →
      Ends (max inner outer) f (.apply value (dependent :: rest))
        ⟨o.form, first.trace ++ o.trace⟩

def Task.outcome (bound : Nat) (f : Form) : Task → Outcome
  | .tell name => notifyWithin bound f name
  | .apply value dependents =>
    (Outcome.still f).forEach dependents (applyGate (notifyWithin bound) value)

variable {depth : Nat} {f : Form} {task : Task} {o : Outcome}

theorem Task.outcome_apply_cons (bound : Nat) (f : Form) (value : Json) (dependent : String)
    (rest : List String) :
    outcome bound f (.apply value (dependent :: rest)) =
      (applyGate (notifyWithin bound) value f dependent).andThen fun f =>
        outcome bound f (.apply value rest) := by
  show (Outcome.still f).forEach (dependent :: rest) (applyGate (notifyWithin bound) value) = _
  rw [Outcome.forEach_cons, Outcome.forEach_eq_andThen]
  rfl

theorem applyGate_of_unknown {dependent : String} (unknown : f.contains dependent = false)
    (notify : Form → String → Outcome) (value : Json) :
    applyGate notify value f dependent =
      .event f (.gateSkipped dependent (.unknownControl dependent)) := by
  cases truthy : value.isTruthy <;>
    simp [applyGate, truthy, setDisabled, resetAndNotify, change, unknown, Except.map]

/-- A task that ends comes to its outcome under every bound from its depth on. -/
theorem Ends.outcome_eq (ends : Ends depth f task o) {bound : Nat} (enough : depth ≤ bound) :
    task.outcome bound f = o := by
  induction ends generalizing bound with
  | missing unknown =>
    rw [Task.outcome]
    cases bound <;> rw [notifyWithin, unknown]
  | suppressed found busy => exact notifyWithin_of_notifying found busy bound
  | begun found fresh _ ih =>
    obtain ⟨bound, rfl⟩ : ∃ n, bound = n + 1 := Nat.exists_eq_add_one.mpr (by omega)
    exact notifyWithin_of_fresh found fresh (ih (by omega))
  | done => rfl
  | skips unknown _ ih =>
    rw [Task.outcome_apply_cons, applyGate_of_unknown unknown, Outcome.andThen,
      Outcome.form_event, ih enough]
    rfl
  | @opens _ f enabled value dependent _ _ truthy opened _ ih =>
    rw [Task.outcome_apply_cons]
    have gate : applyGate (notifyWithin bound) value f dependent = .still enabled := by
      rw [applyGate, if_pos truthy, opened]
    rw [gate, Outcome.andThen, Outcome.form_still, ih enough]
    rfl
  | @closes _ _ f reset disabled value dependent _ first _ falsy written _ closed _ told ih =>
    rw [Task.outcome_apply_cons]
    have inside : notifyWithin bound reset dependent = first := told (by omega)
    have gate : applyGate (notifyWithin bound) value f dependent = ⟨disabled, first.trace⟩ := by
      rw [applyGate, if_neg (by simp [falsy]), resetAndNotify, written]
      simp only [Except.map, inside, Outcome.andThen, closed, Outcome.trace_still,
        Outcome.form_still, List.append_nil]
    rw [gate, Outcome.andThen, ih (by omega)]

/-- A value that spreads ends, with a depth that every bound with enough room for it covers. -/
theorem endRules : SpreadRules
    (fun f name o => name ∈ f.names →
      ∃ depth, Ends depth f (.tell name) o ∧ ∀ bound, f.Ready bound → depth ≤ bound)
    (fun f value dependents o =>
      ∃ depth, Ends depth f (.apply value dependents) o ∧
        ∀ bound, f.Ready bound → depth ≤ bound) where
  suppressed {f name} consistent busy known := by
    obtain ⟨c, found⟩ := consistent.exists_control known
    exact ⟨0, .suppressed found busy, fun _ _ => Nat.zero_le _⟩
  begun {f name c o} _ found fresh _ gated known := by
    obtain ⟨depth, ends, least⟩ := gated
    refine ⟨depth + 1, .begun found fresh ends, fun bound ready => ?_⟩
    obtain ⟨bound, rfl⟩ := Nat.exists_eq_succ_of_ne_zero (ready.depth_ne_zero known fresh)
    exact Nat.succ_le_succ (least bound (ready.enter known fresh))
  done := ⟨0, .done, fun _ _ => Nat.zero_le _⟩
  opens {f value dependent rest o} consistent known truthy gated := by
    obtain ⟨depth, ends, least⟩ := gated
    have opened := consistent.change_eq_ok known (·.setDisabled false)
    refine ⟨depth, .opens truthy opened ends, fun bound ready => ?_⟩
    exact least bound (ready.of_kept (Kept.setDisabled f dependent false))
  closes {f value dependent rest first o} consistent known falsy kept told gated := by
    have keptReset := Kept.reset f dependent
    have keptFirst := keptReset.trans kept
    have knownReset : dependent ∈ (f.mapControls (Control.at dependent Control.reset)).names := by
      rwa [keptReset.names_eq]
    have knownFirst : dependent ∈ first.form.names := by rwa [keptFirst.names_eq]
    obtain ⟨inner, endsInner, leastInner⟩ := told knownReset
    obtain ⟨outer, endsOuter, leastOuter⟩ := gated
    have written := consistent.change_eq_ok known Control.reset
    have closed :=
      (keptFirst.consistent consistent).change_eq_ok knownFirst (·.setDisabled true)
    refine ⟨max inner outer, .closes falsy written endsInner closed endsOuter,
      fun bound ready => Nat.max_le.mpr ⟨?_, ?_⟩⟩
    · exact leastInner bound (ready.of_kept keptReset)
    · exact leastOuter bound (ready.of_kept kept.closed)

/-- A control of a form with enough room tells its observers to an end. -/
theorem Ready.exists_ends {bound : Nat} {name : String} (ready : f.Ready bound)
    (known : name ∈ f.names) :
    ∃ depth ≤ bound, Ends depth f (.tell name) (notifyWithin bound f name) := by
  obtain ⟨depth, ends, least⟩ := (notifyWithin_spreads endRules bound ready known).1 known
  exact ⟨depth, least bound ready, ends⟩

section Frame

/-- A form without what a spreading value may change. -/
def frame (f : Form) : Form := { f with controls := f.controls.map Control.frame }

theorem frame_update {change : Control → Control} (keeps : ∀ c, (change c).frame = c.frame)
    (f : Form) (name : String) : (f.update name change).frame = f.frame := by
  rw [frame, map_controls_update keeps, notifying_update, index_update, frame]

/-- The last step of a gate, refused or not, keeps the frame. -/
theorem frame_setDisabled (f : Form) (dependent : String) (disabled : Bool) :
    (match f.setDisabled dependent disabled with
      | .ok f => Outcome.still f
      | .error e => .event f (.gateSkipped dependent e)).form.frame = f.frame := by
  rw [setDisabled, change]
  cases f.contains dependent
  · rfl
  · exact frame_update (fun c => c.frame_setDisabled disabled) f dependent

theorem frame_applyGate {notify : Form → String → Outcome}
    (keeps : ∀ f name, (notify f name).form.frame = f.frame) (value : Json) (f : Form)
    (dependent : String) : (applyGate notify value f dependent).form.frame = f.frame := by
  rw [applyGate]
  split
  case isTrue => exact frame_setDisabled f dependent false
  case isFalse =>
    rw [resetAndNotify, change]
    cases f.contains dependent with
    | false => rfl
    | true =>
      calc _ = _ := frame_setDisabled _ dependent true
        _ = _ := keeps _ dependent
        _ = f.frame := frame_update Control.frame_reset f dependent

theorem frame_forEach {α : Type} {next : Form → α → Outcome}
    (keeps : ∀ f a, (next f a).form.frame = f.frame) (o : Outcome) (items : List α) :
    (o.forEach items next).form.frame = o.form.frame := by
  induction items generalizing o with
  | nil => rfl
  | cons a rest ih => rw [Outcome.forEach_cons, ih, Outcome.form_andThen, keeps]

/-- What is in the frame when a control has begun is there when it has ended. -/
theorem frame_leave {f g : Form} {name : String} (same : g.frame = (f.enter name).frame) :
    (g.leave name).frame = f.frame := by
  calc (g.leave name).frame = g.frame.leave name := rfl
    _ = (f.enter name).frame.leave name := by rw [same]
    _ = f.frame := congrArg (fun names => { f.frame with notifying := names })
      (List.erase_cons_head ..)

/-- A notification changes nothing but the values, the flags and the failing kinds of controls,
whatever the form and the bound. -/
theorem frame_notifyWithin (bound : Nat) (f : Form) (name : String) :
    (notifyWithin bound f name).form.frame = f.frame := by
  induction bound generalizing f name with
  | zero =>
    rw [notifyWithin]
    split
    · rfl
    · split <;> rfl
  | succ bound ih =>
    rw [notifyWithin]
    split
    case h_1 => rfl
    case h_2 c _ =>
      split
      case isTrue => rfl
      case isFalse => exact frame_leave (frame_forEach (frame_applyGate ih c.value) _ _)

/-- A notification is over for the control that began it, and changes nothing for any other. -/
theorem notifying_notifyWithin (bound : Nat) (f : Form) (name : String) :
    (notifyWithin bound f name).form.notifying = f.notifying :=
  show (notifyWithin bound f name).form.frame.notifying = f.frame.notifying from
    congrArg notifying (frame_notifyWithin bound f name)

end Frame

/-- A control that is not notifying already is not suppressed: the first event is that it begins. -/
theorem Ends.head?_trace {name : String} {c : Control} (ends : Ends depth f (.tell name) o)
    (found : f.control? name = some c) (fresh : name ∉ f.notifying) :
    o.trace.head? = some (.notified name c.value) := by
  cases ends with
  | missing unknown => exact absurd (found.symm.trans unknown) (Option.some_ne_none c)
  | suppressed _ busy => exact absurd busy fresh
  | begun found' _ _ =>
    obtain rfl := Option.some.inj (found.symm.trans found')
    rfl

/-- In every reached form nobody is notifying, and every notification leaves those notifying who
were so when it began. A write on a control ends, with no more controls telling inside each other
than there are, under any larger bound just the same; it begins with the control telling the new
value and leaves nobody notifying. -/
theorem spreading_ends (schema : Schema) (initial : Json.Entries) (actions : List Action) :
    let f := reached schema initial actions
    f.notifying = [] ∧
      (∀ bound g name, (notifyWithin bound g name).form.notifying = g.notifying) ∧
      ∀ name value,
        if f.contains name then
          ∃ g depth o, f.change name (written value) = .ok g ∧
            depth ≤ f.size ∧ Ends depth g (.tell name) o ∧
            (∀ extra, notifyWithin (depth + extra) g name = o) ∧
            f.setValue name value = .ok o ∧ o.form.notifying = [] ∧
            o.trace.head? = some (.notified name value)
        else f.setValue name value = .error (.unknownControl name) := by
  intro f
  have sound : f.Sound := reached_sound schema initial actions
  refine ⟨sound.idle, notifying_notifyWithin, fun name value => ?_⟩
  split
  case isTrue contained =>
    have known := sound.consistent.contains_iff.mp contained
    obtain ⟨c, found⟩ := sound.consistent.exists_control known
    let g := f.mapControls (Control.at name (written value))
    have consistent : g.Consistent := consistent_written sound.consistent name value
    have idle : g.notifying = [] := sound.idle
    have found' : g.control? name = some (written value c) :=
      sound.consistent.control?_mapControls_at found (written value)
    obtain ⟨depth, enough, ends⟩ :=
      (Ready.of_idle consistent idle).exists_ends (consistent.mem_names_of_control? found')
    refine ⟨g, depth, g.notify name, sound.consistent.change_eq_ok known (written value), ?_, ends,
      fun extra => ends.outcome_eq (Nat.le_add_right depth extra),
      sound.consistent.setValue_eq_notify known value, ?_, ?_⟩
    · rwa [size_mapControls] at enough
    · exact (notifying_notifyWithin ..).trans idle
    · exact ends.head?_trace found' (idle ▸ List.not_mem_nil)
  case isFalse missing =>
    exact setValue_eq_error sound.consistent (mt sound.consistent.contains_iff.mpr missing) value

end LiveForm.Form
