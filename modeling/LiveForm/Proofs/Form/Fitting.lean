import LiveForm.Proofs.Form.Ending

/-!
# Forms that still fit what was compiled

A form finds its controls by name through the index, a gate knows its dependent control by name, and
a name that leads nowhere is passed over in silence. So all that a form does rests on the index, the
names and the gates fitting together. `Form.Fits` says that they do, and that the names, the types
and the rules are still the compiled ones. A gate may lead to a stray, a field that is no control
but was wired all the same.

This is so not only between the operations of a host. A `Moment` is a task that is begun while a
value spreads, and `Moment.Leads` goes from one moment to the next or to one inside it. Whatever is
reported in the course of a task is caused at a moment that it leads to. Every such step keeps a
form fitting and the names of the task known, hence so does any nesting; and no gate is skipped on
the way but one to a stray.
-/

namespace LiveForm.Form

/-- A form has the index and the fixed parts of the compiled one, its names are distinct and the
index leads from them to their controls, and every gate leads to a control or to a stray. -/
structure Fits (f start : Form) (strays : List String) : Prop where
  fixedParts_eq : f.fixedParts = start.fixedParts
  index_eq : f.index = start.index
  names_nodup : f.names.Nodup
  indexed : f.Indexed
  gated : ∀ c ∈ f.controls, ∀ dependent ∈ c.observers.gateTargets,
    dependent ∈ f.names ∨ dependent ∈ strays

variable {f g start : Form} {strays : List String} {name : String}

theorem names_eq_of_fixedParts_eq (fixed : g.fixedParts = f.fixedParts) : g.names = f.names := by
  rw [names_eq_of_fixedParts, fixed, ← names_eq_of_fixedParts]

theorem index_eq_of_frame_eq (same : g.frame = f.frame) : g.index = f.index :=
  show g.frame.index = f.frame.index from congrArg index same

theorem fixedParts_eq_of_frame_eq (same : g.frame = f.frame) : g.fixedParts = f.fixedParts := by
  have framed : ∀ h : Form, h.frame.fixedParts = h.fixedParts := fun h => List.map_map
  rw [← framed, same, framed]

theorem Consistent.fits (consistent : f.Consistent) : f.Fits f strays where
  fixedParts_eq := rfl
  index_eq := rfl
  names_nodup := consistent.names_nodup
  indexed := consistent.indexed
  gated c member dependent gated := .inl (consistent.gated_mem_names c member dependent gated)

section Updating

variable {change : Control → Control}

theorem contains_update (f : Form) (name : String) (change : Control → Control) :
    (f.update name change).contains = f.contains := by
  funext other
  rw [contains, place?_update, contains]

theorem change_eq_ok_iff :
    f.change name change = .ok g ↔ f.contains name = true ∧ g = f.update name change := by
  rw [Form.change]
  split <;> simp [*, eq_comm]

theorem change_of_contains (contained : f.contains name = true) (change : Control → Control) :
    f.change name change = .ok (f.update name change) := change_eq_ok_iff.mpr ⟨contained, rfl⟩

/-- A changed form has the controls of the form before, one of them changed. -/
theorem mem_controls_update {c : Control} (member : c ∈ (f.update name change).controls) :
    ∃ d ∈ f.controls, c = d ∨ c = change d := by
  unfold update at member
  split at member
  case h_1 place _ =>
    obtain ⟨i, here⟩ := List.mem_iff_getElem?.mp member
    rw [List.getElem?_modify] at here
    obtain ⟨d, before, rfl⟩ := Option.map_eq_some_iff.mp here
    refine ⟨d, List.mem_of_getElem? before, ?_⟩
    by_cases there : place = i
    · exact .inr (by simp [there])
    · exact .inl (by simp [there])
  case h_2 => exact ⟨c, member, .inl rfl⟩

end Updating

namespace Fits

/-- A form with the index and the fixed parts of one that fits, which gates no unknown names. -/
theorem of_parts (fits : f.Fits start strays) (index : g.index = f.index)
    (fixed : g.fixedParts = f.fixedParts)
    (gated : ∀ c ∈ g.controls, ∀ dependent ∈ c.observers.gateTargets,
      dependent ∈ f.names ∨ dependent ∈ strays) : g.Fits start strays := by
  have names := names_eq_of_fixedParts_eq fixed
  refine ⟨fixed.trans fits.fixedParts_eq, index.trans fits.index_eq, ?_, ?_, ?_⟩
  · rw [names]
    exact fits.names_nodup
  · intro name place
    rw [names, place?, index]
    exact fits.indexed name place
  · rwa [names]

theorem of_frame_eq (fits : f.Fits start strays) (same : g.frame = f.frame) :
    g.Fits start strays := by
  apply fits.of_parts (index_eq_of_frame_eq same) (fixedParts_eq_of_frame_eq same)
  intro c member
  have framed : c.frame ∈ g.frame.controls := List.mem_map_of_mem member
  rw [same] at framed
  obtain ⟨d, before, alike⟩ := List.mem_map.mp framed
  rw [← Control.gateTargets_eq_of_frame_eq alike]
  exact fits.gated d before

/-- A change of one control keeps a form fitting when it keeps what is fixed and gates no unknown
names. -/
theorem update (fits : f.Fits start strays) (name : String) (change : Control → Control)
    (keeps : ∀ c, (change c).fixed = c.fixed)
    (gates : ∀ c, ∀ dependent ∈ (change c).observers.gateTargets,
      dependent ∈ c.observers.gateTargets ∨ dependent ∈ f.names ∨ dependent ∈ strays) :
    (f.update name change).Fits start strays := by
  refine fits.of_parts (index_update f name change) (map_controls_update keeps f name) ?_
  intro c member dependent gated
  obtain ⟨d, before, rfl | rfl⟩ := mem_controls_update member
  · exact fits.gated c before dependent gated
  · exact (gates d dependent gated).elim (fits.gated d before dependent) id

end Fits

section Nesting

/-- A task that is begun from a form, with a bound on the notifications inside each other. -/
structure Moment where
  bound : Nat
  form : Form
  task : Task

namespace Moment

/-- A control is to tell its observers, with the bound that a notification starts with. -/
def ofNotify (f : Form) (name : String) : Moment := ⟨f.size, f, .tell name⟩

def outcome (m : Moment) : Outcome := m.task.outcome m.bound m.form

/-- One moment leads to another: to what is done inside it, or to what is left to be done. -/
inductive Leads : Moment → Moment → Prop where
  /-- A control that begins to tell its observers goes on to its gates. -/
  | begins {bound : Nat} {f : Form} {name : String} {c : Control} :
      f.control? name = some c → name ∉ f.notifying →
      Leads ⟨bound + 1, f, .tell name⟩
        ⟨bound, f.enter name, .apply c.value c.observers.gateTargets⟩
  /-- A gate that closes lets its dependent control tell that it was reset. -/
  | resets {bound : Nat} {f reset : Form} {value : Json} {dependent : String}
      {rest : List String} :
      value.isTruthy = false → f.change dependent Control.reset = .ok reset →
      Leads ⟨bound, f, .apply value (dependent :: rest)⟩ ⟨bound, reset, .tell dependent⟩
  /-- After a gate the others follow. -/
  | goesOn {bound : Nat} {f : Form} {value : Json} {dependent : String} {rest : List String} :
      Leads ⟨bound, f, .apply value (dependent :: rest)⟩
        ⟨bound, (applyGate (notifyWithin bound) value f dependent).form, .apply value rest⟩

/-- An event that a moment causes itself, and not one that it leads to. -/
inductive Causes : Moment → Event → Prop where
  | notified {bound : Nat} {f : Form} {name : String} {c : Control} :
      f.control? name = some c → name ∉ f.notifying →
      Causes ⟨bound + 1, f, .tell name⟩ (.notified name c.value)
  | delivered {bound : Nat} {f : Form} {name : String} {c : Control} (tag : String) :
      f.control? name = some c → name ∉ f.notifying →
      Causes ⟨bound + 1, f, .tell name⟩ (.delivered tag name c.value)
  | suppressed {bound : Nat} {f : Form} {name : String} :
      name ∈ f.notifying → Causes ⟨bound, f, .tell name⟩ (.suppressed name)
  | tooDeep {f : Form} {name : String} :
      name ∉ f.notifying → Causes ⟨0, f, .tell name⟩ (.tooDeep name)
  | skipped {bound : Nat} {f : Form} {value : Json} {dependent : String} {rest : List String} :
      f.contains dependent = false →
      Causes ⟨bound, f, .apply value (dependent :: rest)⟩
        (.gateSkipped dependent (.unknownControl dependent))

/-- An event is caused at a moment or at one that it leads to, however deep. -/
def Brings (m : Moment) (e : Event) : Prop :=
  ∃ m', Relation.ReflTransGen Leads m m' ∧ m'.Causes e

end Moment

/-- The names that a task is about are known: who tells is a control, and who is to be brought in
line is a control or a stray. -/
def Task.Known (f : Form) (strays : List String) : Task → Prop
  | .tell name => ∃ c, f.control? name = some c
  | .apply _ dependents => ∀ d ∈ dependents, d ∈ f.names ∨ d ∈ strays

/-- A moment of a form that fits, with a known task and with room for the nesting. -/
structure Moment.Secure (m : Moment) (start : Form) (strays : List String) : Prop where
  fits : m.form.Fits start strays
  known : m.task.Known m.form strays
  notifying_nodup : m.form.notifying.Nodup
  notifying_subset : ∀ n ∈ m.form.notifying, n ∈ m.form.names
  room : m.form.size ≤ m.bound + m.form.notifying.length

/-- Nothing was refused, unless it concerns a stray, and the bound on the nesting was not met. -/
def Event.Clean (strays : List String) : Event → Prop
  | .gateRefused _ _ => False
  | .initialGateSkipped name error => name ∈ strays ∧ error = .unknownControl name
  | .gateSkipped name error => name ∈ strays ∧ error = .unknownControl name
  | .tooDeep _ => False
  | _ => True

theorem frame_outcome (bound : Nat) (f : Form) (task : Task) :
    (task.outcome bound f).form.frame = f.frame := by
  cases task with
  | tell name => exact frame_notifyWithin bound f name
  | apply value dependents =>
    exact frame_forEach (frame_applyGate (frame_notifyWithin bound) value) (.still f) dependents

theorem contains_eq_of_frame_eq (same : g.frame = f.frame) : g.contains = f.contains := by
  funext name
  rw [contains, place?, index_eq_of_frame_eq same, contains, place?]

variable {bound : Nat} {value : Json} {dependent : String} {rest : List String}
  {notify : Form → String → Outcome}

theorem trace_applyGate_of_truthy (contained : f.contains dependent = true)
    (truthy : value.isTruthy = true) : (applyGate notify value f dependent).trace = [] := by
  rw [applyGate, if_pos truthy, setDisabled, change_of_contains contained]
  rfl

/-- A gate that closes reports what the notification inside it reports: there is still a control to
disable afterwards. -/
theorem trace_applyGate_of_not_truthy (contained : f.contains dependent = true)
    (falsy : value.isTruthy = false)
    (kept : (notify (f.update dependent Control.reset) dependent).form.frame = f.frame) :
    (applyGate notify value f dependent).trace =
      (notify (f.update dependent Control.reset) dependent).trace := by
  have still := contained
  rw [← contains_eq_of_frame_eq kept] at still
  rw [applyGate, if_neg (by simp [falsy]), resetAndNotify, change_of_contains contained]
  simp only [Except.map, Outcome.andThen, setDisabled, change_of_contains still,
    Outcome.trace_still, List.append_nil]

namespace Moment

theorem Brings.of_leads {m m' : Moment} {e : Event} (brings : m'.Brings e) (leads : m.Leads m') :
    m.Brings e := by
  obtain ⟨m'', reaches, causes⟩ := brings
  exact ⟨m'', reaches.head leads, causes⟩

theorem Causes.brings {m : Moment} {e : Event} (causes : m.Causes e) : m.Brings e :=
  ⟨m, .refl, causes⟩

/-- What a gate reports comes from the gate or from the notification inside it. -/
theorem brings_applyGate
    (told : ∀ g name, ∀ e ∈ (notifyWithin bound g name).trace, Brings ⟨bound, g, .tell name⟩ e) :
    ∀ e ∈ (applyGate (notifyWithin bound) value f dependent).trace,
      Brings ⟨bound, f, .apply value (dependent :: rest)⟩ e := by
  intro e member
  cases contained : f.contains dependent with
  | false =>
    rw [applyGate_of_unknown contained] at member
    obtain rfl := List.mem_singleton.mp member
    exact (Causes.skipped contained).brings
  | true =>
    cases truthy : value.isTruthy with
    | true => simp [trace_applyGate_of_truthy contained truthy] at member
    | false =>
      have kept := (frame_notifyWithin bound (f.update dependent Control.reset) dependent).trans
        (frame_update Control.frame_reset f dependent)
      rw [trace_applyGate_of_not_truthy contained truthy kept] at member
      have reset := change_of_contains contained Control.reset
      exact (told _ _ e member).of_leads (.resets truthy reset)

theorem brings_apply {dependents : List String}
    (told : ∀ g name, ∀ e ∈ (notifyWithin bound g name).trace, Brings ⟨bound, g, .tell name⟩ e) :
    ∀ e ∈ (Task.outcome bound f (.apply value dependents)).trace,
      Brings ⟨bound, f, .apply value dependents⟩ e := by
  induction dependents generalizing f with
  | nil => exact fun e member => absurd member List.not_mem_nil
  | cons d rest ih =>
    rw [Task.outcome_apply_cons, Outcome.trace_andThen, List.forall_mem_append]
    exact ⟨brings_applyGate told, fun e member => (ih e member).of_leads .goesOn⟩

theorem brings_tell : ∀ e ∈ (notifyWithin bound f name).trace, Brings ⟨bound, f, .tell name⟩ e := by
  -- Induction on the bound, which the moments inside a notification have less of.
  induction bound using Nat.strongRecOn generalizing f name with
  | ind bound ih =>
    cases found : f.control? name with
    | none =>
      unfold notifyWithin
      simp [found]
    | some c =>
      by_cases busy : name ∈ f.notifying
      · rw [notifyWithin_of_notifying found busy]
        exact List.forall_mem_singleton.mpr (Causes.suppressed busy).brings
      · cases bound with
        | zero =>
          have stuck : notifyWithin 0 f name = .event f (.tooDeep name) := by
            simp [notifyWithin, found, busy]
          rw [stuck]
          exact List.forall_mem_singleton.mpr (Causes.tooDeep busy).brings
        | succ bound =>
          have fewer : bound < bound + 1 := Nat.lt_succ_self bound
          rw [notifyWithin_of_fresh found busy rfl, List.forall_mem_cons, List.forall_mem_append]
          refine ⟨(Causes.notified found busy).brings, fun e member => ?_, fun e called => ?_⟩
          · have gated := brings_apply (fun _ _ => ih bound fewer) e member
            exact gated.of_leads (.begins found busy)
          · obtain ⟨tag, rfl⟩ := eq_delivered_of_mem_deliveries called
            exact (Causes.delivered tag found busy).brings

/-- Everything that is reported in the course of a task is caused at a moment that it leads to. -/
theorem brings (m : Moment) : ∀ e ∈ m.outcome.trace, m.Brings e := by
  obtain ⟨bound, f, name | ⟨value, dependents⟩⟩ := m
  · exact brings_tell
  · exact brings_apply fun _ _ => brings_tell

end Moment

namespace Moment.Secure

variable {task task' : Task} {m m' : Moment}

theorem of_frame_eq (secure : Secure ⟨bound, f, task⟩ start strays) (same : g.frame = f.frame)
    (known : task'.Known g strays) : Secure ⟨bound, g, task'⟩ start strays := by
  have names := names_eq_of_fixedParts_eq (fixedParts_eq_of_frame_eq same)
  have notifying : g.notifying = f.notifying :=
    show g.frame.notifying = f.frame.notifying from congrArg Form.notifying same
  have size : g.size = f.size := by simpa [Form.names, Form.size] using congrArg List.length names
  refine ⟨secure.fits.of_frame_eq same, known, ?_, ?_, ?_⟩
  · rw [notifying]
    exact secure.notifying_nodup
  · rw [notifying, names]
    exact secure.notifying_subset
  · rw [notifying, size]
    exact secure.room

/-- While a control waits to begin, the bound is not used up. -/
theorem bound_ne_zero (secure : Secure ⟨bound, f, .tell name⟩ start strays)
    (fresh : name ∉ f.notifying) : bound ≠ 0 := by
  obtain ⟨c, found⟩ := secure.known
  have known : name ∈ f.names := secure.fits.indexed.mem_names_of_control? found
  have fewer : f.notifying.length < f.size :=
    length_notifying_lt secure.notifying_nodup secure.notifying_subset known fresh
  have room : f.size ≤ bound + f.notifying.length := secure.room
  omega

/-- Every moment that a secure one leads to is secure. -/
theorem leads (secure : m.Secure start strays) (leads : m.Leads m') : m'.Secure start strays := by
  cases leads with
  | @begins bound f name c found fresh =>
    have known : name ∈ f.names := secure.fits.indexed.mem_names_of_control? found
    refine ⟨secure.fits.of_parts rfl rfl secure.fits.gated, ?_, ?_, ?_, ?_⟩
    · exact secure.fits.gated c (mem_controls_of_control? found)
    · exact List.nodup_cons.mpr ⟨fresh, secure.notifying_nodup⟩
    · exact List.forall_mem_cons.mpr ⟨known, secure.notifying_subset⟩
    · -- The nesting has used up one of the bound and added one name.
      have room : f.size ≤ bound + 1 + f.notifying.length := secure.room
      show f.size ≤ bound + (f.notifying.length + 1)
      omega
  | @resets bound f reset value dependent rest falsy written =>
    obtain ⟨contained, rfl⟩ := change_eq_ok_iff.mp written
    have same := frame_update Control.frame_reset f dependent
    have indexed := (secure.fits.of_frame_eq same).indexed
    refine secure.of_frame_eq same (indexed.exists_control ?_)
    rwa [← indexed.contains_iff, contains_update]
  | @goesOn bound f value dependent rest =>
    have same := frame_applyGate (frame_notifyWithin bound) value f dependent
    refine secure.of_frame_eq same fun d member => ?_
    rw [names_eq_of_fixedParts_eq (fixedParts_eq_of_frame_eq same)]
    exact secure.known d (List.mem_cons_of_mem dependent member)

theorem reaches (secure : m.Secure start strays)
    (reaches : Relation.ReflTransGen Moment.Leads m m') : m'.Secure start strays := by
  induction reaches with
  | refl => exact secure
  | tail _ leads ih => exact ih.leads leads

/-- A secure moment causes no refusal but on a stray, and does not meet the bound. -/
theorem clean_of_causes (secure : m.Secure start strays) {e : Event} (causes : m.Causes e) :
    e.Clean strays := by
  cases causes with
  | notified | delivered | suppressed => exact trivial
  | tooDeep fresh => exact secure.bound_ne_zero fresh rfl
  | @skipped bound f value dependent rest unknown =>
    have absent : dependent ∉ f.names := by
      rw [← secure.fits.indexed.contains_iff, unknown]
      exact Bool.false_ne_true
    exact ⟨(secure.known dependent List.mem_cons_self).resolve_left absent, rfl⟩

theorem clean (secure : m.Secure start strays) : ∀ e ∈ m.outcome.trace, e.Clean strays := by
  intro e member
  obtain ⟨m', reaches, causes⟩ := m.brings e member
  exact (secure.reaches reaches).clean_of_causes causes

end Moment.Secure

end Nesting

end LiveForm.Form
