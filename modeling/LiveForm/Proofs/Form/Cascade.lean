import LiveForm.Proofs.Form.Spreading
import Mathlib.Logic.Relation

/-!
# What a notification leaves behind

The gates of a control bring its children in line with its value, and a child that is reset tells
its own children in turn. `Spread` describes the whole effect through the controls that were told:
exactly their children were brought in line, all in the same direction, and no child of theirs was
left out but those that were notifying already. On a form where nobody was notifying the controls
that were told are therefore the first one and, below a value that is not truthy, its descendants.
-/

namespace LiveForm

/-- The value of an untouched control enables nothing. -/
theorem FieldType.isTruthy_defaultValue (t : FieldType) : t.defaultValue.isTruthy = false := by
  cases t <;> rfl

/-- The effect of a gate on the dependent control: enabled, or reset and disabled. -/
def Control.gate (opened : Bool) (c : Control) : Control :=
  if opened then c.setDisabled false else c.reset.setDisabled true

namespace Control

@[simp] theorem gate_true (c : Control) : c.gate true = c.setDisabled false := rfl

/-- A gate that closes says everything about value, flag and failing kinds. -/
theorem gate_false (c : Control) :
    c.gate false = { c with value := c.type.defaultValue, disabled := true, errors := [] } := by
  show (c.reset).setDisabled true = _
  unfold setDisabled
  split
  case isTrue already => simp_all [reset, write, revalidate, errorsOf]
  case isFalse => simp [reset, write, revalidate, errorsOf]

@[simp] theorem frame_gate (opened : Bool) (c : Control) : (c.gate opened).frame = c.frame := by
  cases opened
  · exact (frame_setDisabled _ true).trans (frame_reset c)
  · exact frame_setDisabled c false

@[simp] theorem name_gate (opened : Bool) (c : Control) : (c.gate opened).name = c.name :=
  name_eq_of_frame_eq (frame_gate opened c)

@[simp] theorem setDisabled_setDisabled (c : Control) (disabled : Bool) :
    (c.setDisabled disabled).setDisabled disabled = c.setDisabled disabled := by
  rw [setDisabled, if_pos (disabled_setDisabled c disabled)]

@[simp] theorem gate_gate (opened : Bool) (c : Control) :
    (c.gate opened).gate opened = c.gate opened := by
  cases opened
  · simp [gate_false]
  · exact setDisabled_setDisabled c false

@[simp] theorem gate_false_reset (c : Control) : c.reset.gate false = c.gate false := by
  simp [gate_false, reset, write, revalidate]

@[simp] theorem setDisabled_true_reset (c : Control) :
    c.reset.setDisabled true = c.gate false := rfl

@[simp] theorem setDisabled_true_gate_false (c : Control) :
    (c.gate false).setDisabled true = c.gate false := by
  rw [← setDisabled_true_reset, setDisabled_setDisabled]

end Control

namespace Form

/-- A control that is reached from another one by one or more steps to a child. -/
def Descends (f : Form) : String → String → Prop :=
  Relation.TransGen fun parent child => child ∈ f.children parent

theorem Kept.descends_eq {f f' : Form} (kept : f.Kept f') : f'.Descends = f.Descends := by
  unfold Descends
  rw [kept.children_eq]

theorem Consistent.mem_names_of_descends {f : Form} (consistent : f.Consistent) {name n : String}
    (below : f.Descends name n) : n ∈ f.names := by
  obtain ⟨parent, -, gated⟩ := Relation.TransGen.tail'_iff.mp below
  exact consistent.mem_names_of_mem_children gated

/-- Brings the controls with some names in line with an open or a closed gate. -/
def gateAll (f : Form) (opened : Bool) (names : List String) : Form :=
  f.mapControls fun c => if c.name ∈ names then c.gate opened else c

theorem gateAll_nil (f : Form) (opened : Bool) : f.gateAll opened [] = f :=
  mapControls_eq_self fun c _ => by simp

theorem gateAll_congr (f : Form) (opened : Bool) {names names' : List String}
    (same : ∀ name, name ∈ names ↔ name ∈ names') :
    f.gateAll opened names = f.gateAll opened names' :=
  mapControls_congr fun c _ => by simp only [same c.name]

theorem gateAll_at_setDisabled (f : Form) (name : String) (names : List String) :
    (f.mapControls (Control.at name (·.setDisabled false))).gateAll true names =
      f.gateAll true (name :: names) := by
  rw [gateAll, mapControls_mapControls]
  apply mapControls_congr
  intro c _
  by_cases inside : c.name ∈ names <;> rcases eq_or_ne c.name name with rfl | elsewhere <;>
    simp [Control.at, *]

/-- A gate that closes, with a cascade between the reset and the end. -/
theorem gateAll_around_reset (f : Form) (name : String) (inner rest : List String) :
    (((f.mapControls (Control.at name Control.reset)).gateAll false inner).mapControls
        (Control.at name (·.setDisabled true))).gateAll false rest =
      f.gateAll false (name :: (inner ++ rest)) := by
  simp only [gateAll, mapControls_mapControls]
  apply mapControls_congr
  intro c _
  by_cases within : c.name ∈ inner <;> by_cases after : c.name ∈ rest <;>
    rcases eq_or_ne c.name name with rfl | elsewhere <;>
    simp [Control.at, *]

/-- The effect of a notification of a control whose value is truthy or not, as `opened` says. -/
structure Spread (f : Form) (name : String) (opened : Bool) (o : Outcome) : Prop where
  /-- The children of the controls that were told are in line with the value. -/
  form_eq : o.form = f.gateAll opened (o.told.flatMap f.children)
  /-- All values that were told are alike. -/
  alike : ∀ n ∈ o.notifications, n.2.isTruthy = opened
  /-- Below a value that is not truthy, descendants were told. -/
  descends : ∀ n ∈ o.told, n = name ∨ (opened = false ∧ f.Descends name n)
  /-- No child of a control that was told was left out, unless it was notifying already. -/
  complete : opened = false →
    ∀ n ∈ o.told, ∀ child ∈ f.children n, child ∈ o.told ∨ child ∈ f.notifying
  begins : name ∈ o.told ∨ name ∈ f.notifying

/-- The effect of some gates of a control with a value. -/
structure GatesSpread (f : Form) (value : Json) (targets : List String) (o : Outcome) : Prop where
  form_eq : o.form = f.gateAll value.isTruthy (targets ++ o.told.flatMap f.children)
  alike : ∀ n ∈ o.notifications, n.2.isTruthy = value.isTruthy
  descends : ∀ n ∈ o.told,
    value.isTruthy = false ∧ ∃ target ∈ targets, n = target ∨ f.Descends target n
  complete : value.isTruthy = false →
    ∀ n ∈ o.told, ∀ child ∈ f.children n, child ∈ o.told ∨ child ∈ f.notifying
  begins : value.isTruthy = false → ∀ target ∈ targets, target ∈ o.told ∨ target ∈ f.notifying

@[simp] theorem notifications_still (f : Form) : (Outcome.still f).notifications = [] := rfl

@[simp] theorem told_still (f : Form) : (Outcome.still f).told = [] := rfl

/-- The callbacks of a control are called with the value that it tells. -/
theorem eq_delivered_of_mem_deliveries {f : Form} {name : String} {value : Json} {e : Event}
    (member : e ∈ f.deliveries name value) : ∃ tag, e = .delivered tag name value := by
  unfold deliveries at member
  split at member
  · obtain ⟨tag, -, rfl⟩ := List.mem_map.mp member
    exact ⟨tag, rfl⟩
  · cases member

theorem notification?_of_mem_deliveries {f : Form} {name : String} {value : Json} {e : Event}
    (member : e ∈ f.deliveries name value) : e.notification? = none := by
  obtain ⟨tag, rfl⟩ := eq_delivered_of_mem_deliveries member
  rfl

theorem notifications_begun (f f' g : Form) (name : String) (value told : Json)
    (trace : List Event) :
    (Outcome.mk f (.notified name value :: (trace ++ g.deliveries name told))).notifications =
      (name, value) :: (Outcome.mk f' trace).notifications := by
  have silent : (g.deliveries name told).filterMap Event.notification? = [] :=
    List.filterMap_eq_nil_iff.mpr fun _ member => notification?_of_mem_deliveries member
  simp [Outcome.notifications, Event.notification?, silent]

theorem Spread.suppressed {f : Form} {name : String} (busy : name ∈ f.notifying) (opened : Bool) :
    f.Spread name opened (.event f (.suppressed name)) where
  form_eq := (gateAll_nil f opened).symm
  alike n member := by simp [Outcome.notifications, Outcome.event, Event.notification?] at member
  descends n member := by
    simp [Outcome.told, Outcome.notifications, Outcome.event, Event.notification?] at member
  complete _ n member := by
    simp [Outcome.told, Outcome.notifications, Outcome.event, Event.notification?] at member
  begins := .inr busy

theorem gateAll_enter_leave (f : Form) (name : String) (opened : Bool) (names : List String) :
    ((f.enter name).gateAll opened names).leave name = f.gateAll opened names := by
  simp [leave, enter, gateAll, mapControls]

theorem children_eq_of_control? {f : Form} {name : String} {c : Control}
    (found : f.control? name = some c) : f.children name = c.observers.gateTargets := by
  simp [children, found]

theorem Spread.begun {f : Form} {name : String} {c : Control} {o : Outcome}
    (found : f.control? name = some c)
    (gates : (f.enter name).GatesSpread c.value c.observers.gateTargets o) :
    f.Spread name c.value.isTruthy ⟨o.form.leave name,
      .notified name c.value :: (o.trace ++ o.form.deliveries name c.value)⟩ := by
  have own : f.children name = c.observers.gateTargets := children_eq_of_control? found
  have all := notifications_begun (o.form.leave name) o.form o.form name c.value c.value o.trace
  have told : Outcome.told ⟨o.form.leave name,
      .notified name c.value :: (o.trace ++ o.form.deliveries name c.value)⟩ = name :: o.told :=
    congrArg (List.map Prod.fst) all
  refine ⟨?_, ?_, ?_, ?_, ?_⟩
  · rw [told, List.flatMap_cons, own, ← gateAll_enter_leave f name]
    exact congrArg (Form.leave · name) gates.form_eq
  · rw [all]
    exact List.forall_mem_cons.mpr ⟨rfl, gates.alike⟩
  · rw [told]
    refine List.forall_mem_cons.mpr ⟨.inl rfl, fun n member => .inr ?_⟩
    obtain ⟨falsy, target, gated, below⟩ := gates.descends n member
    have child : target ∈ f.children name := own ▸ gated
    refine ⟨falsy, ?_⟩
    rcases below with rfl | below
    · exact .single child
    · exact .head child below
  · intro falsy
    rw [told]
    -- The control itself is notifying while its gates are applied, and was told.
    have settle : ∀ child, child ∈ o.told ∨ child ∈ (f.enter name).notifying →
        child ∈ name :: o.told ∨ child ∈ f.notifying := by
      rintro child (inside | busy)
      · exact .inl (List.mem_cons_of_mem name inside)
      · rcases List.mem_cons.mp busy with rfl | busy
        · exact .inl List.mem_cons_self
        · exact .inr busy
    refine List.forall_mem_cons.mpr ⟨?_, ?_⟩
    · intro child gated
      exact settle child (gates.begins falsy child (own ▸ gated))
    · intro n member child gated
      exact settle child (gates.complete falsy n member child gated)
  · rw [told]
    exact .inl List.mem_cons_self

theorem GatesSpread.done (f : Form) (value : Json) : f.GatesSpread value [] (.still f) where
  form_eq := (gateAll_nil f value.isTruthy).symm
  alike n member := by simp at member
  descends n member := by simp at member
  complete _ n member := by simp at member
  begins _ target member := by simp at member

theorem GatesSpread.opens {f : Form} {value : Json} {dependent : String} {rest : List String}
    {o : Outcome} (truthy : value.isTruthy = true)
    (gates :
      (f.mapControls (Control.at dependent (·.setDisabled false))).GatesSpread value rest o) :
    f.GatesSpread value (dependent :: rest) o := by
  have kept := Kept.setDisabled f dependent false
  refine ⟨?_, gates.alike, ?_, ?_, ?_⟩
  · rw [gates.form_eq, kept.children_eq, truthy, gateAll_at_setDisabled, List.cons_append]
  · intro n member
    have falsy := (gates.descends n member).1
    simp [truthy] at falsy
  · intro falsy
    simp [truthy] at falsy
  · intro falsy
    simp [truthy] at falsy

theorem GatesSpread.closes {f : Form} {value : Json} {dependent : String} {rest : List String}
    {first o : Outcome} (falsy : value.isTruthy = false)
    (told : (f.mapControls (Control.at dependent Control.reset)).Spread dependent false first)
    (gates : (first.form.mapControls
      (Control.at dependent (·.setDisabled true))).GatesSpread value rest o)
    (kept : (f.mapControls (Control.at dependent Control.reset)).Kept first.form) :
    f.GatesSpread value (dependent :: rest) ⟨o.form, first.trace ++ o.trace⟩ := by
  have keptReset := Kept.reset f dependent
  have keptAll := kept.closed
  have all : Outcome.notifications ⟨o.form, first.trace ++ o.trace⟩ =
      first.notifications ++ o.notifications := List.filterMap_append
  have toldAll : Outcome.told ⟨o.form, first.trace ++ o.trace⟩ = first.told ++ o.told := by
    simp only [Outcome.told, all, List.map_append]
  refine ⟨?_, ?_, ?_, ?_, ?_⟩
  · have form_eq := gates.form_eq
    rw [keptAll.children_eq, falsy, told.form_eq, keptReset.children_eq,
      gateAll_around_reset] at form_eq
    rw [toldAll, falsy]
    refine form_eq.trans (gateAll_congr f false ?_)
    intro n
    simp only [List.flatMap_append, List.mem_cons, List.mem_append, List.cons_append]
    tauto
  · rw [all, falsy]
    exact List.forall_mem_append.mpr
      ⟨told.alike, fun n member => (gates.alike n member).trans falsy⟩
  · rw [toldAll]
    refine List.forall_mem_append.mpr ⟨?_, ?_⟩
    · intro n member
      refine ⟨falsy, dependent, List.mem_cons_self, ?_⟩
      rcases told.descends n member with same | ⟨-, below⟩
      · exact .inl same
      · exact .inr (keptReset.descends_eq ▸ below)
    · intro n member
      obtain ⟨-, target, gated, below⟩ := gates.descends n member
      rw [keptAll.descends_eq] at below
      exact ⟨falsy, target, List.mem_cons_of_mem dependent gated, below⟩
  · intro _
    rw [toldAll]
    refine List.forall_mem_append.mpr ⟨?_, ?_⟩
    · intro n member child gated
      rw [← keptReset.children_eq] at gated
      exact (told.complete rfl n member child gated).imp_left (List.mem_append_left _)
    · intro n member child gated
      rw [← keptAll.children_eq] at gated
      have after := gates.complete falsy n member child gated
      rw [keptAll.notifying_eq] at after
      exact after.imp_left (List.mem_append_right _)
  · intro _
    rw [toldAll]
    refine List.forall_mem_cons.mpr ⟨told.begins.imp_left (List.mem_append_left _), ?_⟩
    intro target gated
    have after := gates.begins falsy target gated
    rw [keptAll.notifying_eq] at after
    exact after.imp_left (List.mem_append_right _)

/-- A spreading value has the effect that `Spread` describes. -/
theorem spreadRules : SpreadRules
    (fun f name o => ∀ c, f.control? name = some c → f.Spread name c.value.isTruthy o)
    (fun f value targets o => f.GatesSpread value targets o) where
  suppressed _ busy c _ := Spread.suppressed busy c.value.isTruthy
  begun _ found _ _ gates c' found' := by
    obtain rfl := Option.some.inj (found.symm.trans found')
    exact Spread.begun found gates
  done := GatesSpread.done _ _
  opens _ _ truthy gates := GatesSpread.opens truthy gates
  closes := by
    intro f value dependent rest first o consistent known falsy kept told gates
    obtain ⟨c, found⟩ := consistent.exists_control known
    have start := told c.reset (consistent.control?_mapControls_at found Control.reset)
    rw [Control.value_reset, FieldType.isTruthy_defaultValue] at start
    exact GatesSpread.closes falsy start gates kept

/-- Between the operations of a host there is room for every nesting. -/
theorem Ready.of_idle {f : Form} (consistent : f.Consistent) (idle : f.notifying = []) :
    f.Ready f.size := by
  refine ⟨consistent, ?_, ?_, ?_⟩ <;> simp [idle]

theorem notify_spread {f : Form} {name : String} {c : Control} (consistent : f.Consistent)
    (idle : f.notifying = []) (found : f.control? name = some c) :
    f.Spread name c.value.isTruthy (f.notify name) :=
  (notifyWithin_spreads spreadRules f.size (Ready.of_idle consistent idle)
    (consistent.mem_names_of_control? found)).1 c found

namespace Spread

variable {f : Form} {name : String} {opened : Bool} {o : Outcome}

/-- Between the operations of a host, whoever is reached is told. -/
theorem mem_told_iff (spread : f.Spread name opened o) (idle : f.notifying = []) (n : String) :
    n ∈ o.told ↔ n = name ∨ (opened = false ∧ f.Descends name n) := by
  have begins : name ∈ o.told := spread.begins.resolve_right (by simp [idle])
  constructor
  · exact spread.descends n
  · rintro (rfl | ⟨rfl, below⟩)
    · exact begins
    · have next : ∀ m ∈ o.told, ∀ child ∈ f.children m, child ∈ o.told := by
        intro m told child gated
        exact (spread.complete rfl m told child gated).resolve_right (by simp [idle])
      induction below with
      | single gated => exact next name begins _ gated
      | tail _ gated ih => exact next _ ih _ gated

/-- The controls that are brought in line: the children below a truthy value, the descendants
below any other. -/
theorem mem_children_told_iff (spread : f.Spread name opened o) (idle : f.notifying = [])
    (n : String) : n ∈ o.told.flatMap f.children ↔
      if opened then n ∈ f.children name else f.Descends name n := by
  simp only [List.mem_flatMap, spread.mem_told_iff idle]
  cases opened with
  | true => simp
  | false =>
    simp only [true_and, Bool.false_eq_true, if_false]
    constructor
    · rintro ⟨parent, rfl | above, gated⟩
      · exact .single gated
      · exact .tail above gated
    · intro below
      cases below with
      | single gated => exact ⟨name, .inl rfl, gated⟩
      | tail above gated => exact ⟨_, .inr above, gated⟩

end Spread

end Form

end LiveForm
