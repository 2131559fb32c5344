import LiveForm.Form.Compile
import LiveForm.Proofs.Form.Run

/-!
# Wired controls

Wiring is a map over the controls. `Form.wired` adds one gate to the observers of a parent for every
field that depends on it, and disables the fields whose parent has a value that enables nothing. The
values stay, so every field is judged by the value that its parent was declared with.
-/

namespace LiveForm

namespace Form

variable {f : Form} {c : Control}

/-- The value of the field's parent enables nothing. -/
def blocks (f : Form) (field : Field) : Bool :=
  match field.dependsOn.bind f.value? with
  | some value => !value.isTruthy
  | none => false

theorem blocks_of_orphan {field : Field}
    (astray : ∀ parent, field.dependsOn = some parent → f.control? parent = none) :
    f.blocks field = false := by
  unfold blocks
  cases depends : field.dependsOn with
  | none => rfl
  | some parent => simp [value?, astray parent depends]

/-- The observers of a control with a name, after those of the fields that depend on it. -/
def gatesAdded (fields : List Field) (name : String) (observers : ObserverList) : ObserverList :=
  (fields.filter fun field => field.dependsOn = some name).foldl
    (fun observers field => observers.register (.gate field.name)) observers

def wired (f : Form) (fields : List Field) (c : Control) : Control :=
  let gated := { c with observers := gatesAdded fields c.name c.observers }
  if fields.any fun field => field.name = c.name && f.blocks field then gated.setDisabled true
  else gated

theorem setDisabled_with_observers (c : Control) (observers : ObserverList) (disabled : Bool) :
    { c with observers := observers }.setDisabled disabled =
      { c.setDisabled disabled with observers := observers } := by
  unfold Control.setDisabled
  split <;> rfl

theorem name_wired (f : Form) (fields : List Field) (c : Control) :
    (f.wired fields c).name = c.name := by
  unfold wired
  split
  · exact Control.name_setDisabled _ true
  · rfl

theorem value_wired (f : Form) (fields : List Field) (c : Control) :
    (f.wired fields c).value = c.value := by
  unfold wired
  split
  · exact Control.value_setDisabled _ true
  · rfl

theorem observers_wired (f : Form) (fields : List Field) (c : Control) :
    (f.wired fields c).observers = gatesAdded fields c.name c.observers := by
  unfold wired
  split
  · rw [setDisabled_with_observers]
  · rfl

theorem disabled_wired (f : Form) (fields : List Field) (c : Control) :
    (f.wired fields c).disabled =
      (c.disabled || fields.any fun field => field.name = c.name && f.blocks field) := by
  unfold wired
  split
  case isTrue blocked => simp [blocked]
  case isFalse free => simp [free]

theorem fixed_wired (f : Form) (fields : List Field) (c : Control) :
    (f.wired fields c).fixed = c.fixed := by
  unfold wired
  split
  · exact Control.fixed_setDisabled _ true
  · rfl

theorem upToDate_wired (f : Form) (fields : List Field) (upToDate : c.UpToDate) :
    (f.wired fields c).UpToDate := by
  have gated : Control.UpToDate { c with observers := gatesAdded fields c.name c.observers } :=
    upToDate
  unfold wired
  split
  · exact gated.setDisabled true
  · exact gated

theorem wired_append (f : Form) (first second : List Field) (c : Control) :
    f.wired second (f.wired first c) = f.wired (first ++ second) c := by
  have gates : gatesAdded (first ++ second) c.name c.observers =
      gatesAdded second c.name (gatesAdded first c.name c.observers) := by
    simp only [gatesAdded, List.filter_append, List.foldl_append]
  rw [wired, name_wired, observers_wired, wired, wired, gates, List.any_append]
  rcases c with ⟨name, type, value, disabled, touched, dirty, rules, errors, observers⟩
  cases first.any fun field => field.name = name && f.blocks field <;>
    cases second.any fun field => field.name = name && f.blocks field <;>
      cases disabled <;> rfl

/-- The gates that wiring adds are numbered on from the next handle, one for each field that depends
on the control. -/
theorem gatesAdded_eq (fields : List Field) (name : String) (observers : ObserverList) :
    gatesAdded fields name observers =
      ⟨observers.nextNumber + (fields.filter fun field => field.dependsOn = some name).length,
        observers.entries ++ ((fields.filter fun field => field.dependsOn = some name).zipIdx
          observers.nextNumber).map fun (field, number) => (⟨number⟩, .gate field.name)⟩ := by
  unfold gatesAdded
  induction fields.filter (fun field => field.dependsOn = some name) generalizing observers with
  | nil => simp
  | cons field rest ih =>
    rw [List.foldl_cons, ih, ObserverList.register, List.zipIdx_cons, List.map_cons,
      List.append_assoc, List.length_cons, Nat.add_right_comm, Nat.add_assoc]
    rfl

/-- The gates of a control after some fields were wired: one for each field that depends on it. -/
theorem gateTargets_gatesAdded (fields : List Field) (name : String) (observers : ObserverList) :
    (gatesAdded fields name observers).gateTargets =
      observers.gateTargets ++
        (fields.filter fun field => field.dependsOn = some name).map Field.name := by
  have names : (fun e : ObserverId × Listener => e.2.dependent?) ∘
      (fun (field, number) => (⟨number⟩, .gate field.name)) =
      some ∘ Field.name ∘ Prod.fst (β := Nat) := rfl
  rw [gatesAdded_eq, ObserverList.gateTargets, List.filterMap_append, List.filterMap_map, names,
    ← List.filterMap_map, List.filterMap_some, ← List.map_map, List.zipIdx_map_fst]
  rfl

theorem gatesAdded_keeps {P : ObserverList → Prop}
    (registered : ∀ l dependent, P l → P (l.register (.gate dependent))) (fields : List Field)
    (name : String) {observers : ObserverList} (start : P observers) :
    P (gatesAdded fields name observers) := by
  unfold gatesAdded
  induction fields.filter (fun field => field.dependsOn = some name) generalizing observers with
  | nil => exact start
  | cons field rest ih => exact ih (registered _ _ start)

/-- Wiring does not change what enables the fields. -/
theorem blocks_mapControls_wired (f : Form) (fields : List Field) :
    (f.mapControls (f.wired fields)).blocks = f.blocks := by
  have values : (f.mapControls (f.wired fields)).value? = f.value? :=
    value?_mapControls (value_wired f fields)
  funext field
  rw [blocks, values, blocks]

theorem wired_mapControls_wired (f : Form) (first second : List Field) (c : Control) :
    (f.mapControls (f.wired first)).wired second c = f.wired second c := by
  rw [wired, blocks_mapControls_wired, wired]

def withGate (field : Field) (c : Control) : Control :=
  if field.dependsOn = some c.name then c.register (.gate field.name) else c

theorem name_withGate (field : Field) (c : Control) : (withGate field c).name = c.name := by
  unfold withGate
  split <;> rfl

theorem at_register_gate {field : Field} {parent : String}
    (depends : field.dependsOn = some parent) :
    Control.at parent (·.register (.gate field.name)) = withGate field := by
  funext c
  simp only [Control.at, withGate, depends, Option.some.injEq, eq_comm (a := parent)]

/-- A gate to a control keeps a form consistent. -/
theorem Consistent.withGate (consistent : f.Consistent) {field : Field}
    (known : field.name ∈ f.names) : (f.mapControls (withGate field)).Consistent := by
  apply consistent.mapControls_of_known (name_withGate field)
  intro c member
  have before := consistent.gated_mem_names c member
  unfold Form.withGate
  split
  · simp only [Control.register, ObserverList.gateTargets_register_gate]
    exact List.forall_mem_append.mpr ⟨before, List.forall_mem_singleton.mpr known⟩
  · exact before

/-- A field adds its gate and is disabled when it is blocked. -/
theorem wired_singleton (f : Form) (field : Field) (c : Control) :
    f.wired [field] c =
      if f.blocks field then Control.at field.name (·.setDisabled true) (withGate field c)
      else withGate field c := by
  have gated : { c with observers := gatesAdded [field] c.name c.observers } =
      withGate field c := by
    by_cases depends : field.dependsOn = some c.name <;>
      simp [gatesAdded, withGate, Control.register, depends]
  rw [wired, gated]
  cases blocked : f.blocks field <;>
    simp [Control.at, name_withGate, blocked, eq_comm (a := field.name)]

/-- Wiring one field is a map over the controls. -/
theorem wire_form_eq (consistent : f.Consistent) {field : Field} (known : field.name ∈ f.names) :
    (f.wire field).form = f.mapControls (f.wired [field]) := by
  rw [wire]
  cases depends : field.dependsOn with
  | none =>
    symm
    apply mapControls_eq_self
    intro c _
    simp [wired_singleton, blocks, withGate, depends]
  | some parent =>
    dsimp only
    cases told : f.value? parent with
    | none =>
      have unknown : parent ∉ f.names := by
        rw [← consistent.control?_eq_none_iff]
        exact Option.map_eq_none_iff.mp told
      symm
      apply mapControls_eq_self
      intro c member
      have other : parent ≠ c.name := by
        rintro rfl
        exact unknown (List.mem_map_of_mem member)
      simp [wired_singleton, blocks, withGate, depends, told, other]
    | some value =>
      obtain ⟨p, found, rfl⟩ := Option.map_eq_some_iff.mp told
      -- The field still has a control after its gate was added, so disabling it does not fail.
      have known' : field.name ∈ (f.mapControls (withGate field)).names := by
        rw [names_mapControls (name_withGate field)]
        exact known
      simp only [wireTo, register, found, consistent.update_eq, at_register_gate depends,
        setDisabled, (consistent.withGate known).change_eq_ok known']
      cases truthy : p.value.isTruthy with
      | true =>
        have free : f.blocks field = false := by simp [blocks, depends, told, truthy]
        exact mapControls_congr fun c _ => by rw [wired_singleton, free]; rfl
      | false =>
        have blocked : f.blocks field = true := by simp [blocks, depends, told, truthy]
        rw [if_neg Bool.false_ne_true, Outcome.form_still, mapControls_mapControls]
        exact mapControls_congr fun c _ => by rw [wired_singleton, blocked]; rfl

/-- Wiring keeps a form sound. -/
theorem Sound.wired (sound : f.Sound) {fields : List Field}
    (known : ∀ field ∈ fields, field.name ∈ f.names) :
    (f.mapControls (f.wired fields)).Sound where
  consistent := by
    apply sound.consistent.mapControls_of_known (name_wired f fields)
    intro c member
    rw [observers_wired, gateTargets_gatesAdded]
    refine List.forall_mem_append.mpr ⟨sound.consistent.gated_mem_names c member, ?_⟩
    intro dependent gated
    obtain ⟨field, among, rfl⟩ := List.mem_map.mp gated
    exact known field (List.mem_of_mem_filter among)
  idle := sound.idle
  upToDate changed member := by
    obtain ⟨c, before, rfl⟩ := List.mem_map.mp member
    exact upToDate_wired f fields (sound.upToDate c before)

/-- Wiring some fields one after another is one map over the controls. -/
theorem foldl_wire (fields : List Field) (sound : f.Sound)
    (known : ∀ field ∈ fields, field.name ∈ f.names) :
    fields.foldl (fun f field => (f.wire field).form) f = f.mapControls (f.wired fields) := by
  induction fields generalizing f with
  | nil => exact (mapControls_eq_self fun c _ => rfl).symm
  | cons field rest ih =>
    obtain ⟨fieldKnown, restKnown⟩ := List.forall_mem_cons.mp known
    have names : (f.mapControls (f.wired [field])).names = f.names :=
      names_mapControls (name_wired f [field])
    rw [List.foldl_cons, wire_form_eq sound.consistent fieldKnown,
      ih (sound.wired (List.forall_mem_singleton.mpr fieldKnown)) (names.symm ▸ restKnown),
      mapControls_mapControls]
    apply mapControls_congr
    intro c _
    rw [wired_mapControls_wired, wired_append]
    rfl

end Form

end LiveForm
