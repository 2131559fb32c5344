import LiveForm.Proofs.Form.Fitting
import LiveForm.Proofs.Form.Rechecking

/-!
# Whatever is done to a form, it fits

A compiled form fits, and every operation on a form that fits leaves one that does, in every step on
the way. So whatever name is looked up in the course of an operation is found, but for a name that
the host gives and for strays: fields that the host wires to a control although they are no controls
themselves. Their gates stay, and are skipped with a report each time. A host that wires no fields
but those of the schema has no strays. Then every gate leads to a control and none is ever skipped.

An operation on one control is refused exactly when there is no such control, and then it does
nothing.
-/

namespace LiveForm.Form

/-- The field that an operation wires to a control though it is none itself. -/
def Operation.stray? (names : List String) : Operation → Option String
  | .act _ => none
  | .wire field =>
    if field.name ∉ names ∧ ∃ parent ∈ names, field.dependsOn = some parent then some field.name
    else none

/-- The form afterwards fits and nobody is notifying, and on the way nothing was refused but on a
stray. -/
structure Outcome.Steady (o : Outcome) (start : Form) (strays : List String) : Prop where
  fits : o.form.Fits start strays
  idle : o.form.notifying = []
  clean : ∀ e ∈ o.trace, e.Clean strays

variable {f start : Form} {strays : List String} {name : String} {o : Outcome}

theorem setValue_eq_map (f : Form) (name : String) (value : Json) :
    f.setValue name value = (f.change name (written value)).map (notify · name) := rfl

namespace Outcome.Steady

theorem of_fits (fits : f.Fits start strays) (idle : f.notifying = []) :
    (still f).Steady start strays := ⟨fits, idle, List.forall_mem_nil _⟩

theorem event (steady : (still f).Steady start strays) {e : Event} (clean : e.Clean strays) :
    (event f e).Steady start strays :=
  ⟨steady.fits, steady.idle, List.forall_mem_singleton.mpr clean⟩

theorem still_form (steady : o.Steady start strays) : (still o.form).Steady start strays :=
  of_fits steady.fits steady.idle

theorem andThen (steady : o.Steady start strays) (next : Form → Outcome)
    (after : (next o.form).Steady start strays) : (o.andThen next).Steady start strays :=
  ⟨after.fits, after.idle, List.forall_mem_append.mpr ⟨steady.clean, after.clean⟩⟩

theorem forEach {α : Type} {items : List α} {next : Form → α → Outcome}
    (steady : o.Steady start strays)
    (step : ∀ {f : Form}, ∀ a ∈ items, (still f).Steady start strays →
      (next f a).Steady start strays) : (o.forEach items next).Steady start strays := by
  induction items generalizing o with
  | nil => exact steady
  | cons a rest ih =>
    have first := step a List.mem_cons_self steady.still_form
    refine ih (steady.andThen (next · a) first) fun b member => ?_
    exact step b (List.mem_cons_of_mem a member)

section Changing

variable (steady : (still f).Steady start strays) (name : String) (change : Control → Control)
  (keeps : ∀ c, (change c).fixed = c.fixed)

include steady keeps

/-- A change of one control that keeps what is fixed and gates no unknown names. -/
theorem update (gates : ∀ c, ∀ dependent ∈ (change c).observers.gateTargets,
      dependent ∈ c.observers.gateTargets ∨ dependent ∈ f.names ∨ dependent ∈ strays) :
    (still (f.update name change)).Steady start strays :=
  of_fits (steady.fits.update name change keeps gates)
    ((notifying_update f name change).trans steady.idle)

variable (same : ∀ c, (change c).observers.gateTargets = c.observers.gateTargets)

include same

theorem update_of_gates : (still (f.update name change)).Steady start strays := by
  refine steady.update name change keeps fun c => ?_
  rw [same]
  exact fun _ => .inl

theorem mapControls : (still (f.mapControls change)).Steady start strays := by
  refine of_fits (steady.fits.of_parts rfl ?_ ?_) steady.idle
  · simp [fixedParts, keeps]
  · intro changed member
    obtain ⟨c, before, rfl⟩ := List.mem_map.mp member
    rw [same]
    exact steady.fits.gated c before

theorem orStill_change : (f.orStill ((f.change name change).map .still)).Steady start strays := by
  rw [Form.change]
  split
  · exact steady.update_of_gates name change keeps same
  · exact steady

end Changing

/-- A control has room to tell its observers. -/
theorem secure (steady : (still f).Steady start strays) (contained : f.contains name = true) :
    (Moment.ofNotify f name).Secure start strays where
  fits := steady.fits
  known := steady.fits.indexed.exists_control (steady.fits.indexed.contains_iff.mp contained)
  notifying_nodup := by simp [Moment.ofNotify, show f.notifying = [] from steady.idle]
  notifying_subset := by simp [Moment.ofNotify, show f.notifying = [] from steady.idle]
  room := Nat.le_add_right ..

theorem notify (steady : (still f).Steady start strays) (contained : f.contains name = true) :
    (f.notify name).Steady start strays where
  fits := steady.fits.of_frame_eq (frame_notifyWithin f.size f name)
  idle := (notifying_notifyWithin f.size f name).trans steady.idle
  clean := (steady.secure contained).clean

/-- The form with the value written, before the control tells its observers. -/
theorem of_written (steady : (still f).Steady start strays) {value : Json} {g : Form}
    (changed : f.change name (written value) = .ok g) :
    (still g).Steady start strays ∧ g.contains name = true := by
  obtain ⟨contained, rfl⟩ := change_eq_ok_iff.mp changed
  rw [contains_update]
  exact ⟨steady.update_of_gates name (written value) (fun _ => rfl) fun _ => rfl, contained⟩

/-- An action keeps a form fitting. -/
theorem perform (steady : (still f).Steady start strays) (a : Action) :
    (f.perform a).Steady start strays := by
  cases a with
  | setValue name value =>
    rw [Form.perform, setValue_eq_map]
    cases changed : f.change name (written value) with
    | error => exact steady
    | ok g =>
      obtain ⟨steady, contained⟩ := steady.of_written changed
      exact steady.notify contained
  | setValueSilently name value =>
    exact steady.orStill_change name (·.write value) (fun _ => rfl) fun _ => rfl
  | touch name => exact steady.orStill_change name Control.markTouched (fun _ => rfl) fun _ => rfl
  | touchAll => exact steady.mapControls Control.markTouched (fun _ => rfl) fun _ => rfl
  | subscribe name tag =>
    rw [Form.perform, subscribe, register]
    split
    case h_1 =>
      exact steady.update_of_gates name (·.register (.callback tag)) (fun _ => rfl)
        fun c => c.observers.gateTargets_register_callback tag
    case h_2 => exact steady
  | unsubscribe name id =>
    rw [Form.perform, unsubscribe]
    split
    case h_1 =>
      refine steady.update name (·.unregister id) (fun _ => rfl) fun c dependent gated => .inl ?_
      exact (c.observers.gateTargets_unregister_sublist id).subset gated
    case h_2 => exact steady
  | submit options =>
    rw [Form.perform, submit]
    split
    · exact steady.event trivial
    · exact (steady.mapControls Control.markTouched (fun _ => rfl) fun _ => rfl).event trivial

/-- So does wiring a field, when it is a control or counted as a stray. Its parent is found once
more to register the gate. -/
theorem wire (steady : (still f).Steady start strays) {field : Field}
    (expected : ∀ parent ∈ f.names, field.dependsOn = some parent →
      field.name ∈ f.names ∨ field.name ∈ strays) : (f.wire field).Steady start strays := by
  rw [Form.wire]
  cases depends : field.dependsOn with
  | none => exact steady
  | some parent =>
    dsimp only
    cases told : f.value? parent with
    | none => exact steady.event trivial
    | some value =>
      obtain ⟨p, found, rfl⟩ := Option.map_eq_some_iff.mp told
      have known := expected parent (steady.fits.indexed.mem_names_of_control? found) depends
      have gated :=
        steady.update parent (·.register (.gate field.name)) (fun _ => rfl) fun c dependent => by
          simp only [Control.register, ObserverList.gateTargets_register_gate, List.mem_append,
            List.mem_singleton]
          exact Or.imp_right fun same => same ▸ known
      simp only [wireTo, register, found]
      split
      case isTrue => exact gated
      case isFalse =>
        rw [setDisabled, Form.change, contains_update]
        by_cases contained : f.contains field.name = true
        · rw [if_pos contained]
          exact gated.update_of_gates field.name (·.setDisabled true)
            (fun c => c.fixed_setDisabled true)
            fun c => Control.gateTargets_eq_of_frame_eq (c.frame_setDisabled true)
        · -- The dependent field is no control, so its gate stays without effect.
          have stray := known.resolve_left (mt steady.fits.indexed.contains_iff.mpr contained)
          rw [if_neg contained]
          exact gated.event ⟨stray, rfl⟩

/-- Every operation keeps a form fitting, as long as its stray is counted. -/
theorem operate (steady : (still f).Steady start strays) (operation : Operation)
    (counted : ∀ stray, operation.stray? start.names = some stray → stray ∈ strays) :
    (f.operate operation).Steady start strays := by
  cases operation with
  | act a => exact steady.perform a
  | wire field =>
    have names : f.names = start.names := names_eq_of_fixedParts_eq steady.fits.fixedParts_eq
    refine steady.wire fun parent known depends => or_iff_not_imp_left.mpr fun unknown => ?_
    rw [names] at known unknown
    exact counted field.name (if_pos ⟨unknown, parent, known, depends⟩)

end Outcome.Steady

section Compiling

theorem Outcome.forall_mem_trace_forEach {α : Type} {P : Event → Prop} {next : Form → α → Outcome}
    (each : ∀ f a, ∀ e ∈ (next f a).trace, P e) (o : Outcome) (items : List α)
    (before : ∀ e ∈ o.trace, P e) : ∀ e ∈ (o.forEach items next).trace, P e := by
  induction items generalizing o with
  | nil => exact before
  | cons a rest ih => exact ih _ (List.forall_mem_append.mpr ⟨before, each o.form a⟩)

theorem clean_declare (initial : Json.Entries) (f : Form) (field : Field) :
    ∀ e ∈ (f.declare initial field).trace, e.Clean strays := by
  rw [declare, List.forall_mem_append]
  constructor
  · intro e skipped
    obtain ⟨pattern, -, rfl⟩ := List.mem_map.mp skipped
    exact trivial
  · split
    · exact List.forall_mem_singleton.mpr trivial
    · exact List.forall_mem_nil _

theorem form_forEach_declare (fields : List Field) (initial : Json.Entries) :
    ((Outcome.still {}).forEach fields (declare initial)).form =
      declared { fields := fields } initial :=
  Outcome.form_forEach ..

variable (schema : Schema) (initial : Json.Entries)

/-- The declared form has the index and the fixed parts of the compiled one. -/
theorem steady_declared :
    ((Outcome.still {}).forEach schema.fields (declare initial)).Steady
      (compile schema initial).form strays where
  fits := by
    have fixed : (compile schema initial).form.fixedParts =
        (declared schema initial).fixedParts := by
      rw [compile_form_eq]
      simp [fixedParts, fixed_wired]
    have index : (compile schema initial).form.index = (declared schema initial).index := by
      rw [compile_form_eq, index_mapControls]
    rw [form_forEach_declare]
    exact { (declared_unwired schema initial).sound.consistent.fits with
      fixedParts_eq := fixed.symm, index_eq := index.symm }
  idle := by
    rw [form_forEach_declare]
    exact (declared_unwired schema initial).sound.idle
  clean := Outcome.forall_mem_trace_forEach (clean_declare initial) _ _ (List.forall_mem_nil _)

/-- Wiring fields of the schema needs no strays. -/
theorem steady_wired {fields : List Field} (inside : fields ⊆ schema.fields) :
    (((Outcome.still {}).forEach schema.fields (declare initial)).forEach fields wire).Steady
      (compile schema initial).form strays := by
  refine (steady_declared schema initial).forEach fun field member steady => ?_
  refine steady.operate (.wire field) fun stray astray => ?_
  have known := (mem_names_compile schema initial field.name).mpr
    (List.mem_map_of_mem (inside member))
  simp [Operation.stray?, known] at astray

theorem steady_compile : (compile schema initial).Steady (compile schema initial).form strays := by
  have wired : Outcome.Steady _ _ strays :=
    steady_wired schema initial (List.Subset.refl schema.fields)
  exact wired.andThen (fun f => .event f (.compiled f.size)) (wired.still_form.event trivial)

end Compiling

section Refusing

/-- An answer about a name is a refusal exactly when the name is no control, and for this reason. -/
def Refuses {α : Type} (f : Form) (name : String) (answer : Except FormError α) : Prop :=
  ∀ error, answer = .error error ↔ name ∉ f.names ∧ error = .unknownControl name

def Action.target? : Action → Option String
  | .setValue name _ => some name
  | .setValueSilently name _ => some name
  | .touch name => some name
  | .subscribe name _ => some name
  | _ => none

/-- The actions on one control are refused exactly when there is none with the name, and then do
nothing. -/
structure Answers (f : Form) (name : String) : Prop where
  setValue : ∀ value, f.Refuses name (f.setValue name value)
  setValueSilently : ∀ value, f.Refuses name (f.setValueSilently name value)
  touch : f.Refuses name (f.touch name)
  subscribe : ∀ tag, f.Refuses name (f.subscribe name tag)
  perform : name ∉ f.names → ∀ a : Action, a.target? = some name → f.perform a = .still f

theorem Refuses.map {α β : Type} {answer : Except FormError α} (refuses : f.Refuses name answer)
    (g : α → β) : f.Refuses name (answer.map g) := by
  intro error
  rw [← refuses error]
  cases answer <;> simp [Except.map]

theorem Refuses.orStill {answer : Except FormError Outcome} (refuses : f.Refuses name answer)
    (unknown : name ∉ f.names) : f.orStill answer = .still f := by
  rw [(refuses (.unknownControl name)).mpr ⟨unknown, rfl⟩]
  rfl

namespace Fits

theorem refuses_change (fits : f.Fits start strays) (name : String) (change : Control → Control) :
    f.Refuses name (f.change name change) := by
  intro error
  rw [Form.change, ← fits.indexed.contains_iff]
  cases f.contains name <;> simp [eq_comm]

theorem refuses_register (fits : f.Fits start strays) (name : String) (listener : Listener) :
    f.Refuses name (f.register name listener) := by
  intro error
  rw [register]
  cases found : f.control? name with
  | none =>
    have unknown : name ∉ f.names := by
      intro known
      obtain ⟨c, there⟩ := fits.indexed.exists_control known
      simp [found] at there
    simp [unknown, eq_comm]
  | some c => simp [fits.indexed.mem_names_of_control? found]

theorem answers (fits : f.Fits start strays) (name : String) : f.Answers name where
  setValue value := (fits.refuses_change name (written value)).map _
  setValueSilently value := fits.refuses_change name (·.write value)
  touch := fits.refuses_change name Control.markTouched
  subscribe tag := fits.refuses_register name (.callback tag)
  perform unknown a about := by
    cases a with
    | setValue other value =>
      obtain rfl := Option.some.inj about
      exact ((fits.refuses_change other (written value)).map _).orStill unknown
    | setValueSilently other value =>
      obtain rfl := Option.some.inj about
      exact ((fits.refuses_change other (·.write value)).map _).orStill unknown
    | touch other =>
      obtain rfl := Option.some.inj about
      exact ((fits.refuses_change other Control.markTouched).map _).orStill unknown
    | subscribe other tag =>
      obtain rfl := Option.some.inj about
      exact ((fits.refuses_register other (.callback tag)).map _).orStill unknown
    | _ => cases about

end Fits

end Refusing

/-- A form fits at every step while it is compiled and then whatever is done to it, at every moment
of every write by the user, where all that the write reports comes from: the index and the controls
keep in step with each other and with what was compiled, every control that is to tell its observers
is found, and no gate leads elsewhere, nor is skipped, but one to a stray. So the actions on a
control are refused exactly when there is none. -/
theorem fits_throughout (schema : Schema) (initial : Json.Entries) (operations : List Operation) :
    let unwired := (Outcome.still {}).forEach schema.fields (declare initial)
    let start := compile schema initial
    let strays := operations.filterMap (Operation.stray? start.form.names)
    let o := start.form.operateAll operations
    (∀ fields, fields <+: schema.fields →
      (let f := ((Outcome.still {}).forEach fields (declare initial)).form; f.Fits f []) ∧
        (unwired.forEach fields wire).Steady start.form []) ∧
      start.Steady start.form [] ∧ o.Steady start.form strays ∧
      (∀ name value g, o.form.change name (written value) = .ok g →
        let begun := Moment.ofNotify g name
        o.form.setValue name value = .ok begun.outcome ∧
          (∀ e ∈ begun.outcome.trace, begun.Brings e) ∧
            ∀ m, Relation.ReflTransGen Moment.Leads begun m →
              m.form.Fits start.form strays ∧ m.outcome.form.Fits start.form strays ∧
                m.task.Known m.form strays) ∧
      ∀ name, o.form.Answers name := by
  intro unwired start strays o
  have steady : o.Steady start.form strays :=
    (steady_compile schema initial).still_form.forEach fun operation member before =>
      before.operate operation fun _ astray => List.mem_filterMap.mpr ⟨operation, member, astray⟩
  refine ⟨fun fields first => ⟨?_, ?_⟩, steady_compile schema initial, steady, ?_, ?_⟩
  · rw [form_forEach_declare]
    exact (declared_unwired { fields := fields } initial).sound.consistent.fits
  · exact steady_wired schema initial first.subset
  · intro name value g changed
    obtain ⟨written, contained⟩ := steady.still_form.of_written changed
    refine ⟨?_, Moment.brings _, fun m reaches => ?_⟩
    · rw [setValue_eq_map, changed]
      rfl
    · have secure := (written.secure contained).reaches reaches
      exact ⟨secure.fits, secure.fits.of_frame_eq (frame_outcome ..), secure.known⟩
  · exact fun name => steady.fits.answers name

/-- A remark on the kind, for which there is no control. -/
def remark : Field where
  label := "Remark"
  name := "remark"
  type := .text
  dependsOn := some "kind"

/-- When the kind is emptied, the code is reset, which resets the kind in turn. Then the kind is to
tell its observers while it does so already. -/
theorem fits_throughout_redeclared :
    let start := (compile redeclared []).form
    let f := (start.operateAll [.wire remark]).form
    f.children "kind" = ["code", "remark"] ∧
      ∃ g m, f.change "kind" (written (.string "")) = .ok g ∧
        Relation.ReflTransGen Moment.Leads (.ofNotify g "kind") m ∧ m.task = .tell "kind" ∧
          m.form.notifying = ["code", "kind"] ∧ m.form.Fits start ["remark"] := by
  intro start f
  have inside : ∃ g m, f.change "kind" (written (.string "")) = .ok g ∧
      Relation.ReflTransGen Moment.Leads (.ofNotify g "kind") m ∧ m.task = .tell "kind" ∧
        m.form.notifying = ["code", "kind"] := by
    refine ⟨_, _, rfl, .head (.begins rfl ?_) <| .head (.resets rfl rfl) <|
      .head (.begins rfl ?_) <| .head (.resets rfl rfl) .refl, rfl, rfl⟩
    · exact List.not_mem_nil
    · decide
  obtain ⟨g, m, changed, reaches, tells, busy⟩ := inside
  obtain ⟨-, -, -, writes, -⟩ := fits_throughout redeclared [] [.wire remark]
  have fits := ((writes "kind" (.string "") g changed).2.2 m reaches).1
  exact ⟨rfl, g, m, changed, reaches, tells, busy, fits⟩

/-- The gate of the remark leads to no control. It is skipped when it is wired and whenever the kind
tells a value. -/
theorem not_fits_without_strays :
    let o := (compile redeclared []).form.operateAll
      [.wire remark, .act (.setValue "kind" (.string ""))]
    "remark" ∉ o.form.names ∧ "remark" ∈ o.form.children "kind" ∧
      .initialGateSkipped "remark" (.unknownControl "remark") ∈ o.trace ∧
      .gateSkipped "remark" (.unknownControl "remark") ∈ o.trace ∧
      ¬ ∀ (schema : Schema) (initial : Json.Entries) (operations : List Operation),
        ((compile schema initial).form.operateAll operations).Steady
          (compile schema initial).form [] := by
  intro o
  have skipped : .gateSkipped "remark" (.unknownControl "remark") ∈ o.trace :=
    List.mem_cons_of_mem _ <| List.mem_cons_of_mem _ <| List.mem_cons_of_mem _ <|
      List.mem_cons_of_mem _ List.mem_cons_self
  refine ⟨by decide, by decide, List.mem_cons_self, skipped, fun steady => ?_⟩
  exact List.not_mem_nil ((steady redeclared [] _).clean _ skipped).1

end LiveForm.Form
