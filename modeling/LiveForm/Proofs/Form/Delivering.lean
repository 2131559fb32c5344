import LiveForm.Proofs.Form.Reentrancy
import Mathlib.Logic.Function.Basic

/-!
# What callbacks see

A callback is called with the value that its control has when it begins to notify, and after the
gates of the control. In between, the control can only change by way of a cycle that leads back to
it, since a control that is reset there while it is notifying does not begin again. `Reports`
follows this through a notification: the first control tells its own value, every other one the
value that it is reset to, and a callback is called with nothing else. So callbacks see the values
of the settled form, except on the written control when its value comes round to it: there they see
the value as it was written, although the control is empty by then.
-/

namespace LiveForm

namespace Form

/-- What is told on the way: nothing by those that are notifying already, by each control the value
that is expected of it, and nothing to callbacks that the controls do not tell. -/
structure Reports (f : Form) (expected : String → Json) (o : Outcome) : Prop where
  fresh : ∀ n ∈ o.notifications, n.1 ∉ f.notifying
  expected_eq : ∀ n ∈ o.notifications, n.2 = expected n.1
  told_of_called : ∀ call ∈ o.calls, call.2 ∈ o.notifications

/-- A value that is not truthy leads round a cycle to the control that it is written to, which has
another value when it is reset. -/
def ComesRound (f : Form) (name : String) (value : Json) : Prop :=
  value.isTruthy = false ∧ f.Descends name name ∧ f.emptyValue name ≠ value

variable {f f' : Form} {name : String} {value : Json} {c : Control}

namespace Reports

variable {expected : String → Json} {o first : Outcome}

theorem of_silent (silent : o.notifications = []) (uncalled : o.calls = []) :
    f.Reports expected o where
  fresh := by simp [silent]
  expected_eq := by simp [silent]
  told_of_called := by simp [uncalled]

theorem append (early : f.Reports expected first) (late : f.Reports expected o) :
    f.Reports expected ⟨o.form, first.trace ++ o.trace⟩ := by
  have told : Outcome.notifications ⟨o.form, first.trace ++ o.trace⟩ =
      first.notifications ++ o.notifications := List.filterMap_append
  have called : Outcome.calls ⟨o.form, first.trace ++ o.trace⟩ = first.calls ++ o.calls :=
    List.filterMap_append
  refine ⟨?_, ?_, ?_⟩
  · rw [told]
    exact List.forall_mem_append.mpr ⟨early.fresh, late.fresh⟩
  · rw [told]
    exact List.forall_mem_append.mpr ⟨early.expected_eq, late.expected_eq⟩
  · rw [told, called]
    exact List.forall_mem_append.mpr
      ⟨fun call member => List.mem_append_left _ (early.told_of_called call member),
        fun call member => List.mem_append_right _ (late.told_of_called call member)⟩

/-- Whenever a control is told, it is told what is expected of it. -/
theorem filter_notifications (reports : f.Reports expected o) (name : String) :
    (o.notifications.filter fun n => n.1 = name) =
      List.replicate (o.told.count name) (name, expected name) := by
  rw [List.eq_replicate_iff]
  constructor
  · rw [Outcome.told, List.count, List.countP_map, List.countP_eq_length_filter]
    rfl
  · intro n picked
    obtain ⟨member, here⟩ := List.mem_filter.mp picked
    obtain rfl := of_decide_eq_true here
    rw [← reports.expected_eq n member]

end Reports

/-- A control that begins tells its value, and its callbacks are called with it. -/
theorem Reports.begun {o : Outcome} (fresh : name ∉ f.notifying)
    (gates : (f.enter name).Reports f.emptyValue o) (value : Json) :
    f.Reports (Function.update f.emptyValue name value) ⟨o.form.leave name,
      .notified name value :: (o.trace ++ o.form.deliveries name value)⟩ := by
  have told := notifications_begun (o.form.leave name) o.form o.form name value value o.trace
  have called : Outcome.calls ⟨o.form.leave name,
      .notified name value :: (o.trace ++ o.form.deliveries name value)⟩ =
      o.calls ++ (o.form.deliveries name value).filterMap Event.delivery? := List.filterMap_append
  -- The control is notifying while its gates are applied, so nothing is told of it there.
  have aside : ∀ n ∈ o.notifications, n.1 ≠ name ∧ n.1 ∉ f.notifying := by
    intro n member
    exact not_or.mp (mt List.mem_cons.mpr (gates.fresh n member))
  refine ⟨?_, ?_, ?_⟩
  · rw [told]
    exact List.forall_mem_cons.mpr ⟨fresh, fun n member => (aside n member).2⟩
  · rw [told]
    refine List.forall_mem_cons.mpr ⟨(Function.update_self name value f.emptyValue).symm, ?_⟩
    intro n member
    rw [Function.update_of_ne (aside n member).1]
    exact gates.expected_eq n member
  · rw [told, called]
    refine List.forall_mem_append.mpr ⟨fun call member => ?_, fun call member => ?_⟩
    · exact List.mem_cons_of_mem _ (gates.told_of_called call member)
    · exact List.mem_cons.mpr (.inl (snd_of_mem_callsWith member))

/-- What is told from a form that differs only in what a spreading value may change. -/
theorem Kept.reports {o : Outcome} (kept : f.Kept f') (reports : f'.Reports f'.emptyValue o) :
    f.Reports f.emptyValue o := by
  refine ⟨?_, ?_, reports.told_of_called⟩
  · rw [← kept.notifying_eq]
    exact reports.fresh
  · rw [← kept.emptyValue_eq]
    exact reports.expected_eq

/-- A notification tells the value of its control, and otherwise what controls are reset to. -/
theorem reportRules : SpreadRules
    (fun f name o => ∀ c, f.control? name = some c →
      f.Reports (Function.update f.emptyValue name c.value) o)
    (fun f _ _ o => f.Reports f.emptyValue o) where
  suppressed _ _ _ _ := .of_silent rfl rfl
  begun := by
    intro f name c o _ found fresh _ gates c' found'
    obtain rfl := Option.some.inj (found.symm.trans found')
    exact .begun fresh gates c.value
  done := .of_silent rfl rfl
  opens := by
    intro f value dependent rest o _ _ _ gates
    exact (Kept.setDisabled f dependent false).reports gates
  closes := by
    intro f value dependent rest first o consistent known _ kept told gates
    obtain ⟨c, found⟩ := consistent.exists_control known
    have reset := consistent.control?_mapControls_at found Control.reset
    have early := told c.reset reset
    -- The value that the dependent control tells is the one that it was reset to.
    have plain : (c.reset).value =
        (f.mapControls (Control.at dependent Control.reset)).emptyValue dependent :=
      (emptyValue_of_control? reset).symm
    rw [plain, Function.update_eq_self] at early
    exact ((Kept.reset f dependent).reports early).append (kept.closed.reports gates)

theorem reports_notify (consistent : f.Consistent) (idle : f.notifying = [])
    (found : f.control? name = some c) :
    f.Reports (Function.update f.emptyValue name c.value) (f.notify name) :=
  (notifyWithin_spreads reportRules f.size (Ready.of_idle consistent idle)
    (consistent.mem_names_of_control? found)).1 c found

theorem Sound.reports_setValue (sound : f.Sound) (known : name ∈ f.names) (value : Json) :
    ∃ o, f.setValue name value = .ok o ∧
      f.Reports (Function.update f.emptyValue name value) o := by
  obtain ⟨c, found⟩ := sound.consistent.exists_control known
  have reports :=
    reports_notify (consistent_written sound.consistent name value) sound.idle
      (sound.consistent.control?_mapControls_at found (written value))
  rw [emptyValue_mapControls (type_at_written value)] at reports
  exact ⟨_, sound.consistent.setValue_eq_notify known value,
    reports.fresh, reports.expected_eq, reports.told_of_called⟩

/-- A write by the user calls the callbacks on a control as often as the control is told, each time
with the value that is expected of it. -/
theorem Sound.callsOn_setValue (sound : f.Sound) (known : name ∈ f.names) (value : Json)
    (n : String) :
    let o := f.perform (.setValue name value)
    o.callsOn n = (List.replicate (o.told.count n)
      (f.callsWith n (Function.update f.emptyValue name value n))).flatten := by
  obtain ⟨o, done, orderly, -⟩ := sound.orderly_setValue known value
  obtain ⟨o', done', reports⟩ := sound.reports_setValue known value
  obtain rfl := Except.ok.inj (done.symm.trans done')
  rw [Form.perform, done]
  show o.callsOn n = _
  rw [orderly.callsOn_eq, reports.filter_notifications, List.flatMap_replicate]
  rfl

/-- A value that is not truthy leaves everything below its control empty. -/
theorem value?_settled_of_descends (consistent : f.Consistent) (falsy : value.isTruthy = false)
    {n : String} (below : f.Descends name n) :
    (f.mapControls (f.settled name value)).value? n = some (f.emptyValue n) := by
  obtain ⟨c, found⟩ := consistent.exists_control (consistent.mem_names_of_descends below)
  obtain ⟨-, rfl⟩ := consistent.control?_eq_some_iff.mp found
  rw [value?, control?_mapControls, emptyValue_of_control? found, found, Option.map_some,
    Option.map_some, settled, if_pos ⟨falsy, below⟩]

/-- The written control has its value afterwards unless the value comes round to it. -/
theorem value?_settled_self_iff (consistent : f.Consistent) (known : name ∈ f.names)
    (value : Json) : (f.mapControls (f.settled name value)).value? name = some value ↔
      ¬ f.ComesRound name value := by
  by_cases around : value.isTruthy = false ∧ f.Descends name name
  · rw [value?_settled_of_descends consistent around.1 around.2, Option.some.injEq]
    simp [ComesRound, around]
  · have aside : ¬ f.ComesRound name value := fun round => around ⟨round.1, round.2.1⟩
    obtain ⟨c, found⟩ := consistent.exists_control known
    obtain ⟨-, rfl⟩ := consistent.control?_eq_some_iff.mp found
    refine iff_of_true ?_ aside
    simp only [value?, control?_mapControls, found, Option.map_some, settled, if_neg around,
      if_true]
    split <;> rfl

/-- A callback that a write by the user calls sees what the control has afterwards, unless it is on
the written control and the value comes round to it. -/
theorem Sound.calls_settled_iff (sound : f.Sound) (name : String) (value : Json)
    {tag control : String} {seen : Json}
    (called : (tag, control, seen) ∈ (f.perform (.setValue name value)).calls) :
    (f.perform (.setValue name value)).form.value? control = some seen ↔
      ¬ (control = name ∧ f.ComesRound name value) := by
  by_cases known : name ∈ f.names
  · obtain ⟨o, done, settles, spread⟩ := sound.setValue_eq_ok known value
    obtain ⟨o', done', reports⟩ := sound.reports_setValue known value
    obtain rfl := Except.ok.inj (done.symm.trans done')
    rw [Form.perform, done] at called ⊢
    have told : (control, seen) ∈ o.notifications := reports.told_of_called _ called
    have expected : seen = Function.update f.emptyValue name value control :=
      reports.expected_eq _ told
    show o.form.value? control = some seen ↔ _
    rw [settles]
    rcases eq_or_ne control name with rfl | elsewhere
    · obtain rfl : seen = value := expected.trans (Function.update_self ..)
      simpa using value?_settled_self_iff sound.consistent known seen
    · obtain rfl : seen = f.emptyValue control :=
        expected.trans (Function.update_of_ne elsewhere ..)
      have reached := (spread.mem_told_iff sound.idle control).mp (List.mem_map_of_mem told)
      simp only [children_written, Descends] at reached
      obtain ⟨falsy, below⟩ := reached.resolve_left elsewhere
      exact iff_of_true (value?_settled_of_descends sound.consistent falsy below)
        fun same => elsewhere same.1
  · rw [Form.perform, setValue_eq_error sound.consistent known] at called
    cases called

/-- In every reached form, the callbacks that a write by the user calls see the values that the
controls have afterwards, but for those of the written control when the value comes round to it. -/
theorem callbacks_see_settled_iff (schema : Schema) (initial : Json.Entries) (actions : List Action)
    (name : String) (value : Json) :
    let f := reached schema initial actions
    let o := f.perform (.setValue name value)
    ∀ tag control seen, (tag, control, seen) ∈ o.calls →
      (o.form.value? control = some seen ↔ ¬ (control = name ∧ f.ComesRound name value)) :=
  fun _ _ _ called => (reached_sound schema initial actions).calls_settled_iff name value called

def echo : Schema where
  fields := [{ label := "Echo", name := "echo", type := .text, dependsOn := some "echo" }]

theorem callbacks_see_settled_iff_echo :
    let f := reached echo [] [.subscribe "echo" "log"]
    let o := f.perform (.setValue "echo" .null)
    ("log", "echo", .null) ∈ o.calls ∧ f.ComesRound "echo" .null ∧
      (o.form.value? "echo" = some .null ↔ ¬ ("echo" = "echo" ∧ f.ComesRound "echo" .null)) := by
  intro f o
  have called : ("log", "echo", .null) ∈ o.calls := List.mem_singleton.mpr rfl
  have around : f.Descends "echo" "echo" := .single (List.mem_singleton.mpr rfl)
  exact ⟨called, ⟨rfl, around, Json.noConfusion⟩,
    callbacks_see_settled_iff echo [] [.subscribe "echo" "log"] "echo" .null "log" "echo" .null
      called⟩

/-- Not every callback sees the value that its control has afterwards: this one sees none at all,
and the control has an empty text. -/
theorem not_callbacks_see_settled :
    ¬ ∀ (schema : Schema) (initial : Json.Entries) (actions : List Action) (name : String)
      (value : Json), let o := (reached schema initial actions).perform (.setValue name value)
      ∀ tag control seen, (tag, control, seen) ∈ o.calls →
        o.form.value? control = some seen := by
  intro settled
  have stale := settled echo [] [.subscribe "echo" "log"] "echo" .null "log" "echo" .null
    (List.mem_singleton.mpr rfl)
  have empty : ((reached echo [] [.subscribe "echo" "log"]).perform
      (.setValue "echo" .null)).form.value? "echo" = some (.string "") := rfl
  rw [empty] at stale
  cases stale

/-- The dependencies of a vetted schema lead nowhere round a cycle, so there every callback sees the
value that its control has afterwards. -/
theorem callbacks_see_settled_of_vetted {schema : Schema} (vetted : schema.Vetted)
    (initial : Json.Entries) (actions : List Action) (name : String) (value : Json) :
    let o := (reached schema initial actions).perform (.setValue name value)
    ∀ tag control seen, (tag, control, seen) ∈ o.calls → o.form.value? control = some seen := by
  intro o tag control seen called
  have sound := reached_sound schema initial actions
  refine (sound.calls_settled_iff name value called).mpr ?_
  rintro ⟨-, -, around, -⟩
  exact (forest_reached vetted initial actions).acyclic name around

end Form

end LiveForm
