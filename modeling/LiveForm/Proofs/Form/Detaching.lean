import LiveForm.Proofs.Form.Calling

/-!
# Removing a gate by its handle

The gates of a control stand in one list with the callbacks of the host, and handles are numbered
for each control on its own. `Form.unsubscribe` removes whatever has the handle, a callback or a
gate. A compiled control has one gate for each field that depends on it, with the handles from zero
on, and a run of actions removes a gate exactly when it asks this control to remove the handle of
the gate.

A host that gives back handles to the controls that it has them from never does that, since the
handles of its callbacks come after those of the gates. A handle that it has from another control
may well be that of a gate.
-/

namespace LiveForm.Form

/-- The gates of a control with their handles, in the order of registration. -/
def gates (f : Form) (name : String) : List (ObserverId × String) :=
  (f.control? name).elim [] fun c => c.observers.gates

def Action.removes (name : String) (id : ObserverId) : Action → Bool
  | .unsubscribe other given => other = name ∧ given = id
  | _ => false

/-- Every removal in a list of actions is of a handle that a subscription gave before, whichever the
control was. -/
def RemovesGiven (f : Form) (issued : List (String × ObserverId)) : List Action → Prop
  | [] => True
  | a :: rest =>
    (∀ name id, a = .unsubscribe name id → ∃ other, (other, id) ∈ issued) ∧
      RemovesGiven (f.perform a).form (issued ++ f.issues a) rest

variable {f : Form} {c : Control}

theorem children_eq_map_gates (f : Form) (name : String) :
    f.children name = (f.gates name).map Prod.snd := by
  rw [children, gates]
  cases f.control? name with
  | none => rfl
  | some c => exact c.observers.gateTargets_eq_map_gates

/-- An action takes away the gates whose handles it asks the control to remove. -/
theorem gates_effect (f : Form) (a : Action) (c : Control) :
    (f.effect a c).observers.gates =
      c.observers.gates.filter fun gate => !a.removes c.name gate.1 := by
  have others : (∀ name id, a ≠ .unsubscribe name id) →
      (f.effect a c).observers.gates = c.observers.gates := fun noRemoval =>
    observers_effect_cases (P := fun l => l.gates = c.observers.gates) f a c rfl
      (fun _ tag _ => c.observers.gates_register_callback tag)
      fun name id same => absurd same (noRemoval name id)
  cases a with
  | unsubscribe name id =>
    rw [effect]
    by_cases here : c.name = name
    · rw [Control.at_eq_of_name_eq here, Control.unregister, ObserverList.gates_unregister]
      apply List.filter_congr
      intro gate _
      simp [Action.removes, here, eq_comm (a := id)]
    · rw [Control.at_eq_of_name_ne here, List.filter_eq_self.mpr]
      simp [Action.removes, Ne.symm here]
  | _ => simp [others, Action.removes]

theorem gates_perform (sound : f.Sound) (a : Action) (name : String) :
    (f.perform a).form.gates name = (f.gates name).filter fun gate => !a.removes name gate.1 := by
  rw [perform_form_eq sound, gates, control?_mapControls, gates]
  cases found : f.control? name with
  | none => rfl
  | some c =>
    obtain ⟨-, rfl⟩ := sound.consistent.control?_eq_some_iff.mp found
    exact gates_effect f a c

/-- A run takes away the gates whose handles one of its actions asks the control to remove, and no
others. -/
theorem gates_run (sound : f.Sound) (actions : List Action) (name : String) :
    (f.run actions).form.gates name =
      (f.gates name).filter fun gate => !actions.any (·.removes name gate.1) := by
  induction actions generalizing f with
  | nil => exact (List.filter_eq_self.mpr fun _ _ => rfl).symm
  | cons a rest ih =>
    rw [run_cons, Outcome.form_andThen, ih (sound.perform a), gates_perform sound,
      List.filter_filter]
    apply List.filter_congr
    intro gate _
    rw [List.any_cons, Bool.not_or, Bool.and_comm]

/-- Wiring numbers the gates of a control on from the handle that is next. -/
theorem gates_gatesAdded (fields : List Field) (name : String) (observers : ObserverList) :
    (gatesAdded fields name observers).gates = observers.gates ++
      ((fields.filter fun field => field.dependsOn = some name).zipIdx observers.nextNumber).map
        fun (field, number) => (⟨number⟩, field.name) := by
  rw [gatesAdded_eq, ObserverList.gates, List.filterMap_append, List.filterMap_map]
  exact congrArg (observers.gates ++ ·) (congrFun List.filterMap_eq_map' _)

variable {schema : Schema}

theorem gates_compile (initial : Json.Entries) {parent : String} (known : parent ∈ schema.names) :
    (compile schema initial).form.gates parent =
      (schema.dependents parent).zipIdx.map fun (field, number) => (⟨number⟩, field.name) := by
  have consistent := (compile_sound schema initial).consistent
  obtain ⟨c, found⟩ :=
    consistent.exists_control ((mem_names_compile schema initial parent).mpr known)
  obtain ⟨member, rfl⟩ := consistent.control?_eq_some_iff.mp found
  rw [gates, found, Option.elim_some, observers_compile schema initial member, gates_gatesAdded]
  rfl

/-- A control has a gate for each field that depends on it, numbered from zero, and after a run it
still has those that the run does not remove from it by their handles. These are all of them when
the host removes from each control only what it subscribed there. -/
theorem gates_removed_by_handle (initial : Json.Entries) (actions : List Action) {parent : String}
    (known : parent ∈ schema.names) :
    let start := (compile schema initial).form
    start.gates parent =
        (schema.dependents parent).zipIdx.map (fun (field, number) => (⟨number⟩, field.name)) ∧
      (start.run actions).form.gates parent =
        (start.gates parent).filter (fun gate => !actions.any (·.removes parent gate.1)) ∧
      (start.RemovesOwn [] actions →
        (start.run actions).form.gates parent = start.gates parent) := by
  intro start
  have remaining := gates_run (compile_sound schema initial) actions parent
  refine ⟨gates_compile initial known, remaining, fun own => ?_⟩
  have lengths := congrArg List.length (congrFun (children_reached own) parent)
  rw [children_eq_map_gates, children_eq_map_gates, List.length_map, List.length_map, reached,
    remaining] at lengths
  exact remaining.trans (List.filter_eq_self.mpr (List.length_filter_eq_length_iff.mp lengths))

def gift : Schema where
  fields := [
    { label := "Gift", name := "gift", type := .checkbox },
    { label := "Card", name := "card", type := .text, dependsOn := some "gift" },
    { label := "Note", name := "note", type := .text }]

/-- The first callback on the gift has the handle after the gate of the card. -/
theorem gates_removed_by_handle_gift :
    let start := (compile gift []).form
    let actions := [.subscribe "gift" "log", .unsubscribe "gift" ⟨1⟩]
    "gift" ∈ gift.names ∧ start.RemovesOwn [] actions ∧ start.gates "gift" = [(⟨0⟩, "card")] ∧
      (start.run actions).form.gates "gift" = start.gates "gift" := by
  intro start actions
  have known : "gift" ∈ gift.names := by decide
  have own : start.RemovesOwn [] actions := by
    refine ⟨by simp, ?_, trivial⟩
    intro name id same
    obtain ⟨rfl, rfl⟩ := Action.unsubscribe.inj same
    exact List.mem_singleton.mpr rfl
  obtain ⟨compiled, -, kept⟩ := gates_removed_by_handle [] actions known
  exact ⟨known, own, compiled, kept own⟩

/-- A handle that was given for another control may remove a gate: the first callback on the note
has the number of the gate of the card. -/
theorem not_gates_kept_of_given :
    ¬ ∀ (schema : Schema) (initial : Json.Entries) (actions : List Action),
      let start := (compile schema initial).form
      start.RemovesGiven [] actions →
        ∀ parent, (start.run actions).form.gates parent = start.gates parent := by
  intro kept
  have given : (compile gift []).form.RemovesGiven []
      [.subscribe "note" "log", .unsubscribe "gift" ⟨0⟩] := by
    refine ⟨by simp, ?_, trivial⟩
    intro name id same
    obtain ⟨rfl, rfl⟩ := Action.unsubscribe.inj same
    exact ⟨"note", List.mem_singleton.mpr rfl⟩
  have same : ([] : List (ObserverId × String)) = [(⟨0⟩, "card")] :=
    kept gift [] [.subscribe "note" "log", .unsubscribe "gift" ⟨0⟩] given "gift"
  cases same

end LiveForm.Form
