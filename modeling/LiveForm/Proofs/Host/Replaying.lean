import LiveForm.Host.Action
import LiveForm.Proofs.Form.Run
import Mathlib.Data.List.DropRight

/-!
# A host replays its history

What a host has become can be read off the actions of the program alone. Its schema, its initial
values and its handler are the last that were set, where a document that cannot be loaded sets
nothing. Its form is the schema compiled with these values and taken through the edits and the
submissions since the form was compiled last; without a schema there is none. `Host.replay` is the
host that is read off in this way, and a run from a new host leads to it.

The handler is called by submissions with data and by nothing else, once by each.
-/

namespace LiveForm

namespace Host

def Action.schema? (loader : LoaderOptions) : Action → Option Schema
  | .recompile schema => some schema
  | .load source => (loader.loadText source).toOption
  | _ => none

def Action.values? : Action → Option Json.Entries
  | .setInitialValues values => some values
  | _ => none

def Action.handler? : Action → Option String
  | .onSubmit tag => some tag
  | _ => none

/-- What an action does to the form at hand, unless it compiles the form anew. -/
def Action.edit? (submission : SubmitOptions) : Action → Option Form.Action
  | .submit => some (.submit submission)
  | .edit action => some action
  | _ => none

def Action.rebuilds (loader : LoaderOptions) (a : Action) : Bool :=
  (a.schema? loader).isSome || a.values?.isSome

/-- What the last of some actions sets that sets anything. -/
def latest {α : Type} (part : Action → Option α) (history : List Action) : Option α :=
  (history.filterMap part).getLast?

/-- The edits and the submissions since the form was compiled last. -/
def editsSince (loader : LoaderOptions) (submission : SubmitOptions) (history : List Action) :
    List Form.Action :=
  (history.rtakeWhile fun a => !a.rebuilds loader).filterMap (·.edit? submission)

/-- The host that a history leads to. -/
def replay (loader : LoaderOptions) (submission : SubmitOptions) (history : List Action) : Host :=
  let schema := latest (Action.schema? loader) history
  let values := (latest Action.values? history).getD []
  { schema := schema
    initialValues := values
    form := schema.map fun schema =>
      ((Form.compile schema values).form.run (editsSince loader submission history)).form
    loader := loader
    submission := submission
    handler := latest Action.handler? history }

/-- A call of the handler: its tag and the data. -/
def Event.call? : Event → Option (String × Json.Entries)
  | .handed tag data => some (tag, data)
  | _ => none

def Outcome.calls (o : Outcome) : List (String × Json.Entries) := o.trace.filterMap Event.call?

def accepted? (h : Host) : Action → Option Json.Entries
  | .submit => h.submit.1.bind Submission.data?
  | _ => none

theorem latest_concat {α : Type} (part : Action → Option α) (history : List Action) (a : Action) :
    latest part (history ++ [a]) = (part a).or (latest part history) := by
  rw [latest, List.filterMap_append]
  cases set : part a with
  | none => simp [latest, set]
  | some x => simp [set]

theorem latest_eq_none_iff {α : Type} (part : Action → Option α) (history : List Action) :
    latest part history = none ↔ ∀ a ∈ history, part a = none := by
  rw [latest, List.getLast?_eq_none_iff, List.filterMap_eq_nil_iff]

/-- An action that compiles the form anew makes all edits before it void; any other one adds its
own. -/
theorem editsSince_concat (loader : LoaderOptions) (submission : SubmitOptions)
    (history : List Action) (a : Action) :
    editsSince loader submission (history ++ [a]) =
      if a.rebuilds loader then []
      else editsSince loader submission history ++ (a.edit? submission).toList := by
  rw [editsSince, List.rtakeWhile_concat]
  cases a.rebuilds loader with
  | true => rfl
  | false =>
    simp only [Bool.not_false, if_true, Bool.false_eq_true, if_false, List.filterMap_append]
    rw [editsSince]
    cases edit : a.edit? submission <;> simp [edit]

example (schema : Schema) : editsSince {} {} [.recompile schema, .edit .touchAll,
    .setInitialValues [], .edit (.touch "name"), .onSubmit "mail", .submit] =
      [.touch "name", .submit {}] := rfl

/-- The host after an action: what the action sets comes before what was set, and the form is
compiled anew or edited. -/
def next (h : Host) (a : Action) : Host :=
  let schema := (a.schema? h.loader).or h.schema
  let values := a.values?.getD h.initialValues
  { h with
    schema := schema
    initialValues := values
    form :=
      if a.rebuilds h.loader then schema.map fun schema => (Form.compile schema values).form
      else (a.edit? h.submission).elim h.form fun edit => h.form.map fun f => (f.perform edit).form
    handler := a.handler?.or h.handler }

theorem perform_host_eq {h : Host} (unset : h.schema = none → h.form = none) (a : Action) :
    (h.perform a).host = h.next a := by
  obtain ⟨schema, values, form, loader, submission, handler⟩ := h
  cases a with
  | recompile schema => rfl
  | setInitialValues values =>
    cases schema with
    | some schema => rfl
    | none =>
      obtain rfl : form = none := unset rfl
      rfl
  | load source =>
    rw [perform, load, next, Action.rebuilds, Action.schema?]
    cases loader.loadText source <;> rfl
  | onSubmit tag => rfl
  | submit => cases form <;> rfl
  | edit action => cases form <;> rfl

theorem values_concat (history : List Action) (a : Action) :
    (latest Action.values? (history ++ [a])).getD [] =
      a.values?.getD ((latest Action.values? history).getD []) := by
  rw [latest_concat]
  cases a.values? <;> rfl

/-- The host of a history goes on to that of the history with one more action. -/
theorem next_replay (loader : LoaderOptions) (submission : SubmitOptions)
    (history : List Action) (a : Action) :
    (replay loader submission history).next a = replay loader submission (history ++ [a]) := by
  rw [next, replay, replay, values_concat, latest_concat, latest_concat, editsSince_concat]
  congr 1
  dsimp only
  cases rebuilt : a.rebuilds loader with
  | true => rfl
  | false =>
    have ⟨noSchema, noValues⟩ : a.schema? loader = none ∧ a.values? = none := by
      simpa [Action.rebuilds] using rebuilt
    rw [noSchema, noValues]
    cases a.edit? submission with
    | none => simp
    | some edit => simp [Form.run_concat, Function.comp_def]

theorem form_replay_eq_none_iff (loader : LoaderOptions) (submission : SubmitOptions)
    (history : List Action) :
    (replay loader submission history).form = none ↔
      (replay loader submission history).schema = none :=
  Option.map_eq_none_iff

theorem run_replay (loader : LoaderOptions) (submission : SubmitOptions)
    (history actions : List Action) :
    ((replay loader submission history).run actions).host =
      replay loader submission (history ++ actions) := by
  induction actions generalizing history with
  | nil => rw [List.append_nil, run]
  | cons a rest ih =>
    have first := perform_host_eq (form_replay_eq_none_iff loader submission history).mpr a
    rw [run, first, next_replay, ih, List.append_assoc, List.singleton_append]

theorem calls_adopt (h : Host) (o : Form.Outcome) : (h.adopt o).calls = [] := by
  rw [Outcome.calls, adopt, List.filterMap_map]
  exact List.filterMap_eq_nil_iff.mpr fun _ _ => rfl

theorem calls_rebuild (h : Host) : h.rebuild.calls = [] := by
  rw [rebuild]
  cases h.schema with
  | none => rfl
  | some schema => exact calls_adopt h (Form.compile schema h.initialValues)

theorem calls_handOver (h : Host) (result : Submission) :
    (h.handOver result).filterMap Event.call? =
      (h.handler.bind fun tag => result.data?.map (tag, ·)).toList := by
  cases result with
  | submitted data =>
    rw [handOver]
    cases h.handler <;> rfl
  | rejected invalid => cases h.handler <;> rfl

theorem calls_submit (h : Host) :
    h.submit.2.calls = (h.handler.bind fun tag => (h.accepted? .submit).map (tag, ·)).toList := by
  rw [accepted?, submit]
  cases h.form with
  | none => cases h.handler <;> rfl
  | some f =>
    have silent := calls_adopt h (f.submit h.submission).outcome
    rw [Outcome.calls] at silent
    dsimp only
    rw [Outcome.calls, List.filterMap_append, silent, List.nil_append]
    exact calls_handOver h (f.submit h.submission).result

/-- The handler is called by an action that submits data, once and with these data. -/
theorem calls_perform (h : Host) (a : Action) :
    (h.perform a).calls = (h.handler.bind fun tag => (h.accepted? a).map (tag, ·)).toList := by
  have none : h.accepted? a = none →
      (h.handler.bind fun tag => (h.accepted? a).map (tag, ·)).toList = [] := by
    intro idle
    rw [idle]
    cases h.handler <;> rfl
  cases a with
  | recompile schema => exact (calls_rebuild _).trans (none rfl).symm
  | setInitialValues values => exact (calls_rebuild _).trans (none rfl).symm
  | load source =>
    rw [none rfl, perform, load]
    cases h.loader.loadText source with
    | ok schema => exact calls_rebuild _
    | error e => rfl
  | onSubmit tag => exact (none rfl).symm
  | submit => exact calls_submit h
  | edit action =>
    rw [none rfl, perform, edit]
    cases h.form with
    | none => rfl
    | some f => exact calls_adopt h (f.perform action)

theorem host_load_of_error {h : Host} {source : String} {e : SchemaError}
    (refused : (h.load source).1 = .error e) : (h.load source).2.host = h := by
  rw [load] at refused ⊢
  cases loaded : h.loader.loadText source with
  | ok schema => simp [loaded] at refused
  | error e => rfl

/-- A new host after any run is the one that the history describes. It has a form exactly when it
has a schema, and a schema exactly when some action set one; a document that is refused leaves it
as it is; and the next action calls the handler that is registered, once, for data that it submits,
and calls no handler otherwise. -/
theorem run_replays_history (loader : LoaderOptions) (submission : SubmitOptions)
    (history : List Action) :
    let h := ((new loader submission).run history).host
    h = replay loader submission history ∧
      (h.form = none ↔ h.schema = none) ∧
      (h.schema = none ↔ ∀ a ∈ history, a.schema? loader = none) ∧
      (∀ source e, (h.load source).1 = .error e → (h.load source).2.host = h) ∧
      ∀ a, (h.perform a).calls =
        (h.handler.bind fun tag => (h.accepted? a).map (tag, ·)).toList := by
  intro h
  have start : new loader submission = replay loader submission [] := rfl
  have replays : h = replay loader submission history := by
    show ((new loader submission).run history).host = _
    rw [start, run_replay, List.nil_append]
  refine ⟨replays, ?_, ?_, fun source e => host_load_of_error, calls_perform h⟩
  · rw [replays]
    exact form_replay_eq_none_iff loader submission history
  · rw [replays]
    exact latest_eq_none_iff (Action.schema? loader) history

end Host

end LiveForm
