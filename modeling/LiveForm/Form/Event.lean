import LiveForm.Diagnostic
import LiveForm.Form.Basic

/-!
# Events and outcomes

Every operation that may do more than change a control gives an `Outcome`: the form afterwards and
the events on the way, in order. Some events are calls of the host's callbacks, some are
diagnostics, and some only mark how a value spread through the form.
-/

namespace LiveForm

namespace Form

/-- Something that happens while a form is compiled or a value spreads through it. -/
inductive Event where
  /-- A field's pattern does not compile and gives no rule. -/
  | patternSkipped (field pattern : String)
  /-- A later declaration takes the place of an earlier one of the same name. -/
  | redeclared (name : String)
  /-- A field depends on a name that is no control. -/
  | dependencyIgnored (field parent : String)
  | gateRefused (field : String) (error : FormError)
  | initialGateSkipped (field : String) (error : FormError)
  | compiled (fields : Nat)
  /-- A control begins to tell its observers its value. -/
  | notified (control : String) (value : Json)
  /-- A control is already telling its observers and does not begin again. -/
  | suppressed (control : String)
  /-- The bound on nested notifications is used up. -/
  | tooDeep (control : String)
  | gateSkipped (dependent : String) (error : FormError)
  /-- The callback with a tag receives a control's value. -/
  | delivered (tag control : String) (value : Json)
  | submissionRejected (invalid : Nat)
  | submissionAccepted (fields : Nat)

namespace Event

def diagnostic? : Event → Option Diagnostic
  | patternSkipped field pattern =>
    some <| .warn "Invalid regex for field, pattern rule skipped"
      [("field", field), ("pattern", pattern)]
  | redeclared name =>
    some <| .debug "Duplicate field name, later declaration wins" [("control", name)]
  | dependencyIgnored field parent =>
    some <| .debug "dependsOn names no control, dependency ignored"
      [("field", field), ("parent", parent)]
  | gateRefused field error =>
    some <| .debug ("Gate registration failed: " ++ error.message) [("field", field)]
  | initialGateSkipped field error =>
    some <| .debug ("Initial gate skipped: " ++ error.message) [("field", field)]
  | compiled fields => some <| .debug "Compiled form" [("fields", toString fields)]
  | notified _ _ => none
  | suppressed control =>
    some <| .debug "Suppressed re-entrant value notification" [("control", control)]
  | tooDeep _ => none
  | gateSkipped dependent error =>
    some <| .debug ("Dependency gate skipped: " ++ error.message) [("dependent", dependent)]
  | delivered _ _ _ => none
  | submissionRejected invalid =>
    some <| .debug "Submission rejected" [("invalid", toString invalid)]
  | submissionAccepted fields =>
    some <| .debug "Submission accepted" [("fields", toString fields)]

/-- A call of a callback: its tag, the control and the value. -/
def delivery? : Event → Option (String × String × Json)
  | delivered tag control value => some (tag, control, value)
  | _ => none

/-- The beginning of a notification: the control and the value that it tells. -/
def notification? : Event → Option (String × Json)
  | notified control value => some (control, value)
  | _ => none

end Event

/-- A form after an operation, and what happened on the way. -/
structure Outcome where
  form : Form
  trace : List Event

namespace Outcome

/-- Nothing happens. -/
def still (form : Form) : Outcome := ⟨form, []⟩

def event (form : Form) (e : Event) : Outcome := ⟨form, [e]⟩

/-- The notifications on the way, in the order in which they began. -/
def notifications (o : Outcome) : List (String × Json) := o.trace.filterMap Event.notification?

/-- The controls that told their observers a value, in the order in which they began. -/
def told (o : Outcome) : List String := o.notifications.map Prod.fst

def calls (o : Outcome) : List (String × String × Json) := o.trace.filterMap Event.delivery?

/-- Goes on with the form of an outcome. -/
def andThen (o : Outcome) (next : Form → Outcome) : Outcome :=
  ⟨(next o.form).form, o.trace ++ (next o.form).trace⟩

/-- Goes on once for each item of a list. -/
def forEach {α : Type} (o : Outcome) (items : List α) (next : Form → α → Outcome) : Outcome :=
  items.foldl (fun o a => o.andThen (next · a)) o

@[simp] theorem form_still (form : Form) : (still form).form = form := rfl

@[simp] theorem trace_still (form : Form) : (still form).trace = [] := rfl

@[simp] theorem form_event (form : Form) (e : Event) : (event form e).form = form := rfl

@[simp] theorem form_andThen (o : Outcome) (next : Form → Outcome) :
    (o.andThen next).form = (next o.form).form := rfl

@[simp] theorem trace_andThen (o : Outcome) (next : Form → Outcome) :
    (o.andThen next).trace = o.trace ++ (next o.form).trace := rfl

@[simp] theorem forEach_nil {α : Type} (o : Outcome) (next : Form → α → Outcome) :
    o.forEach [] next = o := rfl

@[simp] theorem forEach_cons {α : Type} (o : Outcome) (a : α) (rest : List α)
    (next : Form → α → Outcome) :
    o.forEach (a :: rest) next = (o.andThen (next · a)).forEach rest next := rfl

end Outcome

end Form

end LiveForm
