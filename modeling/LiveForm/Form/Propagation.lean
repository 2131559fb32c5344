import LiveForm.Form.Event

/-!
# How a value spreads

A control that is written by the user tells its observers. Its gates come first: a truthy value
enables the dependent controls, which keep their values; any other value resets them, which they
tell their own observers in turn, and then disables them. The callbacks come last and see the
settled form.

A control that is already telling its observers does not begin again, so a value never goes round a
cycle twice. Each nested notification adds a name of a control to those that are notifying; hence
the nesting is no deeper than the number of controls, which is the bound that `Form.notify` starts
with.
-/

namespace LiveForm.Form

/-- Resets a control and lets it tell its observers. -/
def resetAndNotify (notify : Form → String → Outcome) (f : Form) (name : String) :
    Except FormError Outcome :=
  (f.change name Control.reset).map (notify · name)

/-- Brings a dependent control in line with the value of its parent. -/
def applyGate (notify : Form → String → Outcome) (value : Json) (f : Form) (dependent : String) :
    Outcome :=
  if value.isTruthy then
    match f.setDisabled dependent false with
    | .ok f => .still f
    | .error e => .event f (.gateSkipped dependent e)
  else
    match resetAndNotify notify f dependent with
    | .error e => .event f (.gateSkipped dependent e)
    | .ok o =>
      o.andThen fun f =>
        match f.setDisabled dependent true with
        | .ok f => .still f
        | .error e => .event f (.gateSkipped dependent e)

/-- The calls of a control's callbacks with a value. -/
def deliveries (f : Form) (name : String) (value : Json) : List Event :=
  match f.control? name with
  | some c => c.observers.callbackTags.map fun tag => .delivered tag name value
  | none => []

/-- A name begins to notify. -/
def enter (f : Form) (name : String) : Form := { f with notifying := name :: f.notifying }

/-- A name ends to notify. -/
def leave (f : Form) (name : String) : Form := { f with notifying := f.notifying.erase name }

/-- A control tells its observers its value, with at most `depth` notifications inside each
other. -/
def notifyWithin : (depth : Nat) → Form → String → Outcome
  | depth, f, name =>
    match f.control? name with
    | none => .still f
    | some c =>
      if name ∈ f.notifying then .event f (.suppressed name)
      else
        match depth with
        | 0 => .event f (.tooDeep name)
        | depth + 1 =>
          let begun : Outcome := ⟨f.enter name, [.notified name c.value]⟩
          let gated :=
            begun.forEach c.observers.gateTargets (applyGate (notifyWithin depth) c.value)
          gated.andThen fun f => ⟨f.leave name, f.deliveries name c.value⟩

/-- A control tells its observers its value. -/
def notify (f : Form) (name : String) : Outcome := notifyWithin f.size f name

/-- Writes a value as input of the user: the control becomes dirty and tells its observers. -/
def setValue (f : Form) (name : String) (value : Json) : Except FormError Outcome :=
  (f.change name fun c => c.markDirty.write value).map (notify · name)

end LiveForm.Form
