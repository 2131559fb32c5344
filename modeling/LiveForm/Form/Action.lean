import LiveForm.Form.Compile
import LiveForm.Form.Propagation
import LiveForm.Form.Submission

/-!
# What a host does with a form

An `Action` is one operation of a host on a form. `Form.perform` carries it out; an operation that
is refused does nothing. A run is a list of actions, one after another.

A host may also wire a field to a form on its own, whether or not the form was compiled with it. An
`Operation` is an action or such a wiring.
-/

namespace LiveForm.Form

/-- One operation of a host on a form. -/
inductive Action where
  | setValue (name : String) (value : Json)
  | setValueSilently (name : String) (value : Json)
  | touch (name : String)
  | touchAll
  | subscribe (name tag : String)
  | unsubscribe (name : String) (id : ObserverId)
  | submit (options : SubmitOptions)

/-- The outcome of an operation, or nothing at all when it is refused. -/
def orStill (f : Form) : Except FormError Outcome → Outcome
  | .ok o => o
  | .error _ => .still f

/-- Carries out an action. -/
def perform (f : Form) : Action → Outcome
  | .setValue name value => f.orStill (f.setValue name value)
  | .setValueSilently name value => f.orStill ((f.setValueSilently name value).map .still)
  | .touch name => f.orStill ((f.touch name).map .still)
  | .touchAll => .still f.touchAll
  | .subscribe name tag => f.orStill ((f.subscribe name tag).map fun r => .still r.2)
  | .unsubscribe name id => .still (f.unsubscribe name id).2
  | .submit options => (f.submit options).outcome

/-- Carries out a list of actions. -/
def run (f : Form) (actions : List Action) : Outcome := (Outcome.still f).forEach actions perform

/-- One operation of a host on a form, or the wiring of a field. -/
inductive Operation where
  | act (a : Action)
  | wire (field : Field)

def operate (f : Form) : Operation → Outcome
  | .act a => f.perform a
  | .wire field => f.wire field

def operateAll (f : Form) (operations : List Operation) : Outcome :=
  (Outcome.still f).forEach operations operate

end LiveForm.Form
