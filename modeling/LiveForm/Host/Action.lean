import LiveForm.Form.Action
import LiveForm.Host.Basic

/-!
# What a program does with a host

An `Action` is one operation of a program on a host. The form of a host is lent out, so an operation
on the form may come at any time as well; without a form it does nothing. A run is a list of
actions, one after another.
-/

namespace LiveForm.Host

/-- One operation of a program on a host. -/
inductive Action where
  | recompile (schema : Schema)
  | setInitialValues (values : Json.Entries)
  | load (source : String)
  | onSubmit (tag : String)
  | submit
  | edit (action : Form.Action)

/-- Carries out an operation on the form, if there is one. -/
def edit (h : Host) (action : Form.Action) : Outcome :=
  match h.form with
  | some f => h.adopt (f.perform action)
  | none => ⟨h, []⟩

def perform (h : Host) : Action → Outcome
  | .recompile schema => h.recompile schema
  | .setInitialValues values => h.setInitialValues values
  | .load source => (h.load source).2
  | .onSubmit tag => ⟨h.onSubmit tag, []⟩
  | .submit => h.submit.2
  | .edit action => h.edit action

def run (h : Host) : List Action → Outcome
  | [] => ⟨h, []⟩
  | a :: rest =>
    let first := h.perform a
    let later := run first.host rest
    ⟨later.host, first.trace ++ later.trace⟩

end LiveForm.Host
