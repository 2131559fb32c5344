import LiveForm.Form.Event

/-!
# Submission

A form is submitted only when no rule of an enabled control fails. A rejected attempt touches every
control, so that their messages show, and hands over no data.
-/

namespace LiveForm

/-- What a submission hands over. -/
structure SubmitOptions where
  /-- Hand over the values of disabled controls too. -/
  includeDisabled : Bool := true
  deriving DecidableEq, Repr, Inhabited

/-- The result of an attempt to submit. -/
inductive Submission where
  /-- Every rule holds; the data, in the order of the controls. -/
  | submitted (data : Json.Entries)
  /-- The names of the controls with a failing rule, in order. -/
  | rejected (invalid : List String)

namespace Submission

def isSubmitted : Submission → Bool
  | submitted _ => true
  | rejected _ => false

def data? : Submission → Option Json.Entries
  | submitted data => some data
  | rejected _ => none

end Submission

/-- An attempt to submit: its result and what it does to the form. -/
structure Form.Attempt where
  result : Submission
  outcome : Form.Outcome

/-- The data that a valid form hands over. -/
def Form.dataFor (f : Form) (options : SubmitOptions) : Json.Entries :=
  if options.includeDisabled then f.rawValues else f.enabledValues

/-- Tries to submit a form. -/
def Form.submit (f : Form) (options : SubmitOptions) : Form.Attempt :=
  if f.isValid then
    let data := f.dataFor options
    ⟨.submitted data, .event f (.submissionAccepted data.length)⟩
  else
    let invalid := f.invalidControls
    ⟨.rejected invalid, .event f.touchAll (.submissionRejected invalid.length)⟩

end LiveForm
