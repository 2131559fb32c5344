import LiveForm.Form.Basic

/-!
# Messages

The message of a control is about the first of its failing rules in the order of priority, and only
once the control is touched. The bound that a message quotes is that of the failing rule itself. A
field's custom message stands in for every default text except that of a required field.
-/

namespace LiveForm

namespace Control

/-- The failing kind that the message is about. -/
def firstError? (c : Control) : Option RuleKind := RuleKind.all.find? c.hasError

/-- The bound of the control's rule of a kind. -/
def boundText (c : Control) (kind : RuleKind) : String :=
  ((c.rules.filter fun rule => rule.kind = kind).findSome? Rule.boundText?).getD ""

def defaultMessage (c : Control) (label : String) (kind : RuleKind) : String :=
  match kind with
  | .required => label ++ " is required."
  | .pattern => label ++ " has invalid format."
  | .minLength => label ++ " must be at least " ++ c.boundText kind ++ " characters."
  | .maxLength => label ++ " must be at most " ++ c.boundText kind ++ " characters."
  | .min => label ++ " should be >= " ++ c.boundText kind ++ "."
  | .max => label ++ " should be <= " ++ c.boundText kind ++ "."

/-- The message about the control of a field, empty when there is nothing to say. -/
def errorMessage (c : Control) (field : Field) : String :=
  if c.touched then
    match c.firstError?, field.customMessage? with
    | none, _ => ""
    | some .required, _ => c.defaultMessage field.label .required
    | some _, some custom => custom
    | some kind, none => c.defaultMessage field.label kind
  else ""

end Control

/-- The message about a field, empty when the form has no such control. -/
def Form.errorMessage (f : Form) (field : Field) : String :=
  match f.control? field.name with
  | some c => c.errorMessage field
  | none => ""

end LiveForm
