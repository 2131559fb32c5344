import LiveForm.Observer
import LiveForm.Rule.Basic

/-!
# Controls

A control is the live counterpart of a field: its value, its flags, its rules and the kinds of
rules that fail at the moment. The failing kinds are kept up to date by every operation here; a
disabled control fails none.
-/

namespace LiveForm

/-- The live counterpart of a field. -/
structure Control where
  name : String
  type : FieldType
  value : Json
  disabled : Bool
  /-- Visited by the user, or present at a rejected submission. -/
  touched : Bool
  /-- Written by the user. -/
  dirty : Bool
  rules : List Rule
  /-- The kinds of the failing rules, in order. -/
  errors : List RuleKind
  observers : ObserverList
  deriving Inhabited

namespace Control

/-- The kinds of rules that fail for a value, none when disabled. -/
def errorsOf (rules : List Rule) (value : Json) (disabled : Bool) : List RuleKind :=
  if disabled then [] else Rule.failing rules value

/-- A control that nobody has touched. -/
def new (name : String) (type : FieldType) (value : Json) (disabled : Bool) (rules : List Rule) :
    Control where
  name := name
  type := type
  value := value
  disabled := disabled
  touched := false
  dirty := false
  rules := rules
  errors := errorsOf rules value disabled
  observers := {}

def isValid (c : Control) : Bool := c.errors.isEmpty

def hasError (c : Control) (kind : RuleKind) : Bool := c.errors.contains kind

/-- Brings the failing kinds up to date. -/
def revalidate (c : Control) : Control :=
  { c with errors := errorsOf c.rules c.value c.disabled }

def write (c : Control) (value : Json) : Control := { c with value := value }.revalidate

/-- Puts back the value of an untouched control. -/
def reset (c : Control) : Control := c.write c.type.defaultValue

/-- Enables or disables the control. -/
def setDisabled (c : Control) (disabled : Bool) : Control :=
  if c.disabled = disabled then c else { c with disabled := disabled }.revalidate

def markTouched (c : Control) : Control := { c with touched := true }

def markDirty (c : Control) : Control := { c with dirty := true }

def register (c : Control) (listener : Listener) : Control :=
  { c with observers := c.observers.register listener }

def unregister (c : Control) (id : ObserverId) : Control :=
  { c with observers := c.observers.unregister id }

@[simp] theorem name_write (c : Control) (value : Json) : (c.write value).name = c.name := rfl

@[simp] theorem value_write (c : Control) (value : Json) : (c.write value).value = value := rfl

@[simp] theorem name_reset (c : Control) : c.reset.name = c.name := rfl

@[simp] theorem value_reset (c : Control) : c.reset.value = c.type.defaultValue := rfl

@[simp] theorem name_setDisabled (c : Control) (disabled : Bool) :
    (c.setDisabled disabled).name = c.name := by
  unfold setDisabled; split <;> rfl

@[simp] theorem value_setDisabled (c : Control) (disabled : Bool) :
    (c.setDisabled disabled).value = c.value := by
  unfold setDisabled; split <;> rfl

@[simp] theorem disabled_setDisabled (c : Control) (disabled : Bool) :
    (c.setDisabled disabled).disabled = disabled := by
  unfold setDisabled
  split
  · assumption
  · rfl

@[simp] theorem name_markTouched (c : Control) : c.markTouched.name = c.name := rfl

@[simp] theorem name_markDirty (c : Control) : c.markDirty.name = c.name := rfl

@[simp] theorem name_register (c : Control) (listener : Listener) :
    (c.register listener).name = c.name := rfl

@[simp] theorem name_unregister (c : Control) (id : ObserverId) :
    (c.unregister id).name = c.name := rfl

end Control

end LiveForm
