import LiveForm.Control

/-!
# Forms

A form is a list of controls, in the order of their fields, with an index that leads from each name
to the place of its control, together with the names of the controls that are telling their
observers of a new value at the moment. Between the operations of a host nobody is.

An operation on one control is a function on controls that is applied at the place of its name.
-/

namespace LiveForm

/-- Why an operation on a form is refused. -/
inductive FormError where
  | unknownControl (name : String)
  deriving DecidableEq, Repr

def FormError.message : FormError → String
  | unknownControl name => "No control named \"" ++ name ++ "\""

/-- The controls of a compiled schema. -/
structure Form where
  controls : List Control := []
  /-- The place of the control of each name. -/
  index : List (String × Nat) := []
  /-- The controls that are telling their observers of a new value, the latest first. -/
  notifying : List String := []
  deriving Inhabited

namespace Form

def size (f : Form) : Nat := f.controls.length

def isEmpty (f : Form) : Bool := f.controls.isEmpty

def names (f : Form) : List String := f.controls.map Control.name

/-- The place of the control with a name. -/
def place? (f : Form) (name : String) : Option Nat := f.index.lookup name

/-- The control with a name. -/
def control? (f : Form) (name : String) : Option Control := (f.place? name).bind (f.controls[·]?)

def contains (f : Form) (name : String) : Bool := (f.place? name).isSome

def value? (f : Form) (name : String) : Option Json := (f.control? name).map Control.value

/-- No rule of an enabled control fails. -/
def isValid (f : Form) : Bool := f.controls.all Control.isValid

/-- The names of the controls with a failing rule, in order. -/
def invalidControls (f : Form) : List String :=
  (f.controls.filter fun c => !c.isValid).map Control.name

/-- A control as an entry of the submitted data. -/
def entry (c : Control) : String × Json := (c.name, c.value)

/-- The values of all controls. -/
def rawValues (f : Form) : Json.Entries := .collect (f.controls.map entry)

/-- The values of the enabled controls. -/
def enabledValues (f : Form) : Json.Entries :=
  .collect ((f.controls.filter fun c => !c.disabled).map entry)

/-- Applies a function to the control with a name. -/
def update (f : Form) (name : String) (change : Control → Control) : Form :=
  match f.place? name with
  | some place => { f with controls := f.controls.modify place change }
  | none => f

/-- Applies a function to the control with a name, which must exist. -/
def change (f : Form) (name : String) (change : Control → Control) : Except FormError Form :=
  if f.contains name then .ok (f.update name change) else .error (.unknownControl name)

/-- Writes a value without telling anyone, and not as input of the user. -/
def setValueSilently (f : Form) (name : String) (value : Json) : Except FormError Form :=
  f.change name (·.write value)

def touch (f : Form) (name : String) : Except FormError Form := f.change name Control.markTouched

def touchAll (f : Form) : Form := { f with controls := f.controls.map Control.markTouched }

/-- Enables or disables a control without telling anyone. -/
def setDisabled (f : Form) (name : String) (disabled : Bool) : Except FormError Form :=
  f.change name (·.setDisabled disabled)

/-- Registers a listener on a control; the handle is the control's next one. -/
def register (f : Form) (name : String) (listener : Listener) :
    Except FormError (ObserverId × Form) :=
  match f.control? name with
  | some c => .ok (c.observers.nextId, f.update name (·.register listener))
  | none => .error (.unknownControl name)

/-- Registers a callback under a tag. -/
def subscribe (f : Form) (name tag : String) : Except FormError (ObserverId × Form) :=
  f.register name (.callback tag)

/-- Removes a registration. Says whether there was one. -/
def unsubscribe (f : Form) (name : String) (id : ObserverId) : Bool × Form :=
  match f.control? name with
  | some c => (c.observers.contains id, f.update name (·.unregister id))
  | none => (false, f)

@[simp] theorem notifying_update (f : Form) (name : String) (change : Control → Control) :
    (f.update name change).notifying = f.notifying := by
  unfold update; split <;> rfl

@[simp] theorem index_update (f : Form) (name : String) (change : Control → Control) :
    (f.update name change).index = f.index := by
  unfold update; split <;> rfl

@[simp] theorem place?_update (f : Form) (name : String) (change : Control → Control)
    (other : String) : (f.update name change).place? other = f.place? other := by
  simp [place?]

@[simp] theorem size_update (f : Form) (name : String) (change : Control → Control) :
    (f.update name change).size = f.size := by
  unfold update; split <;> simp [size]

end Form

end LiveForm
