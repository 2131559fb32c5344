/-!
# Observers of a control

Each control has a list of observers: gates, which enable or disable a dependent control, and
callbacks, through which a host receives the new value. A callback is known by the tag under which
it was made. Every registration takes a fresh number, which is never given again.
-/

namespace LiveForm

/-- The handle of a registration, counted up from zero for each control. A count in 64 bits gives
the same handles as long as there are fewer than `2 ^ 64` registrations. -/
structure ObserverId where
  number : Nat
  deriving DecidableEq, Repr

/-- Who is told of a new value. -/
inductive Listener where
  | gate (dependent : String)
  | callback (tag : String)
  deriving DecidableEq, Repr

/-- The observers of one control, in the order of registration. -/
structure ObserverList where
  nextNumber : Nat := 0
  entries : List (ObserverId × Listener) := []
  deriving DecidableEq, Repr, Inhabited

namespace Listener

def dependent? : Listener → Option String
  | gate dependent => some dependent
  | callback _ => none

def tag? : Listener → Option String
  | gate _ => none
  | callback tag => some tag

end Listener

namespace ObserverList

def size (l : ObserverList) : Nat := l.entries.length

def isEmpty (l : ObserverList) : Bool := l.entries.isEmpty

def nextId (l : ObserverList) : ObserverId := ⟨l.nextNumber⟩

/-- Adds a listener under the next handle. -/
def register (l : ObserverList) (listener : Listener) : ObserverList :=
  ⟨l.nextNumber + 1, l.entries ++ [(l.nextId, listener)]⟩

def contains (l : ObserverList) (id : ObserverId) : Bool := l.entries.any fun e => e.1 = id

def unregister (l : ObserverList) (id : ObserverId) : ObserverList :=
  { l with entries := l.entries.filter fun e => e.1 ≠ id }

/-- The controls that are gated, in the order of registration. -/
def gateTargets (l : ObserverList) : List String := l.entries.filterMap fun e => e.2.dependent?

/-- The tags of the callbacks, in the order of registration. -/
def callbackTags (l : ObserverList) : List String := l.entries.filterMap fun e => e.2.tag?

@[simp] theorem gateTargets_register_gate (l : ObserverList) (dependent : String) :
    (l.register (.gate dependent)).gateTargets = l.gateTargets ++ [dependent] := by
  simp [register, gateTargets, Listener.dependent?]

@[simp] theorem gateTargets_register_callback (l : ObserverList) (tag : String) :
    (l.register (.callback tag)).gateTargets = l.gateTargets := by
  simp [register, gateTargets, Listener.dependent?]

@[simp] theorem callbackTags_register_callback (l : ObserverList) (tag : String) :
    (l.register (.callback tag)).callbackTags = l.callbackTags ++ [tag] := by
  simp [register, callbackTags, Listener.tag?]

@[simp] theorem callbackTags_register_gate (l : ObserverList) (dependent : String) :
    (l.register (.gate dependent)).callbackTags = l.callbackTags := by
  simp [register, callbackTags, Listener.tag?]

@[simp] theorem contains_unregister (l : ObserverList) (id : ObserverId) :
    (l.unregister id).contains id = false := by
  simp [unregister, contains]

end ObserverList

end LiveForm
