/-!
# Counting the states of an automaton

An automaton is built state by state, and each state gets the number of those before it. A `Tally`
holds what counts in the size: how many states there are and how much storage their edges take.
-/

namespace LiveForm.Pattern

/-- The states of an automaton so far, and the storage of their edges in bytes. -/
structure Tally where
  states : Nat
  edges : Nat
  deriving Inhabited

namespace Tally

/-- The storage of a state, of an edge that takes a byte, and of one that takes none. -/
def stateSize : Nat := 32

def byteEdge : Nat := 8

def freeEdge : Nat := 4

def limit : Nat := 10 * 1024 * 1024

def size (t : Tally) : Nat := t.states * stateSize + t.edges

def tooLarge (t : Tally) : Bool := limit < t.size

/-- Adds a state whose edges take some storage. -/
def state (edges : Nat) (t : Tally) : Tally := ⟨t.states + 1, t.edges + edges⟩

/-- Adds several states without storage for edges. -/
def plain (count : Nat) (t : Tally) : Tally := { t with states := t.states + count }

/-- Adds a state that goes two ways without taking a byte. -/
def fork (t : Tally) : Tally := t.state (2 * freeEdge)

/-- Adds the same part a number of times, or until the automaton is too large. -/
def many (part : Tally → Tally) : (count : Nat) → Tally → Tally
  | 0, t => t
  | count + 1, t => if t.tooLarge then t else many part count (part t)

@[simp] theorem states_state (edges : Nat) (t : Tally) : (t.state edges).states = t.states + 1 :=
  rfl

@[simp] theorem states_plain (count : Nat) (t : Tally) :
    (t.plain count).states = t.states + count := rfl

@[simp] theorem size_state (edges : Nat) (t : Tally) :
    (t.state edges).size = t.size + stateSize + edges := by
  simp only [size, state, Nat.add_mul, Nat.one_mul]
  omega

end Tally

end LiveForm.Pattern
