import Std.Data.HashMap

/-!
# A memory of limited size

States that are equal may be shared, if it is remembered that they were built. The memory for this
has a fixed number of slots, and each key has one slot of its own: what is stored displaces whatever
was in the slot before. A key that was displaced is unknown again.
-/

namespace LiveForm.Pattern

/-- What is remembered: in each slot that is taken, a key and the number that it stands for. -/
structure Memo where
  slots : Nat
  entries : Std.HashMap Nat (List Nat × Nat)

namespace Memo

def empty (slots : Nat) : Memo := ⟨slots, ∅⟩

/-- The slot of a key: its numbers are mixed one after another, by exclusive or and by a product
modulo `2 ^ 64`. -/
def slot (m : Memo) (key : List Nat) : Nat :=
  let mixed := key.foldl (fun h n => (h ^^^ UInt64.ofNat n) * 1099511628211) 14695981039346656037
  mixed.toNat % m.slots

/-- The number that a key stands for, if its slot still holds it. -/
def find? (m : Memo) (key : List Nat) : Option Nat :=
  match m.entries[m.slot key]? with
  | some (stored, number) => if stored = key then some number else none
  | none => none

def store (m : Memo) (key : List Nat) (number : Nat) : Memo :=
  { m with entries := m.entries.insert (m.slot key) (key, number) }

/-- What was stored last is remembered. -/
theorem find?_store (m : Memo) (key : List Nat) (number : Nat) :
    (m.store key number).find? key = some number := by
  simp [find?, store, slot]

end Memo

end LiveForm.Pattern
