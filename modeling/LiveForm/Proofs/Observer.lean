import LiveForm.Observer
import Mathlib.Data.List.Nodup

/-!
# Handles of observers

A host that removes only what it was given never takes a gate away: the handle of a new callback is
greater than all that are in use, and no gate is added once a form is compiled. Callbacks and gates
are registered and removed without regard to each other.

No two registrations share a handle, so a removal takes out one at most. A registration `Holds` its
handle until it is removed. Then the handle is `Spent`: it never comes back, and its removal changes
nothing.
-/

namespace LiveForm.ObserverList

/-- All handles in use are smaller than the next one. -/
def Numbered (l : ObserverList) : Prop := ∀ e ∈ l.entries, e.1.number < l.nextNumber

def IsGate (l : ObserverList) (id : ObserverId) : Prop :=
  ∃ dependent, (id, .gate dependent) ∈ l.entries

variable {l : ObserverList} {id : ObserverId}

theorem numbered_empty : Numbered {} := by simp [Numbered]

theorem Numbered.register (numbered : l.Numbered) (listener : Listener) :
    (l.register listener).Numbered := by
  intro e member
  rcases List.mem_append.mp member with before | new
  · exact Nat.lt_succ_of_lt (numbered e before)
  · obtain rfl := List.mem_singleton.mp new
    exact Nat.lt_succ_self l.nextNumber

theorem Numbered.unregister (numbered : l.Numbered) (id : ObserverId) :
    (l.unregister id).Numbered :=
  fun e member => numbered e (List.mem_of_mem_filter member)

/-- The handle of a new registration is that of no gate so far. -/
theorem Numbered.not_isGate_nextId (numbered : l.Numbered) : ¬ l.IsGate l.nextId := by
  rintro ⟨dependent, member⟩
  exact Nat.lt_irrefl l.nextNumber (numbered _ member)

theorem isGate_register_callback {tag : String} :
    (l.register (.callback tag)).IsGate id ↔ l.IsGate id := by
  simp [IsGate, ObserverList.register]

theorem IsGate.of_unregister {other : ObserverId} (gate : (l.unregister other).IsGate id) :
    l.IsGate id := by
  obtain ⟨dependent, member⟩ := gate
  exact ⟨dependent, List.mem_of_mem_filter member⟩

theorem gateTargets_unregister_sublist (l : ObserverList) (id : ObserverId) :
    (l.unregister id).gateTargets.Sublist l.gateTargets :=
  List.filter_sublist.filterMap _

theorem gateTargets_unregister (aside : ¬ l.IsGate id) :
    (l.unregister id).gateTargets = l.gateTargets := by
  unfold gateTargets unregister
  rw [List.filterMap_filter]
  apply List.filterMap_congr
  intro e member
  split
  · rfl
  · rename_i same
    obtain ⟨used, listener⟩ := e
    cases listener with
    | callback tag => rfl
    | gate dependent =>
      obtain rfl : used = id := by simpa using same
      exact absurd ⟨dependent, member⟩ aside

/-- No two registrations share a handle, and none has one that is still to be given. -/
structure Keyed (l : ObserverList) : Prop where
  numbered : l.Numbered
  distinct : (l.entries.map Prod.fst).Nodup

namespace Keyed

theorem empty : Keyed {} := ⟨numbered_empty, List.nodup_nil⟩

theorem register (keyed : l.Keyed) (listener : Listener) : (l.register listener).Keyed := by
  have fresh : l.nextId ∉ l.entries.map Prod.fst := by
    intro used
    obtain ⟨e, member, same⟩ := List.mem_map.mp used
    have smaller := keyed.numbered e member
    rw [same] at smaller
    exact Nat.lt_irrefl l.nextNumber smaller
  refine ⟨keyed.numbered.register listener, ?_⟩
  show ((l.entries ++ [(l.nextId, listener)]).map Prod.fst).Nodup
  rw [List.map_append, List.map_singleton, ← List.concat_eq_append]
  exact keyed.distinct.concat fresh

theorem unregister (keyed : l.Keyed) (id : ObserverId) : (l.unregister id).Keyed :=
  ⟨keyed.numbered.unregister id, keyed.distinct.sublist (List.filter_sublist.map Prod.fst)⟩

/-- A removal takes the registration out and leaves the others in their order. -/
theorem unregister_eq (keyed : l.Keyed) {front back : List (ObserverId × Listener)}
    {listener : Listener} (split : l.entries = front ++ (id, listener) :: back) :
    l.unregister id = { l with entries := front ++ back } := by
  have distinct := keyed.distinct
  rw [split, List.map_append, List.map_cons, List.nodup_middle, List.nodup_cons,
    ← List.map_append] at distinct
  have others : ∀ e ∈ front ++ back, e.1 ≠ id := fun e member same =>
    distinct.1 (List.mem_map.mpr ⟨e, member, same⟩)
  obtain ⟨before, after⟩ := List.forall_mem_append.mp others
  simp only [ObserverList.unregister, split, List.filter_append, List.filter_cons]
  rw [List.filter_eq_self.mpr (by simpa using before),
    List.filter_eq_self.mpr (by simpa using after)]
  simp

end Keyed

/-- A listener is registered under a handle that it shares with no other. -/
structure Holds (l : ObserverList) (id : ObserverId) (listener : Listener) : Prop where
  keyed : l.Keyed
  used : (id, listener) ∈ l.entries

/-- The handle was given and is in use no more. -/
structure Spent (l : ObserverList) (id : ObserverId) : Prop where
  given : id.number < l.nextNumber
  unused : ∀ e ∈ l.entries, e.1 ≠ id

theorem Keyed.holds_register (keyed : l.Keyed) (listener : Listener) :
    (l.register listener).Holds l.nextId listener :=
  ⟨keyed.register listener, List.mem_append_right _ (List.mem_singleton.mpr rfl)⟩

namespace Holds

variable {listener : Listener}

theorem register (holds : l.Holds id listener) (other : Listener) :
    (l.register other).Holds id listener :=
  ⟨holds.keyed.register other, List.mem_append_left _ holds.used⟩

theorem unregister (holds : l.Holds id listener) {other : ObserverId} (aside : id ≠ other) :
    (l.unregister other).Holds id listener :=
  ⟨holds.keyed.unregister other, List.mem_filter.mpr ⟨holds.used, decide_eq_true aside⟩⟩

theorem contains_eq (holds : l.Holds id listener) : l.contains id = true :=
  List.any_eq_true.mpr ⟨_, holds.used, decide_eq_true rfl⟩

theorem spent_unregister (holds : l.Holds id listener) : (l.unregister id).Spent id :=
  ⟨holds.keyed.numbered _ holds.used, fun _ member =>
    of_decide_eq_true (List.mem_filter.mp member).2⟩

end Holds

namespace Spent

theorem register (spent : l.Spent id) (listener : Listener) : (l.register listener).Spent id := by
  refine ⟨Nat.lt_succ_of_lt spent.given, ?_⟩
  refine List.forall_mem_append.mpr ⟨spent.unused, List.forall_mem_singleton.mpr ?_⟩
  rintro rfl
  exact Nat.lt_irrefl l.nextNumber spent.given

theorem unregister (spent : l.Spent id) (other : ObserverId) : (l.unregister other).Spent id :=
  ⟨spent.given, fun e member => spent.unused e (List.mem_of_mem_filter member)⟩

theorem contains_eq (spent : l.Spent id) : l.contains id = false := by
  rw [contains, List.any_eq_false]
  intro e member
  simpa using spent.unused e member

theorem unregister_eq (spent : l.Spent id) : l.unregister id = l := by
  have all : l.entries.filter (fun e => e.1 ≠ id) = l.entries :=
    List.filter_eq_self.mpr (by simpa using spent.unused)
  rw [ObserverList.unregister, all]

end Spent

def callbacks (l : ObserverList) : List (ObserverId × String) :=
  l.entries.filterMap fun e => e.2.tag?.map (e.1, ·)

theorem callbackTags_eq_map_callbacks (l : ObserverList) :
    l.callbackTags = l.callbacks.map Prod.snd := by
  rw [callbackTags, callbacks, List.map_filterMap]
  apply List.filterMap_congr
  intro e _
  cases e.2.tag? <;> rfl

@[simp] theorem callbacks_register_callback (l : ObserverList) (tag : String) :
    (l.register (.callback tag)).callbacks = l.callbacks ++ [(l.nextId, tag)] := by
  simp [register, callbacks, Listener.tag?]

@[simp] theorem callbacks_register_gate (l : ObserverList) (dependent : String) :
    (l.register (.gate dependent)).callbacks = l.callbacks := by
  simp [register, callbacks, Listener.tag?]

/-- A removal takes one handle from what any part of the listeners gives. -/
theorem filterMap_unregister {α : Type} (part : Listener → Option α) (l : ObserverList)
    (id : ObserverId) :
    ((l.unregister id).entries.filterMap fun e => (part e.2).map (e.1, ·)) =
      (l.entries.filterMap fun e => (part e.2).map (e.1, ·)).filter fun e => e.1 ≠ id := by
  unfold unregister
  rw [List.filterMap_filter, List.filter_filterMap]
  apply List.filterMap_congr
  intro e _
  cases part e.2 <;> by_cases same : e.1 = id <;> simp [same, Option.filter]

theorem callbacks_unregister (l : ObserverList) (id : ObserverId) :
    (l.unregister id).callbacks = l.callbacks.filter fun e => e.1 ≠ id :=
  filterMap_unregister Listener.tag? l id

def gates (l : ObserverList) : List (ObserverId × String) :=
  l.entries.filterMap fun e => e.2.dependent?.map (e.1, ·)

theorem gateTargets_eq_map_gates (l : ObserverList) : l.gateTargets = l.gates.map Prod.snd := by
  rw [gateTargets, gates, List.map_filterMap]
  apply List.filterMap_congr
  intro e _
  cases e.2.dependent? <;> rfl

@[simp] theorem gates_register_callback (l : ObserverList) (tag : String) :
    (l.register (.callback tag)).gates = l.gates := by
  simp [register, gates, Listener.dependent?]

theorem gates_unregister (l : ObserverList) (id : ObserverId) :
    (l.unregister id).gates = l.gates.filter fun e => e.1 ≠ id :=
  filterMap_unregister Listener.dependent? l id

theorem Numbered.number_lt_of_mem_gates (numbered : l.Numbered) {gate : ObserverId × String}
    (member : gate ∈ l.gates) : gate.1.number < l.nextNumber := by
  obtain ⟨e, used, same⟩ := List.mem_filterMap.mp member
  obtain ⟨dependent, -, rfl⟩ := Option.map_eq_some_iff.mp same
  exact numbered e used

/-- The observers but for the gates, with the handles as they are. -/
def ungated (l : ObserverList) : ObserverList :=
  { l with entries := l.entries.filter fun e => e.2.dependent?.isNone }

@[simp] theorem ungated_register_callback (l : ObserverList) (tag : String) :
    (l.register (.callback tag)).ungated = l.ungated.register (.callback tag) := by
  simp [ungated, register, nextId, Listener.dependent?]

@[simp] theorem ungated_register_gate (l : ObserverList) (dependent : String) :
    (l.register (.gate dependent)).ungated =
      { l.ungated with nextNumber := l.nextNumber + 1 } := by
  simp [ungated, register, Listener.dependent?]

theorem ungated_unregister (l : ObserverList) (id : ObserverId) :
    (l.unregister id).ungated = l.ungated.unregister id := by
  simp only [ungated, unregister, List.filter_filter, Bool.and_comm]

theorem callbackTags_ungated (l : ObserverList) : l.ungated.callbackTags = l.callbackTags := by
  rw [callbackTags, callbackTags, ungated, List.filterMap_filter]
  apply List.filterMap_congr
  intro e _
  cases e.2 <;> rfl

end LiveForm.ObserverList
