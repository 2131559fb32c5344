import LiveForm.Proofs.Form.Reached
import LiveForm.Proofs.Observer

/-!
# The callbacks that a host has

A host subscribes callbacks and removes them by their handles. `Form.subscribed` keeps the account
of this from the actions alone, without a look at the lists of observers, and in every reached form
these are the callbacks that the controls have, in the order in which they were subscribed.
-/

namespace LiveForm

/-- A callback that a host has on a control. -/
structure Subscription where
  control : String
  id : ObserverId
  tag : String

namespace Form

/-- The subscriptions of a host after an action: a new one comes last, a removed one is gone. -/
def hold (f : Form) (held : List Subscription) : Action → List Subscription
  | .subscribe name tag =>
    match f.subscribe name tag with
    | .ok (id, _) => held ++ [⟨name, id, tag⟩]
    | .error _ => held
  | .unsubscribe name id => held.filter fun s => ¬ (s.control = name ∧ s.id = id)
  | _ => held

def holdAll (f : Form) (held : List Subscription) : List Action → List Subscription
  | [] => held
  | a :: rest => holdAll (f.perform a).form (f.hold held a) rest

def subscribed (f : Form) (actions : List Action) (name : String) : List String :=
  ((f.holdAll [] actions).filter fun s => s.control = name).map Subscription.tag

def heldOn (held : List Subscription) (name : String) : List (ObserverId × String) :=
  (held.filter fun s => s.control = name).map fun s => (s.id, s.tag)

variable {f : Form} {held : List Subscription} {c : Control}

theorem heldOn_append_singleton (held : List Subscription) (s : Subscription) (name : String) :
    heldOn (held ++ [s]) name =
      heldOn held name ++ if s.control = name then [(s.id, s.tag)] else [] := by
  unfold heldOn
  by_cases here : s.control = name <;> simp [here]

theorem heldOn_removed (held : List Subscription) (other : String) (id : ObserverId)
    (name : String) :
    heldOn (held.filter fun s => ¬ (s.control = other ∧ s.id = id)) name =
      if name = other then (heldOn held name).filter fun e => e.1 ≠ id else heldOn held name := by
  unfold heldOn
  split
  case isTrue here =>
    subst here
    rw [List.filter_map, List.filter_filter, List.filter_filter]
    congr 1
    apply List.filter_congr
    intro s _
    by_cases same : s.control = name <;> simp [same]
  case isFalse elsewhere =>
    rw [List.filter_filter]
    congr 1
    apply List.filter_congr
    intro s _
    by_cases same : s.control = name <;> simp [same, elsewhere]

/-- An action changes the callbacks of a control as it changes the subscriptions on it. -/
theorem callbacks_effect (consistent : f.Consistent) (member : c ∈ f.controls)
    (same : c.observers.callbacks = heldOn held c.name) (a : Action) :
    (f.effect a c).observers.callbacks = heldOn (f.hold held a) c.name := by
  have others : ∀ a, (∀ name tag, a ≠ .subscribe name tag) → (∀ name id, a ≠ .unsubscribe name id) →
      (f.effect a c).observers.callbacks = heldOn held c.name := by
    intro a noSubscribe noUnsubscribe
    exact observers_effect_cases (P := fun l => l.callbacks = heldOn held c.name) f a c same
      (fun name tag equal => absurd equal (noSubscribe name tag))
      fun name id equal => absurd equal (noUnsubscribe name id)
  cases a with
  | subscribe name tag =>
    rw [effect, hold, subscribe, register]
    cases found : f.control? name with
    | none =>
      have elsewhere : c.name ≠ name := by
        rintro rfl
        simp [consistent.control?_name member] at found
      rw [Control.at_eq_of_name_ne elsewhere]
      exact same
    | some d =>
      rw [heldOn_append_singleton]
      by_cases here : c.name = name
      · subst here
        obtain rfl := Option.some.inj ((consistent.control?_name member).symm.trans found)
        simp [Control.at, Control.register, same]
      · simp [Control.at_eq_of_name_ne here, same, Ne.symm here]
  | unsubscribe name id =>
    rw [effect, hold, heldOn_removed]
    by_cases here : c.name = name
    · rw [Control.at_eq_of_name_eq here, if_pos here, Control.unregister,
        ObserverList.callbacks_unregister, same]
    · rw [Control.at_eq_of_name_ne here, if_neg here]
      exact same
  | _ => exact others _ (by simp) (by simp)

/-- The callbacks of the controls are the subscriptions of the host. -/
def Accounts (f : Form) (held : List Subscription) : Prop :=
  ∀ c ∈ f.controls, c.observers.callbacks = heldOn held c.name

theorem Accounts.perform (accounts : f.Accounts held) (sound : f.Sound) (a : Action) :
    (f.perform a).form.Accounts (f.hold held a) := by
  rw [perform_form_eq sound]
  refine List.forall_mem_map.mpr ?_
  intro c member
  rw [name_effect]
  exact callbacks_effect sound.consistent member (accounts c member) a

theorem Accounts.run (accounts : f.Accounts held) (sound : f.Sound) (actions : List Action) :
    (f.run actions).form.Accounts (f.holdAll held actions) := by
  induction actions generalizing f held with
  | nil => exact accounts
  | cons a rest ih =>
    rw [run_cons]
    exact ih (accounts.perform sound a) (sound.perform a)

theorem callbacks_gatesAdded (fields : List Field) (name : String) (observers : ObserverList) :
    (gatesAdded fields name observers).callbacks = observers.callbacks :=
  gatesAdded_keeps (P := fun l => l.callbacks = observers.callbacks)
    (fun l dependent same => (l.callbacks_register_gate dependent).trans same) fields name rfl

theorem callbackTags_reached (schema : Schema) (initial : Json.Entries) (actions : List Action)
    (member : c ∈ (reached schema initial actions).controls) :
    c.observers.callbackTags = (compile schema initial).form.subscribed actions c.name := by
  have start : (compile schema initial).form.Accounts [] := by
    intro c member
    rw [observers_compile schema initial member, callbacks_gatesAdded]
    rfl
  have accounts := start.run (compile_sound schema initial) actions c member
  rw [ObserverList.callbackTags_eq_map_callbacks, accounts, heldOn, List.map_map]
  rfl

end Form

end LiveForm
