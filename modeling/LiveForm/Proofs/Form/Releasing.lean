import LiveForm.Proofs.Form.Delivering
import LiveForm.Proofs.Form.Detaching

/-!
# Delivered once, removed once

A control that is written tells its observers once, however often its value comes round to it: by
then the control is notifying. So each callback on it is called once, in the order of subscription.

The handles that a host is given for a control are numbered on from those of the gates, also when
some have been removed, and so a removal takes out the one registration that its handle was given
for. `Sound.observers_run` carries what holds of the observers of a control through a run: a
registration stays until its handle is removed, and after that the handle is in use no more.
-/

namespace LiveForm.Form

def Action.subscribes (name : String) : Action → Bool
  | .subscribe other _ => other = name
  | _ => false

/-- The handles that some actions give to the host on a control, in order. -/
def issuedOn (f : Form) (name : String) : List Action → List ObserverId
  | [] => []
  | a :: rest =>
    ((f.issues a).filter fun given => given.1 = name).map Prod.snd ++
      (f.perform a).form.issuedOn name rest

/-- The removal of a handle succeeds and takes out one callback of the control, while the other
callbacks and the gates keep their handles and their order. -/
def Releases (f : Form) (name : String) (id : ObserverId) (tag : String) : Prop :=
  ∃ c front back, f.control? name = some c ∧
    c.observers.entries = front ++ (id, .callback tag) :: back ∧
    f.unsubscribe name id = (true, f.update name fun c =>
      { c with observers := { c.observers with entries := front ++ back } })

variable {f f' : Form} {name tag : String} {id : ObserverId} {c : Control}

theorem Consistent.mem_names_of_setValue (consistent : f.Consistent) {value : Json} {o : Outcome}
    (done : f.setValue name value = .ok o) : name ∈ f.names := by
  by_contra unknown
  rw [setValue_eq_error consistent unknown] at done
  cases done

/-- A write by the user calls the callbacks on the written control once, with the written value. -/
theorem Sound.callsOn_written (sound : f.Sound) {value : Json} {o : Outcome}
    (done : f.setValue name value = .ok o) : o.callsOn name = f.callsWith name value := by
  have known := sound.consistent.mem_names_of_setValue done
  obtain ⟨o', done', -, once⟩ := sound.orderly_setValue known value
  obtain rfl := Except.ok.inj (done.symm.trans done')
  have performed : f.perform (.setValue name value) = o := by
    rw [Form.perform, done]
    rfl
  have told := (perform_setValue_told sound known value).2.1 name
  have called := sound.callsOn_setValue known value name
  rw [performed] at told called
  have count : o.told.count name = 1 :=
    Nat.le_antisymm once (List.count_pos_iff.mpr (told.mpr (.inl rfl)))
  rw [called, count, List.replicate_one, List.flatten_singleton, Function.update_self]

section Issued

theorem nextNumber_effect (f : Form) (a : Action) (c : Control) :
    (f.effect a c).observers.nextNumber =
      c.observers.nextNumber + if a.subscribes c.name then 1 else 0 := by
  have others : (∀ name tag, a ≠ .subscribe name tag) →
      (f.effect a c).observers.nextNumber = c.observers.nextNumber := fun noSubscribe =>
    observers_effect_cases (P := fun l => l.nextNumber = c.observers.nextNumber) f a c rfl
      (fun name tag same => absurd same (noSubscribe name tag)) fun _ _ _ _ => rfl
  cases a with
  | subscribe name tag =>
    rw [effect]
    by_cases here : c.name = name
    · simp [Control.at_eq_of_name_eq here, Action.subscribes, here, Control.register,
        ObserverList.register]
    · simp [Control.at_eq_of_name_ne here, Action.subscribes, Ne.symm here]
  | _ => simp [others, Action.subscribes]

/-- A subscription on a control gives its next handle, and no other action gives any. -/
theorem issues_on (found : f.control? name = some c) (a : Action) :
    ((f.issues a).filter fun given => given.1 = name).map Prod.snd =
      if a.subscribes name then [c.observers.nextId] else [] := by
  cases a with
  | subscribe other tag =>
    rw [issues, subscribe, register]
    rcases eq_or_ne other name with rfl | elsewhere
    · simp [found, Action.subscribes]
    · cases f.control? other <;> simp [Action.subscribes, elsewhere]
  | _ => simp [issues, Action.subscribes]

theorem Sound.control?_perform (sound : f.Sound) (found : f.control? name = some c) (a : Action) :
    (f.perform a).form.control? name = some (f.effect a c) := by
  rw [perform_form_eq sound, control?_mapControls, found, Option.map_some]

/-- The handles that a run gives on a control are numbered on from its next one. -/
theorem Sound.issuedOn_eq (sound : f.Sound) (found : f.control? name = some c)
    (actions : List Action) :
    f.issuedOn name actions =
      (List.range' c.observers.nextNumber (actions.countP (·.subscribes name))).map
        ObserverId.mk := by
  induction actions generalizing f c with
  | nil => rfl
  | cons a rest ih =>
    obtain ⟨-, named⟩ := sound.consistent.control?_eq_some_iff.mp found
    rw [issuedOn, issues_on found, ih (sound.perform a) (sound.control?_perform found a),
      nextNumber_effect, named, List.countP_cons]
    split
    · rw [List.range'_succ, List.map_cons]
      rfl
    · rfl

theorem issuedOn_of_unknown (sound : f.Sound) (unknown : f.control? name = none)
    (actions : List Action) : f.issuedOn name actions = [] := by
  induction actions generalizing f with
  | nil => rfl
  | cons a rest ih =>
    have after : (f.perform a).form.control? name = none := by
      rw [perform_form_eq sound, control?_mapControls, unknown, Option.map_none]
    have none : ((f.issues a).filter fun given => given.1 = name) = [] := by
      refine List.filter_eq_nil_iff.mpr fun given member here => ?_
      obtain ⟨c, found, -⟩ := eq_nextId_of_mem_issues member
      rw [of_decide_eq_true here, unknown] at found
      cases found
    rw [issuedOn, none, ih (sound.perform a) after]
    rfl

theorem Sound.number_of_mem_issuedOn (sound : f.Sound) (found : f.control? name = some c)
    {actions : List Action} (member : id ∈ f.issuedOn name actions) :
    c.observers.nextNumber ≤ id.number ∧
      id.number < c.observers.nextNumber + (f.issuedOn name actions).length := by
  rw [sound.issuedOn_eq found] at member ⊢
  obtain ⟨number, inRange, rfl⟩ := List.mem_map.mp member
  rw [List.length_map, List.length_range']
  exact List.mem_range'_1.mp inRange

variable {schema : Schema} {initial : Json.Entries}

/-- The gates of a compiled control have used up all handles before the next one. -/
theorem nextNumber_compile (member : c ∈ (compile schema initial).form.controls) :
    c.observers.nextNumber = c.observers.gates.length := by
  rw [observers_compile schema initial member, gates_gatesAdded, gatesAdded_eq, List.length_append,
    List.length_map, List.length_zipIdx]
  rfl

/-- The handles that a host is given on a control are distinct, none is that of a gate, and their
numbers are smaller than the number of registrations. -/
theorem issuedOn_compile (schema : Schema) (initial : Json.Entries) (actions : List Action)
    (name : String) :
    let start := (compile schema initial).form
    let given := start.issuedOn name actions
    given.Nodup ∧ (∀ gate ∈ start.gates name, gate.1 ∉ given) ∧
      ∀ id ∈ given, id.number < (start.gates name).length + given.length := by
  intro start given
  have sound : start.Sound := compile_sound schema initial
  cases found : start.control? name with
  | none =>
    rw [show given = [] from issuedOn_of_unknown sound found actions]
    exact ⟨List.nodup_nil, fun _ _ => List.not_mem_nil, fun _ member => nomatch member⟩
  | some c =>
    have compiled := mem_controls_of_control? found
    have numbered := (keyed_compile schema initial compiled).numbered
    rw [gates, found, Option.elim_some]
    refine ⟨?_, fun gate member again => ?_, fun id member => ?_⟩
    · rw [show given = _ from sound.issuedOn_eq found actions]
      exact (List.nodup_range' ..).map fun _ _ same => congrArg ObserverId.number same
    · have later := (sound.number_of_mem_issuedOn found again).1
      exact Nat.not_le_of_lt (numbered.number_lt_of_mem_gates member) later
    · rw [← nextNumber_compile compiled]
      exact (sound.number_of_mem_issuedOn found member).2

end Issued

section Removed

/-- What holds of the observers of a control holds after a run if subscriptions keep it and the
removals of the run do. -/
theorem Sound.observers_run {P : ObserverList → Prop} (sound : f.Sound)
    (found : f.control? name = some c) (start : P c.observers)
    (registered : ∀ l tag, P l → P (l.register (.callback tag))) {actions : List Action}
    (removed : ∀ l id, .unsubscribe name id ∈ actions → P l → P (l.unregister id)) :
    ∃ d, (f.run actions).form.control? name = some d ∧ P d.observers := by
  induction actions generalizing f c with
  | nil => exact ⟨c, found, start⟩
  | cons a rest ih =>
    have named := (sound.consistent.control?_eq_some_iff.mp found).2
    have next : P (f.effect a c).observers := by
      refine observers_effect_cases f a c start (fun _ tag _ => registered _ tag start) ?_
      rintro other id rfl here
      exact removed _ id (by simp [← named, here]) start
    rw [run_cons]
    exact ih (sound.perform a) (sound.control?_perform found a) next fun l id member =>
      removed l id (List.mem_cons_of_mem a member)

/-- A callback that holds a handle can be removed by it. -/
theorem Sound.releases (sound : f.Sound) (found : f.control? name = some c)
    (holds : c.observers.Holds id (.callback tag)) : f.Releases name id tag := by
  obtain ⟨front, back, split⟩ := List.append_of_mem holds.used
  refine ⟨c, front, back, found, split, ?_⟩
  rw [unsubscribe, found]
  show (c.observers.contains id, _) = _
  rw [holds.contains_eq]
  congr 1
  apply sound.consistent.update_congr found
  rw [Control.unregister, holds.keyed.unregister_eq split]

/-- The removal of a handle that is in use no more does nothing. -/
theorem Sound.unsubscribe_of_spent (sound : f.Sound) (found : f.control? name = some c)
    (spent : c.observers.Spent id) : f.unsubscribe name id = (false, f) := by
  rw [unsubscribe, found]
  show (c.observers.contains id, _) = _
  rw [spent.contains_eq, sound.consistent.update_eq_self found]
  rw [Control.unregister, spent.unregister_eq]

/-- A handle that was removed once removes nothing, whatever the host does in between. -/
theorem Sound.unsubscribe_again (sound : f.Sound) (found : f.control? name = some c)
    {listener : Listener} (holds : c.observers.Holds id listener) (later : List Action) :
    let h := ((f.unsubscribe name id).2.run later).form
    h.unsubscribe name id = (false, h) := by
  have spent : (f.effect (.unsubscribe name id) c).observers.Spent id := by
    have named := (sound.consistent.control?_eq_some_iff.mp found).2
    rw [effect, Control.at_eq_of_name_eq named]
    exact holds.spent_unregister
  have after := sound.perform (.unsubscribe name id)
  obtain ⟨d, found', spent'⟩ := after.observers_run (P := (·.Spent id))
    (sound.control?_perform found _) spent (fun _ _ spent => spent.register _)
    fun _ other (_ : _ ∈ later) spent => spent.unregister other
  exact (after.run later).unsubscribe_of_spent found' spent'

theorem Sound.holds_subscribe (sound : f.Sound) (keyed : ∀ c ∈ f.controls, c.observers.Keyed)
    (done : f.subscribe name tag = .ok (id, f')) :
    ∃ c, f'.control? name = some c ∧ c.observers.Holds id (.callback tag) := by
  rw [subscribe, Form.register] at done
  split at done
  case h_1 c found =>
    obtain ⟨rfl, rfl⟩ := Prod.mk.inj (Except.ok.inj done)
    rw [sound.consistent.update_eq, sound.consistent.control?_mapControls_at found]
    exact ⟨_, rfl, (keyed c (mem_controls_of_control? found)).holds_register _⟩
  case h_2 => cases done

/-- The handle that a subscription gives removes its callback, whatever the host does in between but
for this removal, and it removes nothing from then on. -/
theorem Sound.released (sound : f.Sound) (keyed : ∀ c ∈ f.controls, c.observers.Keyed)
    (done : f.subscribe name tag = .ok (id, f')) {between : List Action}
    (kept : .unsubscribe name id ∉ between) :
    let g := (f'.run between).form
    g.Releases name id tag ∧ ∀ later,
      let h := ((g.unsubscribe name id).2.run later).form
      h.unsubscribe name id = (false, h) := by
  intro g
  have performed : (f.perform (.subscribe name tag)).form = f' := by
    rw [Form.perform, done]
    rfl
  have sound' : f'.Sound := performed ▸ sound.perform (.subscribe name tag)
  obtain ⟨c, found, holds⟩ := sound.holds_subscribe keyed done
  obtain ⟨d, found', holds'⟩ := sound'.observers_run (P := (·.Holds id (.callback tag))) found holds
    (fun _ other holds => holds.register (.callback other))
    fun _ other member holds => holds.unregister fun same => kept (same ▸ member)
  exact ⟨(sound'.run between).releases found' holds',
    (sound'.run between).unsubscribe_again found' holds'⟩

end Removed

variable {schema : Schema} {initial : Json.Entries} {actions : List Action}

theorem keyed_reached (member : c ∈ (reached schema initial actions).controls) :
    c.observers.Keyed := by
  refine ((compile_sound schema initial).run_keeps
    (P := fun f => ∀ c ∈ f.controls, c.observers.Keyed) ?_
    (fun c => keyed_compile schema initial) actions).2 c member
  intro f a sound keyed
  rw [perform_form_eq sound]
  refine List.forall_mem_map.mpr fun c member => ?_
  exact observers_effect_cases f a c (keyed c member) (fun _ _ _ => (keyed c member).register _)
    fun _ id _ _ => (keyed c member).unregister id

/-- Whatever a host does with the form of any schema: a write by the user that succeeds calls each
callback that the host has on the written control once, with the written value and in the order of
subscription. The handles that the host is given on a control are distinct from each other and from
those of its gates. The first removal of such a handle takes out the callback that it was given for
and nothing else, and later ones do nothing. -/
theorem subscriptions_exact (schema : Schema) (initial : Json.Entries) (actions : List Action)
    (name : String) :
    let start := (compile schema initial).form
    let f := reached schema initial actions
    let given := start.issuedOn name actions
    (∀ value o, f.setValue name value = .ok o →
      o.callsOn name = (start.subscribed actions name).map fun tag => (tag, name, value)) ∧
    (given.Nodup ∧ (∀ gate ∈ start.gates name, gate.1 ∉ given) ∧
      ∀ id ∈ given, id.number < (start.gates name).length + given.length) ∧
    ∀ tag id f', f.subscribe name tag = .ok (id, f') →
      ∀ between, .unsubscribe name id ∉ between →
        let g := (f'.run between).form
        g.Releases name id tag ∧ ∀ later,
          let h := ((g.unsubscribe name id).2.run later).form
          h.unsubscribe name id = (false, h) := by
  intro start f given
  have sound : f.Sound := reached_sound schema initial actions
  refine ⟨fun value o done => ?_, issuedOn_compile schema initial actions name, ?_⟩
  · have known := (mem_names_reached schema initial actions name).mp
      (sound.consistent.mem_names_of_setValue done)
    rw [sound.callsOn_written done, callsWith_reached schema initial actions known]
  · intro tag id f' done between kept
    exact sound.released (fun _ => keyed_reached) done kept

def knot : Schema where
  fields := [
    { label := "Left", name := "left", type := .text, dependsOn := some "right" },
    { label := "Right", name := "right", type := .text, dependsOn := some "left" },
    { label := "Right", name := "right", type := .text, dependsOn := some "left" }]

/-- The left control has two gates, and its callbacks are numbered on from two. The value that is
written comes round to it twice, which calls no callback again. -/
theorem subscriptions_exact_knot :
    let actions := [.subscribe "left" "log", .subscribe "left" "map", .unsubscribe "left" ⟨2⟩]
    let start := (compile knot []).form
    let f := reached knot [] actions
    start.gates "left" = [(⟨0⟩, "right"), (⟨1⟩, "right")] ∧
      start.issuedOn "left" actions = [⟨2⟩, ⟨3⟩] ∧ (start.issuedOn "left" actions).Nodup ∧
      (∃ o, f.setValue "left" .null = .ok o ∧ o.callsOn "left" = [("map", "left", .null)]) ∧
      ∃ f', f.subscribe "left" "log" = .ok (⟨4⟩, f') ∧ f'.Releases "left" ⟨4⟩ "log" := by
  intro actions start f
  obtain ⟨delivered, ⟨distinct, -⟩, released⟩ := subscriptions_exact knot [] actions "left"
  obtain ⟨o, done, -⟩ := (reached_sound knot [] actions).orderly_setValue
    ((mem_names_reached knot [] actions "left").mpr (by decide)) .null
  have subscribed : start.subscribed actions "left" = ["map"] := rfl
  refine ⟨rfl, rfl, distinct, ⟨o, done, ?_⟩, _, rfl, ?_⟩
  · rw [delivered .null o done]
    exact congrArg (List.map fun tag => (tag, "left", Json.null)) subscribed
  · exact (released "log" ⟨4⟩ _ rfl [] List.not_mem_nil).1

end LiveForm.Form
