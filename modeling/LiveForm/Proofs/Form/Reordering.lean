import LiveForm.Proofs.Form.Commuting
import LiveForm.Proofs.Form.Delivering
import LiveForm.Proofs.Form.Gating
import LiveForm.Proofs.Form.Standing

/-!
# The order of the fields

Forms of the same fields in another order wire them in another order, so their gates are applied in
another order and a value that spreads takes another way. The forms meet again when it has settled,
since what a write settles depends on the gates of a control only as a set. On the way each control
is told once at most and with the same value, so every callback is called alike; only the calls on
different controls may change places.
-/

namespace LiveForm

/-- A control but for its gates, with the handles as they are. -/
def Control.ungated (c : Control) : Control := { c with observers := c.observers.ungated }

namespace Control

theorem ungated_setDisabled (c : Control) (disabled : Bool) :
    (c.setDisabled disabled).ungated = c.ungated.setDisabled disabled := by
  have flag : c.ungated.disabled = c.disabled := rfl
  rw [setDisabled, setDisabled, flag]
  split <;> rfl

/-- A change that has nothing to do with gates may as well be made without them. -/
theorem ungated_at {name : String} {change : Control → Control} (c : Control)
    (aside : ∀ c, (change c).ungated = change c.ungated) :
    (c.at name change).ungated = c.ungated.at name change := by
  show (if c.name = name then change c else c).ungated =
    if c.name = name then change c.ungated else c.ungated
  split
  · exact aside c
  · rfl

end Control

namespace Form

variable {f f' : Form} {name : String} {value : Json}

/-- What an action does to a control has nothing to do with the gates of this control. -/
theorem ungated_effect (f : Form) (a : Action) (c : Control) :
    (f.effect a c).ungated = f.effect a c.ungated := by
  cases a with
  | setValue name value =>
    have named : c.ungated.name = c.name := rfl
    rw [effect, settled, settled, named]
    split
    · rfl
    · split
      · rfl
      · split <;> rfl
  | setValueSilently name value => exact c.ungated_at fun _ => rfl
  | touch name => exact c.ungated_at fun _ => rfl
  | touchAll => rfl
  | subscribe name tag =>
    refine c.ungated_at fun c => ?_
    rw [Control.ungated, Control.register, ObserverList.ungated_register_callback]
    rfl
  | unsubscribe name id =>
    refine c.ungated_at fun c => ?_
    rw [Control.ungated, Control.unregister, ObserverList.ungated_unregister]
    rfl
  | submit options =>
    rw [effect]
    split <;> rfl

/-- Two sound forms whose controls, name by name, are the same but for the order of their gates. -/
structure Reordered (f f' : Form) : Prop where
  sound : f.Sound
  sound' : f'.Sound
  branching : f.Branching
  branching' : f'.Branching
  names_perm : f.names.Perm f'.names
  mem_children_iff : ∀ parent child, child ∈ f.children parent ↔ child ∈ f'.children parent
  ungated_eq : ∀ name,
    (f.control? name).map Control.ungated = (f'.control? name).map Control.ungated

namespace Reordered

theorem map_part_eq {α : Type} (same : f.Reordered f') (part : Control → α)
    (aside : ∀ c, part c.ungated = part c) (name : String) :
    (f.control? name).map part = (f'.control? name).map part := by
  have through : part = part ∘ Control.ungated := funext fun c => (aside c).symm
  rw [through, ← Option.map_map, ← Option.map_map, same.ungated_eq name]

theorem standings_perm (same : f.Reordered f') : f.standings.Perm f'.standings :=
  same.sound.consistent.standings_perm same.sound'.consistent same.names_perm
    (same.map_part_eq Control.standing fun _ => rfl)

theorem isValid_eq (same : f.Reordered f') : f.isValid = f'.isValid := by
  rw [isValid_eq_standings, isValid_eq_standings, same.standings_perm.all_eq]

theorem submit_rearranged (same : f.Reordered f') (options : SubmitOptions) :
    (f.submit options).result.Rearranged (f'.submit options).result := by
  rw [result_submit, result_submit]
  refine Submission.ofStandings_perm options ?_ same.standings_perm
  rw [← names_eq_standings]
  exact same.sound.consistent.names_nodup

theorem effect_eq (same : f.Reordered f') : f.effect = f'.effect := by
  funext a
  cases a with
  | setValue name value =>
    rw [effect, effect, settled_congr same.mem_children_iff]
  | submit options => rw [effect, effect, same.isValid_eq]
  | _ => rfl

theorem emptyValue_eq (same : f.Reordered f') : f.emptyValue = f'.emptyValue := by
  funext name
  have types := same.map_part_eq (fun c => c.type.defaultValue) (fun _ => rfl) name
  rw [emptyValue, emptyValue, types]

theorem callsWith_eq (same : f.Reordered f') : f.callsWith = f'.callsWith := by
  funext name value
  have tags := same.map_part_eq (fun c => c.observers.callbackTags)
    (fun c => c.observers.callbackTags_ungated) name
  rw [callsWith_eq_map, callsWith_eq_map, tags]

end Reordered

open Classical in
/-- Where every control has one parent at most, a write by the user calls the callbacks on a control
that it reaches once, in the order of their registration, with the value that is written or that the
control is reset to. -/
theorem Branching.callsOn_setValue (branching : f.Branching) (sound : f.Sound)
    (known : name ∈ f.names) (value : Json) (n : String) :
    (f.perform (.setValue name value)).callsOn n =
      if n = name ∨ (value.isTruthy = false ∧ f.Descends name n) then
        f.callsWith n (Function.update f.emptyValue name value n)
      else [] := by
  have once := branching.told_nodup sound name value
  have reached := (perform_setValue_told sound known value).2.1 n
  rw [sound.callsOn_setValue known]
  split
  case isTrue heard =>
    rw [List.count_eq_one_of_mem once (reached.mpr heard), List.replicate_one,
      List.flatten_singleton]
  case isFalse deaf =>
    rw [List.count_eq_zero_of_not_mem (mt reached.mp deaf), List.replicate_zero, List.flatten_nil]

namespace Reordered

/-- An action calls the callbacks on each control alike. -/
theorem callsOn_perform (same : f.Reordered f') (a : Action) (n : String) :
    (f.perform a).callsOn n = (f'.perform a).callsOn n := by
  by_cases quiet : ∀ name value, a ≠ .setValue name value
  · rw [Outcome.callsOn, Outcome.callsOn, calls_perform_eq_nil quiet, calls_perform_eq_nil quiet]
  · push Not at quiet
    obtain ⟨name, value, rfl⟩ := quiet
    by_cases known : name ∈ f.names
    · rw [same.branching.callsOn_setValue same.sound known,
        same.branching'.callsOn_setValue same.sound' (same.names_perm.mem_iff.mp known),
        descends_congr same.mem_children_iff, same.emptyValue_eq, same.callsWith_eq]
    · have unknown : name ∉ f'.names := mt same.names_perm.mem_iff.mpr known
      rw [Form.perform, Form.perform, setValue_eq_error same.sound.consistent known,
        setValue_eq_error same.sound'.consistent unknown]
      rfl

/-- An action other than a removal leaves the forms the same but for the order. -/
theorem perform (same : f.Reordered f') {a : Action} (kept : ∀ name id, a ≠ .unsubscribe name id) :
    (f.perform a).form.Reordered (f'.perform a).form := by
  have children : ∀ {g : Form}, g.Sound → (g.perform a).form.children = g.children := by
    intro g sound
    rw [perform_form_eq sound]
    exact children_mapControls fun c _ =>
      gateTargets_effect fun id removal => absurd removal (kept c.name id)
  refine ⟨same.sound.perform a, same.sound'.perform a,
    same.branching.of_sublist (children_perform_sublist same.sound a),
    same.branching'.of_sublist (children_perform_sublist same.sound' a), ?_, ?_, ?_⟩
  · rw [perform_form_eq same.sound, perform_form_eq same.sound',
      names_mapControls (name_effect f a), names_mapControls (name_effect f' a)]
    exact same.names_perm
  · rw [children same.sound, children same.sound']
    exact same.mem_children_iff
  -- What the action does to a control without its gates is the same function in both forms.
  · intro name
    have moved : ∀ g : Form, Control.ungated ∘ g.effect a = g.effect a ∘ Control.ungated :=
      fun g => funext (ungated_effect g a)
    rw [perform_form_eq same.sound, perform_form_eq same.sound', control?_mapControls,
      control?_mapControls, Option.map_map, Option.map_map, moved, moved, ← Option.map_map,
      ← Option.map_map, same.ungated_eq, same.effect_eq]

/-- So does a run, and it calls the callbacks on each control alike. -/
theorem run (same : f.Reordered f') {actions : List Action}
    (kept : ∀ name id, .unsubscribe name id ∉ actions) :
    (f.run actions).form.Reordered (f'.run actions).form ∧
      ∀ n, (f.run actions).callsOn n = (f'.run actions).callsOn n := by
  induction actions generalizing f f' with
  | nil => exact ⟨same, fun _ => rfl⟩
  | cons a rest ih =>
    have keptFirst : ∀ name id, a ≠ .unsubscribe name id := fun name id removal =>
      kept name id (removal ▸ List.mem_cons_self)
    obtain ⟨final, called⟩ := ih (same.perform keptFirst) fun name id member =>
      kept name id (List.mem_cons_of_mem a member)
    rw [run_cons, run_cons]
    refine ⟨final, fun n => ?_⟩
    refine (callsOn_append _ f _ _ n).trans (Eq.trans ?_ (callsOn_append _ f' _ _ n).symm)
    exact congrArg₂ (· ++ ·) (same.callsOn_perform a n) (called n)

end Reordered

variable {schema schema' : Schema}

/-- The gates that some fields add take as many handles as there are fields that depend on the
control. -/
theorem ungated_gatesAdded (fields : List Field) (name : String) (observers : ObserverList) :
    (gatesAdded fields name observers).ungated = { observers.ungated with
      nextNumber := observers.nextNumber +
        (fields.filter fun field => field.dependsOn = some name).length } := by
  unfold gatesAdded
  induction fields.filter (fun field => field.dependsOn = some name) generalizing observers with
  | nil => rfl
  | cons field rest ih =>
    rw [List.foldl_cons, ih, ObserverList.ungated_register_gate, List.length_cons]
    simp [ObserverList.register, Nat.add_comm, Nat.add_left_comm]

/-- Fields in another order wire a control alike but for the order of its gates. -/
theorem ungated_wired (blocks : f.blocks = f'.blocks) {fields fields' : List Field}
    (perm : fields.Perm fields') (c : Control) :
    (f.wired fields c).ungated = (f'.wired fields' c).ungated := by
  have gates : (gatesAdded fields c.name c.observers).ungated =
      (gatesAdded fields' c.name c.observers).ungated := by
    rw [ungated_gatesAdded, ungated_gatesAdded, (perm.filter _).length_eq]
  have gated : Control.ungated { c with observers := gatesAdded fields c.name c.observers } =
      Control.ungated { c with observers := gatesAdded fields' c.name c.observers } := by
    simp only [Control.ungated, gates]
  rw [wired, wired, blocks, perm.any_eq]
  split
  · rw [Control.ungated_setDisabled, gated, Control.ungated_setDisabled]
  · exact gated

theorem value?_compile_perm (distinct : schema.names.Nodup)
    (perm : schema.fields.Perm schema'.fields) (initial : Json.Entries) :
    (compile schema initial).form.value? = (compile schema' initial).form.value? := by
  have distinct' : schema'.names.Nodup := (perm.map Field.name).nodup_iff.mp distinct
  funext name
  ext value
  rw [value?_compile_eq_some_iff distinct, value?_compile_eq_some_iff distinct']
  simp only [perm.mem_iff]

theorem reordered_compile (distinct : schema.names.Nodup)
    (perm : schema.fields.Perm schema'.fields) (initial : Json.Entries) :
    (compile schema initial).form.Reordered (compile schema' initial).form := by
  have namesPerm : schema.names.Perm schema'.names := perm.map Field.name
  have distinct' : schema'.names.Nodup := namesPerm.nodup_iff.mp distinct
  have sound := compile_sound schema initial
  have sound' := compile_sound schema' initial
  have names : (compile schema initial).form.names = schema.names :=
    names_reached distinct initial []
  have names' : (compile schema' initial).form.names = schema'.names :=
    names_reached distinct' initial []
  refine ⟨sound, sound', branching_compile distinct initial, branching_compile distinct' initial,
    ?_, ?_, ?_⟩
  · rwa [names, names']
  · intro parent child
    simp only [mem_children_compile, namesPerm.mem_iff, perm.mem_iff]
  · intro name
    by_cases known : name ∈ schema.names
    · obtain ⟨field, declaredField, rfl⟩ := List.mem_map.mp known
      have blocks : (declared schema initial).blocks = (declared schema' initial).blocks := by
        funext field
        rw [Form.blocks, Form.blocks, ← value?_compile, ← value?_compile,
          value?_compile_perm distinct perm]
      rw [control?_compile_eq distinct initial declaredField,
        control?_compile_eq distinct' initial (perm.mem_iff.mp declaredField), Option.map_some,
        Option.map_some, ungated_wired blocks perm]
    · rw [control?_compile_eq_none known,
        control?_compile_eq_none (mt namesPerm.mem_iff.mpr known)]

/-- Two schemas that declare the same fields in different orders give forms on which a host that
removes no registration sees the same: after every run, and so after every step of it, each control
is the same but for the order of its gates; its callbacks were called with the same values in the
same order; and a submission has a result of the same kind with the same entries or names. -/
theorem field_order_irrelevant (distinct : schema.names.Nodup)
    (perm : schema.fields.Perm schema'.fields) (initial : Json.Entries) (actions : List Action)
    (kept : ∀ name id, .unsubscribe name id ∉ actions) :
    let o := (compile schema initial).form.run actions
    let o' := (compile schema' initial).form.run actions
    (∀ name, (o.form.control? name).map Control.ungated =
        (o'.form.control? name).map Control.ungated) ∧
      (∀ name, o.callsOn name = o'.callsOn name) ∧
      ∀ options, (o.form.submit options).result.Rearranged (o'.form.submit options).result := by
  intro o o'
  obtain ⟨same, called⟩ := (reordered_compile distinct perm initial).run kept
  exact ⟨same.ungated_eq, called, same.submit_rearranged⟩

def circling : List Action :=
  [.subscribe "right" "log", .subscribe "left" "log", .subscribe "note" "log",
    .setValue "left" (.string "on"), .setValue "left" .null]

/-- The note is told before or after the field on the cycle, and each of them is told the same. -/
theorem field_order_irrelevant_tangle :
    let reversed : Schema := { fields := tangle.fields.reverse }
    let o := (compile tangle []).form.run circling
    let o' := (compile reversed []).form.run circling
    tangle.names.Nodup ∧ tangle.fields.Perm reversed.fields ∧
      (∀ name id, .unsubscribe name id ∉ circling) ∧
      o.calls.map (·.2.1) = ["left", "right", "note", "left"] ∧
      o'.calls.map (·.2.1) = ["left", "note", "right", "left"] ∧
      ∀ name, o.callsOn name = o'.callsOn name := by
  have distinct : tangle.names.Nodup := by decide
  have perm : tangle.fields.Perm tangle.fields.reverse := (List.reverse_perm _).symm
  have kept : ∀ name id, .unsubscribe name id ∉ circling := by simp [circling]
  exact ⟨distinct, perm, kept, rfl, rfl,
    (field_order_irrelevant distinct perm [] circling kept).2.1⟩

end Form

end LiveForm
