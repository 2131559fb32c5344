import LiveForm.Proofs.Form.Cascade

/-!
# Values that spread down a forest

Where every control has at most one parent and none is above itself, nothing stands in the way of a
value that spreads: no control is met while it is notifying, because all that are notifying are
above the one at hand. Then a notification runs through the controls below it as one walks through
a tree. `Unfolds` says what happens on such a walk, with something to be done on arriving at a
control and something on leaving it, and `trace_notify` that the trace of a notification is what
happens on this walk, with the beginning of the notification on arriving and the calls of the
callbacks on leaving.
-/

namespace LiveForm

/-- What happens when some controls are given values one after another: on arriving at a control, at
the controls that this gives values in turn, and on leaving it. -/
inductive Unfolds {α : Type} (below : String → Json → List (String × Json))
    (arriving leaving : String → Json → List α) : List (String × Json) → List α → Prop
  | nil : Unfolds below arriving leaving [] []
  | cons {name : String} {value : Json} {rest : List (String × Json)} {inner after : List α}
      (inside : Unfolds below arriving leaving (below name value) inner)
      (next : Unfolds below arriving leaving rest after) :
      Unfolds below arriving leaving ((name, value) :: rest)
        (arriving name value ++ inner ++ leaving name value ++ after)

namespace Unfolds

variable {α β : Type} {below : String → Json → List (String × Json)}
  {arriving leaving : String → Json → List α} {first second : List (String × Json)}
  {before after : List α}

theorem single {name : String} {value : Json} {inner : List α}
    (inside : Unfolds below arriving leaving (below name value) inner) :
    Unfolds below arriving leaving [(name, value)]
      (arriving name value ++ inner ++ leaving name value) := by
  simpa using cons inside nil

theorem append (early : Unfolds below arriving leaving first before)
    (late : Unfolds below arriving leaving second after) :
    Unfolds below arriving leaving (first ++ second) (before ++ after) := by
  induction early with
  | nil => exact late
  | cons inside _ _ ih =>
    simp only [List.cons_append, List.append_assoc]
    simpa only [List.append_assoc] using cons inside ih

/-- To pick from all that happens is to pick from what happens at each control. -/
theorem filterMap (unfolds : Unfolds below arriving leaving first before) (pick : α → Option β) :
    Unfolds below (fun name value => (arriving name value).filterMap pick)
      (fun name value => (leaving name value).filterMap pick) first (before.filterMap pick) := by
  induction unfolds with
  | nil => exact nil
  | cons _ _ inside next =>
    simp only [List.filterMap_append]
    exact cons inside next

/-- Nothing happens but on arriving at a control or on leaving it. -/
theorem forall_mem {P : α → Prop} (unfolds : Unfolds below arriving leaving first before)
    (arrives : ∀ name value, ∀ a ∈ arriving name value, P a)
    (leaves : ∀ name value, ∀ a ∈ leaving name value, P a) : ∀ a ∈ before, P a := by
  induction unfolds with
  | nil => simp
  | cons _ _ inside next =>
    simp only [List.forall_mem_append]
    exact ⟨⟨⟨arrives _ _, inside⟩, leaves _ _⟩, next⟩

end Unfolds

namespace Control

variable {c c' : Control}

theorem type_eq_of_frame_eq (same : c.frame = c'.frame) : c.type = c'.type :=
  show c.frame.type = c'.frame.type from congrArg type same

theorem observers_eq_of_frame_eq (same : c.frame = c'.frame) : c.observers = c'.observers :=
  show c.frame.observers = c'.frame.observers from congrArg observers same

end Control

namespace Form

def emptyValue (f : Form) (name : String) : Json :=
  ((f.control? name).map fun c => c.type.defaultValue).getD .null

/-- The children that a value of a control resets, with the values that they are given. -/
def below (f : Form) (name : String) (value : Json) : List (String × Json) :=
  if value.isTruthy then [] else (f.children name).map fun child => (child, f.emptyValue child)

def beginning (name : String) (value : Json) : List Event := [.notified name value]

/-- No control descends from itself, and each is gated once and by one other at most. -/
structure Forest (f : Form) : Prop where
  acyclic : ∀ name, ¬ f.Descends name name
  parent_unique : ∀ {child parent other : String},
    child ∈ f.children parent → child ∈ f.children other → parent = other
  children_nodup : ∀ name, (f.children name).Nodup

/-- In a forest, only controls above the one with a name are notifying. -/
structure Clear (f : Form) (name : String) : Prop where
  forest : f.Forest
  above : ∀ n ∈ f.notifying, f.Descends n name

/-- The walk that a form makes of some values, with the events on the way. -/
abbrev Walks (f : Form) : List (String × Json) → List Event → Prop :=
  Unfolds f.below beginning f.deliveries

section

variable {f f' : Form} {name : String} {c : Control} {change : Control → Control}

theorem emptyValue_of_control? (found : f.control? name = some c) :
    f.emptyValue name = c.type.defaultValue := by
  rw [emptyValue, found, Option.map_some, Option.getD_some]

theorem emptyValue_mapControls (types : ∀ c, (change c).type = c.type) :
    (f.mapControls change).emptyValue = f.emptyValue := by
  funext name
  rw [emptyValue, emptyValue, control?_mapControls, Option.map_map]
  cases f.control? name with
  | none => rfl
  | some c => exact congrArg FieldType.defaultValue (types c)

theorem deliveries_mapControls (observers : ∀ c, (change c).observers = c.observers) :
    (f.mapControls change).deliveries = f.deliveries := by
  funext name value
  rw [deliveries, deliveries, control?_mapControls]
  cases f.control? name with
  | none => rfl
  | some c => simp only [Option.map_some, observers c]

/-- A map that keeps the types and the observers keeps the walks. -/
theorem walks_mapControls (types : ∀ c, (change c).type = c.type)
    (observers : ∀ c, (change c).observers = c.observers) :
    (f.mapControls change).Walks = f.Walks := by
  have below : (f.mapControls change).below = f.below := by
    funext name value
    rw [Form.below, Form.below, emptyValue_mapControls types,
      children_mapControls fun c _ => congrArg ObserverList.gateTargets (observers c)]
  rw [Walks, Walks, below, deliveries_mapControls observers]

theorem Forest.of_children_eq (forest : f.Forest) (same : f'.children = f.children) :
    f'.Forest := by
  obtain ⟨acyclic, parent_unique, children_nodup⟩ := forest
  unfold Descends at acyclic
  rw [← same] at acyclic parent_unique children_nodup
  exact ⟨acyclic, parent_unique, children_nodup⟩

namespace Kept

theorem emptyValue_eq (kept : f.Kept f') : f'.emptyValue = f.emptyValue := by
  obtain ⟨change, rfl, keeps⟩ := kept
  exact emptyValue_mapControls fun c => Control.type_eq_of_frame_eq (keeps c)

theorem deliveries_eq (kept : f.Kept f') : f'.deliveries = f.deliveries := by
  obtain ⟨change, rfl, keeps⟩ := kept
  exact deliveries_mapControls fun c => Control.observers_eq_of_frame_eq (keeps c)

theorem walks_eq (kept : f.Kept f') : f'.Walks = f.Walks := by
  obtain ⟨change, rfl, keeps⟩ := kept
  exact walks_mapControls (fun c => Control.type_eq_of_frame_eq (keeps c))
    fun c => Control.observers_eq_of_frame_eq (keeps c)

theorem clear (kept : f.Kept f') (clear : f.Clear name) : f'.Clear name where
  forest := clear.forest.of_children_eq kept.children_eq
  above := by
    rw [kept.notifying_eq, kept.descends_eq]
    exact clear.above

end Kept

theorem Clear.enter (clear : f.Clear name) {child : String} (gated : child ∈ f.children name) :
    (f.enter name).Clear child where
  forest := clear.forest.of_children_eq rfl
  above := by
    refine List.forall_mem_cons.mpr ⟨.single gated, fun n busy => ?_⟩
    exact Relation.TransGen.tail (clear.above n busy) gated

end

/-- A value that spreads down a forest walks through it. -/
theorem walkRules : SpreadRules
    (fun f name o => f.Clear name →
      ∀ c, f.control? name = some c → f.Walks [(name, c.value)] o.trace)
    (fun f value targets o => (∀ t ∈ targets, f.Clear t) →
      f.Walks (if value.isTruthy then [] else targets.map fun t => (t, f.emptyValue t))
        o.trace) where
  suppressed _ busy clear := absurd (clear.above _ busy) (clear.forest.acyclic _)
  begun := by
    intro f name c o consistent found fresh kept gates clear c' found'
    obtain rfl := Option.some.inj (found.symm.trans found')
    have own : f.children name = c.observers.gateTargets := children_eq_of_control? found
    have inside : f.Walks (f.below name c.value) o.trace := by
      rw [below, own]
      exact gates fun target gated => clear.enter (own ▸ gated)
    have called : o.form.deliveries name c.value = f.deliveries name c.value :=
      congrFun (congrFun kept.deliveries_eq name) c.value
    rw [called]
    exact .single inside
  done _ := by
    split <;> exact .nil
  opens := by
    intro f value dependent rest o consistent known truthy gates clear
    have kept := Kept.setDisabled f dependent false
    have walks := gates fun t member => kept.clear (clear t (List.mem_cons_of_mem dependent member))
    rw [kept.walks_eq] at walks
    simpa only [truthy, if_true] using walks
  closes := by
    intro f value dependent rest first o consistent known falsy kept told gates clear
    have keptReset := Kept.reset f dependent
    have keptAll := kept.closed
    obtain ⟨clearFirst, clearRest⟩ := List.forall_mem_cons.mp clear
    obtain ⟨c, found⟩ := consistent.exists_control known
    have early := told (keptReset.clear clearFirst) c.reset
      (consistent.control?_mapControls_at found Control.reset)
    have late := gates fun t member => keptAll.clear (clearRest t member)
    rw [keptReset.walks_eq, Control.value_reset, ← emptyValue_of_control? found] at early
    rw [keptAll.walks_eq, keptAll.emptyValue_eq] at late
    simp only [falsy, Bool.false_eq_true, if_false] at late ⊢
    exact early.append late

/-- Between the operations of a host, a notification on a forest walks through it. -/
theorem Forest.trace_notify {f : Form} {name : String} {c : Control} (forest : f.Forest)
    (consistent : f.Consistent) (idle : f.notifying = []) (found : f.control? name = some c) :
    f.Walks [(name, c.value)] (f.notify name).trace := by
  have clear : f.Clear name := ⟨forest, by simp [idle]⟩
  exact (notifyWithin_spreads walkRules f.size (Ready.of_idle consistent idle)
    (consistent.mem_names_of_control? found)).1 clear c found

end Form

end LiveForm
