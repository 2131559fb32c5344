import LiveForm.Proofs.Form.Reached
import LiveForm.Proofs.Form.Telling

/-!
# Fields follow their parents

A gate changes a control only while its parent tells a value. So after any run a field is enabled
exactly when the last value that its parent told is truthy; before the parent has told any, the
field is as it was compiled. The value of a parent agrees with the one that it told last unless the
host writes it silently, and a host that removes no registration but its own leaves the gates alone.
`Tracks` is the invariant: it relates the form at hand to the compiled one through the notifications
in between.
-/

namespace LiveForm

namespace Form

/-- The handles that an action gives to the host, with the names of their controls. -/
def issues (f : Form) : Action → List (String × ObserverId)
  | .subscribe name tag =>
    match f.subscribe name tag with
    | .ok (id, _) => [(name, id)]
    | .error _ => []
  | _ => []

/-- Every removal in a list of actions is of a handle that a subscription gave for the same control
before. -/
def RemovesOwn (f : Form) (issued : List (String × ObserverId)) : List Action → Prop
  | [] => True
  | a :: rest =>
    (∀ name id, a = .unsubscribe name id → (name, id) ∈ issued) ∧
      RemovesOwn (f.perform a).form (issued ++ f.issues a) rest

variable {f : Form} {name : String} {c : Control}

/-- The form at hand against the compiled one: with the handles that the host was given, the
notifications in between, and the names whose values it may write silently. -/
structure Tracks (start f : Form) (issued : List (String × ObserverId))
    (history : List (String × Json)) (silent : String → Prop) : Prop where
  sound : f.Sound
  children_eq : f.children = start.children
  numbered : ∀ c ∈ f.controls, c.observers.Numbered
  owned : ∀ c ∈ f.controls, ∀ id, (c.name, id) ∈ issued → ¬ c.observers.IsGate id
  /-- A control is enabled as the last value says that one of its parents told. -/
  enabled_eq : ∀ c ∈ f.controls,
    some (!c.disabled) = (lastTruthy? history fun n => c.name ∈ start.children n).or
      ((start.control? c.name).map fun c => !c.disabled)
  /-- The value of a control is like the last one that it told. -/
  truthy_eq : ∀ c ∈ f.controls, ¬ silent c.name →
    some c.value.isTruthy = (lastTruthy? history (· = c.name)).or
      ((start.control? c.name).map fun c => c.value.isTruthy)

theorem eq_nextId_of_mem_issues {a : Action} {id : ObserverId} (given : (name, id) ∈ f.issues a) :
    ∃ c, f.control? name = some c ∧ id = c.observers.nextId := by
  cases a with
  | subscribe other tag =>
    rw [issues, subscribe, register] at given
    cases found : f.control? other with
    | none => simp [found] at given
    | some c =>
      simp only [found, List.mem_singleton, Prod.mk.injEq] at given
      obtain ⟨rfl, rfl⟩ := given
      exact ⟨c, found, rfl⟩
  | _ => simp [issues] at given

theorem gateTargets_effect {a : Action}
    (spared : ∀ id, a = .unsubscribe c.name id → ¬ c.observers.IsGate id) :
    (f.effect a c).observers.gateTargets = c.observers.gateTargets :=
  observers_effect_cases (P := fun l => l.gateTargets = c.observers.gateTargets) f a c rfl
    (fun _ tag _ => c.observers.gateTargets_register_callback tag)
    fun _ id same here => ObserverList.gateTargets_unregister (spared id (here ▸ same))

/-- No action turns a handle into one of a gate. -/
theorem not_isGate_effect {a : Action} {id : ObserverId} (aside : ¬ c.observers.IsGate id) :
    ¬ (f.effect a c).observers.IsGate id :=
  observers_effect_cases (P := fun l => ¬ l.IsGate id) f a c aside
    (fun _ _ _ => mt ObserverList.isGate_register_callback.mp aside)
    fun _ _ _ _ => mt ObserverList.IsGate.of_unregister aside

namespace Tracks

variable {start : Form} {issued : List (String × ObserverId)} {history : List (String × Json)}
  {silent : String → Prop}

theorem refl (sound : start.Sound) (numbered : ∀ c ∈ start.controls, c.observers.Numbered)
    (silent : String → Prop) : start.Tracks start [] [] silent where
  sound := sound
  children_eq := rfl
  numbered := numbered
  owned _ _ _ given := by simp at given
  enabled_eq c member := by simp [lastTruthy?, sound.consistent.control?_name member]
  truthy_eq c member _ := by simp [lastTruthy?, sound.consistent.control?_name member]

/-- An action that removes only what the host was given keeps the invariant. -/
theorem perform (tracks : start.Tracks f issued history silent) {a : Action}
    (own : ∀ name id, a = .unsubscribe name id → (name, id) ∈ issued)
    (silently : ∀ name value, a = .setValueSilently name value → silent name) :
    start.Tracks (f.perform a).form (issued ++ f.issues a)
      (history ++ (f.perform a).notifications) silent := by
  have sound := tracks.sound
  have gates : ∀ c ∈ f.controls,
      (f.effect a c).observers.gateTargets = c.observers.gateTargets := fun c member =>
    gateTargets_effect fun id same => tracks.owned c member id (own c.name id same)
  have form_eq := perform_form_eq sound a
  refine ⟨sound.perform a, ?_, ?_, ?_, ?_, ?_⟩
  · rw [form_eq, children_mapControls gates, tracks.children_eq]
  · rw [form_eq]
    refine List.forall_mem_map.mpr ?_
    intro c member
    have numbered := tracks.numbered c member
    exact observers_effect_cases f a c numbered (fun _ tag _ => numbered.register (.callback tag))
      fun _ id _ _ => numbered.unregister id
  · rw [form_eq]
    refine List.forall_mem_map.mpr fun c member id given => not_isGate_effect ?_
    rw [name_effect] at given
    rcases List.mem_append.mp given with before | new
    · exact tracks.owned c member id before
    · obtain ⟨d, found, rfl⟩ := eq_nextId_of_mem_issues new
      obtain rfl := Option.some.inj ((sound.consistent.control?_name member).symm.trans found)
      exact (tracks.numbered c member).not_isGate_nextId
  · rw [form_eq]
    refine List.forall_mem_map.mpr ?_
    intro c member
    rw [name_effect, lastTruthy?_append, Option.or_assoc, ← tracks.enabled_eq c member,
      Option.or_some, disabled_effect sound a member, tracks.children_eq]
  · rw [form_eq]
    refine List.forall_mem_map.mpr ?_
    intro c member aloud
    rw [name_effect] at aloud ⊢
    have loud : ∀ value, a ≠ .setValueSilently c.name value :=
      fun value same => aloud (silently c.name value same)
    rw [lastTruthy?_append, Option.or_assoc, ← tracks.truthy_eq c member aloud, Option.or_some,
      isTruthy_effect sound member loud]

theorem run (tracks : start.Tracks f issued history silent) {actions : List Action}
    (own : f.RemovesOwn issued actions)
    (silently : ∀ name value, .setValueSilently name value ∈ actions → silent name) :
    ∃ issued', start.Tracks (f.run actions).form issued'
      (history ++ (f.run actions).notifications) silent := by
  induction actions generalizing f issued history with
  | nil => exact ⟨issued, by simpa using tracks⟩
  | cons a rest ih =>
    obtain ⟨ownFirst, ownRest⟩ := own
    have first := tracks.perform ownFirst fun name value same =>
      silently name value (same ▸ List.mem_cons_self)
    obtain ⟨issued', final⟩ := ih first ownRest fun name value member =>
      silently name value (List.mem_cons_of_mem a member)
    refine ⟨issued', ?_⟩
    have all : (f.run (a :: rest)).notifications =
        (f.perform a).notifications ++ ((f.perform a).form.run rest).notifications := by
      rw [run_cons]
      exact List.filterMap_append
    rw [all, ← List.append_assoc, run_cons]
    exact final

end Tracks

/-- How the control of a field follows a parent in a run from the compiled form. -/
structure Follows (start : Form) (actions : List Action) (field : Field) (parent : String)
    (c : Control) : Prop where
  /-- Once the parent has told a value, the last one decides. -/
  told : ∀ value, (start.run actions).lastTold? parent = some value →
    (c.disabled = true ↔ value.isTruthy = false)
  /-- Until then the declaration and the first value of the parent decide. -/
  untold : (start.run actions).lastTold? parent = none → ∃ value, start.value? parent = some value ∧
    (c.disabled = true ↔ field.disabled = true ∨ value.isTruthy = false)
  /-- Unless the host writes the parent silently, its value at hand decides. -/
  current : (∀ value, .setValueSilently parent value ∉ actions) → field.disabled = false →
    ∃ value, (start.run actions).form.value? parent = some value ∧
      (c.disabled = false ↔ value.isTruthy = true)

/-- The invariant at the end of a run, read for a control with one parent. -/
theorem Tracks.follows {start : Form} {actions : List Action} {field : Field} {parent : String}
    {issued : List (String × ObserverId)} {c₀ p₀ p : Control}
    (tracks : start.Tracks (start.run actions).form issued (start.run actions).notifications
      fun name => ∃ value, .setValueSilently name value ∈ actions)
    (only : ∀ n, field.name ∈ start.children n ↔ n = parent)
    (found : (start.run actions).form.control? field.name = some c)
    (found₀ : start.control? field.name = some c₀)
    (parentFound : (start.run actions).form.control? parent = some p)
    (parentFound₀ : start.control? parent = some p₀)
    (disabled₀ : c₀.disabled = (field.disabled || !p₀.value.isTruthy)) :
    Follows start actions field parent c := by
  have consistent := tracks.sound.consistent
  obtain ⟨member, named⟩ := consistent.control?_eq_some_iff.mp found
  obtain ⟨parentMember, parentNamed⟩ := consistent.control?_eq_some_iff.mp parentFound
  have enabled := tracks.enabled_eq c member
  have truthy := tracks.truthy_eq p parentMember
  simp only [named, only, found₀, parentNamed, parentFound₀, lastTruthy?_eq_map_lastTold?,
    Option.map_some] at enabled truthy
  constructor
  · intro value told
    rw [told] at enabled
    have same : (!c.disabled) = value.isTruthy := Option.some.inj enabled
    simp [← same]
  · intro untold
    refine ⟨p₀.value, by rw [value?, parentFound₀, Option.map_some], ?_⟩
    rw [untold] at enabled
    have same : (!c.disabled) = !c₀.disabled := Option.some.inj enabled
    rw [Bool.not_inj same, disabled₀]
    simp
  · intro loud free
    refine ⟨p.value, by rw [value?, parentFound, Option.map_some], ?_⟩
    have agree := truthy (not_exists.mpr loud)
    have same : some (!c.disabled) = some p.value.isTruthy := by
      rw [enabled, agree, disabled₀, free, Bool.false_or, Bool.not_not]
    rw [← Option.some.inj same]
    simp

variable {schema : Schema}

section

variable {initial : Json.Entries} {actions : List Action}

/-- The invariant in every form that a host reaches without removing a registration that is not its
own. -/
theorem tracks_reached (own : (compile schema initial).form.RemovesOwn [] actions) :
    ∃ issued, (compile schema initial).form.Tracks (reached schema initial actions) issued
      ((compile schema initial).form.run actions).notifications
      fun name => ∃ value, .setValueSilently name value ∈ actions := by
  have start := Tracks.refl (compile_sound schema initial)
    (fun _ member => (keyed_compile schema initial member).numbered)
    fun name => ∃ value, .setValueSilently name value ∈ actions
  exact start.run own fun name value member => ⟨value, member⟩

variable {field : Field}

/-- In such a form a field follows the field that it depends on. -/
theorem follows_reached (distinct : schema.names.Nodup)
    (own : (compile schema initial).form.RemovesOwn [] actions) (declared : field ∈ schema.fields)
    (found : (reached schema initial actions).control? field.name = some c) {parent : String}
    (depends : field.dependsOn = some parent) (parentKnown : parent ∈ schema.names) :
    Follows (compile schema initial).form actions field parent c := by
  have startSound := compile_sound schema initial
  obtain ⟨issued, tracks⟩ := tracks_reached own
  obtain ⟨c₀, found₀, disabled₀⟩ := control?_compile distinct initial declared
  obtain ⟨p₀, parentFound₀⟩ := startSound.consistent.exists_control
    ((mem_names_compile schema initial parent).mpr parentKnown)
  obtain ⟨p, parentFound⟩ := tracks.sound.consistent.exists_control
    ((mem_names_reached schema initial actions parent).mpr parentKnown)
  have only : ∀ n, field.name ∈ (compile schema initial).form.children n ↔ n = parent := by
    intro n
    rw [mem_children_compile_iff distinct initial declared n]
    constructor
    · rintro ⟨-, same⟩
      exact Option.some.inj (same.symm.trans depends)
    · rintro rfl
      exact ⟨parentKnown, depends⟩
  have blocked : (compile schema initial).form.blocks field = !p₀.value.isTruthy := by
    simp [blocks, depends, value?, parentFound₀]
  exact tracks.follows only found found₀ parentFound parentFound₀ (blocked ▸ disabled₀)

/-- A field that depends on no other field keeps the flag that it is declared with. -/
theorem disabled_reached_of_orphan (distinct : schema.names.Nodup)
    (own : (compile schema initial).form.RemovesOwn [] actions) (declared : field ∈ schema.fields)
    (found : (reached schema initial actions).control? field.name = some c)
    (astray : ∀ parent, field.dependsOn = some parent → parent ∉ schema.names) :
    c.disabled = field.disabled := by
  obtain ⟨issued, tracks⟩ := tracks_reached own
  obtain ⟨c₀, found₀, disabled₀⟩ := control?_compile distinct initial declared
  obtain ⟨member, named⟩ := tracks.sound.consistent.control?_eq_some_iff.mp found
  have orphan : ∀ n, field.name ∉ (compile schema initial).form.children n := by
    intro n gated
    obtain ⟨known, depends⟩ := (mem_children_compile_iff distinct initial declared n).mp gated
    exact astray n depends known
  have free : (compile schema initial).form.blocks field = false :=
    blocks_of_orphan fun parent depends => control?_compile_eq_none (astray parent depends) initial
  have enabled := tracks.enabled_eq c member
  simp only [named, orphan, found₀, Option.map_some, lastTruthy?] at enabled
  have same : (!c.disabled) = !c₀.disabled := by simpa using enabled
  rw [Bool.not_inj same, disabled₀, free, Bool.or_false]

end

/-- A host that removes no registration but its own sees every field follow the field that it
depends on, and every other field keep the flag that it is declared with. -/
theorem disabled_follows_parent (distinct : schema.names.Nodup) (initial : Json.Entries)
    (actions : List Action) (own : (compile schema initial).form.RemovesOwn [] actions) :
    let start := (compile schema initial).form
    ∀ field ∈ schema.fields, ∃ c, (start.run actions).form.control? field.name = some c ∧
      (∀ parent, field.dependsOn = some parent → parent ∈ schema.names →
        Follows start actions field parent c) ∧
      ((∀ parent, field.dependsOn = some parent → parent ∉ schema.names) →
        c.disabled = field.disabled) := by
  intro start field declared
  have known := (mem_names_reached schema initial actions field.name).mpr
    (List.mem_map_of_mem declared)
  obtain ⟨c, found⟩ := (reached_sound schema initial actions).consistent.exists_control known
  exact ⟨c, found, fun _ => follows_reached distinct own declared found,
    disabled_reached_of_orphan distinct own declared found⟩

/-- Two fields that depend on each other, and a third one that depends on the first. -/
def tangle : Schema where
  fields := [
    { label := "Left", name := "left", type := .text, dependsOn := some "right" },
    { label := "Right", name := "right", type := .text, dependsOn := some "left" },
    { label := "Note", name := "note", type := .text, dependsOn := some "left" }]

def visit : List Action :=
  [.subscribe "left" "log", .setValue "left" (.string "on"), .unsubscribe "left" ⟨2⟩,
    .setValueSilently "left" (.string "")]

/-- The third field stays enabled, as the last value says that was told. -/
theorem disabled_follows_parent_tangle :
    let start := (compile tangle []).form
    tangle.names.Nodup ∧ start.RemovesOwn [] visit ∧
      (start.run visit).lastTold? "left" = some (.string "on") ∧
      ∃ c, (start.run visit).form.control? "note" = some c ∧
        (c.disabled = true ↔ (Json.string "on").isTruthy = false) := by
  have distinct : tangle.names.Nodup := by decide
  have own : (compile tangle []).form.RemovesOwn [] visit := by
    refine ⟨by simp, by simp, ?_, by simp, trivial⟩
    intro name id same
    obtain ⟨rfl, rfl⟩ := Action.unsubscribe.inj same
    exact List.mem_singleton.mpr rfl
  have told : ((compile tangle []).form.run visit).lastTold? "left" = some (.string "on") := rfl
  obtain ⟨c, found, follows, -⟩ := disabled_follows_parent distinct [] visit own
    { label := "Note", name := "note", type := .text, dependsOn := some "left" }
    (by simp [tangle])
  have followed := follows "left" rfl (by decide)
  exact ⟨distinct, own, told, c, found, followed.told _ told⟩

end Form

end LiveForm
