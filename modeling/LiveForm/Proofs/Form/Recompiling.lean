import LiveForm.Proofs.Form.Gating
import LiveForm.Proofs.Form.Standing
import LiveForm.Proofs.Form.Submission

/-!
# Forms compiled from their own values

Compiling disables a field whose parent has a value that enables nothing and leaves its value alone,
while a gate resets the field before it disables it. Nevertheless both bring a field to the same
flag: in a reached form a field with a parent is enabled exactly when the value of the parent at
hand is truthy, and this is how the compiler judges it. So a schema that is compiled anew with the
values of a reached form gives every control the value, the flag and the failing kinds that it has.
-/

namespace LiveForm

namespace Form

variable {f : Form} {name : String} {c : Control}

/-- The index of a consistent form leads to the first control with a name. -/
theorem Consistent.control?_eq_find? (consistent : f.Consistent) (name : String) :
    f.control? name = f.controls.find? fun c => c.name = name := by
  cases found : f.controls.find? fun c => c.name = name with
  | none =>
    rw [consistent.control?_eq_none_iff]
    intro known
    obtain ⟨c, member, named⟩ := List.mem_map.mp known
    exact List.find?_eq_none.mp found c member (decide_eq_true named)
  | some c =>
    have named := List.find?_some found
    exact consistent.control?_eq_some_iff.mpr
      ⟨List.mem_of_find?_eq_some found, of_decide_eq_true named⟩

theorem Consistent.get?_rawValues (consistent : f.Consistent) (name : String) :
    Json.Entries.get? f.rawValues name = f.value? name := by
  rw [Json.Entries.get?, rawValues, consistent.collect_map_entry (List.Sublist.refl _),
    List.find?_map, Option.map_map, value?, consistent.control?_eq_find?]
  rfl

/-- Controls of one field with the same value and the same flag have the same standing. -/
theorem Serves.standing_eq {d : Control} {field : Field} (serves : Serves c field)
    (serves' : Serves d field) (values : d.value = c.value) (flags : d.disabled = c.disabled) :
    d.standing = c.standing := by
  simp only [Control.standing, serves.name_eq, serves'.name_eq, values, flags, Standing.mk.injEq,
    true_and]
  rw [serves.upToDate, serves'.upToDate, serves.rules_eq, serves'.rules_eq, values, flags]

variable {schema : Schema} {initial : Json.Entries} {actions : List Action} {field : Field}

/-- The values with which a form is compiled anew are those that it gets. -/
theorem value?_recompiled (distinct : schema.names.Nodup) (initial : Json.Entries)
    (actions : List Action) :
    (compile schema (reached schema initial actions).rawValues).form.value? =
      (reached schema initial actions).value? := by
  have consistent := (reached_sound schema initial actions).consistent
  funext name
  ext value
  rw [value?_compile_eq_some_iff distinct, consistent.get?_rawValues]
  by_cases known : name ∈ schema.names
  · obtain ⟨field, declared, rfl⟩ := List.mem_map.mp known
    obtain ⟨c, found, -⟩ := control?_reached distinct initial actions declared
    rw [value?, found, Option.map_some]
    simp only [Option.getD_some, Option.some.injEq]
    constructor
    · rintro ⟨_, _, _, same⟩
      exact same
    · intro same
      exact ⟨field, declared, rfl, same⟩
  · rw [value?, control?_reached_eq_none known]
    refine iff_of_false ?_ (by simp)
    rintro ⟨field, declared, rfl, -⟩
    exact known (List.mem_map_of_mem declared)

theorem blocks_recompiled (distinct : schema.names.Nodup) (initial : Json.Entries)
    (actions : List Action) :
    (compile schema (reached schema initial actions).rawValues).form.blocks =
      (reached schema initial actions).blocks := by
  funext field
  rw [blocks, blocks, value?_recompiled distinct]

/-- In a reached form a field is disabled for the reasons that the compiler has. -/
theorem disabled_reached (distinct : schema.names.Nodup)
    (own : (compile schema initial).form.RemovesOwn [] actions) (declared : field ∈ schema.fields)
    (enabled : ∀ parent ∈ schema.names, field.dependsOn = some parent → field.disabled = false)
    (aloud : ∀ parent ∈ schema.names, field.dependsOn = some parent →
      ∀ value, .setValueSilently parent value ∉ actions)
    (found : (reached schema initial actions).control? field.name = some c) :
    c.disabled = (field.disabled || (reached schema initial actions).blocks field) := by
  by_cases orphan : ∀ parent, field.dependsOn = some parent → parent ∉ schema.names
  · have unblocked : (reached schema initial actions).blocks field = false :=
      blocks_of_orphan fun parent depends =>
        control?_reached_eq_none (orphan parent depends) initial actions
    rw [disabled_reached_of_orphan distinct own declared found orphan, unblocked, Bool.or_false]
  · push Not at orphan
    obtain ⟨parent, depends, known⟩ := orphan
    obtain ⟨value, told, follows⟩ := (follows_reached distinct own declared found depends
      known).current (aloud parent known depends) (enabled parent known depends)
    have judged : (reached schema initial actions).blocks field = !value.isTruthy := by
      simp only [blocks, depends, Option.bind_some, reached, told]
    rw [enabled parent known depends, judged, Bool.false_or, Bool.eq_iff_iff, Bool.not_eq_true',
      ← Bool.not_eq_true value.isTruthy, ← follows, Bool.not_eq_false]

theorem standing_recompiled (distinct : schema.names.Nodup)
    (own : (compile schema initial).form.RemovesOwn [] actions) (declared : field ∈ schema.fields)
    (enabled : ∀ parent ∈ schema.names, field.dependsOn = some parent → field.disabled = false)
    (aloud : ∀ parent ∈ schema.names, field.dependsOn = some parent →
      ∀ value, .setValueSilently parent value ∉ actions) :
    let f := reached schema initial actions
    let g := (compile schema f.rawValues).form
    (g.control? field.name).map Control.standing =
      (f.control? field.name).map Control.standing := by
  intro f g
  obtain ⟨c, found, serves⟩ : ∃ c, f.control? field.name = some c ∧ Serves c field :=
    control?_reached distinct initial actions declared
  obtain ⟨d, found', serves'⟩ : ∃ d, g.control? field.name = some d ∧ Serves d field :=
    control?_reached distinct f.rawValues [] declared
  have value : d.value = c.value := by
    have here : g.value? field.name = f.value? field.name :=
      congrFun (value?_recompiled distinct initial actions) field.name
    rw [value?, value?, found, found'] at here
    exact Option.some.inj here
  have flag : d.disabled = c.disabled := by
    obtain ⟨_, same, compiled⟩ := control?_compile distinct f.rawValues declared
    obtain rfl := Option.some.inj (found'.symm.trans same)
    rw [compiled, blocks_recompiled distinct,
      disabled_reached distinct own declared enabled aloud found]
  rw [found, found', Option.map_some, Option.map_some, serves.standing_eq serves' value flag]

/-- A schema that is compiled anew with the values of a reached form gives every control the value,
the flag and the failing kinds that it has. So both forms are valid alike, call the same controls
invalid, and are submitted with the same result. The host may remove no registration but its own and
may write no parent silently, and no field with a parent may be declared disabled. -/
theorem recompiled_agrees (distinct : schema.names.Nodup)
    (enabled : ∀ field ∈ schema.fields, ∀ parent ∈ schema.names, field.dependsOn = some parent →
      field.disabled = false)
    (initial : Json.Entries) (actions : List Action)
    (own : (compile schema initial).form.RemovesOwn [] actions)
    (aloud : ∀ field ∈ schema.fields, ∀ parent ∈ schema.names, field.dependsOn = some parent →
      ∀ value, .setValueSilently parent value ∉ actions) :
    let f := reached schema initial actions
    let g := (compile schema f.rawValues).form
    (∀ name, (g.control? name).map Control.standing = (f.control? name).map Control.standing) ∧
      g.isValid = f.isValid ∧ g.invalidControls = f.invalidControls ∧
      ∀ options, (g.submit options).result = (f.submit options).result := by
  intro f g
  have consistent : f.Consistent := (reached_sound schema initial actions).consistent
  have consistent' : g.Consistent := (compile_sound schema f.rawValues).consistent
  have agree : ∀ name,
      (g.control? name).map Control.standing = (f.control? name).map Control.standing := by
    intro name
    by_cases known : name ∈ schema.names
    · obtain ⟨field, declared, rfl⟩ := List.mem_map.mp known
      exact standing_recompiled distinct own declared (enabled field declared)
        (aloud field declared)
    · rw [control?_reached_eq_none known, control?_compile_eq_none known]
  have names : g.names = f.names :=
    (names_reached distinct f.rawValues []).trans (names_reached distinct initial actions).symm
  have standings := consistent'.standings_eq consistent names agree
  refine ⟨agree, ?_, ?_, fun options => ?_⟩
  · rw [isValid_eq_standings, isValid_eq_standings, standings]
  · rw [invalidControls_eq_standings, invalidControls_eq_standings, standings]
  · rw [result_submit, result_submit, standings]

def drafting : List Action :=
  [.subscribe "left" "log", .setValue "left" (.string "on"), .unsubscribe "left" ⟨2⟩,
    .setValueSilently "note" (.string "draft")]

/-- The field that is written on the cycle stays disabled, as the compiler has it. -/
theorem recompiled_agrees_tangle :
    let f := reached tangle [] drafting
    let g := (compile tangle f.rawValues).form
    tangle.names.Nodup ∧ (compile tangle []).form.RemovesOwn [] drafting ∧
      (∀ name, (g.control? name).map Control.standing = (f.control? name).map Control.standing) ∧
      (f.control? "left").map Control.disabled = some true ∧
      (g.submit ⟨false⟩).result =
        .submitted [("right", .string ""), ("note", .string "draft")] := by
  have distinct : tangle.names.Nodup := by decide
  have own : (compile tangle []).form.RemovesOwn [] drafting := by
    refine ⟨by simp, by simp, ?_, by simp, trivial⟩
    intro name id same
    obtain ⟨rfl, rfl⟩ := Action.unsubscribe.inj same
    exact List.mem_singleton.mpr rfl
  obtain ⟨agree, -, -, results⟩ := recompiled_agrees distinct (by simp [tangle]) [] drafting own
    (by simp [tangle, drafting, Schema.names])
  exact ⟨distinct, own, agree, rfl, (results ⟨false⟩).trans rfl⟩

end Form

end LiveForm
