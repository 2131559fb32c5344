import LiveForm.Proofs.Form.Gating
import LiveForm.Proofs.Form.Reentrancy
import LiveForm.Proofs.Form.Submission
import LiveForm.Proofs.Form.Subscribing

/-!
# The calls of a write

A write by the user calls callbacks on the written control and, when the value enables nothing, on
all controls below it. `Schema.IsCallTrace` gives the sequence of these calls from the declarations
and the subscriptions of the host alone: first come the calls below, field by field in the order of
the schema, and then those of the control itself in the order of subscription. A vetted schema has
exactly one such sequence for each control and value, and this is what the write calls.
-/

namespace LiveForm

namespace Schema

def dependents (s : Schema) (name : String) : List Field :=
  s.fields.filter fun field => field.dependsOn = some name

/-- The calls of callbacks, by tag, control and value, that a value of a control leads to: those of
the dependent fields, which are reset unless the value is truthy, and then those of the callbacks
subscribed on the control. -/
def IsCallTrace (s : Schema) (subscribed : String → List String)
    (calls : String → Json → List (String × String × Json)) : Prop :=
  ∀ name value, calls name value =
    (if value.isTruthy then []
      else (s.dependents name).flatMap fun field => calls field.name field.type.defaultValue) ++
    (subscribed name).map fun tag => (tag, name, value)

/-- The dependent fields that a value of a control resets, with the values that they are given. -/
def resets (s : Schema) (name : String) (value : Json) : List (String × Json) :=
  if value.isTruthy then []
  else (s.dependents name).map fun field => (field.name, field.type.defaultValue)

variable {s : Schema} {subscribed : String → List String}
  {calls other : String → Json → List (String × String × Json)}

theorem dependsOn_of_mem_dependents {field : Field} {name : String}
    (member : field ∈ s.dependents name) : s.DependsOn field.name name := by
  obtain ⟨declared, depends⟩ := List.mem_filter.mp member
  exact ⟨field, declared, rfl, of_decide_eq_true depends⟩

/-- Without a cycle the calls are determined by the equation. -/
theorem IsCallTrace.unique (acyclic : ¬ s.Cyclic) (isTrace : s.IsCallTrace subscribed calls)
    (isTrace' : s.IsCallTrace subscribed other) : other = calls := by
  funext name
  induction name using (wellFounded_dependsOn acyclic).induction with
  | h name ih =>
    funext value
    rw [isTrace name value, isTrace' name value]
    congr 1
    split
    · rfl
    · apply List.flatMap_congr
      intro field member
      rw [ih field.name (dependsOn_of_mem_dependents member)]

/-- Without a cycle there are calls that fulfil the equation. -/
theorem exists_callTrace (acyclic : ¬ s.Cyclic) (subscribed : String → List String) :
    ∃ calls, s.IsCallTrace subscribed calls := by
  let next (name : String)
      (calls : ∀ child, s.DependsOn child name → Json → List (String × String × Json))
      (value : Json) : List (String × String × Json) :=
    (if value.isTruthy then []
      else (s.dependents name).attach.flatMap fun field =>
        calls field.1.name (dependsOn_of_mem_dependents field.2) field.1.type.defaultValue) ++
    (subscribed name).map fun tag => (tag, name, value)
  refine ⟨(wellFounded_dependsOn acyclic).fix next, fun name value => ?_⟩
  have attached := List.flatMap_map Subtype.val (fun field =>
    (wellFounded_dependsOn acyclic).fix next field.name field.type.defaultValue)
    (s.dependents name).attach
  rw [List.attach_map_subtype_val] at attached
  rw [WellFounded.fix_eq, attached]

/-- A walk with the resets and the subscriptions of a schema makes the calls of its controls. -/
theorem IsCallTrace.eq_flatMap (isTrace : s.IsCallTrace subscribed calls)
    {below : String → Json → List (String × Json)}
    {leaving : String → Json → List (String × String × Json)}
    (resets : ∀ name ∈ s.names, ∀ value, below name value = s.resets name value)
    (called : ∀ name ∈ s.names, ∀ value,
      leaving name value = (subscribed name).map fun tag => (tag, name, value))
    {tasks : List (String × Json)} {made : List (String × String × Json)}
    (unfolds : Unfolds below (fun _ _ => []) leaving tasks made)
    (known : ∀ t ∈ tasks, t.1 ∈ s.names) : made = tasks.flatMap fun t => calls t.1 t.2 := by
  induction unfolds with
  | nil => rfl
  | @cons name value rest inner after _ _ inside next =>
    obtain ⟨here, others⟩ := List.forall_mem_cons.mp known
    have children : ∀ t ∈ below name value, t.1 ∈ s.names := by
      rw [resets name here, Schema.resets]
      split
      · simp
      · refine List.forall_mem_map.mpr fun field member => ?_
        exact List.mem_map_of_mem (List.mem_of_mem_filter member)
    rw [List.flatMap_cons, isTrace name value, inside children, next others, called name here,
      resets name here, Schema.resets]
    split
    · rfl
    · rw [List.flatMap_map, List.nil_append]

end Schema

namespace Form

variable {schema : Schema} {initial : Json.Entries} {actions : List Action}

/-- A host that removes no registration but its own leaves the gates alone. -/
theorem children_reached (own : (compile schema initial).form.RemovesOwn [] actions) :
    (reached schema initial actions).children = (compile schema initial).form.children := by
  obtain ⟨_, tracks⟩ := tracks_reached own
  exact tracks.children_eq

theorem emptyValue_reached (distinct : schema.names.Nodup) (initial : Json.Entries)
    (actions : List Action) {field : Field} (declared : field ∈ schema.fields) :
    (reached schema initial actions).emptyValue field.name = field.type.defaultValue := by
  obtain ⟨c, found, serves⟩ := control?_reached distinct initial actions declared
  rw [emptyValue_of_control? found, serves.type_eq]

/-- A value of a field resets the fields that depend on it. -/
theorem below_reached (distinct : schema.names.Nodup)
    (own : (compile schema initial).form.RemovesOwn [] actions) {name : String}
    (known : name ∈ schema.names) (value : Json) :
    (reached schema initial actions).below name value = schema.resets name value := by
  rw [below, Schema.resets, children_reached own, children_compile initial known, List.map_map]
  congr 1
  apply List.map_congr_left
  intro field member
  have declared : field ∈ schema.fields := List.mem_of_mem_filter member
  rw [Function.comp_apply, emptyValue_reached distinct initial actions declared]

theorem callsWith_reached (schema : Schema) (initial : Json.Entries) (actions : List Action)
    {name : String} (known : name ∈ schema.names) (value : Json) :
    (reached schema initial actions).callsWith name value =
      ((compile schema initial).form.subscribed actions name).map fun tag =>
        (tag, name, value) := by
  have consistent := (reached_sound schema initial actions).consistent
  obtain ⟨c, found⟩ :=
    consistent.exists_control ((mem_names_reached schema initial actions name).mpr known)
  obtain ⟨member, rfl⟩ := consistent.control?_eq_some_iff.mp found
  rw [callsWith_eq_map, found, Option.map_some, Option.getD_some,
    callbackTags_reached schema initial actions member]

/-- In every form that a host reaches from a vetted schema without removing a registration that is
not its own, a write by the user on a field calls exactly the callbacks that the one call trace of
the schema lists, with these values and in this order. -/
theorem calls_eq_trace (checked : schema.checkStructure true = .ok ()) (initial : Json.Entries)
    (actions : List Action) (own : (compile schema initial).form.RemovesOwn [] actions) :
    ∃ calls, schema.IsCallTrace ((compile schema initial).form.subscribed actions) calls ∧
      (∀ other, schema.IsCallTrace ((compile schema initial).form.subscribed actions) other →
        other = calls) ∧
      ∀ name ∈ schema.names, ∀ value, ∃ o,
        (reached schema initial actions).setValue name value = .ok o ∧
          o.calls = calls name value := by
  have vetted : schema.Vetted := .checked checked
  obtain ⟨named, acyclic⟩ := Schema.vetted_iff.mp vetted
  obtain ⟨calls, isTrace⟩ :=
    Schema.exists_callTrace acyclic ((compile schema initial).form.subscribed actions)
  refine ⟨calls, isTrace, fun other => Schema.IsCallTrace.unique acyclic isTrace, ?_⟩
  intro name known value
  obtain ⟨o, done, walks⟩ := (forest_reached vetted initial actions).walks_setValue
    (reached_sound schema initial actions)
    ((mem_names_reached schema initial actions name).mpr known) value
  refine ⟨o, done, ?_⟩
  have made := isTrace.eq_flatMap
    (fun name known value => below_reached named.distinct own known value)
    (fun name known value => callsWith_reached schema initial actions known value)
    (Unfolds.filterMap walks Event.delivery?) (by simpa using known)
  rw [Outcome.calls, made, List.flatMap_singleton]

/-- A host that listens to the whole and to a part, and no longer to what is between them. -/
def listening : List Action :=
  [.subscribe "country" "map", .subscribe "city" "post", .subscribe "street" "map",
    .setValue "country" (.string "Norway"), .unsubscribe "city" ⟨1⟩]

theorem calls_eq_trace_address :
    let start := (compile address []).form
    let o := (reached address [] listening).perform (.setValue "country" .null)
    address.checkStructure true = .ok () ∧ start.RemovesOwn [] listening ∧
      (∃ calls, address.IsCallTrace (start.subscribed listening) calls ∧
        o.calls = calls "country" .null) ∧
      o.calls = [("map", "street", .string ""), ("map", "country", .null)] := by
  have own : (compile address []).form.RemovesOwn [] listening := by
    refine ⟨by simp, by simp, by simp, by simp, ?_, trivial⟩
    intro name id same
    obtain ⟨rfl, rfl⟩ := Action.unsubscribe.inj same
    exact List.mem_of_elem_eq_true rfl
  have checked : address.checkStructure true = .ok () := rfl
  obtain ⟨calls, isTrace, -, called⟩ := calls_eq_trace checked [] listening own
  obtain ⟨o, done, same⟩ := called "country" (by decide) .null
  refine ⟨checked, own, ⟨calls, isTrace, ?_⟩, rfl⟩
  rw [perform, done]
  exact same

end Form

end LiveForm
