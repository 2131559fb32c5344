import LiveForm.Proofs.Form.Dispatching
import LiveForm.Proofs.Schema.Vetted

/-!
# Vetted schemas rule out re-entrancy

The gates of a compiled form lead from a field to those that depend on it, and no action adds one.
The dependencies of a vetted schema form no cycle, so in every reached form the gates are a forest.
A notification walks through this forest and never comes to a control that is notifying. That it
comes to no control twice holds of a forest because every control has one parent at most.
-/

namespace LiveForm

namespace Form

variable {f f' : Form} {name : String}

namespace Forest

theorem branching (forest : f.Forest) : f.Branching :=
  ⟨forest.parent_unique, forest.children_nodup⟩

theorem of_sublist (forest : f.Forest) (fewer : ∀ n, (f'.children n).Sublist (f.children n)) :
    f'.Forest where
  acyclic name around := forest.acyclic name <|
    Relation.TransGen.mono (fun parent _ gated => (fewer parent).subset gated) name name around
  parent_unique := (forest.branching.of_sublist fewer).parent_unique
  children_nodup := (forest.branching.of_sublist fewer).children_nodup

/-- An action adds no gate and leaves a forest. -/
theorem perform (forest : f.Forest) (sound : f.Sound) (a : Action) :
    (f.perform a).form.Forest :=
  forest.of_sublist (children_perform_sublist sound a)

end Forest

/-- A write by the user on a forest walks through it. -/
theorem Forest.walks_setValue (forest : f.Forest) (sound : f.Sound) (known : name ∈ f.names)
    (value : Json) :
    ∃ o, f.setValue name value = .ok o ∧ f.Walks [(name, value)] o.trace := by
  obtain ⟨c, found⟩ := sound.consistent.exists_control known
  have walks := (forest.of_children_eq (children_written f name value)).trace_notify
    (consistent_written sound.consistent name value) sound.idle
    (sound.consistent.control?_mapControls_at found (written value))
  rw [walks_mapControls (type_at_written value) (observers_at_written value)] at walks
  exact ⟨_, sound.consistent.setValue_eq_notify known value, walks⟩

/-- No action meets a control of a forest while it is notifying. -/
theorem Forest.not_suppressed_perform (forest : f.Forest) (sound : f.Sound) (a : Action) :
    ∀ n, .suppressed n ∉ (f.perform a).trace := by
  intro n member
  by_cases quiet : ∀ name value, a ≠ .setValue name value
  · obtain ⟨_, same | same⟩ := eq_submission_of_mem_trace quiet member <;> cases same
  · push Not at quiet
    obtain ⟨name, value, rfl⟩ := quiet
    by_cases known : name ∈ f.names
    · obtain ⟨o, done, walks⟩ := forest.walks_setValue sound known value
      rw [Form.perform, done] at member
      refine Unfolds.forall_mem (P := (· ≠ .suppressed n)) walks ?_ ?_ _ member rfl
      · simp [beginning]
      · intro name value e called
        obtain ⟨tag, rfl⟩ := eq_delivered_of_mem_deliveries called
        exact Event.noConfusion
    · rw [Form.perform, setValue_eq_error sound.consistent known] at member
      cases member

theorem Forest.not_suppressed_run (forest : f.Forest) (sound : f.Sound) (actions : List Action) :
    ∀ n, .suppressed n ∉ (f.run actions).trace := by
  induction actions generalizing f with
  | nil => simp
  | cons a rest ih =>
    intro n
    rw [run_cons, Outcome.trace_andThen, List.mem_append, not_or]
    exact ⟨forest.not_suppressed_perform sound a n,
      ih (forest.perform sound a) (sound.perform a) n⟩

variable {schema : Schema}

/-- The gates of a vetted schema form a forest. -/
theorem forest_compile (vetted : schema.Vetted) (initial : Json.Entries) :
    (compile schema initial).form.Forest := by
  obtain ⟨named, acyclic⟩ := Schema.vetted_iff.mp vetted
  have branching := branching_compile named.distinct initial
  refine ⟨?_, branching.parent_unique, branching.children_nodup⟩
  intro name around
  refine acyclic ⟨name, Relation.transGen_swap.mp ?_⟩
  exact Relation.TransGen.mono (fun _ _ => dependsOn_of_mem_children_compile) name name around

theorem forest_reached (vetted : schema.Vetted) (initial : Json.Entries) (actions : List Action) :
    (reached schema initial actions).Forest :=
  ((compile_sound schema initial).run_keeps (fun a sound forest => forest.perform sound a)
    (forest_compile vetted initial) actions).2

/-- Whatever a host does with the form of a vetted schema, no control is met while it is notifying,
and no write by the user makes a control tell its observers twice. -/
theorem never_reentrant (vetted : schema.Vetted) (initial : Json.Entries) (actions : List Action) :
    (∀ n, .suppressed n ∉ ((compile schema initial).form.run actions).trace) ∧
      ∀ name value,
        ((reached schema initial actions).perform (.setValue name value)).told.Nodup :=
  ⟨(forest_compile vetted initial).not_suppressed_run (compile_sound schema initial) actions,
    (branching_reached (Schema.vetted_iff.mp vetted).1.distinct initial actions).told_nodup
      (reached_sound schema initial actions)⟩

def address : Schema where
  fields := [
    { label := "Country", name := "country", type := .text },
    { label := "Street", name := "street", type := .text, dependsOn := some "city" },
    { label := "City", name := "city", type := .text, dependsOn := some "country" }]

theorem never_reentrant_address :
    let o := (reached address [] []).perform (.setValue "country" (.string ""))
    address.checkStructure true = .ok () ∧ o.told = ["country", "city", "street"] ∧
      o.told.Nodup :=
  ⟨rfl, rfl, (never_reentrant (.checked rfl) [] []).2 "country" (.string "")⟩

end Form

end LiveForm
