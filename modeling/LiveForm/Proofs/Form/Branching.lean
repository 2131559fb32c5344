import LiveForm.Proofs.Form.Reached
import LiveForm.Proofs.Schema.Verdict

/-!
# Controls with one parent

Where names are distinct a field depends on one other at most, so in every reached form a control is
gated once and by one other at most. Dependencies may still lead round a cycle. Of two controls
above a third one is then above the other, and controls of which neither is above the other have
nothing in common below them.
-/

namespace LiveForm

namespace Form

/-- A control that is another one or descends from it. -/
def Reaches (f : Form) : String → String → Prop :=
  Relation.ReflTransGen fun parent child => child ∈ f.children parent

/-- Each control is gated once and by one other at most. -/
structure Branching (f : Form) : Prop where
  parent_unique : ∀ {child parent other : String},
    child ∈ f.children parent → child ∈ f.children other → parent = other
  children_nodup : ∀ name, (f.children name).Nodup

variable {f f' : Form} {a b n : String}

/-- What is reached is the control itself or a descendant. -/
theorem reaches_iff : f.Reaches a n ↔ n = a ∨ f.Descends a n :=
  Relation.reflTransGen_iff_eq_or_transGen

namespace Branching

/-- Of two controls above a third one is above the other. -/
theorem reaches_total (branching : f.Branching) (first : f.Reaches a n) (second : f.Reaches b n) :
    f.Reaches a b ∨ f.Reaches b a := by
  have unique : Relator.RightUnique (Function.swap fun parent child => child ∈ f.children parent) :=
    fun _ _ _ gated gated' => branching.parent_unique gated gated'
  rw [Reaches, ← Relation.reflTransGen_swap] at first second
  rcases Relation.ReflTransGen.total_of_right_unique unique first second with up | up
  · exact .inr (Relation.reflTransGen_swap.mp up)
  · exact .inl (Relation.reflTransGen_swap.mp up)

theorem of_sublist (branching : f.Branching)
    (fewer : ∀ n, (f'.children n).Sublist (f.children n)) : f'.Branching where
  parent_unique gated gated' :=
    branching.parent_unique ((fewer _).subset gated) ((fewer _).subset gated')
  children_nodup n := (fewer n).nodup (branching.children_nodup n)

end Branching

theorem children_perform_sublist (sound : f.Sound) (a : Action) (n : String) :
    ((f.perform a).form.children n).Sublist (f.children n) := by
  rw [perform_form_eq sound]
  simp only [children, control?_mapControls]
  cases f.control? n with
  | none => exact List.Sublist.refl []
  | some c => exact gateTargets_effect_sublist f a c

variable {schema : Schema}

theorem children_reached_sublist (schema : Schema) (initial : Json.Entries) (actions : List Action)
    (n : String) : ((reached schema initial actions).children n).Sublist
      ((compile schema initial).form.children n) := by
  refine ((compile_sound schema initial).run_keeps (P := fun g => ∀ n,
    (g.children n).Sublist ((compile schema initial).form.children n)) ?_ ?_ actions).2 n
  · intro g a sound fewer n
    exact (children_perform_sublist sound a n).trans (fewer n)
  · exact fun n => List.Sublist.refl _

/-- The children of a field in a compiled form are the fields that depend on it, in their order. -/
theorem children_compile (initial : Json.Entries) {parent : String}
    (known : parent ∈ schema.names) : (compile schema initial).form.children parent =
      (schema.fields.filter fun field => field.dependsOn = some parent).map Field.name := by
  have consistent := (compile_sound schema initial).consistent
  obtain ⟨c, found⟩ :=
    consistent.exists_control ((mem_names_compile schema initial parent).mpr known)
  obtain ⟨member, rfl⟩ := consistent.control?_eq_some_iff.mp found
  rw [children_eq_of_control? found, observers_compile schema initial member,
    gateTargets_gatesAdded]
  rfl

theorem dependsOn_of_mem_children_compile {initial : Json.Entries} {parent child : String}
    (gated : child ∈ (compile schema initial).form.children parent) :
    schema.DependsOn child parent := by
  obtain ⟨-, field, member, depends, same⟩ := (mem_children_compile schema initial _ _).mp gated
  exact ⟨field, member, same, depends⟩

/-- A control of a reached form depends on those that it descends from. -/
theorem transGen_dependsOn_of_descends {initial : Json.Entries} {actions : List Action}
    (below : (reached schema initial actions).Descends a n) :
    Relation.TransGen schema.DependsOn n a := by
  refine Relation.transGen_swap.mp (Relation.TransGen.mono ?_ _ _ below)
  intro parent child gated
  exact dependsOn_of_mem_children_compile
    ((children_reached_sublist schema initial actions parent).subset gated)

/-- A field depends on one name, and with distinct names so does a name. -/
theorem branching_compile (distinct : schema.names.Nodup) (initial : Json.Entries) :
    (compile schema initial).form.Branching where
  parent_unique := by
    intro child parent other gated gated'
    obtain ⟨-, field, declared, depends, rfl⟩ :=
      (mem_children_compile schema initial _ _).mp gated
    have depends' := ((mem_children_compile_iff distinct initial declared other).mp gated').2
    exact Option.some.inj (depends.symm.trans depends')
  children_nodup name := by
    by_cases known : name ∈ schema.names
    · rw [children_compile initial known]
      exact (List.filter_sublist.map Field.name).nodup distinct
    · have childless : (compile schema initial).form.children name = [] :=
        List.eq_nil_iff_forall_not_mem.mpr fun child gated =>
          known ((mem_children_compile schema initial name child).mp gated).1
      rw [childless]
      exact List.nodup_nil

theorem branching_reached (distinct : schema.names.Nodup) (initial : Json.Entries)
    (actions : List Action) : (reached schema initial actions).Branching :=
  (branching_compile distinct initial).of_sublist (children_reached_sublist schema initial actions)

end Form

end LiveForm
