import LiveForm.Rule.Basic

/-!
# What the constraints of a field ask

`Field.SatisfiedBy` reads the constraints off the declaration, without the list of rules that the
compiler makes of them: a required field asks for a value that is present, and of a present value
the optional constraints are asked. A pattern counts when it is not empty and compiles; a constraint
says nothing of a value that it cannot read. The rules of a field hold exactly of these values.
-/

namespace LiveForm

/-- A present value satisfies the optional constraints. -/
structure Validation.SatisfiedBy (v : Validation) (value : Json) : Prop where
  pattern : ∀ source ∈ v.pattern, source ≠ "" → ∀ pattern ∈ Pattern.compile? source,
    ∀ text ∈ value.asText?, pattern.occursIn text = true
  minLength : ∀ bound ∈ v.minLength, ∀ length ∈ value.textLength?, bound ≤ length
  maxLength : ∀ bound ∈ v.maxLength, ∀ length ∈ value.textLength?, length ≤ bound
  min : ∀ bound ∈ v.min, ∀ number ∈ value.asNumber?, bound.le number = true
  max : ∀ bound ∈ v.max, ∀ number ∈ value.asNumber?, number.le bound = true

/-- A value satisfies every constraint that a field declares. -/
structure Field.SatisfiedBy (field : Field) (value : Json) : Prop where
  present : field.required = true → value.isAbsent = false
  constraints : value.isAbsent = false → ∀ v ∈ field.validation, v.SatisfiedBy value

namespace Validation

variable {v : Validation} {value : Json}

theorem bind_compile?_eq_some_iff {p : Pattern} :
    v.declaredPattern?.bind Pattern.compile? = some p ↔
      ∃ source, v.pattern = some source ∧ source ≠ "" ∧ Pattern.compile? source = some p := by
  simp [declaredPattern?, Option.bind_eq_some_iff, and_assoc]

/-- The rules hold of the present values that satisfy the constraints. -/
theorem rules_hold_iff :
    (∀ rule ∈ v.rules, rule.holdsOfPresent value = true) ↔ v.SatisfiedBy value := by
  simp only [rules, List.forall_mem_append, List.forall_mem_map, Option.mem_toList,
    Rule.holdsOfPresent, Option.all_eq_true, decide_eq_true_eq]
  constructor
  · rintro ⟨⟨⟨⟨pattern, minLength⟩, maxLength⟩, min⟩, max⟩
    refine ⟨?_, minLength, maxLength, min, max⟩
    intro source declared nonempty p compiled
    exact pattern p (bind_compile?_eq_some_iff.mpr ⟨source, declared, nonempty, compiled⟩)
  · rintro ⟨pattern, minLength, maxLength, min, max⟩
    refine ⟨⟨⟨⟨?_, minLength⟩, maxLength⟩, min⟩, max⟩
    intro p compiled
    obtain ⟨source, declared, nonempty, compiled⟩ := bind_compile?_eq_some_iff.mp compiled
    exact pattern source declared nonempty p compiled

/-- None of these rules looks at absent values. -/
theorem holds_of_mem_rules {rule : Rule} (among : rule ∈ v.rules) :
    rule.holds value = (value.isAbsent || rule.holdsOfPresent value) := by
  cases rule with
  | required => simp [rules] at among
  | _ => rfl

end Validation

namespace Rule

variable {rules : List Rule} {value : Json}

/-- Of an absent value only a rule of a required field fails, and this rule fails of no other. -/
theorem required_mem_failing_iff (fails : failing rules value ≠ []) :
    .required ∈ failing rules value ↔ value.isAbsent = true := by
  constructor
  · intro member
    obtain ⟨rule, among, same⟩ := List.mem_map.mp member
    have broken := (List.mem_filter.mp among).2
    cases rule <;> cases same
    simpa [holds] using broken
  · intro absent
    obtain ⟨kind, member⟩ := List.exists_mem_of_ne_nil _ fails
    obtain ⟨rule, among, -⟩ := List.mem_map.mp member
    have broken := (List.mem_filter.mp among).2
    have required : rule = .required := by
      cases rule <;> simp [holds, absent] at broken ⊢
    exact List.mem_map.mpr ⟨rule, among, required ▸ rfl⟩

end Rule

namespace Field

theorem rules_eq_append (field : Field) :
    field.rules = (if field.required then [Rule.required] else []) ++
      field.validation.elim [] Validation.rules := by
  unfold rules
  cases field.validation <;> rfl

/-- The rules of a field hold of the values that satisfy what it declares. -/
theorem rules_hold_iff (field : Field) (value : Json) :
    (∀ rule ∈ field.rules, rule.holds value = true) ↔ field.SatisfiedBy value := by
  have requirement : (∀ rule ∈ if field.required then [Rule.required] else [],
      rule.holds value = true) ↔ (field.required = true → value.isAbsent = false) := by
    cases field.required <;> simp [Rule.holds]
  have constraints : (∀ rule ∈ field.validation.elim [] Validation.rules,
      rule.holds value = true) ↔
      (value.isAbsent = false → ∀ v ∈ field.validation, v.SatisfiedBy value) := by
    cases field.validation with
    | none => simp
    | some v =>
      have present : (∀ rule ∈ v.rules, rule.holds value = true) ↔
          (value.isAbsent = false → ∀ rule ∈ v.rules, rule.holdsOfPresent value = true) := by
        constructor
        · intro all present rule among
          have holds := all rule among
          rwa [Validation.holds_of_mem_rules among, present, Bool.false_or] at holds
        · intro all rule among
          rw [Validation.holds_of_mem_rules among]
          cases absent : value.isAbsent with
          | true => rfl
          | false => exact all absent rule among
      simpa [Validation.rules_hold_iff] using present
  rw [rules_eq_append, List.forall_mem_append, requirement, constraints]
  exact ⟨fun ⟨present, constraints⟩ => ⟨present, constraints⟩,
    fun ⟨present, constraints⟩ => ⟨present, constraints⟩⟩

/-- No kind of rule fails for the values that satisfy what a field declares, and for no others. -/
theorem failing_rules_eq_nil_iff (field : Field) (value : Json) :
    Rule.failing field.rules value = [] ↔ field.SatisfiedBy value := by
  rw [← rules_hold_iff, Rule.failing, List.map_eq_nil_iff, List.filter_eq_nil_iff]
  simp

instance (field : Field) (value : Json) : Decidable (field.SatisfiedBy value) :=
  decidable_of_iff _ (failing_rules_eq_nil_iff field value)

end Field

end LiveForm
