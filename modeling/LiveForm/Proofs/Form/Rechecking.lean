import LiveForm.Proofs.Form.Reached

/-!
# Failing kinds are never stale

A control keeps the kinds of its failing rules beside its value and its flag. They are recomputed
when the value is written, and when the flag really changes; in a cascade a control is reset while
it is still enabled, and disabled only after those below it. In every reached form the failing kinds
are nevertheless those that the declaration of the control gives for the value and the flag at hand.
A name may be declared more than once: then the last declaration counts, whatever the earlier ones
ask for.
-/

namespace LiveForm

/-- The last field with a name, which is the one that its control is made for. -/
def Schema.declaration? (s : Schema) (name : String) : Option Field :=
  s.fields.reverse.find? fun field => field.name = name

namespace Form

variable {f : Form} {c : Control}

theorem mem_controls_insert_iff (consistent : f.Consistent) (c d : Control) :
    d ∈ (f.insert c).controls ↔ d = c ∨ d ∈ f.controls ∧ d.name ≠ c.name := by
  by_cases known : c.name ∈ f.names
  · obtain ⟨place, found⟩ := Option.isSome_iff_exists.mp (consistent.contains_iff.mpr known)
    have named := (consistent.place?_eq_some_iff c.name place).mp found
    have inside : place < f.controls.length := by
      simpa [names] using (List.getElem?_eq_some_iff.mp named).1
    have placed : ∀ i d, f.controls[i]? = some d → (d.name = c.name ↔ place = i) := by
      intro i d here
      have atPlace := consistent.place?_eq_some_iff c.name i
      rw [found, names, List.getElem?_map, here, Option.map_some, Option.some.injEq,
        Option.some.injEq] at atPlace
      exact atPlace.symm
    rw [insert, found]
    simp only [List.mem_iff_getElem?, List.getElem?_set]
    constructor
    · rintro ⟨i, here⟩
      split at here
      case isTrue => exact .inl (by simpa [inside, eq_comm] using here)
      case isFalse other => exact .inr ⟨⟨i, here⟩, mt (placed i d here).mp other⟩
    · rintro (rfl | ⟨⟨i, here⟩, other⟩)
      · exact ⟨place, by simp [inside]⟩
      · exact ⟨i, by rw [if_neg (mt (placed i d here).mpr other), here]⟩
  · rw [insert_of_unknown consistent known]
    have other : ∀ d ∈ f.controls, d.name ≠ c.name := by
      rintro d member same
      exact known (same ▸ List.mem_map_of_mem member)
    simp only [List.mem_append, List.mem_singleton]
    constructor
    · rintro (before | rfl)
      · exact .inr ⟨before, other d before⟩
      · exact .inl rfl
    · rintro (rfl | ⟨before, -⟩)
      · exact .inr rfl
      · exact .inl before

theorem control?_insert (consistent : f.Consistent) (ungated : c.observers.gateTargets = [])
    (name : String) :
    (f.insert c).control? name = if name = c.name then some c else f.control? name := by
  apply Option.ext
  intro d
  rw [(consistent.insert ungated).control?_eq_some_iff, mem_controls_insert_iff consistent]
  split
  case isTrue here =>
    subst here
    constructor
    · rintro ⟨rfl | ⟨-, other⟩, same⟩
      · rfl
      · exact absurd same other
    · rintro same
      obtain rfl := Option.some.inj same
      exact ⟨.inl rfl, rfl⟩
  case isFalse elsewhere =>
    rw [consistent.control?_eq_some_iff]
    constructor
    · rintro ⟨rfl | ⟨member, -⟩, same⟩
      · exact absurd same.symm elsewhere
      · exact ⟨member, same⟩
    · rintro ⟨member, rfl⟩
      exact ⟨.inr ⟨member, elsewhere⟩, rfl⟩

/-- After some declarations a control is that of the last field with its name. -/
theorem control?_foldl_insert (initial : Json.Entries) (fields : List Field) (unwired : f.Unwired)
    (name : String) :
    (fields.foldl (fun f field => f.insert (.ofField field initial)) f).control? name =
      ((fields.reverse.find? fun field => field.name = name).map (Control.ofField · initial)).or
        (f.control? name) := by
  induction fields generalizing f with
  | nil => simp
  | cons field rest ih =>
    rw [List.foldl_cons, ih (unwired.insert (c := .ofField field initial) rfl rfl),
      control?_insert unwired.sound.consistent rfl, List.reverse_cons, List.find?_append,
      Option.map_or, Option.or_assoc]
    congr 1
    rcases eq_or_ne field.name name with rfl | other
    · simp [Control.ofField, Control.new]
    · simp [Control.ofField, Control.new, other, other.symm]

theorem control?_declared (schema : Schema) (initial : Json.Entries) (name : String) :
    (declared schema initial).control? name =
      (schema.declaration? name).map (Control.ofField · initial) := by
  rw [declared, control?_foldl_insert initial schema.fields Unwired.empty]
  exact Option.or_none

/-- The rules of a control are for good those of the last field with its name. -/
theorem exists_declaration (schema : Schema) (initial : Json.Entries) (actions : List Action)
    (member : c ∈ (reached schema initial actions).controls) :
    ∃ field, schema.declaration? c.name = some field ∧ c.rules = field.rules := by
  have fixed : c.fixed ∈ (declared schema initial).fixedParts := by
    have kept := (compile_sound schema initial).fixedParts_run actions
    have wired : (compile schema initial).form.fixedParts =
        (declared schema initial).fixedParts := by
      rw [compile_form_eq]
      simp [fixedParts, fixed_wired]
    rw [← wired, ← kept]
    exact List.mem_map_of_mem member
  obtain ⟨d, before, same⟩ := List.mem_map.mp fixed
  obtain ⟨name, -, rules⟩ : d.name = c.name ∧ d.type = c.type ∧ d.rules = c.rules := by
    simpa [Control.fixed] using same
  have found := (declared_unwired schema initial).sound.consistent.control?_name before
  rw [control?_declared, name] at found
  obtain ⟨field, last, rfl⟩ := Option.map_eq_some_iff.mp found
  exact ⟨field, last, rules.symm⟩

/-- In every reached form the failing kinds of a control are those of the rules of its declaration
for the value at hand, and none when the control is disabled. -/
theorem errors_never_stale (schema : Schema) (initial : Json.Entries) (actions : List Action) :
    ∀ c ∈ (reached schema initial actions).controls,
      ∃ field, schema.declaration? c.name = some field ∧ c.rules = field.rules ∧
        c.errors = if c.disabled then [] else Rule.failing field.rules c.value := by
  intro c member
  obtain ⟨field, last, rules⟩ := exists_declaration schema initial actions member
  have upToDate : c.UpToDate := (reached_sound schema initial actions).upToDate c member
  refine ⟨field, last, rules, ?_⟩
  rw [← rules]
  exact upToDate

/-- Two fields that depend on each other, one of them declared twice. -/
def redeclared : Schema where
  fields := [
    { label := "Code", name := "code", type := .checkbox, required := true },
    { label := "Kind", name := "kind", type := .text, required := true, dependsOn := some "code" },
    { label := "Code", name := "code", type := .text, dependsOn := some "kind",
      validation := some { minLength := some 3 } }]

/-- The later declaration of the code asks for three characters and for nothing else. -/
theorem errors_never_stale_redeclared :
    let f := reached redeclared [] [.setValue "kind" (.string "iso"),
      .setValueSilently "code" (.string "no")]
    ∃ c ∈ f.controls, c.name = "code" ∧ c.errors = [.minLength] ∧
      ∃ field, redeclared.declaration? "code" = some field ∧ c.rules = field.rules ∧
        c.errors = if c.disabled then [] else Rule.failing field.rules c.value := by
  intro f
  have member : f.controls[0] ∈ f.controls := List.getElem_mem _
  exact ⟨f.controls[0], member, rfl, rfl, errors_never_stale redeclared [] _ f.controls[0] member⟩

end Form

end LiveForm
