import LiveForm.Proofs.Schema.Verdict
import Mathlib.Data.Set.Finite.List
import Mathlib.Order.WellFoundedSet

/-!
# Vetted schemas

A schema is vetted when its structure was checked with cycles of dependencies rejected, on its own
or by a loader. Its names are in order and its dependencies form no cycle, and as there are only so
many fields one comes to an end by going down from a name to the fields that depend on it: the
dependencies are well founded.
-/

namespace LiveForm

namespace Schema

/-- The structure of the schema was found sound where cycles are rejected. -/
inductive Vetted (s : Schema) : Prop
  | checked (ok : s.checkStructure true = .ok ())
  | loadedValue {options : LoaderOptions} {document : Json} (rejects : options.rejectCycles = true)
      (ok : options.loadValue document = .ok s)
  | loadedText {options : LoaderOptions} {source : String} (rejects : options.rejectCycles = true)
      (ok : options.loadText source = .ok s)

variable {s : Schema} {rejectCycles : Bool}

theorem checkStructure_eq_ok_iff :
    s.checkStructure rejectCycles = .ok () ↔
      s.WellNamed ∧ (rejectCycles = true → ¬ s.Cyclic) := by
  constructor
  · intro ok
    have named : s.WellNamed := by
      rw [← nameFault?_eq_none_iff_wellNamed]
      cases faulty : nameFault? 0 [] s.fields with
      | none => rfl
      | some e =>
        have first := nameFault?_eq_some_iff_firstFault.mp faulty
        cases ok.symm.trans (checkStructure_of_faultyName first)
    refine ⟨named, ?_⟩
    rintro rfl cyclic
    obtain ⟨names, found⟩ := Option.isSome_iff_exists.mp
      ((cycle?_isSome_iff_cyclic named.distinct).mpr cyclic)
    cases ok.symm.trans (checkStructure_of_cycle named found)
  · rintro ⟨named, acyclic⟩
    exact checkStructure_of_sound named acyclic

/-- What a loader accepts is sound in the sense of its options. -/
theorem sound_of_loadValue {options : LoaderOptions} {document : Json}
    (ok : options.loadValue document = .ok s) :
    s.WellNamed ∧ (options.rejectCycles = true → ¬ s.Cyclic) := by
  have verdict := options.verdict_loadValue document
  rw [ok] at verdict
  cases verdict with
  | accepted _ _ named acyclic => exact ⟨named, acyclic⟩

/-- Vetted are the schemas with names in order and without a cycle of dependencies. -/
theorem vetted_iff : s.Vetted ↔ s.WellNamed ∧ ¬ s.Cyclic := by
  constructor
  · rintro (ok | ⟨rejects, ok⟩ | ⟨rejects, ok⟩)
    · obtain ⟨named, acyclic⟩ := checkStructure_eq_ok_iff.mp ok
      exact ⟨named, acyclic rfl⟩
    · obtain ⟨named, acyclic⟩ := sound_of_loadValue ok
      exact ⟨named, acyclic rejects⟩
    · unfold LoaderOptions.loadText at ok
      split at ok
      case h_1 document _ =>
        obtain ⟨named, acyclic⟩ := sound_of_loadValue ok
        exact ⟨named, acyclic rejects⟩
      case h_2 => cases ok
  · rintro ⟨named, acyclic⟩
    exact .checked (checkStructure_eq_ok_iff.mpr ⟨named, fun _ => acyclic⟩)

/-- Without a cycle one comes to an end by going from a name to the fields that depend on it. -/
theorem wellFounded_dependsOn (acyclic : ¬ s.Cyclic) : WellFounded s.DependsOn := by
  -- All names that play a part are among these, also those of fields that do not exist.
  let ends := s.names ++ s.fields.filterMap Field.dependsOn
  have inside : ∀ {child parent}, s.DependsOn child parent → child ∈ ends ∧ parent ∈ ends := by
    rintro child parent ⟨field, member, rfl, depends⟩
    exact ⟨List.mem_append_left _ (List.mem_map_of_mem member),
      List.mem_append_right _ (List.mem_filterMap.mpr ⟨field, member, depends⟩)⟩
  have : IsStrictOrder String (Relation.TransGen s.DependsOn) :=
    { irrefl := fun name around => acyclic ⟨name, around⟩
      trans := fun _ _ _ => Relation.TransGen.trans }
  have below : {name | name ∈ ends}.WellFoundedOn (Relation.TransGen s.DependsOn) :=
    (List.finite_toSet ends).wellFoundedOn
  refine Subrelation.wf ?_ (Set.wellFoundedOn_iff.mp below)
  intro child parent depends
  exact ⟨.single depends, inside depends⟩

end Schema

end LiveForm
