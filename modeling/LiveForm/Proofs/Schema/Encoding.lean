import LiveForm.Proofs.Decode
import LiveForm.Proofs.Schema.Verdict

/-!
# Schemas written and read back

A schema that is written as a document is read back as it was, but for thresholds that are not
finite: JSON has no such numbers, so they are written as `null`, which reads as no threshold. The
loader reads the same schema, and refuses it for a missing title or for its structure and for
nothing else, because the document of a schema has no faulty element.
-/

namespace LiveForm

namespace Validation

def withFiniteBounds (v : Validation) : Validation where
  pattern := v.pattern
  message := v.message
  minLength := v.minLength
  maxLength := v.maxLength
  min := v.min.filter Double.isFinite
  max := v.max.filter Double.isFinite

end Validation

namespace Field

def withFiniteBounds (f : Field) : Field :=
  { f with validation := f.validation.map Validation.withFiniteBounds }

end Field

namespace Schema

def withFiniteBounds (s : Schema) : Schema where
  title := s.title
  fields := s.fields.map Field.withFiniteBounds

def Titled (s : Schema) : Prop :=
  ∃ title, s.title = some title ∧ ∃ c ∈ title.toList, Text.isBlank c = false

instance (s : Schema) : Decidable s.Titled :=
  decidable_of_iff (s.title.any fun title => title.toList.any fun c => !Text.isBlank c) <| by
    simp [Titled, Option.any_eq_true]

end Schema

/-! ### Validations -/

namespace Validation

structure ReadFrom (entries : Json.Entries) (v : Validation) : Prop where
  pattern : Attr.pattern.ReadsAs entries v.pattern
  message : Attr.message.ReadsAs entries v.message
  minLength : Attr.minLength.ReadsAs entries v.minLength
  maxLength : Attr.maxLength.ReadsAs entries v.maxLength
  min : Attr.min.ReadsAs entries v.min
  max : Attr.max.ReadsAs entries v.max

variable {entries : Json.Entries} {v : Validation}

theorem decode_eq_ok_iff : decode (.object entries) = .ok v ↔ ReadFrom entries v := by
  rw [decode, Record.enter_bind_eq_ok_iff (by decide)]
  simp only [Record.take_bind_eq_ok_iff, Record.finish_bind, List.forall_mem_cons, pure,
    Except.pure, Except.ok.injEq]
  constructor
  · rintro ⟨⟨pattern, message, minLength, maxLength, min, max, -⟩, _, pattern', _, message', _,
      minLength', _, maxLength', _, min', _, max', rfl⟩
    exact ⟨⟨pattern, pattern'⟩, ⟨message, message'⟩, ⟨minLength, minLength'⟩,
      ⟨maxLength, maxLength'⟩, ⟨min, min'⟩, ⟨max, max'⟩⟩
  · rintro ⟨pattern, message, minLength, maxLength, min, max⟩
    exact ⟨⟨pattern.sound, message.sound, minLength.sound, maxLength.sound, min.sound, max.sound,
      by simp⟩, _, pattern.found, _, message.found, _, minLength.found, _, maxLength.found, _,
      min.found, _, max.found, rfl⟩

/-- A threshold that is not finite reads as no threshold. -/
theorem bound_readsAs {key : String} (bound : Option Double)
    (given : ∀ value, (key, value) ∈ entries ↔ ∃ x, bound = some x ∧ .ofDouble x = value) :
    (Attribute.optional key .double).ReadsAs entries (bound.filter Double.isFinite) := by
  have reads : ∀ x, Decoder.optional .double (.ofDouble x) =
      .ok ((some x).filter Double.isFinite) := by
    intro x
    cases x <;> rfl
  have read := Attribute.ReadsAs.of_optional .ofDouble bound given reads
  cases bound <;> exact read

theorem decode_toJson (v : Validation) : decode v.toJson = .ok v.withFiniteBounds := by
  have count : ∀ n, Decoder.optional .count (.ofNat n) = .ok (some n) := fun n =>
    congrArg (Except.map some) (Decoder.count_ofNat n)
  refine decode_eq_ok_iff.mpr ⟨?_, ?_, ?_, ?_, ?_, ?_⟩
  · exact .of_optional_same .string v.pattern (by simp) fun _ => rfl
  · exact .of_optional_same .string v.message (by simp) fun _ => rfl
  · exact .of_optional_same .ofNat v.minLength (by simp) count
  · exact .of_optional_same .ofNat v.maxLength (by simp) count
  · exact bound_readsAs v.min (by simp)
  · exact bound_readsAs v.max (by simp)

end Validation

/-! ### Fields -/

theorem FieldType.decode_toJson (t : FieldType) : decode t.toJson = .ok t := by
  rw [toJson, decode, Decoder.choice, named?_name]
  rfl

namespace Field

structure ReadFrom (entries : Json.Entries) (f : Field) : Prop where
  label : Attr.label.ReadsAs entries f.label
  name : Attr.name.ReadsAs entries f.name
  type : Attr.type.ReadsAs entries f.type
  required : Attr.required.ReadsAs entries f.required
  readonly : Attr.readonly.ReadsAs entries f.readonly
  hidden : Attr.hidden.ReadsAs entries f.hidden
  disabled : Attr.disabled.ReadsAs entries f.disabled
  options : Attr.options.ReadsAs entries f.options
  dependsOn : Attr.dependsOn.ReadsAs entries f.dependsOn
  validation : Attr.validation.ReadsAs entries f.validation
  placeholder : Attr.placeholder.ReadsAs entries f.placeholder

variable {entries : Json.Entries} {f : Field}

theorem decode_eq_ok_iff : decode (.object entries) = .ok f ↔ ReadFrom entries f := by
  rw [decode, Record.enter_bind_eq_ok_iff (by decide)]
  simp only [Record.take_bind_eq_ok_iff, Record.finish_bind, List.forall_mem_cons, pure,
    Except.pure, Except.ok.injEq]
  constructor
  · rintro ⟨⟨label, name, type, required, readonly, hidden, disabled, options, dependsOn,
      validation, placeholder, -⟩, _, label', _, name', _, type', _, required', _, readonly', _,
      hidden', _, disabled', _, options', _, dependsOn', _, validation', _, placeholder', rfl⟩
    exact ⟨⟨label, label'⟩, ⟨name, name'⟩, ⟨type, type'⟩, ⟨required, required'⟩,
      ⟨readonly, readonly'⟩, ⟨hidden, hidden'⟩, ⟨disabled, disabled'⟩, ⟨options, options'⟩,
      ⟨dependsOn, dependsOn'⟩, ⟨validation, validation'⟩, ⟨placeholder, placeholder'⟩⟩
  · rintro ⟨label, name, type, required, readonly, hidden, disabled, options, dependsOn, validation,
      placeholder⟩
    exact ⟨⟨label.sound, name.sound, type.sound, required.sound, readonly.sound, hidden.sound,
      disabled.sound, options.sound, dependsOn.sound, validation.sound, placeholder.sound, by simp⟩,
      _, label.found, _, name.found, _, type.found, _, required.found, _, readonly.found, _,
      hidden.found, _, disabled.found, _, options.found, _, dependsOn.found, _, validation.found, _,
      placeholder.found, rfl⟩

/-- The options are written unless there are none, and none is what is read otherwise. -/
theorem options_readsAs (options : List String)
    (given : ∀ value, ("options", value) ∈ entries ↔ options ≠ [] ∧ value = .ofStrings options) :
    Attr.options.ReadsAs entries options :=
  .of_unless_empty options (.ofStrings options) given (Decoder.list_ofStrings options)

theorem decode_toJson (f : Field) : decode f.toJson = .ok f.withFiniteBounds := by
  have validation : f.withFiniteBounds.validation =
      f.validation.bind fun v => some v.withFiniteBounds := Option.map_eq_bind
  refine decode_eq_ok_iff.mpr ⟨?_, ?_, ?_, ?_, ?_, ?_, ?_, ?_, ?_, ?_, ?_⟩
  · exact .of_given (.string f.label) (by simp) rfl
  · exact .of_given (.string f.name) (by simp) rfl
  · exact .of_given f.type.toJson (by simp) f.type.decode_toJson
  · exact .of_given (.bool f.required) (by simp) rfl
  · exact .of_given (.bool f.readonly) (by simp) rfl
  · exact .of_given (.bool f.hidden) (by simp) rfl
  · exact .of_given (.bool f.disabled) (by simp) rfl
  · exact options_readsAs f.options (by simp)
  · exact .of_optional_same .string f.dependsOn (by simp) fun _ => rfl
  · rw [validation]
    exact .of_optional Validation.toJson f.validation (by simp) fun v =>
      congrArg (Except.map some) v.decode_toJson
  · exact .of_optional_same .string f.placeholder (by simp) fun _ => rfl

/-- The element of a written field is loaded. -/
theorem loadsFrom_toJson (f : Field) : LoadsFrom f.toJson f.withFiniteBounds where
  complete a lacks := by
    have given : ∃ text, f.toJson.get? a.key = some (.string text) := by
      cases a with
      | type =>
        exact ⟨f.type.name, by simp [toJson, FieldType.toJson, Json.get?, CoreAttribute.key]⟩
      | label => exact ⟨f.label, by simp [toJson, Json.get?, CoreAttribute.key]⟩
      | name => exact ⟨f.name, by simp [toJson, Json.get?, CoreAttribute.key]⟩
    obtain ⟨text, found⟩ := given
    exact Json.noConfusion (lacks _ found)
  decodes := f.decode_toJson

end Field

/-! ### Schemas -/

namespace Schema

structure ReadFrom (entries : Json.Entries) (s : Schema) : Prop where
  title : Attr.title.ReadsAs entries s.title
  fields : Attr.fields.ReadsAs entries s.fields

theorem decode_eq_ok_iff {entries : Json.Entries} {s : Schema} :
    decode (.object entries) = .ok s ↔ ReadFrom entries s := by
  rw [decode, Record.enter_bind_eq_ok_iff (by decide)]
  simp only [Record.take_bind_eq_ok_iff, Record.finish_bind, List.forall_mem_cons, pure,
    Except.pure, Except.ok.injEq]
  constructor
  · rintro ⟨⟨title, fields, -⟩, _, title', _, fields', rfl⟩
    exact ⟨⟨title, title'⟩, ⟨fields, fields'⟩⟩
  · rintro ⟨title, fields⟩
    exact ⟨⟨title.sound, fields.sound, by simp⟩, _, title.found, _, fields.found, rfl⟩

theorem decode_toJson (s : Schema) : decode s.toJson = .ok s.withFiniteBounds := by
  refine decode_eq_ok_iff.mpr ⟨?_, ?_⟩
  · exact .of_optional_same .string s.title (by simp) fun _ => rfl
  · exact .of_given (.array (s.fields.map Field.toJson)) (by simp)
      (Decoder.list_map Field.decode_toJson s.fields)

/-! ### The structure of what is read back -/

section

variable {s s' : Schema} {change : Field → Field}

theorem nameFault?_map (names : ∀ f, (change f).name = f.name) (index : Nat) (seen : List String)
    (fields : List Field) :
    nameFault? index seen (fields.map change) = nameFault? index seen fields := by
  induction fields generalizing index seen with
  | nil => rfl
  | cons field rest ih => simp only [List.map_cons, nameFault?, names, ih]

theorem followParents_congr (same : s'.parent? = s.parent?) (cleared : List String) (bound : Nat)
    (path : List String) (name : String) :
    s'.followParents cleared bound path name = s.followParents cleared bound path name := by
  induction bound generalizing path name with
  | zero => rfl
  | succ bound ih => simp only [followParents, same, ih]

theorem searchCycle?_congr (same : s'.parent? = s.parent?)
    (length : s'.fields.length = s.fields.length) (cleared names : List String) :
    s'.searchCycle? cleared names = s.searchCycle? cleared names := by
  induction names generalizing cleared with
  | nil => rfl
  | cons name rest ih => simp only [searchCycle?, chainFrom, length, followParents_congr same, ih]

/-- The structure of a schema is about the names of its fields and what they depend on. -/
theorem checkStructure_map (change : Field → Field) (names : ∀ f, (change f).name = f.name)
    (parents : ∀ f, (change f).dependsOn = f.dependsOn) (fields : s'.fields = s.fields.map change)
    (rejectCycles : Bool) : s'.checkStructure rejectCycles = s.checkStructure rejectCycles := by
  have sameNames : s'.names = s.names := by
    simp only [Schema.names, fields, List.map_map, Function.comp_def, names]
  have sameParents : s'.parent? = s.parent? := by
    funext name
    simp only [parent?, fields, ← List.map_reverse, List.findSome?_map, Function.comp_def, names,
      parents]
  have sameCycle : s'.cycle? = s.cycle? := by
    rw [cycle?, cycle?, sameNames, searchCycle?_congr sameParents (by rw [fields, List.length_map])]
  simp only [checkStructure, structureFault?, sameCycle, fields, nameFault?_map names]

end

/-! ### Loading what was written -/

def entries (s : Schema) : Json.Entries :=
  Json.optionalEntry "title" .string s.title ++ [("fields", .array (s.fields.map Field.toJson))]

theorem toJson_eq (s : Schema) : s.toJson = .object s.entries := rfl

theorem get?_entries_fields (s : Schema) :
    s.entries.get? "fields" = some (.array (s.fields.map Field.toJson)) := by
  unfold entries
  cases s.title <;> simp [Json.optionalEntry]

theorem get?_entries_title_iff (s : Schema) (title : String) :
    s.entries.get? "title" = some (.string title) ↔ s.title = some title := by
  unfold entries
  cases s.title <;> simp [Json.optionalEntry]

theorem hasTitle_entries_iff (s : Schema) : LoaderOptions.HasTitle s.entries ↔ s.Titled := by
  simp only [LoaderOptions.HasTitle, Titled, get?_entries_title_iff]

theorem decodes_entries (s : Schema) :
    LoaderOptions.Decodes s.entries (s.fields.map Field.toJson) s.withFiniteBounds where
  title_eq_some_iff title := (s.get?_entries_title_iff title).symm
  fields := by
    rw [withFiniteBounds, List.forall₂_map_left_iff, List.forall₂_map_right_iff, List.forall₂_same]
    exact fun f _ => f.loadsFrom_toJson

/-- A loader refuses a written schema for a missing title or for its structure, and otherwise reads
it back. -/
theorem loadValue_toJson (s : Schema) (options : LoaderOptions) :
    options.loadValue s.toJson =
      if options.requireTitle = true ∧ ¬ s.Titled then .error .missingTitle
      else (s.checkStructure options.rejectCycles).map fun _ => s.withFiniteBounds := by
  rw [toJson_eq]
  split
  case isTrue refused =>
    exact LoaderOptions.loadValue_of_untitled s.get?_entries_fields refused.1
      (mt s.hasTitle_entries_iff.mp refused.2)
  case isFalse accepted =>
    have admits : options.Admits s.entries (s.fields.map Field.toJson) := by
      refine ⟨s.get?_entries_fields, fun asked => ?_⟩
      exact s.hasTitle_entries_iff.mpr (not_not.mp (not_and.mp accepted asked))
    have structures : s.withFiniteBounds.checkStructure options.rejectCycles =
        s.checkStructure options.rejectCycles :=
      checkStructure_map Field.withFiniteBounds (fun _ => rfl) (fun _ => rfl) rfl _
    rw [admits.loadValue_of_decodes s.decodes_entries, structures]

/-- A schema that is written as a document is read back, and loaded, as the schema without its
thresholds that are not finite. The loader refuses it for a title that is asked for and missing, and
then for its structure, and for nothing else. -/
theorem read_back (s : Schema) :
    decode s.toJson = .ok s.withFiniteBounds ∧ ∀ options : LoaderOptions,
      options.loadValue s.toJson =
        if options.requireTitle = true ∧ ¬ s.Titled then .error .missingTitle
        else (s.checkStructure options.rejectCycles).map fun _ => s.withFiniteBounds :=
  ⟨s.decode_toJson, s.loadValue_toJson⟩

end Schema

end LiveForm
