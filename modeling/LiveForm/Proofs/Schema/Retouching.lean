import LiveForm.Proofs.Schema.Encoding
import Mathlib.Logic.Relation

/-!
# Documents that say the same

A document can be retouched without saying anything else: its objects list their entries in another
order, they have entries that no record knows, or an attribute that may be left out is given as
`null`; and a title that is no text may as well be absent. A loader makes the same of such
documents: the same schema, or the same error. Only the fault of an element that is no field may be
another one, because the entries of an element are read in their order and the first fault counts.
-/

namespace LiveForm

/-! ### Errors -/

/-- Two errors that are the same, but for what is wrong with an element that is no field. -/
inductive SchemaError.Alike : SchemaError → SchemaError → Prop
  | refl (e : SchemaError) : Alike e e
  | invalidField (index : Nat) (fault fault' : Fault) :
      Alike (.invalidField index fault) (.invalidField index fault')

namespace SchemaError.Alike

variable {e e' e'' : SchemaError}

theorem symm (alike : e.Alike e') : e'.Alike e := by
  cases alike with
  | refl => exact .refl e
  | invalidField index fault fault' => exact .invalidField index fault' fault

theorem trans (alike : e.Alike e') (alike' : e'.Alike e'') : e.Alike e'' := by
  cases alike with
  | refl => exact alike'
  | invalidField index fault fault' =>
    cases alike' with
    | refl => exact .invalidField index fault fault'
    | invalidField _ _ fault'' => exact .invalidField index fault fault''

end SchemaError.Alike

/-- Two results of loading: the same value, or errors that are alike. -/
inductive LoadsAlike {α : Type} : Except SchemaError α → Except SchemaError α → Prop
  | ok (a : α) : LoadsAlike (.ok a) (.ok a)
  | error {e e' : SchemaError} (alike : e.Alike e') : LoadsAlike (.error e) (.error e')

namespace LoadsAlike

variable {α β : Type} {x y z : Except SchemaError α}

theorem refl (x : Except SchemaError α) : LoadsAlike x x := by
  cases x with
  | ok a => exact .ok a
  | error e => exact .error (.refl e)

theorem symm (alike : LoadsAlike x y) : LoadsAlike y x := by
  cases alike with
  | ok a => exact .ok a
  | error alike => exact .error alike.symm

theorem trans (alike : LoadsAlike x y) (alike' : LoadsAlike y z) : LoadsAlike x z := by
  cases alike with
  | ok a => exact alike'
  | error alike =>
    cases alike' with
    | error alike' => exact .error (alike.trans alike')

theorem bind (alike : LoadsAlike x y) {next next' : α → Except SchemaError β}
    (same : ∀ a, LoadsAlike (next a) (next' a)) : LoadsAlike (x >>= next) (y >>= next') := by
  cases alike with
  | ok a => exact same a
  | error alike => exact .error alike

end LoadsAlike

/-- Readings that give the same value, if any, give the same field or say that there is none. -/
theorem LoadsAlike.of_read {x y : Except Fault Field} (same : x.toOption = y.toOption)
    (index : Nat) :
    LoadsAlike (x.mapError (.invalidField index)) (y.mapError (.invalidField index)) := by
  cases x with
  | ok field =>
    cases y with
    | ok field' =>
      obtain rfl := Option.some.inj same
      exact .ok field
    | error fault' => cases same
  | error fault =>
    cases y with
    | ok field' => cases same
    | error fault' => exact .error (.invalidField index fault fault')

theorem Except.toOption_eq_of_iff {ε α : Type} {x y : Except ε α}
    (same : ∀ a, x = .ok a ↔ y = .ok a) : x.toOption = y.toOption := by
  have read : ∀ (z : Except ε α) a, z.toOption = some a ↔ z = .ok a := by
    intro z a
    cases z <;> simp [Except.toOption]
  ext a
  rw [read, read, same]

/-! ### Entries -/

namespace Json.Entries

/-- One change of the entries of an object that a record does not see, by the keys that it knows and
those among them that may be given as `null`. What is added here may as well be dropped. -/
inductive Retouched (known optional : List String) : Entries → Entries → Prop
  | permuted {entries entries' : Entries} (distinct : entries.keys.Nodup)
      (perm : entries.Perm entries') : Retouched known optional entries entries'
  | foreign {before after : Entries} {key : String} (value : Json) (unknown : key ∉ known) :
      Retouched known optional (before ++ after) (before ++ (key, value) :: after)
  | null {before after : Entries} {key : String} (nullable : key ∈ optional)
      (absent : key ∉ (before ++ after).keys) :
      Retouched known optional (before ++ after) (before ++ (key, .null) :: after)

variable {known optional : List String} {entries entries' before after : Entries} {key : String}

theorem get?_insertion {other : String} (value : Json) (elsewhere : key ≠ other) :
    (before ++ after).get? other = (before ++ (key, value) :: after).get? other := by
  rw [get?_append, get?_append, get?_cons, if_neg elsewhere]

theorem mem_insertion_iff {other : String} (value given : Json) (elsewhere : key ≠ other) :
    (other, given) ∈ before ++ after ↔ (other, given) ∈ before ++ (key, value) :: after := by
  simp [elsewhere.symm]

/-- A key that must be given leads to the same value. -/
theorem Retouched.get?_eq (retouched : Retouched known optional entries entries')
    (here : key ∈ known) (needed : key ∉ optional) : entries.get? key = entries'.get? key := by
  cases retouched with
  | permuted distinct perm => exact get?_perm distinct perm key
  | foreign value unknown =>
    exact get?_insertion value fun same => unknown (same ▸ here)
  | null nullable absent =>
    exact get?_insertion .null fun same => needed (same ▸ nullable)

end Json.Entries

/-! ### Attributes -/

/-- An attribute of a record with some keys. If it may be given as `null`, then this reads as
nothing given. -/
structure Attribute.Belongs {α : Type} (a : Attribute α) (known optional : List String) : Prop where
  known : a.key ∈ known
  nullable : a.key ∈ optional → ∃ x, a.read .null = .ok x ∧ a.absent = some x

namespace Attribute.ReadsAs

variable {α : Type} {a : Attribute α} {known optional : List String}
  {entries entries' before after : Json.Entries} {key : String} {x : α}

theorem congr (found : entries.get? a.key = entries'.get? a.key)
    (given : ∀ value, (a.key, value) ∈ entries ↔ (a.key, value) ∈ entries') :
    a.ReadsAs entries x ↔ a.ReadsAs entries' x := by
  have same : a.found? entries = a.found? entries' := by rw [found?, found?, found]
  constructor
  · rintro ⟨sound, reads⟩
    exact ⟨fun value member => sound value ((given value).mpr member), same ▸ reads⟩
  · rintro ⟨sound, reads⟩
    exact ⟨fun value member => sound value ((given value).mp member), same ▸ reads⟩

/-- A `null` under the key of an attribute reads as no entry at all. -/
theorem insert_null (null : ∃ x, a.read .null = .ok x ∧ a.absent = some x)
    (absent : a.key ∉ (before ++ after).keys) :
    a.ReadsAs (before ++ after) x ↔ a.ReadsAs (before ++ (a.key, .null) :: after) x := by
  obtain ⟨default, read_eq, absent_eq⟩ := null
  have none : ∀ value, (a.key, value) ∉ before ++ after := fun value member =>
    absent (List.mem_map_of_mem member)
  have only : ∀ value, (a.key, value) ∈ before ++ (a.key, .null) :: after → value = .null := by
    intro value member
    have outside := none value
    simp only [List.mem_append, List.mem_cons, Prod.mk.injEq, true_and, not_or] at outside member
    simpa [outside.1, outside.2] using member
  -- Both ways the attribute finds the default, and no entry is at fault.
  have missing : Json.Entries.get? (before ++ after) a.key = Option.none :=
    Json.Entries.get?_eq_none_iff.mpr none
  have found : a.found? (before ++ after) = some default := by
    rw [found?, missing]
    exact absent_eq
  have found' : a.found? (before ++ (a.key, .null) :: after) = some default := by
    rw [Json.Entries.get?_append, Option.or_eq_none_iff] at missing
    rw [found?, Json.Entries.get?_append, missing.1, Option.none_or, Json.Entries.get?_cons,
      if_pos rfl, Option.elim_some, read_eq]
    rfl
  constructor
  · rintro ⟨-, reads⟩
    refine ⟨fun value member => ?_, found'.trans (found.symm.trans reads)⟩
    rw [only value member, fault?, read_eq]
  · rintro ⟨-, reads⟩
    exact ⟨fun value member => absurd member (none value), found.trans (found'.symm.trans reads)⟩

/-- An entry may be replaced by one that reads as the same, or that is of no concern to the
attribute. -/
theorem replace {value value' : Json}
    (same : key = a.key → (a.read value).toOption = (a.read value').toOption)
    (reads : a.ReadsAs (before ++ (key, value) :: after) x) :
    a.ReadsAs (before ++ (key, value') :: after) x := by
  obtain ⟨sound, found⟩ := reads
  by_cases here : key = a.key
  · subst here
    have same := same rfl
    refine ⟨fun given member => ?_, ?_⟩
    · rcases List.mem_append.mp member with earlier | later
      · exact sound given (List.mem_append_left _ earlier)
      · rcases List.mem_cons.mp later with new | later
        · obtain rfl := congrArg Prod.snd new
          have first := fault?_eq_none_iff.mp (sound value (by simp))
          exact fault?_eq_none_iff.mpr (same ▸ first)
        · exact sound given (List.mem_append_right _ (List.mem_cons_of_mem _ later))
    · rw [found?, Json.Entries.get?_append, Json.Entries.get?_cons, if_pos rfl] at found ⊢
      cases earlier : Json.Entries.get? before a.key with
      | none => simpa [earlier, same] using found
      | some first => simpa [earlier] using found
  · refine (congr ?_ ?_).mp ⟨sound, found⟩
    · rw [← Json.Entries.get?_insertion value here, Json.Entries.get?_insertion value' here]
    · intro given
      rw [← Json.Entries.mem_insertion_iff value given here,
        Json.Entries.mem_insertion_iff value' given here]

/-- An attribute of a record reads the same from retouched entries. -/
theorem retouched_iff (retouched : Json.Entries.Retouched known optional entries entries')
    (belongs : a.Belongs known optional) : a.ReadsAs entries x ↔ a.ReadsAs entries' x := by
  cases retouched with
  | permuted distinct perm =>
    exact congr (Json.Entries.get?_perm distinct perm a.key) fun _ => perm.mem_iff
  | @foreign before after key value unknown =>
    have elsewhere : key ≠ a.key := fun same => unknown (same ▸ belongs.known)
    exact congr (Json.Entries.get?_insertion value elsewhere) fun given =>
      Json.Entries.mem_insertion_iff value given elsewhere
  | @null before after key nullable absent =>
    by_cases here : key = a.key
    · subst here
      exact insert_null (belongs.nullable nullable) absent
    · exact congr (Json.Entries.get?_insertion .null here) fun given =>
        Json.Entries.mem_insertion_iff .null given here

end Attribute.ReadsAs

/-! ### Validations and fields -/

namespace Validation

def keys : List String :=
  [Attr.pattern.key, Attr.message.key, Attr.minLength.key, Attr.maxLength.key, Attr.min.key,
    Attr.max.key]

variable {entries entries' : Json.Entries} {v : Validation}

theorem ReadFrom.imp (read : ReadFrom entries v)
    (kept : ∀ {α : Type} {a : Attribute α} {x : α}, a.Belongs keys keys → a.ReadsAs entries x →
      a.ReadsAs entries' x) : ReadFrom entries' v where
  pattern := kept ⟨by decide, fun _ => ⟨_, rfl, rfl⟩⟩ read.pattern
  message := kept ⟨by decide, fun _ => ⟨_, rfl, rfl⟩⟩ read.message
  minLength := kept ⟨by decide, fun _ => ⟨_, rfl, rfl⟩⟩ read.minLength
  maxLength := kept ⟨by decide, fun _ => ⟨_, rfl, rfl⟩⟩ read.maxLength
  min := kept ⟨by decide, fun _ => ⟨_, rfl, rfl⟩⟩ read.min
  max := kept ⟨by decide, fun _ => ⟨_, rfl, rfl⟩⟩ read.max

theorem toOption_decode_retouched
    (retouched : Json.Entries.Retouched keys keys entries entries') :
    (decode (.object entries)).toOption = (decode (.object entries')).toOption := by
  apply Except.toOption_eq_of_iff
  intro v
  rw [decode_eq_ok_iff, decode_eq_ok_iff]
  constructor
  · intro read
    exact read.imp fun belongs => (Attribute.ReadsAs.retouched_iff retouched belongs).mp
  · intro read
    exact read.imp fun belongs => (Attribute.ReadsAs.retouched_iff retouched belongs).mpr

end Validation

namespace Field

def optionalKeys : List String :=
  [Attr.required.key, Attr.readonly.key, Attr.hidden.key, Attr.disabled.key, Attr.options.key,
    Attr.dependsOn.key, Attr.validation.key, Attr.placeholder.key]

def keys : List String := [Attr.label.key, Attr.name.key, Attr.type.key] ++ optionalKeys

/-- One change of an element that says the same about a field. -/
inductive Retouched : Json → Json → Prop
  | entries {entries entries' : Json.Entries}
      (retouched : Json.Entries.Retouched keys optionalKeys entries entries') :
      Retouched (.object entries) (.object entries')
  | validation {before after entries entries' : Json.Entries}
      (retouched : Json.Entries.Retouched Validation.keys Validation.keys entries entries') :
      Retouched (.object (before ++ (Attr.validation.key, .object entries) :: after))
        (.object (before ++ (Attr.validation.key, .object entries') :: after))

variable {entries entries' before after : Json.Entries} {element element' : Json} {f : Field}

theorem ReadFrom.imp (read : ReadFrom entries f)
    (kept : ∀ {α : Type} {a : Attribute α} {x : α}, a.Belongs keys optionalKeys →
      a.ReadsAs entries x → a.ReadsAs entries' x) : ReadFrom entries' f where
  label := kept ⟨by decide, fun nullable => absurd nullable (by decide)⟩ read.label
  name := kept ⟨by decide, fun nullable => absurd nullable (by decide)⟩ read.name
  type := kept ⟨by decide, fun nullable => absurd nullable (by decide)⟩ read.type
  required := kept ⟨by decide, fun _ => ⟨_, rfl, rfl⟩⟩ read.required
  readonly := kept ⟨by decide, fun _ => ⟨_, rfl, rfl⟩⟩ read.readonly
  hidden := kept ⟨by decide, fun _ => ⟨_, rfl, rfl⟩⟩ read.hidden
  disabled := kept ⟨by decide, fun _ => ⟨_, rfl, rfl⟩⟩ read.disabled
  options := kept ⟨by decide, fun _ => ⟨_, rfl, rfl⟩⟩ read.options
  dependsOn := kept ⟨by decide, fun _ => ⟨_, rfl, rfl⟩⟩ read.dependsOn
  validation := kept ⟨by decide, fun _ => ⟨_, rfl, rfl⟩⟩ read.validation
  placeholder := kept ⟨by decide, fun _ => ⟨_, rfl, rfl⟩⟩ read.placeholder

/-- The validation of a field may be written in another way that is read as the same. -/
theorem ReadFrom.replaceValidation (same : (Validation.decode (.object entries)).toOption =
      (Validation.decode (.object entries')).toOption)
    (read : ReadFrom (before ++ (Attr.validation.key, .object entries) :: after) f) :
    ReadFrom (before ++ (Attr.validation.key, .object entries') :: after) f := by
  have other : ∀ {α : Type} {a : Attribute α} {x : α}, Attr.validation.key ≠ a.key →
      a.ReadsAs (before ++ (Attr.validation.key, .object entries) :: after) x →
      a.ReadsAs (before ++ (Attr.validation.key, .object entries') :: after) x :=
    fun elsewhere reads => reads.replace fun here => absurd here elsewhere
  have here : (Attr.validation.read (.object entries)).toOption =
      (Attr.validation.read (.object entries')).toOption := by
    have given : ∀ entries, (Attr.validation.read (.object entries)).toOption =
        (Validation.decode (.object entries)).toOption.map some := by
      intro entries
      show ((Validation.decode (.object entries)).map some).toOption = _
      cases Validation.decode (.object entries) <;> rfl
    rw [given, given, same]
  refine ⟨other (by decide) read.label, other (by decide) read.name, other (by decide) read.type,
    other (by decide) read.required, other (by decide) read.readonly,
    other (by decide) read.hidden, other (by decide) read.disabled, other (by decide) read.options,
    other (by decide) read.dependsOn, read.validation.replace fun _ => here,
    other (by decide) read.placeholder⟩

/-- A retouched element is read as the same field, or as none. -/
theorem Retouched.toOption_decode_eq (retouched : Retouched element element') :
    (decode element).toOption = (decode element').toOption := by
  apply Except.toOption_eq_of_iff
  intro f
  cases retouched with
  | entries retouched =>
    rw [decode_eq_ok_iff, decode_eq_ok_iff]
    constructor
    · intro read
      exact read.imp fun belongs => (Attribute.ReadsAs.retouched_iff retouched belongs).mp
    · intro read
      exact read.imp fun belongs => (Attribute.ReadsAs.retouched_iff retouched belongs).mpr
  | validation retouched =>
    rw [decode_eq_ok_iff, decode_eq_ok_iff]
    have same := Validation.toOption_decode_retouched retouched
    exact ⟨.replaceValidation same, .replaceValidation same.symm⟩

theorem Retouched.lackingAttribute?_eq (retouched : Retouched element element') :
    lackingAttribute? element = lackingAttribute? element' := by
  have same : ∀ a : CoreAttribute, element.get? a.key = element'.get? a.key := by
    intro a
    cases retouched with
    | entries retouched => cases a <;> exact retouched.get?_eq (by decide) (by decide)
    | validation retouched =>
      have elsewhere : Attr.validation.key ≠ a.key := by cases a <;> decide
      show Json.Entries.get? _ _ = Json.Entries.get? _ _
      rw [← Json.Entries.get?_insertion _ elsewhere, Json.Entries.get?_insertion _ elsewhere]
  unfold lackingAttribute?
  congr 1
  funext a
  rw [same]

/-- A retouched element is loaded alike, or is no field all the same. -/
theorem Retouched.load_alike (retouched : Retouched element element') (index : Nat) :
    LoadsAlike (load index element) (load index element') := by
  rw [load, load, retouched.lackingAttribute?_eq]
  cases lackingAttribute? element' with
  | some lacking => exact .refl _
  | none => exact .of_read retouched.toOption_decode_eq index

theorem Retouched.loadAll_alike (retouched : Retouched element element') (index : Nat)
    (earlier later : List Json) :
    LoadsAlike (loadAll index (earlier ++ element :: later))
      (loadAll index (earlier ++ element' :: later)) := by
  induction earlier generalizing index with
  | nil => exact (retouched.load_alike index).bind fun _ => .refl _
  | cons first rest ih =>
    exact (LoadsAlike.refl _).bind fun _ => (ih (index + 1)).bind fun _ => .refl _

end Field

/-! ### Documents -/

namespace Schema

def keys : List String := ["title", "fields"]

/-- One change of a document that says the same about a schema. -/
inductive Retouched : Json → Json → Prop
  | entries {entries entries' : Json.Entries}
      (retouched : Json.Entries.Retouched keys [] entries entries') :
      Retouched (.object entries) (.object entries')
  | title {before after : Json.Entries} {value : Json} (untitled : ∀ title, value ≠ .string title)
      (only : "title" ∉ (before ++ after).keys) :
      Retouched (.object (before ++ ("title", value) :: after)) (.object (before ++ after))
  | element {before after : Json.Entries} {earlier later : List Json} {element element' : Json}
      (retouched : Field.Retouched element element') :
      Retouched
        (.object (before ++ ("fields", .array (earlier ++ element :: later)) :: after))
        (.object (before ++ ("fields", .array (earlier ++ element' :: later)) :: after))

end Schema

namespace LoaderOptions

variable {options : LoaderOptions} {entries entries' : Json.Entries} {document document' : Json}

theorem title?_congr (same : entries.get? "title" = entries'.get? "title") :
    title? entries = title? entries' := by
  rw [title?, title?, same]

theorem title?_eq_none_of_untitled {before after : Json.Entries} {value : Json}
    (untitled : ∀ title, value ≠ .string title) (missing : before.get? "title" = none) :
    title? (before ++ ("title", value) :: after) = none := by
  have found : Json.Entries.get? (before ++ ("title", value) :: after) "title" = some value := by
    rw [Json.Entries.get?_append, missing, Option.none_or, Json.Entries.get?_cons, if_pos rfl]
  rw [title?, found]
  cases value with
  | string title => exact absurd rfl (untitled title)
  | _ => rfl

/-- A loader looks for a title and for a list of elements, and at nothing else. -/
theorem loadValue_congr (title : title? entries = title? entries')
    (fields : entries.get? "fields" = entries'.get? "fields") :
    options.loadValue (.object entries) = options.loadValue (.object entries') := by
  rw [loadValue, loadValue, title, fields]

/-- Where the elements are loaded alike, so are the documents. -/
theorem loadValue_alike {elements elements' : List Json} (title : title? entries = title? entries')
    (listed : entries.get? "fields" = some (.array elements))
    (listed' : entries'.get? "fields" = some (.array elements'))
    (alike : LoadsAlike (Field.loadAll 0 elements) (Field.loadAll 0 elements')) :
    LoadsAlike (options.loadValue (.object entries)) (options.loadValue (.object entries')) := by
  rw [loadValue, loadValue, title, listed, listed']
  dsimp only
  split
  case isTrue => exact .refl _
  case isFalse => exact alike.bind fun _ => .refl _

/-- A loader makes the same of a document after one change. -/
theorem loadValue_alike_of_retouched (options : LoaderOptions)
    (retouched : Schema.Retouched document document') :
    LoadsAlike (options.loadValue document) (options.loadValue document') := by
  cases retouched with
  | entries retouched =>
    have same : ∀ key ∈ Schema.keys, Json.Entries.get? _ key = Json.Entries.get? _ key :=
      fun key here => retouched.get?_eq here List.not_mem_nil
    rw [loadValue_congr (title?_congr (same _ (by decide))) (same _ (by decide))]
    exact .refl _
  | @title before after value untitled only =>
    have missing : ∀ value, ("title", value) ∉ before ++ after := fun value member =>
      only (List.mem_map_of_mem member)
    have absent := Json.Entries.get?_eq_none_iff.mpr missing
    have none : title? (before ++ after) = none := by rw [title?, absent]
    rw [Json.Entries.get?_append, Option.or_eq_none_iff] at absent
    rw [loadValue_congr ((title?_eq_none_of_untitled untitled absent.1).trans none.symm)
      (Json.Entries.get?_insertion value (by decide)).symm]
    exact .refl _
  | @element before after earlier later element element' retouched =>
    have title : ∀ written : Json,
        title? (before ++ after) = title? (before ++ ("fields", written) :: after) :=
      fun written => title?_congr (Json.Entries.get?_insertion written (by decide))
    have listed : ∀ written : Json,
        Json.Entries.get? (before ++ ("fields", written) :: after) "fields" =
          (before.get? "fields").or (some written) := by
      intro written
      rw [Json.Entries.get?_append, Json.Entries.get?_cons, if_pos rfl]
    have sameTitle := (title (.array (earlier ++ element :: later))).symm.trans
      (title (.array (earlier ++ element' :: later)))
    have here := listed (.array (earlier ++ element :: later))
    have here' := listed (.array (earlier ++ element' :: later))
    cases shadowed : before.get? "fields" with
    | some other =>
      rw [shadowed] at here here'
      rw [loadValue_congr sameTitle (here.trans here'.symm)]
      exact .refl _
    | none =>
      rw [shadowed, Option.none_or] at here here'
      exact loadValue_alike sameTitle here here' (retouched.loadAll_alike 0 earlier later)

/-- A loader makes the same of documents that say the same: it accepts both, as the same schema, or
it refuses both with the same error, up to the fault of an element that is no field. -/
theorem loadValue_retouched (options : LoaderOptions)
    (retouched : Relation.EqvGen Schema.Retouched document document') :
    LoadsAlike (options.loadValue document) (options.loadValue document') := by
  induction retouched with
  | rel _ _ retouched => exact loadValue_alike_of_retouched options retouched
  | refl document => exact .refl _
  | symm _ _ _ alike => exact alike.symm
  | trans _ _ _ _ _ first second => exact first.trans second

def draft : Json :=
  .object [("title", .number (.int 7)), ("fields", .array [.object [
    ("type", .string "slider"), ("required", .number (.int 1)), ("label", .string "Age"),
    ("name", .string "age"), ("validation", .object [("min", .number (.int 18))])]])]

def revisedDraft : Json :=
  .object [("fields", .array [.object [
    ("required", .number (.int 1)), ("type", .string "slider"), ("label", .string "Age"),
    ("name", .string "age"),
    ("validation", .object [("pattern", .null), ("min", .number (.int 18))])]])]

theorem loadValue_retouched_draft :
    Relation.EqvGen Schema.Retouched draft revisedDraft ∧
      loadValue {} draft = .error (.invalidField 0
        (.unknownName "slider" (FieldType.all.map FieldType.name))) ∧
      loadValue {} revisedDraft = .error (.invalidField 0 (.wrongType (.integer 1) .boolean)) ∧
      LoadsAlike (loadValue {} draft) (loadValue {} revisedDraft) := by
  have retouched : Relation.EqvGen Schema.Retouched draft revisedDraft := by
    refine .trans _ _ _ (.rel _ _ (@Schema.Retouched.title [] _ _ (by simp) (by decide))) ?_
    refine .trans _ _ _ (.rel _ _ (@Schema.Retouched.element [] [] [] [] _ _
      (.entries (.permuted (by decide) (.swap _ _ _))))) ?_
    exact .rel _ _ (@Schema.Retouched.element [] [] [] [] _ _ (@Field.Retouched.validation
      [("required", .number (.int 1)), ("type", .string "slider"), ("label", .string "Age"),
        ("name", .string "age")] [] _ _
      (@Json.Entries.Retouched.null _ _ [] _ "pattern" (by decide) (by decide))))
  exact ⟨retouched, rfl, rfl, loadValue_retouched {} retouched⟩

end LoaderOptions

end LiveForm
