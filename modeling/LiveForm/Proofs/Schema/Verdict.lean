import LiveForm.Proofs.Schema.Cycle
import LiveForm.Schema.Loader
import Mathlib.Data.List.Nodup

/-!
# The verdict of a loader

`LoaderOptions.Verdict` says what a loader makes of a document, one rule for each outcome. The rules
exclude each other by the order of the checks: a later one asks that the earlier stages found
nothing, and within a list the first faulty place counts. The loader gives the verdict and nothing
else.
-/

namespace LiveForm

/-- The value of an attribute is absent or `null`; an element that is no object lacks every one. -/
def Json.Lacks (element : Json) (a : CoreAttribute) : Prop :=
  ∀ value, element.get? a.key = some value → value = .null

/-- What is wrong with the element at a place. -/
inductive ElementFault (index : Nat) (element : Json) : SchemaError → Prop
  /-- The first attribute that the element lacks. -/
  | missingAttribute {before after : List CoreAttribute} {a : CoreAttribute}
      (order : CoreAttribute.all = before ++ a :: after) (lacks : element.Lacks a)
      (first : ∀ b ∈ before, ¬ element.Lacks b) :
      ElementFault index element (.missingAttribute index a)
  | invalidField {fault : Fault} (complete : ∀ a, ¬ element.Lacks a)
      (fails : Field.decode element = .error fault) :
      ElementFault index element (.invalidField index fault)

inductive NameFault (earlier : List String) (index : Nat) (name : String) : SchemaError → Prop
  | emptyName (blank : Text.trim name = "") : NameFault earlier index name (.emptyName index)
  | duplicateName (present : Text.trim name ≠ "") (again : name ∈ earlier) :
      NameFault earlier index name (.duplicateName name)

/-- The fault of the first faulty item of a list. -/
def FirstFault {α : Type} (faultAt : Nat → α → SchemaError → Prop) (items : List α)
    (e : SchemaError) : Prop :=
  ∃ i item, items[i]? = some item ∧ faultAt i item e ∧
    ∀ j < i, ∀ other, items[j]? = some other → ∀ e', ¬ faultAt j other e'

/-- A field is what an element decodes as. -/
structure Field.LoadsFrom (element : Json) (field : Field) : Prop where
  complete : ∀ a, ¬ element.Lacks a
  decodes : Field.decode element = .ok field

namespace Schema

def DependsOn (s : Schema) (name parent : String) : Prop :=
  ∃ field ∈ s.fields, field.name = name ∧ field.dependsOn = some parent

/-- Following dependencies one can return to where one began. -/
def Cyclic (s : Schema) : Prop := ∃ name, Relation.TransGen s.DependsOn name name

/-- What the names of a schema must be like. -/
structure WellNamed (s : Schema) : Prop where
  present : ∀ name ∈ s.names, Text.trim name ≠ ""
  distinct : s.names.Nodup

end Schema

namespace LoaderOptions

def HasTitle (entries : Json.Entries) : Prop :=
  ∃ title, Json.Entries.get? entries "title" = some (.string title) ∧
    ∃ c ∈ title.toList, Text.isBlank c = false

/-- A mapping with a list of elements, and with a title where one is asked for. -/
structure Admits (options : LoaderOptions) (entries : Json.Entries) (elements : List Json) :
    Prop where
  listed : Json.Entries.get? entries "fields" = some (.array elements)
  titled : options.requireTitle = true → HasTitle entries

structure Decodes (entries : Json.Entries) (elements : List Json) (s : Schema) : Prop where
  title_eq_some_iff : ∀ title, s.title = some title ↔
    Json.Entries.get? entries "title" = some (.string title)
  fields : List.Forall₂ Field.LoadsFrom elements s.fields

/-- What a loader makes of a document. -/
inductive Verdict (options : LoaderOptions) : Json → Except SchemaError Schema → Prop
  | notAnObject {document : Json} (other : ∀ entries, document ≠ .object entries) :
      Verdict options document (.error .notAnObject)
  | missingFields {entries : Json.Entries}
      (missing : ∀ elements, Json.Entries.get? entries "fields" ≠ some (.array elements)) :
      Verdict options (.object entries) (.error .missingFields)
  | missingTitle {entries : Json.Entries} {elements : List Json}
      (listed : Json.Entries.get? entries "fields" = some (.array elements))
      (asked : options.requireTitle = true) (untitled : ¬ HasTitle entries) :
      Verdict options (.object entries) (.error .missingTitle)
  | faultyElement {entries : Json.Entries} {elements : List Json} {e : SchemaError}
      (admits : options.Admits entries elements) (first : FirstFault ElementFault elements e) :
      Verdict options (.object entries) (.error e)
  | faultyName {entries : Json.Entries} {elements : List Json} {s : Schema} {e : SchemaError}
      (admits : options.Admits entries elements) (decodes : Decodes entries elements s)
      (first : FirstFault (fun i => NameFault (s.names.take i) i) s.names e) :
      Verdict options (.object entries) (.error e)
  | dependencyCycle {entries : Json.Entries} {elements : List Json} {s : Schema}
      {names : List String} (admits : options.Admits entries elements)
      (decodes : Decodes entries elements s) (named : s.WellNamed)
      (asked : options.rejectCycles = true) (cyclic : s.Cyclic) (found : s.cycle? = some names) :
      Verdict options (.object entries) (.error (.dependencyCycle names))
  | accepted {entries : Json.Entries} {elements : List Json} {s : Schema}
      (admits : options.Admits entries elements) (decodes : Decodes entries elements s)
      (named : s.WellNamed) (acyclic : options.rejectCycles = true → ¬ s.Cyclic) :
      Verdict options (.object entries) (.ok s)

end LoaderOptions

/-! ### Lists with a first fault -/

section

variable {α : Type} {faultAt : Nat → α → SchemaError → Prop} {e : SchemaError}

theorem not_firstFault_nil : ¬ FirstFault faultAt [] e := by
  rintro ⟨i, item, here, -⟩
  simp at here

/-- The first item is faulty, or it is not and the others have a first fault. -/
theorem firstFault_cons {item : α} {rest : List α} :
    FirstFault faultAt (item :: rest) e ↔ faultAt 0 item e ∨
      ((∀ e', ¬ faultAt 0 item e') ∧ FirstFault (fun i => faultAt (i + 1)) rest e) := by
  constructor
  · rintro ⟨i, found, here, faulty, first⟩
    cases i with
    | zero =>
      obtain rfl := Option.some.inj here
      exact .inl faulty
    | succ i =>
      refine .inr ⟨first 0 i.succ_pos item rfl, i, found, here, faulty, ?_⟩
      intro j before
      exact first (j + 1) (Nat.succ_lt_succ before)
  · rintro (faulty | ⟨sound, i, found, here, faulty, first⟩)
    · exact ⟨0, item, rfl, faulty, fun j before => absurd before j.not_lt_zero⟩
    · refine ⟨i + 1, found, here, faulty, ?_⟩
      intro j before other there
      cases j with
      | zero =>
        obtain rfl := Option.some.inj there
        exact sound
      | succ j => exact first j (Nat.lt_of_succ_lt_succ before) other there

theorem firstFault_congr {other : Nat → α → SchemaError → Prop} {items : List α}
    (same : ∀ i item e, faultAt i item e ↔ other i item e) :
    FirstFault faultAt items e ↔ FirstFault other items e := by
  have equal : faultAt = other := by
    funext i item e
    exact propext (same i item e)
  rw [equal]

end

/-! ### Elements -/

theorem Json.lacks_iff (element : Json) (a : CoreAttribute) :
    element.Lacks a ↔ (element.get? a.key).all Json.isNull = true := by
  rw [Option.all_eq_true]
  apply forall₂_congr
  intro value _
  cases value <;> simp [Json.isNull]

namespace Field

variable {index : Nat} {element : Json} {field : Field} {e : SchemaError}

theorem lackingAttribute?_eq_some_iff {a : CoreAttribute} :
    lackingAttribute? element = some a ↔ element.Lacks a ∧ ∃ before after,
      CoreAttribute.all = before ++ a :: after ∧ ∀ b ∈ before, ¬ element.Lacks b := by
  rw [lackingAttribute?, List.find?_eq_some_iff_append]
  simp only [Json.lacks_iff, Bool.not_eq_true, Bool.not_eq_true']

theorem lackingAttribute?_eq_none_iff :
    lackingAttribute? element = none ↔ ∀ a, ¬ element.Lacks a := by
  rw [lackingAttribute?, List.find?_eq_none]
  have all : ∀ a, a ∈ CoreAttribute.all := fun a => by cases a <;> decide
  simp only [Json.lacks_iff, all, forall_const]

theorem load_eq_error_iff : load index element = .error e ↔ ElementFault index element e := by
  unfold load
  cases lacking : lackingAttribute? element with
  | some a =>
    obtain ⟨lacks, before, after, order, first⟩ := lackingAttribute?_eq_some_iff.mp lacking
    constructor
    · intro refused
      obtain rfl := Except.error.inj refused
      exact .missingAttribute order lacks first
    · rintro (⟨order', lacks', first'⟩ | ⟨complete, -⟩)
      · have same := lackingAttribute?_eq_some_iff.mpr ⟨lacks', _, _, order', first'⟩
        obtain rfl := Option.some.inj (lacking.symm.trans same)
        rfl
      · exact absurd lacks (complete a)
  | none =>
    have complete := lackingAttribute?_eq_none_iff.mp lacking
    cases decoded : decode element with
    | ok field =>
      apply iff_of_false
      · intro refused
        cases refused
      · rintro (⟨-, lacks, -⟩ | ⟨-, fails⟩)
        · exact complete _ lacks
        · simp [decoded] at fails
    | error fault =>
      constructor
      · intro refused
        obtain rfl := Except.error.inj refused
        exact .invalidField complete decoded
      · rintro (⟨-, lacks, -⟩ | ⟨-, fails⟩)
        · exact absurd lacks (complete _)
        · obtain rfl := Except.error.inj (decoded.symm.trans fails)
          rfl

theorem load_eq_ok_iff : load index element = .ok field ↔ LoadsFrom element field := by
  unfold load
  cases lacking : lackingAttribute? element with
  | some a =>
    have lacks := (lackingAttribute?_eq_some_iff.mp lacking).1
    apply iff_of_false
    · intro loaded
      cases loaded
    · intro loads
      exact loads.complete a lacks
  | none =>
    have complete := lackingAttribute?_eq_none_iff.mp lacking
    cases decoded : decode element with
    | ok found =>
      constructor
      · intro loaded
        obtain rfl := Except.ok.inj loaded
        exact ⟨complete, decoded⟩
      · intro loads
        obtain rfl := Except.ok.inj (decoded.symm.trans loads.decodes)
        rfl
    | error fault =>
      apply iff_of_false
      · intro loaded
        cases loaded
      · intro loads
        simp [loads.decodes] at decoded

/-- All elements are loaded when each is. -/
theorem loadAll_eq_ok_iff {elements : List Json} {fields : List Field} :
    loadAll index elements = .ok fields ↔ List.Forall₂ LoadsFrom elements fields := by
  induction elements generalizing index fields with
  | nil => rw [loadAll, List.forall₂_nil_left_iff, Except.ok.injEq, eq_comm]
  | cons element rest ih =>
    rw [loadAll]
    cases loaded : load index element with
    | error e =>
      apply iff_of_false
      · intro all
        cases all
      · intro all
        cases all with
        | cons first _ => simp [load_eq_ok_iff.mpr first] at loaded
    | ok field =>
      have first := load_eq_ok_iff.mp loaded
      cases others : loadAll (index + 1) rest with
      | error e =>
        apply iff_of_false
        · intro all
          cases all
        · intro all
          cases all with
          | cons _ after => simp [ih.mpr after] at others
      | ok found =>
        constructor
        · intro all
          obtain rfl := Except.ok.inj all
          exact .cons first (ih.mp others)
        · intro all
          cases all with
          | cons same after =>
            have head := loaded.symm.trans (load_eq_ok_iff.mpr same)
            have tail := others.symm.trans (ih.mpr after)
            rw [Except.ok.inj head, Except.ok.inj tail]
            rfl

/-- Otherwise the first faulty element counts. -/
theorem loadAll_eq_error_iff {elements : List Json} :
    loadAll index elements = .error e ↔
      FirstFault (fun i => ElementFault (index + i)) elements e := by
  induction elements generalizing index with
  | nil => exact iff_of_false (fun none => by cases none) not_firstFault_nil
  | cons element rest ih =>
    have shifted : FirstFault (fun i => ElementFault (index + (i + 1))) rest e ↔
        loadAll (index + 1) rest = .error e := by
      rw [ih]
      exact firstFault_congr fun i item e => by rw [Nat.add_assoc, Nat.add_comm 1 i]
    rw [firstFault_cons, shifted, Nat.add_zero, loadAll]
    simp only [← load_eq_error_iff]
    cases load index element with
    | error e' => simp [bind, Except.bind]
    | ok field => cases loadAll (index + 1) rest <;> simp [bind, Except.bind, pure, Except.pure]

end Field

/-! ### Names -/

namespace NameFault

variable {earlier earlier' : List String} {index : Nat} {name : String} {e : SchemaError}

/-- A blank name counts as empty also when it was used before. -/
theorem iff_of_blank (blank : Text.isAllBlank name = true) :
    NameFault earlier index name e ↔ .emptyName index = e := by
  have empty := (Text.trim_eq_empty_iff name).mpr blank
  constructor
  · rintro (- | ⟨present, -⟩)
    · rfl
    · exact absurd empty present
  · rintro rfl
    exact .emptyName empty

theorem iff_of_again (present : ¬ Text.isAllBlank name = true) (again : name ∈ earlier) :
    NameFault earlier index name e ↔ .duplicateName name = e := by
  have nonempty := mt (Text.trim_eq_empty_iff name).mp present
  constructor
  · rintro (empty | -)
    · exact absurd empty nonempty
    · rfl
  · rintro rfl
    exact .duplicateName nonempty again

theorem not_of_fresh (present : ¬ Text.isAllBlank name = true) (fresh : name ∉ earlier) :
    ¬ NameFault earlier index name e := by
  rintro (empty | ⟨-, again⟩)
  · exact present ((Text.trim_eq_empty_iff name).mp empty)
  · exact fresh again

theorem congr (same : name ∈ earlier ↔ name ∈ earlier') :
    NameFault earlier index name e ↔ NameFault earlier' index name e := by
  constructor
  · rintro (empty | ⟨present, again⟩)
    · exact .emptyName empty
    · exact .duplicateName present (same.mp again)
  · rintro (empty | ⟨present, again⟩)
    · exact .emptyName empty
    · exact .duplicateName present (same.mpr again)

end NameFault

namespace Schema

variable {index : Nat} {seen : List String} {fields : List Field} {e : SchemaError}

/-- The names are sound when none is blank, repeats another one, or was seen before. -/
theorem nameFault?_eq_none_iff :
    nameFault? index seen fields = none ↔
      (∀ field ∈ fields, Text.trim field.name ≠ "" ∧ field.name ∉ seen) ∧
        (fields.map Field.name).Nodup := by
  induction fields generalizing index seen with
  | nil => simp [nameFault?]
  | cons field rest ih =>
    rw [nameFault?, List.map_cons, List.nodup_cons, List.forall_mem_cons]
    have blank := Text.trim_eq_empty_iff field.name
    split
    case isTrue allBlank => simp [blank.mpr allBlank]
    case isFalse present =>
      split
      case isTrue again => simp [again]
      case isFalse fresh =>
        rw [ih]
        simp only [List.mem_cons, not_or, List.mem_map, not_exists, not_and]
        constructor
        · rintro ⟨sound, distinct⟩
          refine ⟨⟨⟨mt blank.mp present, fresh⟩, ?_⟩, ?_, distinct⟩
          · intro f member
            exact ⟨(sound f member).1, (sound f member).2.2⟩
          · intro f member
            exact (sound f member).2.1
        · rintro ⟨⟨-, sound⟩, other, distinct⟩
          exact ⟨fun f member => ⟨(sound f member).1, other f member, (sound f member).2⟩, distinct⟩

/-- Otherwise the first faulty name counts. -/
theorem nameFault?_eq_some_iff :
    nameFault? index seen fields = some e ↔
      FirstFault (fun i => NameFault (seen ++ (fields.map Field.name).take i) (index + i))
        (fields.map Field.name) e := by
  induction fields generalizing index seen with
  | nil => exact iff_of_false (fun none => by cases none) not_firstFault_nil
  | cons field rest ih =>
    -- What was seen before the rest is the name at hand and all that was seen before it.
    have shifted : FirstFault (fun i => NameFault
          (seen ++ ((field :: rest).map Field.name).take (i + 1)) (index + (i + 1)))
          (rest.map Field.name) e ↔ nameFault? (index + 1) (field.name :: seen) rest = some e := by
      rw [ih]
      apply firstFault_congr
      intro i name e
      rw [Nat.add_assoc, Nat.add_comm 1 i]
      apply NameFault.congr
      simp [or_left_comm]
    rw [List.map_cons, firstFault_cons, ← List.map_cons, shifted, nameFault?, List.take_zero,
      List.append_nil, Nat.add_zero]
    split
    case isTrue blank => simp [NameFault.iff_of_blank blank]
    case isFalse present =>
      split
      case isTrue again => simp [NameFault.iff_of_again present again]
      case isFalse fresh => simp [NameFault.not_of_fresh present fresh]

theorem nameFault?_eq_none_iff_wellNamed {s : Schema} :
    nameFault? 0 [] s.fields = none ↔ s.WellNamed := by
  rw [nameFault?_eq_none_iff]
  simp only [List.not_mem_nil, not_false_iff, and_true]
  constructor
  · rintro ⟨present, distinct⟩
    exact ⟨List.forall_mem_map.mpr present, distinct⟩
  · rintro ⟨present, distinct⟩
    exact ⟨fun field member => present field.name (List.mem_map_of_mem member), distinct⟩

theorem nameFault?_eq_some_iff_firstFault {s : Schema} :
    nameFault? 0 [] s.fields = some e ↔
      FirstFault (fun i => NameFault (s.names.take i) i) s.names e := by
  rw [nameFault?_eq_some_iff]
  simp only [List.nil_append, Nat.zero_add, names]

/-! ### Dependencies -/

/-- With distinct names the parent of a name is what its field depends on. -/
theorem link_eq_dependsOn {s : Schema} (distinct : s.names.Nodup) : s.Link = s.DependsOn := by
  have depends : ∀ name parent, s.Link name parent → s.DependsOn name parent := by
    intro name parent link
    obtain ⟨field, member, found⟩ := List.exists_of_findSome?_eq_some link
    split at found
    case isTrue same => exact ⟨field, List.mem_reverse.mp member, same, found⟩
    case isFalse => cases found
  funext name parent
  refine propext ⟨depends name parent, ?_⟩
  rintro ⟨field, member, rfl, dependsOn⟩
  cases link : s.parent? field.name with
  | none =>
    have nothing := List.findSome?_eq_none_iff.mp link field (List.mem_reverse.mpr member)
    simp [dependsOn] at nothing
  | some other =>
    obtain ⟨field', member', same, dependsOn'⟩ := depends field.name other link
    obtain rfl := List.inj_on_of_nodup_map distinct member' member same
    obtain rfl := Option.some.inj (dependsOn'.symm.trans dependsOn)
    exact link

theorem cycle?_isSome_iff_cyclic {s : Schema} (distinct : s.names.Nodup) :
    s.cycle?.isSome = true ↔ s.Cyclic := by
  rw [cycle?_isSome_iff, link_eq_dependsOn distinct, Cyclic]

end Schema

namespace LoaderOptions

variable {options : LoaderOptions} {entries : Json.Entries} {elements : List Json} {s : Schema}

theorem title?_eq_some_iff {title : String} : title? entries = some title ↔
    Json.Entries.get? entries "title" = some (.string title) := by
  unfold title?
  split
  case h_1 text found => simp [found]
  case h_2 other => exact iff_of_false (by simp) (other title)

/-- A title is missing when it is no text or has nothing but blanks. -/
theorem title?_all_isAllBlank_iff :
    (title? entries).all Text.isAllBlank = true ↔ ¬ HasTitle entries := by
  simp only [Option.all_eq_true, title?_eq_some_iff, HasTitle, Text.isAllBlank, List.all_eq_true,
    not_exists, not_and, Bool.not_eq_false]

theorem Admits.loadValue_eq (admits : options.Admits entries elements) :
    options.loadValue (.object entries) =
      (Field.loadAll 0 elements >>= fun fields => do
        let s : Schema := { title := title? entries, fields }
        s.checkStructure options.rejectCycles
        return s) := by
  have titled : (options.requireTitle && (title? entries).all Text.isAllBlank) = false := by
    rw [Bool.and_eq_false_iff, ← Bool.not_eq_true, ← Bool.not_eq_true, title?_all_isAllBlank_iff,
      not_not]
    exact or_iff_not_imp_left.mpr fun asked => admits.titled (not_not.mp asked)
  rw [loadValue, admits.listed]
  simp only [titled, Bool.false_eq_true, if_false]

theorem loadValue_of_unlisted
    (missing : ∀ elements, Json.Entries.get? entries "fields" ≠ some (.array elements)) :
    options.loadValue (.object entries) = .error .missingFields := by
  rw [loadValue]
  split
  case h_1 elements listed => exact absurd listed (missing elements)
  case h_2 => rfl

theorem loadValue_of_untitled (listed : Json.Entries.get? entries "fields" = some (.array elements))
    (asked : options.requireTitle = true) (untitled : ¬ HasTitle entries) :
    options.loadValue (.object entries) = .error .missingTitle := by
  rw [loadValue, listed]
  simp only [asked, title?_all_isAllBlank_iff.mpr untitled, Bool.and_true, if_true]
  rfl

/-- The first faulty element of an admitted mapping decides. -/
theorem Admits.loadValue_of_faulty (admits : options.Admits entries elements) {e : SchemaError}
    (first : FirstFault ElementFault elements e) :
    options.loadValue (.object entries) = .error e := by
  have refused : Field.loadAll 0 elements = .error e := by
    rw [Field.loadAll_eq_error_iff]
    simpa only [Nat.zero_add] using first
  rw [admits.loadValue_eq, refused]
  rfl

/-- Without faulty elements the structure of the schema decides. -/
theorem Admits.loadValue_of_decodes (admits : options.Admits entries elements)
    (decodes : Decodes entries elements s) :
    options.loadValue (.object entries) =
      (s.checkStructure options.rejectCycles).map fun _ => s := by
  have title : title? entries = s.title := Option.ext fun text => by
    rw [title?_eq_some_iff, decodes.title_eq_some_iff]
  rw [admits.loadValue_eq, Field.loadAll_eq_ok_iff.mpr decodes.fields, title]
  rfl

theorem exists_decodes (entries : Json.Entries) {fields : List Field}
    (loaded : Field.loadAll 0 elements = .ok fields) :
    ∃ s, Decodes entries elements s ∧ s.fields = fields := by
  refine ⟨{ title := title? entries, fields }, ⟨fun title => title?_eq_some_iff, ?_⟩, rfl⟩
  exact Field.loadAll_eq_ok_iff.mp loaded

end LoaderOptions

namespace Schema

variable {s : Schema} {rejectCycles : Bool}

theorem checkStructure_of_faultyName {e : SchemaError}
    (first : FirstFault (fun i => NameFault (s.names.take i) i) s.names e) :
    s.checkStructure rejectCycles = .error e := by
  simp only [checkStructure, structureFault?, nameFault?_eq_some_iff_firstFault.mpr first]

theorem checkStructure_of_cycle (named : s.WellNamed) {names : List String}
    (found : s.cycle? = some names) : s.checkStructure true = .error (.dependencyCycle names) := by
  simp only [checkStructure, structureFault?, nameFault?_eq_none_iff_wellNamed.mpr named, found,
    if_true, Option.map_some]

theorem checkStructure_of_sound (named : s.WellNamed)
    (acyclic : rejectCycles = true → ¬ s.Cyclic) : s.checkStructure rejectCycles = .ok () := by
  simp only [checkStructure, structureFault?, nameFault?_eq_none_iff_wellNamed.mpr named]
  cases rejectCycles with
  | false => rfl
  | true =>
    have none : s.cycle? = none := by
      rw [← Option.not_isSome_iff_eq_none, cycle?_isSome_iff_cyclic named.distinct]
      exact acyclic rfl
    rw [none]
    rfl

end Schema

namespace LoaderOptions

/-- What the loader gives is the verdict. -/
theorem verdict_loadValue (options : LoaderOptions) (document : Json) :
    options.Verdict document (options.loadValue document) := by
  cases document with
  | object entries =>
    by_cases listed : ∃ elements, Json.Entries.get? entries "fields" = some (.array elements)
    · obtain ⟨elements, listed⟩ := listed
      by_cases titled : options.requireTitle = true → HasTitle entries
      · have admits : options.Admits entries elements := ⟨listed, titled⟩
        cases loaded : Field.loadAll 0 elements with
        | error e =>
          have first := Field.loadAll_eq_error_iff.mp loaded
          simp only [Nat.zero_add] at first
          rw [admits.loadValue_of_faulty first]
          exact .faultyElement admits first
        | ok fields =>
          obtain ⟨s, decodes, rfl⟩ := exists_decodes entries loaded
          rw [admits.loadValue_of_decodes decodes]
          cases faulty : Schema.nameFault? 0 [] s.fields with
          | some e =>
            have first := Schema.nameFault?_eq_some_iff_firstFault.mp faulty
            rw [Schema.checkStructure_of_faultyName first]
            exact .faultyName admits decodes first
          | none =>
            have named := Schema.nameFault?_eq_none_iff_wellNamed.mp faulty
            by_cases acyclic : options.rejectCycles = true → ¬ s.Cyclic
            · rw [Schema.checkStructure_of_sound named acyclic]
              exact .accepted admits decodes named acyclic
            · obtain ⟨asked, cyclic⟩ := Classical.not_imp.mp acyclic
              have cyclic := not_not.mp cyclic
              obtain ⟨names, found⟩ := Option.isSome_iff_exists.mp
                ((Schema.cycle?_isSome_iff_cyclic named.distinct).mpr cyclic)
              rw [asked, Schema.checkStructure_of_cycle named found]
              exact .dependencyCycle admits decodes named asked cyclic found
      · obtain ⟨asked, untitled⟩ := Classical.not_imp.mp titled
        rw [loadValue_of_untitled listed asked untitled]
        exact .missingTitle listed asked untitled
    · have missing := not_exists.mp listed
      rw [loadValue_of_unlisted missing]
      exact .missingFields missing
  | _ => exact .notAnObject (by simp)

/-- The loader gives the verdict on a document, whatever the document and the options. -/
theorem loadValue_eq_iff_verdict (options : LoaderOptions) (document : Json)
    (result : Except SchemaError Schema) :
    options.loadValue document = result ↔ options.Verdict document result := by
  constructor
  · rintro rfl
    exact verdict_loadValue options document
  · intro verdict
    cases verdict with
    | notAnObject other =>
      cases document with
      | object entries => exact absurd rfl (other entries)
      | _ => rfl
    | missingFields missing => exact loadValue_of_unlisted missing
    | missingTitle listed asked untitled => exact loadValue_of_untitled listed asked untitled
    | faultyElement admits first => exact admits.loadValue_of_faulty first
    | faultyName admits decodes first =>
      rw [admits.loadValue_of_decodes decodes, Schema.checkStructure_of_faultyName first]
      rfl
    | dependencyCycle admits decodes named asked cyclic found =>
      rw [admits.loadValue_of_decodes decodes, asked, Schema.checkStructure_of_cycle named found]
      rfl
    | accepted admits decodes named acyclic =>
      rw [admits.loadValue_of_decodes decodes, Schema.checkStructure_of_sound named acyclic]
      rfl

end LoaderOptions

end LiveForm
