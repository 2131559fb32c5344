import LiveForm.Form.Compile
import LiveForm.Proofs.Form.Settling

/-!
# Declared controls

Compiling declares the control of one field after another. A name that was declared before keeps its
place, a new one gets the place after all others, so the index stays in step with the controls
whatever the names are. Distinct names give one control for each field, in order.
-/

namespace LiveForm

namespace Form

variable {f : Form} {c : Control}

/-- The form after the declarations, before any field is wired. -/
def declared (schema : Schema) (initial : Json.Entries) : Form :=
  schema.fields.foldl (fun f field => f.insert (.ofField field initial)) {}

/-- A name that was declared before keeps its place. -/
theorem insert_of_known (consistent : f.Consistent) (known : c.name ∈ f.names) :
    (f.insert c).names = f.names ∧ (f.insert c).index = f.index := by
  obtain ⟨place, found⟩ := Option.isSome_iff_exists.mp (consistent.contains_iff.mpr known)
  have named := (consistent.place?_eq_some_iff c.name place).mp found
  rw [insert, found]
  refine ⟨?_, rfl⟩
  show (f.controls.set place c).map Control.name = f.names
  obtain ⟨inside, same⟩ := List.getElem?_eq_some_iff.mp named
  rw [List.map_set, ← same]
  exact List.set_getElem_self inside

/-- A new name gets the place after all others. -/
theorem insert_of_unknown (consistent : f.Consistent) (unknown : c.name ∉ f.names) :
    f.insert c = { f with
      controls := f.controls ++ [c], index := f.index ++ [(c.name, f.size)] } := by
  have missing : f.place? c.name = none := by
    rw [← Option.not_isSome_iff_eq_none]
    exact mt consistent.contains_iff.mp unknown
  rw [insert, missing]

theorem mem_controls_insert {d : Control} (member : d ∈ (f.insert c).controls) :
    d = c ∨ d ∈ f.controls := by
  unfold insert at member
  split at member
  · exact (List.mem_or_eq_of_mem_set member).symm
  · simpa [or_comm] using member

theorem lookup_singleton_iff {name new : String} {size place : Nat} :
    List.lookup name [(new, size)] = some place ↔ new = name ∧ size = place := by
  rcases eq_or_ne name new with rfl | other
  · simp
  · simp [List.lookup_cons, beq_eq_false_iff_ne.mpr other, other.symm]

/-- An index of some names stays one when a new name is added to both. -/
theorem lookup_append_iff {index : List (String × Nat)} {names : List String} {name new : String}
    {size place : Nat}
    (indexed : ∀ place, index.lookup name = some place ↔ names[place]? = some name)
    (length : names.length = size) (fresh : new ∉ names) :
    (index.lookup name).or (List.lookup name [(new, size)]) = some place ↔
      (names ++ [new])[place]? = some name := by
  cases found : index.lookup name with
  | some old =>
    have here := (indexed old).mp found
    have other : new ≠ name := by
      rintro rfl
      exact fresh (List.mem_of_getElem? here)
    rw [Option.some_or, ← found, indexed, List.getElem?_append]
    split
    · rfl
    · constructor
      · intro there
        have := (List.getElem?_eq_some_iff.mp there).1
        omega
      · intro there
        obtain rfl := List.mem_singleton.mp (List.mem_of_getElem? there)
        exact absurd rfl other
  | none =>
    have absent : ∀ place : Nat, names[place]? ≠ some name := by
      intro place there
      have := (indexed place).mpr there
      simp [found] at this
    rw [Option.none_or, lookup_singleton_iff, List.getElem?_append]
    split
    · constructor
      · rintro ⟨-, last⟩
        omega
      · intro there
        exact absurd there (absent place)
    · constructor
      · rintro ⟨same, last⟩
        have : place - names.length = 0 := by omega
        simp [this, same]
      · intro there
        obtain ⟨inside, same⟩ := List.getElem?_eq_some_iff.mp there
        have last : place - names.length < 1 := inside
        exact ⟨by simpa using same, by omega⟩

theorem Consistent.insert (consistent : f.Consistent) (ungated : c.observers.gateTargets = []) :
    (f.insert c).Consistent := by
  by_cases known : c.name ∈ f.names
  · obtain ⟨names, index⟩ := insert_of_known consistent known
    constructor
    · intro name place
      rw [names, place?, index]
      exact consistent.place?_eq_some_iff name place
    · intro d member dependent gated
      rw [names]
      rcases mem_controls_insert member with rfl | before
      · simp [ungated] at gated
      · exact consistent.gated_mem_names d before dependent gated
  · rw [insert_of_unknown consistent known]
    have names : Form.names { f with
        controls := f.controls ++ [c], index := f.index ++ [(c.name, f.size)] } =
        f.names ++ [c.name] := List.map_append
    constructor
    · intro name place
      rw [names, place?, List.lookup_append]
      exact lookup_append_iff (consistent.place?_eq_some_iff name) (List.length_map ..) known
    · intro d member dependent gated
      rw [names]
      rcases List.mem_append.mp member with before | new
      · exact List.mem_append_left _ (consistent.gated_mem_names d before dependent gated)
      · obtain rfl := List.mem_singleton.mp new
        simp [ungated] at gated

/-- A sound form on which nothing is observed, as it is while fields are declared. -/
structure Unwired (f : Form) : Prop where
  sound : f.Sound
  unobserved : ∀ c ∈ f.controls, c.observers = {}

theorem Unwired.empty : Unwired {} where
  sound := ⟨⟨by simp [place?, names], by simp⟩, rfl, by simp⟩
  unobserved := by simp

theorem Unwired.insert (unwired : f.Unwired) (upToDate : c.UpToDate)
    (unobserved : c.observers = {}) : (f.insert c).Unwired where
  sound := by
    refine ⟨unwired.sound.consistent.insert ?_, ?_, ?_⟩
    · rw [unobserved]
      rfl
    · unfold Form.insert
      split <;> exact unwired.sound.idle
    · intro d member
      rcases mem_controls_insert member with rfl | before
      · exact upToDate
      · exact unwired.sound.upToDate d before
  unobserved d member := by
    rcases mem_controls_insert member with rfl | before
    · exact unobserved
    · exact unwired.unobserved d before

theorem Unwired.foldl_insert (unwired : f.Unwired) (initial : Json.Entries) (fields : List Field) :
    (fields.foldl (fun f field => f.insert (.ofField field initial)) f).Unwired := by
  induction fields generalizing f with
  | nil => exact unwired
  | cons field rest ih => exact ih (unwired.insert (c := .ofField field initial) rfl rfl)

theorem declared_unwired (schema : Schema) (initial : Json.Entries) :
    (declared schema initial).Unwired :=
  Unwired.empty.foldl_insert initial schema.fields

/-- Of some declared names the new ones follow the others, each at its first place. -/
theorem names_foldl_insert (initial : Json.Entries) (fields : List Field) (unwired : f.Unwired) :
    (fields.foldl (fun f field => f.insert (.ofField field initial)) f).names =
      f.names ++ ((fields.map Field.name).filter (· ∉ f.names)).eraseDups := by
  induction fields generalizing f with
  | nil => exact (List.append_nil f.names).symm
  | cons field rest ih =>
    have consistent := unwired.sound.consistent
    rw [List.foldl_cons, ih (unwired.insert (c := .ofField field initial) rfl rfl), List.map_cons]
    by_cases known : field.name ∈ f.names
    · have kept : (f.insert (.ofField field initial)).names = f.names :=
        (insert_of_known consistent known).1
      rw [kept, List.filter_cons_of_neg (by simpa using known)]
    · have added : (f.insert (.ofField field initial)).names = f.names ++ [field.name] := by
        rw [insert_of_unknown consistent known]
        exact List.map_append
      rw [added, List.filter_cons_of_pos (by simpa using known), List.eraseDups_cons,
        List.filter_filter, List.append_assoc, List.singleton_append]
      congr 3
      apply List.filter_congr
      intro name _
      simp [and_comm, beq_eq_decide]

/-- The names of the declared controls are those of the fields, each at its first place. -/
theorem names_declared (schema : Schema) (initial : Json.Entries) :
    (declared schema initial).names = schema.names.eraseDups := by
  rw [declared, names_foldl_insert initial schema.fields Unwired.empty]
  exact congrArg List.eraseDups (List.filter_eq_self.mpr (by simp [names]))

theorem mem_names_declared (schema : Schema) (initial : Json.Entries) (name : String) :
    name ∈ (declared schema initial).names ↔ name ∈ schema.names := by
  rw [names_declared, List.mem_eraseDups]

/-- Fields with new names that differ from each other get one control each, in order. -/
theorem foldl_insert_of_distinct (initial : Json.Entries) (fields : List Field)
    (unwired : f.Unwired) (distinct : (f.names ++ fields.map Field.name).Nodup) :
    (fields.foldl (fun f field => f.insert (.ofField field initial)) f).controls =
      f.controls ++ fields.map (Control.ofField · initial) := by
  induction fields generalizing f with
  | nil => simp
  | cons field rest ih =>
    have unknown : (Control.ofField field initial).name ∉ f.names := by
      intro known
      exact (List.disjoint_of_nodup_append distinct) known List.mem_cons_self
    have inserted := insert_of_unknown unwired.sound.consistent unknown
    have names : (f.insert (.ofField field initial)).names = f.names ++ [field.name] := by
      rw [inserted]
      exact List.map_append
    have after := unwired.insert (c := .ofField field initial) rfl rfl
    rw [List.foldl_cons, ih after (by simpa [names] using distinct), inserted]
    simp

variable {schema : Schema}

theorem controls_declared (distinct : schema.names.Nodup) (initial : Json.Entries) :
    (declared schema initial).controls = schema.fields.map (Control.ofField · initial) :=
  foldl_insert_of_distinct initial schema.fields Unwired.empty distinct

end Form

end LiveForm
