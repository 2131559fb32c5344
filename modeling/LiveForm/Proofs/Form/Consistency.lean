import LiveForm.Form.Action
import Mathlib.Data.List.Nodup

/-!
# Forms whose index fits their controls

The index of a form and its list of controls are kept apart, so nothing in the types says that a
name leads to its own control. `Indexed` says so, and `Consistent` that every gate leads to a
control as well. For a consistent form an operation on one name is a map over the controls:
`Control.at` changes the control with this name and no other. All that is said about operations
later is said about such maps.
-/

namespace LiveForm

/-- Applies a function to the control with a name and leaves every other control. -/
def Control.at (name : String) (change : Control → Control) (c : Control) : Control :=
  if c.name = name then change c else c

namespace Control

variable {name : String} {change : Control → Control} {c : Control}

theorem at_eq_of_name_eq (here : c.name = name) : c.at name change = change c := if_pos here

theorem at_eq_of_name_ne (elsewhere : c.name ≠ name) : c.at name change = c := if_neg elsewhere

/-- What holds of the changed and of the unchanged control holds either way. -/
theorem at_cases {P : Control → Prop} (here : P (change c)) (elsewhere : P c) :
    P (c.at name change) := by
  unfold Control.at
  split
  · exact here
  · exact elsewhere

/-- What the function keeps of every control is kept by its application at one name. -/
theorem at_keeps {α : Type} (part : Control → α) (keeps : ∀ c, part (change c) = part c) :
    part (c.at name change) = part c :=
  at_cases (P := fun c' => part c' = part c) (keeps c) rfl

end Control

namespace Form

def mapControls (f : Form) (change : Control → Control) : Form :=
  { f with controls := f.controls.map change }

def children (f : Form) (name : String) : List String :=
  (f.control? name).elim [] fun c => c.observers.gateTargets

/-- The index leads from each name to its control and from nothing else. -/
def Indexed (f : Form) : Prop :=
  ∀ name place, f.place? name = some place ↔ f.names[place]? = some name

/-- The index leads from each name to its control and from nothing else, and every gate leads to a
control. -/
structure Consistent (f : Form) : Prop where
  place?_eq_some_iff : ∀ name place, f.place? name = some place ↔ f.names[place]? = some name
  gated_mem_names : ∀ c ∈ f.controls, ∀ dependent ∈ c.observers.gateTargets, dependent ∈ f.names

variable {f : Form} {name : String} {c : Control} {change : Control → Control}

@[simp] theorem controls_mapControls (f : Form) (change : Control → Control) :
    (f.mapControls change).controls = f.controls.map change := rfl

@[simp] theorem index_mapControls (f : Form) (change : Control → Control) :
    (f.mapControls change).index = f.index := rfl

@[simp] theorem notifying_mapControls (f : Form) (change : Control → Control) :
    (f.mapControls change).notifying = f.notifying := rfl

@[simp] theorem size_mapControls (f : Form) (change : Control → Control) :
    (f.mapControls change).size = f.size := List.length_map ..

@[simp] theorem control?_mapControls (f : Form) (change : Control → Control) (name : String) :
    (f.mapControls change).control? name = (f.control? name).map change := by
  show (f.place? name).bind ((f.controls.map change)[·]?) = _
  cases place : f.place? name <;> simp [control?, place]

theorem names_mapControls (keeps : ∀ c, (change c).name = c.name) :
    (f.mapControls change).names = f.names := by
  simp [names, List.map_map, Function.comp_def, keeps]

theorem mapControls_mapControls (f : Form) (first second : Control → Control) :
    (f.mapControls first).mapControls second = f.mapControls fun c => second (first c) := by
  simp [mapControls, Function.comp_def]

theorem mapControls_congr {other : Control → Control}
    (agree : ∀ c ∈ f.controls, change c = other c) :
    f.mapControls change = f.mapControls other := by
  simp only [mapControls, List.map_congr_left agree]

theorem mapControls_eq_self (keeps : ∀ c ∈ f.controls, change c = c) :
    f.mapControls change = f := by
  simp only [mapControls, List.map_congr_left keeps, List.map_id']

theorem value?_mapControls (keeps : ∀ c, (change c).value = c.value) :
    (f.mapControls change).value? = f.value? := by
  funext name
  rw [value?, value?, control?_mapControls, Option.map_map]
  exact congrArg (Option.map · _) (funext keeps)

/-- A change of one control keeps the part of the controls that it keeps of every control. -/
theorem map_controls_update {α : Type} {part : Control → α} (keeps : ∀ c, part (change c) = part c)
    (f : Form) (name : String) :
    (f.update name change).controls.map part = f.controls.map part := by
  unfold update
  split
  case h_1 place _ =>
    apply List.ext_getElem?
    intro i
    simp only [List.getElem?_map, List.getElem?_modify]
    by_cases here : place = i <;> cases f.controls[i]? <;> simp [here, keeps]
  case h_2 => rfl

theorem mem_controls_of_control? (found : f.control? name = some c) : c ∈ f.controls := by
  obtain ⟨place, -, here⟩ := Option.bind_eq_some_iff.mp found
  exact List.mem_of_getElem? here

theorem children_mapControls (keeps : ∀ c ∈ f.controls,
    (change c).observers.gateTargets = c.observers.gateTargets) :
    (f.mapControls change).children = f.children := by
  funext name
  simp only [children, control?_mapControls]
  cases found : f.control? name with
  | none => rfl
  | some c => exact keeps c (mem_controls_of_control? found)

namespace Indexed

theorem names_nodup (indexed : f.Indexed) : f.names.Nodup := by
  rw [List.nodup_iff_getElem?_ne_getElem?]
  intro i j before inside same
  obtain ⟨name, here⟩ : ∃ name, f.names[j]? = some name := ⟨_, List.getElem?_eq_getElem inside⟩
  have first := (indexed name i).mpr (same.trans here)
  have second := (indexed name j).mpr here
  rw [first] at second
  exact Nat.ne_of_lt before (Option.some.inj second)

theorem control?_eq_some_iff (indexed : f.Indexed) :
    f.control? name = some c ↔ c ∈ f.controls ∧ c.name = name := by
  rw [control?, Option.bind_eq_some_iff]
  constructor
  · rintro ⟨place, found, here⟩
    refine ⟨List.mem_of_getElem? here, ?_⟩
    have named := (indexed name place).mp found
    simpa [names, here] using named
  · rintro ⟨member, rfl⟩
    obtain ⟨place, here⟩ := List.mem_iff_getElem?.mp member
    exact ⟨place, (indexed _ _).mpr (by simp [names, here]), here⟩

theorem exists_control (indexed : f.Indexed) (known : name ∈ f.names) :
    ∃ c, f.control? name = some c := by
  obtain ⟨c, member, named⟩ := List.mem_map.mp known
  exact ⟨c, indexed.control?_eq_some_iff.mpr ⟨member, named⟩⟩

theorem contains_iff (indexed : f.Indexed) : f.contains name = true ↔ name ∈ f.names := by
  rw [contains, Option.isSome_iff_exists, List.mem_iff_getElem?]
  exact exists_congr fun place => indexed name place

theorem mem_names_of_control? (indexed : f.Indexed) (found : f.control? name = some c) :
    name ∈ f.names := by
  obtain ⟨member, named⟩ := indexed.control?_eq_some_iff.mp found
  exact List.mem_map.mpr ⟨c, member, named⟩

theorem control?_eq_none_iff (indexed : f.Indexed) :
    f.control? name = none ↔ name ∉ f.names := by
  constructor
  · intro missing known
    obtain ⟨c, found⟩ := indexed.exists_control known
    simp [missing] at found
  · intro unknown
    cases found : f.control? name with
    | none => rfl
    | some c => exact absurd (indexed.mem_names_of_control? found) unknown

end Indexed

namespace Consistent

theorem indexed (consistent : f.Consistent) : f.Indexed := consistent.place?_eq_some_iff

theorem names_nodup (consistent : f.Consistent) : f.names.Nodup := consistent.indexed.names_nodup

theorem control?_eq_some_iff (consistent : f.Consistent) :
    f.control? name = some c ↔ c ∈ f.controls ∧ c.name = name :=
  consistent.indexed.control?_eq_some_iff

theorem control?_name (consistent : f.Consistent) (member : c ∈ f.controls) :
    f.control? c.name = some c := consistent.control?_eq_some_iff.mpr ⟨member, rfl⟩

theorem exists_control (consistent : f.Consistent) (known : name ∈ f.names) :
    ∃ c, f.control? name = some c := consistent.indexed.exists_control known

theorem contains_iff (consistent : f.Consistent) : f.contains name = true ↔ name ∈ f.names :=
  consistent.indexed.contains_iff

theorem mem_names_of_control? (consistent : f.Consistent) (found : f.control? name = some c) :
    name ∈ f.names := consistent.indexed.mem_names_of_control? found

theorem control?_eq_none_iff (consistent : f.Consistent) :
    f.control? name = none ↔ name ∉ f.names := consistent.indexed.control?_eq_none_iff

theorem mem_names_of_mem_children (consistent : f.Consistent) {child : String}
    (gated : child ∈ f.children name) : child ∈ f.names := by
  unfold children at gated
  cases found : f.control? name with
  | none => simp [found] at gated
  | some c =>
    have member := (consistent.control?_eq_some_iff.mp found).1
    exact consistent.gated_mem_names c member child (by simpa [found] using gated)

/-- Changing the control with a name is a map over the controls. -/
theorem update_eq (consistent : f.Consistent) (name : String) (change : Control → Control) :
    f.update name change = f.mapControls (Control.at name change) := by
  unfold update
  split
  case h_1 place found =>
    have named := (consistent.place?_eq_some_iff name place).mp found
    suffices same : f.controls.modify place change = f.controls.map (Control.at name change) by
      rw [mapControls, same]
    apply List.ext_getElem?
    intro i
    rw [List.getElem?_modify, List.getElem?_map]
    cases here : f.controls[i]? with
    | none => rfl
    | some c =>
      have atPlace : place = i ↔ c.name = name := by
        constructor
        · rintro rfl
          simpa [names, here] using named
        · intro sameName
          have second := (consistent.place?_eq_some_iff name i).mpr
            (by simp [names, here, sameName])
          exact Option.some.inj (found.symm.trans second)
      by_cases sameName : c.name = name <;> simp [Control.at, atPlace, sameName]
  case h_2 missing =>
    refine (mapControls_eq_self fun c member => Control.at_eq_of_name_ne ?_).symm
    rintro rfl
    have named : c.name ∈ f.names := List.mem_map_of_mem member
    obtain ⟨place, here⟩ := List.mem_iff_getElem?.mp named
    have found := (consistent.place?_eq_some_iff _ _).mpr here
    simp [missing] at found

/-- Of a change only what it makes of the control with the name counts. -/
theorem update_congr (consistent : f.Consistent) (found : f.control? name = some c)
    {other : Control → Control} (same : change c = other c) :
    f.update name change = f.update name other := by
  rw [consistent.update_eq, consistent.update_eq]
  apply mapControls_congr
  intro d member
  by_cases here : d.name = name
  · have found' := consistent.control?_eq_some_iff.mpr ⟨member, here⟩
    obtain rfl := Option.some.inj (found'.symm.trans found)
    rw [Control.at_eq_of_name_eq here, Control.at_eq_of_name_eq here, same]
  · rw [Control.at_eq_of_name_ne here, Control.at_eq_of_name_ne here]

theorem update_eq_self (consistent : f.Consistent) (found : f.control? name = some c)
    (same : change c = c) : f.update name change = f := by
  have still : change c = id c := same
  rw [consistent.update_congr found still, consistent.update_eq]
  exact mapControls_eq_self fun d _ => Control.at_cases (P := (· = d)) rfl rfl

/-- The control with a name after a change of it. -/
theorem control?_mapControls_at (consistent : f.Consistent) (found : f.control? name = some c)
    (change : Control → Control) :
    (f.mapControls (Control.at name change)).control? name = some (change c) := by
  have named := (consistent.control?_eq_some_iff.mp found).2
  rw [control?_mapControls, found, Option.map_some, Control.at_eq_of_name_eq named]

theorem change_eq_ok (consistent : f.Consistent) (known : name ∈ f.names)
    (change : Control → Control) :
    f.change name change = .ok (f.mapControls (Control.at name change)) := by
  rw [Form.change, if_pos (consistent.contains_iff.mpr known), consistent.update_eq]

theorem change_eq_error (consistent : f.Consistent) (unknown : name ∉ f.names)
    (change : Control → Control) : f.change name change = .error (.unknownControl name) := by
  rw [Form.change, if_neg (mt consistent.contains_iff.mp unknown)]

/-- A map that keeps the names and gates only what is known keeps a form consistent. -/
theorem mapControls_of_known (consistent : f.Consistent) (keeps : ∀ c, (change c).name = c.name)
    (known : ∀ c ∈ f.controls, ∀ dependent ∈ (change c).observers.gateTargets,
      dependent ∈ f.names) : (f.mapControls change).Consistent where
  place?_eq_some_iff name place := by
    rw [names_mapControls keeps]
    exact consistent.place?_eq_some_iff name place
  gated_mem_names changed member dependent gated := by
    obtain ⟨c, before, rfl⟩ := List.mem_map.mp member
    rw [names_mapControls keeps]
    exact known c before dependent gated

/-- A map that keeps the names and adds no gates keeps a form consistent. -/
theorem mapControls (consistent : f.Consistent) (keeps : ∀ c, (change c).name = c.name)
    (gates : ∀ c, (change c).observers.gateTargets ⊆ c.observers.gateTargets) :
    (f.mapControls change).Consistent :=
  consistent.mapControls_of_known keeps fun c member dependent gated =>
    consistent.gated_mem_names c member dependent (gates c gated)

end Consistent

end Form

end LiveForm
