import LiveForm.Proofs.Decode
import LiveForm.Proofs.Form.Consistency

/-!
# What validity and submission depend on

Whether a form is valid, which controls it calls invalid and what a submission comes to depend on
the name, the value, the flag and the failing kinds of each control and on nothing else. Where two
forms have the same names and these parts agree name by name, they are submitted alike; when the
names stand in another order, so does what is handed over.
-/

namespace LiveForm

/-- What a submission reads of a control. -/
structure Standing where
  name : String
  value : Json
  disabled : Bool
  errors : List RuleKind

def Control.standing (c : Control) : Standing where
  name := c.name
  value := c.value
  disabled := c.disabled
  errors := c.errors

def Submission.ofStandings (options : SubmitOptions) (standings : List Standing) : Submission :=
  if standings.all fun s => s.errors.isEmpty then
    .submitted <| .collect <|
      (standings.filter fun s => options.includeDisabled || !s.disabled).map
        fun s => (s.name, s.value)
  else .rejected <| (standings.filter fun s => !s.errors.isEmpty).map Standing.name

/-- Two results of one kind with the same entries or names, in whatever order. -/
inductive Submission.Rearranged : Submission → Submission → Prop
  | submitted {data data' : Json.Entries} (perm : data.Perm data') :
      Rearranged (.submitted data) (.submitted data')
  | rejected {invalid invalid' : List String} (perm : invalid.Perm invalid') :
      Rearranged (.rejected invalid) (.rejected invalid')

theorem Submission.ofStandings_perm (options : SubmitOptions) {standings standings' : List Standing}
    (distinct : (standings.map Standing.name).Nodup) (perm : standings.Perm standings') :
    Rearranged (ofStandings options standings) (ofStandings options standings') := by
  rw [ofStandings, ofStandings, perm.all_eq]
  split
  case isTrue =>
    refine .submitted (Json.Entries.collect_perm ?_ ((perm.filter _).map _))
    rw [Json.Entries.keys, List.map_map]
    exact distinct.sublist (List.filter_sublist.map Standing.name)
  case isFalse => exact .rejected ((perm.filter _).map _)

namespace Form

def standings (f : Form) : List Standing := f.controls.map Control.standing

variable {f f' : Form}

theorem isValid_eq_standings (f : Form) :
    f.isValid = f.standings.all fun s => s.errors.isEmpty := by
  rw [standings, List.all_map]
  rfl

theorem invalidControls_eq_standings (f : Form) :
    f.invalidControls = (f.standings.filter fun s => !s.errors.isEmpty).map Standing.name := by
  rw [standings, List.filter_map, List.map_map]
  rfl

theorem names_eq_standings (f : Form) : f.names = f.standings.map Standing.name := by
  rw [standings, List.map_map]
  rfl

theorem keys_map_entry (controls : List Control) :
    Json.Entries.keys (controls.map entry) = controls.map Control.name := by
  rw [Json.Entries.keys, List.map_map]
  rfl

theorem Consistent.collect_map_entry (consistent : f.Consistent) {controls : List Control}
    (some : controls.Sublist f.controls) :
    Json.Entries.collect (controls.map entry) = controls.map entry := by
  apply Json.Entries.collect_eq_self
  rw [keys_map_entry]
  exact consistent.names_nodup.sublist (some.map Control.name)

/-- The data of a form are the names and values of its controls, of the enabled ones when the others
are left out. -/
theorem dataFor_eq_standings (f : Form) (options : SubmitOptions) :
    f.dataFor options =
      .collect ((f.standings.filter fun s => options.includeDisabled || !s.disabled).map
        fun s => (s.name, s.value)) := by
  rw [standings, List.filter_map, List.map_map, dataFor]
  cases options.includeDisabled with
  | true =>
    simp only [if_true, Function.comp_def, Bool.true_or, List.filter_true]
    rfl
  | false =>
    simp only [Bool.false_or]
    rfl

/-- A submission reads the standings and nothing else. -/
theorem result_submit (f : Form) (options : SubmitOptions) :
    (f.submit options).result = .ofStandings options f.standings := by
  rw [submit, Submission.ofStandings, ← isValid_eq_standings, ← dataFor_eq_standings,
    ← invalidControls_eq_standings]
  split <;> rfl

/-- The controls of a consistent form, part by part, are those that its names lead to. -/
theorem Consistent.map_controls {α : Type} (consistent : f.Consistent) (part : Control → α) :
    f.controls.map part = f.names.filterMap fun name => (f.control? name).map part := by
  rw [names, List.filterMap_map, ← List.filterMap_eq_map]
  apply List.filterMap_congr
  intro c member
  rw [Function.comp_apply, Function.comp_apply, consistent.control?_name member, Option.map_some]

/-- Forms with the same names whose controls agree name by name have the same standings. -/
theorem Consistent.standings_eq (consistent : f.Consistent) (consistent' : f'.Consistent)
    (names : f.names = f'.names)
    (alike : ∀ name, (f.control? name).map Control.standing =
      (f'.control? name).map Control.standing) : f.standings = f'.standings := by
  rw [standings, standings, consistent.map_controls, consistent'.map_controls, names]
  simp only [alike]

theorem Consistent.standings_perm (consistent : f.Consistent) (consistent' : f'.Consistent)
    (names : f.names.Perm f'.names)
    (alike : ∀ name, (f.control? name).map Control.standing =
      (f'.control? name).map Control.standing) : f.standings.Perm f'.standings := by
  rw [standings, standings, consistent.map_controls, consistent'.map_controls]
  simp only [alike]
  exact names.filterMap _

end Form

end LiveForm
