import LiveForm.Proofs.Form.Ending
import LiveForm.Proofs.Form.Starting
import LiveForm.Proofs.Form.Submission
import LiveForm.Proofs.Form.Telling

/-!
# Marks of the user

A control is dirty once the user has written it, and touched once the user has visited it or an
attempt to submit was rejected. No operation takes a mark away again, so the marks of a reached form
tell exactly what is in the history of the host: which controls it wrote as input of the user, and
which it visited.

A cascade resets, enables and disables other controls through the operations on controls that a
write of the user goes through as well. That it sets no mark is proved of each notification and each
gate, at any depth inside each other and from whatever form.
-/

namespace LiveForm.Form

def marks (f : Form) : List (String × Bool × Bool) :=
  f.controls.map fun c => (c.name, c.touched, c.dirty)

/-- Some action of a history has a property when its turn comes. -/
def Occurs (f : Form) (P : Form → Action → Prop) (actions : List Action) : Prop :=
  ∃ before a after, actions = before ++ a :: after ∧ P (f.run before).form a

def Rejects (f : Form) (actions : List Action) : Prop :=
  f.Occurs (fun g a => ∃ options, a = .submit options ∧
    (g.submit options).result.isSubmitted = false) actions

def Action.writes (name : String) : Action → Bool
  | .setValue other _ => other = name
  | _ => false

def visits (f : Form) (name : String) : Action → Bool
  | .touch other => other = name
  | .touchAll => true
  | .submit options => !(f.submit options).result.isSubmitted
  | _ => false

variable {f : Form} {P Q : Form → Action → Prop} {actions : List Action}

theorem Action.writes_iff {name : String} {a : Action} :
    a.writes name = true ↔ ∃ value, a = .setValue name value := by
  cases a <;> simp [writes]

theorem visits_iff {name : String} {a : Action} :
    f.visits name a = true ↔ a = .touch name ∨ a = .touchAll ∨
      ∃ options, a = .submit options ∧ (f.submit options).result.isSubmitted = false := by
  cases a <;> simp [visits]

section History

theorem occurs_or :
    f.Occurs (fun g a => P g a ∨ Q g a) actions ↔ f.Occurs P actions ∨ f.Occurs Q actions := by
  simp only [Occurs, and_or_left, exists_or]

theorem occurs_exists {α : Type} {P : α → Form → Action → Prop} :
    f.Occurs (fun g a => ∃ x, P x g a) actions ↔ ∃ x, f.Occurs (P x) actions := by
  constructor
  · rintro ⟨before, a, after, split, x, here⟩
    exact ⟨x, before, a, after, split, here⟩
  · rintro ⟨x, before, a, after, split, here⟩
    exact ⟨before, a, after, split, x, here⟩

theorem occurs_eq_iff {a : Action} : f.Occurs (fun _ b => b = a) actions ↔ a ∈ actions := by
  simp [Occurs, List.mem_iff_append]

/-- The last action takes its turn in the form that the others lead to. -/
theorem occurs_concat (f : Form) (actions : List Action) (a : Action) :
    f.Occurs P (actions ++ [a]) ↔ f.Occurs P actions ∨ P (f.run actions).form a := by
  constructor
  · rintro ⟨before, b, after, split, here⟩
    rcases List.eq_nil_or_concat after with rfl | ⟨rest, last, rfl⟩
    · obtain ⟨rfl, same⟩ := List.append_inj' split rfl
      obtain rfl := List.singleton_inj.mp same
      exact .inr here
    · rw [List.concat_eq_append, ← List.cons_append, ← List.append_assoc] at split
      obtain ⟨rfl, -⟩ := List.append_inj' split rfl
      exact .inl ⟨before, b, rest, rfl, here⟩
  · rintro (⟨before, b, after, rfl, here⟩ | here)
    · exact ⟨before, b, after ++ [a], by simp, here⟩
    · exact ⟨actions, a, [], rfl, here⟩

/-- A mark that no control has at first is on those controls that some action sets it on. -/
theorem Sound.mark_run_iff (mark : Control → Bool) (sets : Form → String → Action → Bool)
    (step : ∀ f a c, mark (f.effect a c) = (mark c || sets f c.name a)) (sound : f.Sound)
    (clean : ∀ c ∈ f.controls, mark c = false) (actions : List Action) :
    ∀ c ∈ (f.run actions).form.controls,
      mark c = true ↔ f.Occurs (fun g a => sets g c.name a = true) actions := by
  induction actions using List.reverseRecOn with
  | nil =>
    intro c member
    simp [clean c member, Occurs]
  | append_singleton actions a ih =>
    intro c member
    rw [run_concat, perform_form_eq (sound.run actions)] at member
    obtain ⟨d, before, rfl⟩ := List.mem_map.mp member
    rw [step, Bool.or_eq_true, ih d before, name_effect, occurs_concat]

/-- A write by the user makes the written control dirty and no other. -/
theorem dirty_settled (f : Form) (name : String) (value : Json) (c : Control) :
    (f.settled name value c).dirty = (c.dirty || decide (c.name = name)) := by
  unfold settled
  split
  · rfl
  · split
    · rfl
    · split
      case isTrue here => simp [here]
      case isFalse elsewhere => simp [elsewhere]

theorem dirty_effect (f : Form) (a : Action) (c : Control) :
    (f.effect a c).dirty = (c.dirty || a.writes c.name) := by
  cases a with
  | setValue name value =>
    rw [effect, dirty_settled, Action.writes]
    simp [eq_comm]
  | _ =>
    simp only [Action.writes, Bool.or_false]
    exact effect_keeps Control.dirty (fun _ _ _ => rfl) (by simp) fun _ _ => rfl

theorem touched_effect (f : Form) (a : Action) (c : Control) :
    (f.effect a c).touched = (c.touched || f.visits c.name a) := by
  cases a with
  | setValue name value =>
    simp only [effect, visits, Bool.or_false]
    exact settled_keeps Control.touched (fun _ _ _ _ _ => rfl) value c
  | touch name =>
    rw [effect, visits]
    by_cases here : c.name = name
    · simp [Control.at_eq_of_name_eq here, Control.markTouched, here]
    · simp [Control.at_eq_of_name_ne here, Ne.symm here]
  | touchAll => simp [effect, visits, Control.markTouched]
  | submit options =>
    rw [effect, visits, isSubmitted_submit]
    cases f.isValid <;> simp [Control.markTouched]
  | _ =>
    simp only [effect, visits, Bool.or_false]
    exact Control.at_keeps Control.touched fun _ => rfl

/-- A run from a form without dirty controls makes those dirty that one of its actions writes. -/
theorem Sound.dirty_run_iff (sound : f.Sound) (clean : ∀ c ∈ f.controls, c.dirty = false)
    (actions : List Action) (c : Control) (member : c ∈ (f.run actions).form.controls) :
    c.dirty = true ↔ ∃ value, .setValue c.name value ∈ actions := by
  rw [sound.mark_run_iff Control.dirty (fun _ name a => a.writes name) dirty_effect clean actions c
    member]
  simp only [Action.writes_iff, occurs_exists, occurs_eq_iff]

theorem Sound.touched_run_iff (sound : f.Sound) (clean : ∀ c ∈ f.controls, c.touched = false)
    (actions : List Action) (c : Control) (member : c ∈ (f.run actions).form.controls) :
    c.touched = true ↔ .touch c.name ∈ actions ∨ .touchAll ∈ actions ∨ f.Rejects actions := by
  rw [sound.mark_run_iff Control.touched visits touched_effect clean actions c member]
  simp only [visits_iff, occurs_or, occurs_eq_iff, Rejects]

end History

section Cascade

theorem marks_eq_of_frame_eq {g : Form} (same : g.frame = f.frame) : g.marks = f.marks := by
  have read : ∀ f : Form, f.marks = f.frame.marks := by
    intro f
    simp [marks, frame, Control.frame]
  rw [read g, same, ← read]

theorem marks_setValueSilently (f : Form) (name : String) (value : Json) :
    (f.perform (.setValueSilently name value)).form.marks = f.marks := by
  rw [perform, setValueSilently, change]
  cases f.contains name with
  | false => rfl
  | true => exact marks_eq_of_frame_eq (frame_update (fun c => c.frame_write value) f name)

end Cascade

/-- In every reached form a control is dirty exactly when the user wrote it, and touched exactly
when the user visited it or all controls, or an attempt to submit was rejected. No notification, no
gate, no silent write and no accepted attempt changes a mark, from whatever form. -/
theorem marks_tell_history (schema : Schema) (initial : Json.Entries) (actions : List Action) :
    (∀ c ∈ (reached schema initial actions).controls,
      (c.dirty = true ↔ ∃ value, .setValue c.name value ∈ actions) ∧
      (c.touched = true ↔ .touch c.name ∈ actions ∨ .touchAll ∈ actions ∨
        (compile schema initial).form.Rejects actions)) ∧
    ∀ f : Form,
      (∀ bound name, (notifyWithin bound f name).form.marks = f.marks) ∧
      (∀ bound value dependent,
        (applyGate (notifyWithin bound) value f dependent).form.marks = f.marks) ∧
      (∀ name value, (f.perform (.setValueSilently name value)).form.marks = f.marks) ∧
      ∀ options, (f.submit options).result.isSubmitted = true →
        (f.perform (.submit options)).form.marks = f.marks := by
  have clean : ∀ c ∈ (compile schema initial).form.controls,
      c.dirty = false ∧ c.touched = false := by
    intro c member
    obtain ⟨field, -, rfl⟩ := eq_startingControl member
    exact ⟨rfl, rfl⟩
  have sound := compile_sound schema initial
  refine ⟨fun c member => ⟨?_, ?_⟩, fun f => ⟨?_, ?_, marks_setValueSilently f, ?_⟩⟩
  · exact sound.dirty_run_iff (fun c member => (clean c member).1) actions c member
  · exact sound.touched_run_iff (fun c member => (clean c member).2) actions c member
  · exact fun bound name => marks_eq_of_frame_eq (frame_notifyWithin bound f name)
  · exact fun bound value dependent =>
      marks_eq_of_frame_eq (frame_applyGate (frame_notifyWithin bound) value f dependent)
  · intro options submitted
    rw [isSubmitted_submit] at submitted
    rw [perform, (submit_of_valid submitted options).2]

def newsletter : Schema where
  fields := [
    { label := "Name", name := "name", type := .text, required := true },
    { label := "Subscribe", name := "subscribe", type := .checkbox },
    { label := "Topics", name := "topics", type := .multiselect, required := true,
      dependsOn := some "subscribe" }]

/-- The topics are set in silence, handed over by an attempt that leaves no mark, reset by the
cascade, and touched at last by an attempt that is rejected because the name is missing by then. -/
theorem marks_tell_history_newsletter :
    let first : List Action := [.setValue "subscribe" (.bool true),
      .setValueSilently "topics" (.array [.string "news"]),
      .setValueSilently "name" (.string "Ada")]
    let later : List Action := first ++ [.submit {}, .setValue "subscribe" (.bool false),
      .setValueSilently "name" .null]
    let ready := reached newsletter [] first
    let final := reached newsletter [] (later ++ [.submit {}])
    ((ready.submit {}).result.isSubmitted = true ∧
        (ready.perform (.submit {})).form.marks = ready.marks) ∧
      ∃ c ∈ final.controls, c.name = "topics" ∧ c.disabled = true ∧ c.dirty = false ∧
        c.touched = true := by
  intro first later ready final
  obtain ⟨marked, kept⟩ := marks_tell_history newsletter [] (later ++ [.submit {}])
  have accepted : (ready.submit {}).result.isSubmitted = true := rfl
  have member : final.controls[2] ∈ final.controls := List.getElem_mem _
  have named : final.controls[2].name = "topics" := rfl
  obtain ⟨dirty, touched⟩ := marked _ member
  refine ⟨⟨accepted, (kept ready).2.2.2 {} accepted⟩, _, member, named, rfl, ?_, ?_⟩
  · refine Bool.eq_false_iff.mpr (mt dirty.mp ?_)
    simp [later, first, named]
  · exact touched.mpr (.inr (.inr ⟨later, .submit {}, [], rfl, {}, rfl, rfl⟩))

end LiveForm.Form
