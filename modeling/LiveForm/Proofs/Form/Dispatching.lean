import LiveForm.Proofs.Form.Branching
import LiveForm.Proofs.Form.Telling
import LiveForm.Proofs.Form.Unfolding
import Mathlib.Data.List.Perm.Subperm

/-!
# Who is told, and who is called

While a value spreads a control that is notifying is not told again, and every other control is told
by way of a gate. `Orderly` keeps account of this through a notification: whoever is told beyond the
controls at the beginning stands among the children of those that were told, as often as it is told.
Where every control has one parent at most a write therefore tells no control twice, also when the
dependencies lead round a cycle.

The callbacks of a control are called when it ends to notify, in the order of their registration and
with the value that the control tells. So the calls on one control, taken for themselves, can be
read off the notifications of this control.
-/

namespace LiveForm

namespace Form

def Outcome.callsOn (o : Outcome) (name : String) : List (String × String × Json) :=
  o.calls.filter fun call => call.2.1 = name

def callsWith (f : Form) (name : String) (value : Json) : List (String × String × Json) :=
  (f.deliveries name value).filterMap Event.delivery?

/-- The account of a notification that begins with some controls. -/
structure Orderly (f : Form) (beginning : List String) (o : Outcome) : Prop where
  /-- Whoever is notifying already is not told. -/
  fresh : ∀ n ∈ o.told, n ∉ f.notifying
  /-- Whoever is told is one of the first, or is gated by a control that is told. -/
  told_subperm : o.told.Subperm (beginning ++ o.told.flatMap f.children)
  /-- The callbacks of a control are called with what it tells. -/
  callsOn_eq : ∀ name, o.callsOn name =
    (o.notifications.filter fun n => n.1 = name).flatMap fun n => f.callsWith n.1 n.2

variable {f f' : Form} {name : String} {value : Json} {o first : Outcome}

theorem callsOn_append (form form' : Form) (before after : List Event) (name : String) :
    Outcome.callsOn ⟨form, before ++ after⟩ name =
      Outcome.callsOn ⟨form', before⟩ name ++ Outcome.callsOn ⟨form, after⟩ name := by
  simp [Outcome.callsOn, Outcome.calls]

theorem callsWith_eq_map (f : Form) (name : String) (value : Json) :
    f.callsWith name value =
      (((f.control? name).map fun c => c.observers.callbackTags).getD []).map fun tag =>
        (tag, name, value) := by
  rw [callsWith, deliveries]
  cases f.control? name with
  | none => rfl
  | some c =>
    simp only [List.filterMap_map, Function.comp_def, Event.delivery?, List.filterMap_eq_map',
      Option.map_some, Option.getD_some]

theorem snd_of_mem_callsWith {call : String × String × Json}
    (member : call ∈ f.callsWith name value) : call.2 = (name, value) := by
  rw [callsWith_eq_map] at member
  obtain ⟨tag, -, rfl⟩ := List.mem_map.mp member
  rfl

theorem filter_callsWith (f : Form) (name other : String) (value : Json) :
    ((f.callsWith name value).filter fun call => call.2.1 = other) =
      if name = other then f.callsWith name value else [] := by
  have all : ∀ call ∈ f.callsWith name value, call.2.1 = name := fun call member =>
    congrArg Prod.fst (snd_of_mem_callsWith member)
  split
  case isTrue here =>
    exact List.filter_eq_self.mpr fun call member => decide_eq_true ((all call member).trans here)
  case isFalse elsewhere =>
    refine List.filter_eq_nil_iff.mpr fun call member => ?_
    rw [all call member]
    exact (decide_eq_true_iff.not).mpr elsewhere

namespace Orderly

theorem of_silent (beginning : List String) (silent : o.notifications = [])
    (uncalled : o.calls = []) : f.Orderly beginning o where
  fresh := by simp [Outcome.told, silent]
  told_subperm := by
    simp only [Outcome.told, silent, List.map_nil]
    exact List.nil_subperm
  callsOn_eq name := by simp [Outcome.callsOn, uncalled, silent]

theorem append {early late : List String} (before : f.Orderly early first)
    (after : f.Orderly late o) :
    f.Orderly (early ++ late) ⟨o.form, first.trace ++ o.trace⟩ := by
  have told : Outcome.notifications ⟨o.form, first.trace ++ o.trace⟩ =
      first.notifications ++ o.notifications := List.filterMap_append
  have toldAll : Outcome.told ⟨o.form, first.trace ++ o.trace⟩ = first.told ++ o.told := by
    simp only [Outcome.told, told, List.map_append]
  refine ⟨?_, ?_, ?_⟩
  · rw [toldAll]
    exact List.forall_mem_append.mpr ⟨before.fresh, after.fresh⟩
  · rw [toldAll, List.flatMap_append]
    refine (before.told_subperm.append after.told_subperm).trans (List.Perm.subperm ?_)
    simp only [List.append_assoc, List.perm_append_left_iff]
    exact List.perm_append_comm_assoc ..
  · intro name
    rw [told, List.filter_append, List.flatMap_append, ← before.callsOn_eq, ← after.callsOn_eq]
    exact callsOn_append _ _ _ _ name

/-- A form that differs only in what a spreading value may change keeps the same account. -/
theorem of_kept {beginning : List String} (kept : f.Kept f') (orderly : f'.Orderly beginning o) :
    f.Orderly beginning o := by
  obtain ⟨fresh, told_subperm, callsOn_eq⟩ := orderly
  rw [kept.notifying_eq] at fresh
  rw [kept.children_eq] at told_subperm
  simp only [callsWith, kept.deliveries_eq] at callsOn_eq
  exact ⟨fresh, told_subperm, callsOn_eq⟩

/-- A control that begins is told, and then what its gates lead to, but not the control again. -/
theorem begun {c : Control} (found : f.control? name = some c) (idle : name ∉ f.notifying)
    (kept : (f.enter name).Kept o.form)
    (gates : (f.enter name).Orderly c.observers.gateTargets o) :
    let told : Outcome := ⟨o.form.leave name,
      .notified name c.value :: (o.trace ++ o.form.deliveries name c.value)⟩
    f.Orderly [name] told ∧ told.told.count name ≤ 1 := by
  intro told
  have notified : told.notifications = (name, c.value) :: o.notifications :=
    notifications_begun (o.form.leave name) o.form o.form name c.value c.value o.trace
  have toldAll : told.told = name :: o.told := congrArg (List.map Prod.fst) notified
  have aside : ∀ n ∈ o.told, n ≠ name ∧ n ∉ f.notifying := fun n member =>
    not_or.mp (mt List.mem_cons.mpr (gates.fresh n member))
  have notAgain : name ∉ o.told := fun member => (aside name member).1 rfl
  refine ⟨⟨?_, ?_, ?_⟩, ?_⟩
  · rw [toldAll]
    exact List.forall_mem_cons.mpr ⟨idle, fun n member => (aside n member).2⟩
  · rw [toldAll, List.flatMap_cons, children_eq_of_control? found]
    exact (List.subperm_cons name).mpr gates.told_subperm
  · intro other
    have calls : told.callsOn other = o.callsOn other ++
        if name = other then f.callsWith name c.value else [] := by
      have own : (o.form.deliveries name c.value).filterMap Event.delivery? =
          f.callsWith name c.value := by
        rw [kept.deliveries_eq]
        rfl
      rw [← filter_callsWith, ← own]
      simp [told, Outcome.callsOn, Outcome.calls, List.filterMap_cons, Event.delivery?]
    have inside := gates.callsOn_eq other
    rw [calls, notified, inside, List.filter_cons]
    rcases eq_or_ne name other with rfl | elsewhere
    · have nothing : (o.notifications.filter fun n => n.1 = name) = [] := by
        refine List.filter_eq_nil_iff.mpr fun n member same => notAgain ?_
        exact of_decide_eq_true same ▸ List.mem_map_of_mem member
      simp [nothing]
    · simp only [elsewhere, if_false, decide_false, Bool.false_eq_true, List.append_nil]
      rfl
  · rw [toldAll, List.count_cons_self, List.count_eq_zero_of_not_mem notAgain]

end Orderly

/-- A notification is orderly and tells its control once. -/
theorem orderlyRules : SpreadRules
    (fun f name o => f.Orderly [name] o ∧ o.told.count name ≤ 1)
    (fun f _ targets o => f.Orderly targets o) where
  suppressed _ _ := ⟨.of_silent _ rfl rfl, Nat.zero_le 1⟩
  begun _ found fresh kept gates := Orderly.begun found fresh kept gates
  done := .of_silent _ rfl rfl
  opens := by
    intro f value dependent rest o _ _ _ gates
    have orderly := Orderly.of_kept (Kept.setDisabled f dependent false) gates
    refine ⟨orderly.fresh, ?_, orderly.callsOn_eq⟩
    exact orderly.told_subperm.trans (List.sublist_cons_self dependent _).subperm
  closes := by
    intro f value dependent rest first o _ _ _ kept told gates
    exact (Orderly.of_kept (Kept.reset f dependent) told.1).append
      (Orderly.of_kept kept.closed gates)

/-- A write by the user is orderly and tells the written control once. -/
theorem Sound.orderly_setValue (sound : f.Sound) (known : name ∈ f.names) (value : Json) :
    ∃ o, f.setValue name value = .ok o ∧ f.Orderly [name] o ∧ o.told.count name ≤ 1 := by
  have known' : name ∈ (f.mapControls (Control.at name (written value))).names := by
    rwa [names_mapControls (name_at_written value)]
  obtain ⟨⟨fresh, told_subperm, callsOn_eq⟩, once⟩ := (notifyWithin_spreads orderlyRules _
    (Ready.of_idle (consistent_written sound.consistent name value) sound.idle) known').1
  rw [children_written] at told_subperm
  simp only [callsWith, deliveries_mapControls (observers_at_written value)] at callsOn_eq
  exact ⟨_, sound.consistent.setValue_eq_notify known value,
    ⟨fresh, told_subperm, callsOn_eq⟩, once⟩

namespace Branching

variable {parent child : String}

/-- Of some controls only the parent of a control gates it, and gates it once. -/
theorem count_flatMap_children (branching : f.Branching) (gated : child ∈ f.children parent)
    (names : List String) : (names.flatMap f.children).count child = names.count parent := by
  induction names with
  | nil => rfl
  | cons name rest ih =>
    rw [List.flatMap_cons, List.count_append, ih]
    rcases eq_or_ne name parent with rfl | other
    · rw [List.count_eq_one_of_mem (branching.children_nodup name) gated, List.count_cons_self,
        Nat.add_comm]
    · have absent : child ∉ f.children name := fun gated' =>
        other (branching.parent_unique gated' gated)
      rw [List.count_eq_zero_of_not_mem absent, List.count_cons_of_ne other, Nat.zero_add]

/-- Where every control has one parent at most, a write by the user makes no control tell its
observers twice. -/
theorem told_nodup (branching : f.Branching) (sound : f.Sound) (name : String) (value : Json) :
    (f.perform (.setValue name value)).told.Nodup := by
  by_cases known : name ∈ f.names
  · obtain ⟨o, done, orderly, once⟩ := sound.orderly_setValue known value
    have reached := (perform_setValue_told sound known value).2.1
    rw [Form.perform, done] at reached ⊢
    rw [List.nodup_iff_count_le_one]
    intro n
    by_cases told : n ∈ o.told
    · have down : f.Reaches name n := reaches_iff.mpr (((reached n).mp told).imp_right And.right)
      -- On the way down from the written control each one is told no oftener than the one above.
      clear told
      induction down with
      | refl => exact once
      | @tail parent n _ gated ih =>
        rcases eq_or_ne n name with rfl | other
        · exact once
        · calc o.told.count n
              ≤ ([name] ++ o.told.flatMap f.children).count n := orderly.told_subperm.count_le n
            _ = o.told.count parent := by
              rw [List.count_append, List.count_singleton, count_flatMap_children branching gated]
              simp [other.symm]
            _ ≤ 1 := ih
    · exact (List.count_eq_zero_of_not_mem told).trans_le (Nat.zero_le 1)
  · rw [Form.perform, setValue_eq_error sound.consistent known]
    exact List.nodup_nil

end Branching

end Form

end LiveForm
