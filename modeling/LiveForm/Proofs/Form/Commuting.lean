import LiveForm.Proofs.Form.Branching

/-!
# Independent writes commute

A write by the user changes the written control and what it reaches, and reads nothing but the
gates, which no write changes. Where every control has one parent at most, two controls of which
neither depends on the other reach nothing in common. So writes to them settle in the same form
whichever comes first, also where the dependencies above or below them lead round a cycle.
-/

namespace LiveForm

namespace Form

variable {f f' : Form} {name first second : String}

/-- What descends from a control hangs on the gates alone, in whatever order they are. -/
theorem descends_congr
    (same : ∀ parent child, child ∈ f'.children parent ↔ child ∈ f.children parent) :
    f'.Descends = f.Descends :=
  congrArg Relation.TransGen <| funext fun parent => funext fun child => propext (same parent child)

theorem settled_congr
    (same : ∀ parent child, child ∈ f'.children parent ↔ child ∈ f.children parent) :
    f'.settled = f.settled := by
  funext name value c
  unfold settled
  rw [descends_congr same]
  simp only [same]

/-- A write leaves a control that it does not reach. -/
theorem settled_of_not_reaches {value : Json} {c : Control} (aside : ¬ f.Reaches name c.name) :
    f.settled name value c = c := by
  rw [reaches_iff, not_or] at aside
  obtain ⟨elsewhere, notBelow⟩ := aside
  exact settled_of_elsewhere elsewhere (fun _ => notBelow) fun _ child => notBelow (.single child)

theorem name_settled (f : Form) (name : String) (value : Json) (c : Control) :
    (f.settled name value c).name = c.name :=
  settled_keeps Control.name (fun _ _ _ _ _ => rfl) value c

/-- Where no control is reached from both, each control is changed by one of two writes at most. -/
theorem Branching.settled_comm (branching : f.Branching) (aside : ¬ f.Reaches first second)
    (aside' : ¬ f.Reaches second first) (v w : Json) (c : Control) :
    f.settled second w (f.settled first v c) = f.settled first v (f.settled second w c) := by
  by_cases below : f.Reaches first c.name
  · have apart : ¬ f.Reaches second c.name := fun below' =>
      (branching.reaches_total below below').elim aside aside'
    have kept : f.settled second w (f.settled first v c) = f.settled first v c :=
      settled_of_not_reaches (by rwa [name_settled])
    rw [settled_of_not_reaches apart, kept]
  · have kept : f.settled first v (f.settled second w c) = f.settled second w c :=
      settled_of_not_reaches (by rwa [name_settled])
    rw [settled_of_not_reaches below, kept]

/-- A write on a control of a sound form succeeds, and a second one finds the same names and
gates. -/
theorem Sound.setValue_step (sound : f.Sound) (known : name ∈ f.names) (value : Json) :
    ∃ o, f.setValue name value = .ok o ∧ o.form = f.mapControls (f.settled name value) ∧
      o.form.Sound ∧ o.form.names = f.names ∧ o.form.children = f.children := by
  obtain ⟨o, done, settles, -⟩ := sound.setValue_eq_ok known value
  have performed : (f.perform (.setValue name value)).form = o.form := by
    rw [Form.perform, done]
    rfl
  refine ⟨o, done, settles, performed ▸ sound.perform (.setValue name value), ?_, ?_⟩
  · rw [settles, names_mapControls (name_settled f name value)]
  · rw [settles, children_mapControls]
    intro c _
    exact settled_keeps (fun c => c.observers.gateTargets) (fun _ _ _ _ _ => rfl) value c

theorem Sound.setValue_setValue (sound : f.Sound) (known : first ∈ f.names)
    (known' : second ∈ f.names) (v w : Json) :
    ∃ o o', f.setValue first v = .ok o ∧ o.form.setValue second w = .ok o' ∧
      o'.form = f.mapControls fun c => f.settled second w (f.settled first v c) := by
  obtain ⟨o, done, settles, soundThen, names, children⟩ := sound.setValue_step known v
  obtain ⟨o', done', settles', -⟩ := soundThen.setValue_step (names.symm ▸ known') w
  have gates : o.form.settled = f.settled := settled_congr fun parent child => by rw [children]
  refine ⟨o, o', done, done', ?_⟩
  rw [settles', gates, settles, mapControls_mapControls]

variable {schema : Schema}

/-- In every reached form, writes by the user to two controls of which neither depends on the other,
directly or through others, succeed in either order and leave the same form. -/
theorem setValue_comm (distinct : schema.names.Nodup) (initial : Json.Entries)
    (actions : List Action) (known : first ∈ schema.names) (known' : second ∈ schema.names)
    (other : first ≠ second) (free : ¬ Relation.TransGen schema.DependsOn first second)
    (free' : ¬ Relation.TransGen schema.DependsOn second first) (v w : Json) :
    let f := reached schema initial actions
    ∃ afterFirst both afterSecond both',
      f.setValue first v = .ok afterFirst ∧ afterFirst.form.setValue second w = .ok both ∧
      f.setValue second w = .ok afterSecond ∧ afterSecond.form.setValue first v = .ok both' ∧
      both.form = both'.form := by
  intro f
  have sound : f.Sound := reached_sound schema initial actions
  have names := mem_names_reached schema initial actions
  have aside : ¬ f.Reaches first second := by
    rw [reaches_iff, not_or]
    exact ⟨other.symm, fun below => free' (transGen_dependsOn_of_descends below)⟩
  have aside' : ¬ f.Reaches second first := by
    rw [reaches_iff, not_or]
    exact ⟨other, fun below => free (transGen_dependsOn_of_descends below)⟩
  obtain ⟨afterFirst, both, done, doneBoth, settles⟩ :=
    sound.setValue_setValue ((names first).mpr known) ((names second).mpr known') v w
  obtain ⟨afterSecond, both', done', doneBoth', settles'⟩ :=
    sound.setValue_setValue ((names second).mpr known') ((names first).mpr known) w v
  refine ⟨afterFirst, both, afterSecond, both', done, doneBoth, done', doneBoth', ?_⟩
  rw [settles, settles']
  apply mapControls_congr
  intro c _
  exact (branching_reached distinct initial actions).settled_comm aside aside' v w c

/-- A trip that depends on itself, with a way there and a way back, each with a ticket. -/
def trip : Schema where
  fields := [
    { label := "Trip", name := "trip", type := .checkbox, dependsOn := some "trip" },
    { label := "Ticket back", name := "backTicket", type := .text, dependsOn := some "back" },
    { label := "Way there", name := "there", type := .checkbox, dependsOn := some "trip" },
    { label := "Way back", name := "back", type := .checkbox, dependsOn := some "trip" },
    { label := "Ticket there", name := "thereTicket", type := .text, dependsOn := some "there" }]

theorem dependsOn_trip {child parent : String} (depends : trip.DependsOn child parent)
    (way : child = "trip" ∨ child = "there" ∨ child = "back") : parent = "trip" := by
  obtain ⟨field, member, named, dependsOn⟩ := depends
  simp only [trip, List.mem_cons, List.not_mem_nil, or_false] at member
  rcases member with rfl | rfl | rfl | rfl | rfl <;> subst named <;> simp at way dependsOn <;>
    exact dependsOn.symm

/-- Above the ways there is nothing but the trip. -/
theorem eq_trip_of_transGen {child parent : String}
    (above : Relation.TransGen trip.DependsOn child parent)
    (way : child = "trip" ∨ child = "there" ∨ child = "back") : parent = "trip" := by
  induction above with
  | single depends => exact dependsOn_trip depends way
  | tail _ depends ih => exact dependsOn_trip depends (.inl ih)

theorem setValue_comm_trip :
    let f := reached trip [("trip", .bool true), ("backTicket", .string "5B")] []
    trip.names.Nodup ∧ "there" ≠ "back" ∧ ¬ Relation.TransGen trip.DependsOn "there" "back" ∧
      ¬ Relation.TransGen trip.DependsOn "back" "there" ∧
      ∃ afterThere both afterBack both',
        f.setValue "there" (.bool true) = .ok afterThere ∧
        afterThere.form.setValue "back" .null = .ok both ∧
        f.setValue "back" .null = .ok afterBack ∧
        afterBack.form.setValue "there" (.bool true) = .ok both' ∧ both.form = both'.form := by
  intro f
  have distinct : trip.names.Nodup := by decide
  have free : ¬ Relation.TransGen trip.DependsOn "there" "back" := fun above =>
    absurd (eq_trip_of_transGen above (by decide)) (by decide)
  have free' : ¬ Relation.TransGen trip.DependsOn "back" "there" := fun above =>
    absurd (eq_trip_of_transGen above (by decide)) (by decide)
  exact ⟨distinct, by decide, free, free', setValue_comm distinct _ [] (by decide) (by decide)
    (by decide) free free' (.bool true) .null⟩

end Form

end LiveForm
