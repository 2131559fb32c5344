import LiveForm.Proofs.Text.Trimming
import LiveForm.Settings.Environment

/-!
# What variables make of settings

`Reads` says which texts write a switch, and `Switch.Follows` what a switch is to be when its
variable is set and when it is not. Overriding goes through the switches in their order and comes
through exactly when every variable that is set can be read; then every switch follows its variable.
At the first variable that cannot be read it ends with an error, and the switches before it have
been overridden already. Only a copy of the settings is overridden when they are overridden as a
whole, so then the error is all that comes of it.
-/

namespace LiveForm.Settings

open Text

def words : Bool → List String
  | true => ["true", "1", "yes", "on"]
  | false => ["false", "0", "no", "off"]

/-- A text writes a switch: one of its words, in letters of either case and between blanks. -/
def Reads (raw : String) (value : Bool) : Prop :=
  ∃ before word after : List Char, raw.toList = before ++ word ++ after ∧
    (∀ c ∈ before, isBlank c = true) ∧ (∀ c ∈ after, isBlank c = true) ∧
    String.ofList (word.map Char.toLower) ∈ words value

def Readable (lookup : String → Option String) (switch : Switch) : Prop :=
  ∀ raw, lookup switch.envKey = some raw → ∃ value, Reads raw value

/-- After overriding a switch is what its variable writes, or what it was when this is not set. -/
structure Switch.Follows (lookup : String → Option String) (s t : Settings) (switch : Switch) :
    Prop where
  set : ∀ raw, lookup switch.envKey = some raw → Reads raw (switch.get t)
  unset : lookup switch.envKey = none → switch.get t = switch.get s

/-! ### Words -/

theorem parseBool?_eq_some_iff_mem {raw : String} {value : Bool} :
    parseBool? raw = some value ↔ lowerAscii (trim raw) ∈ words value := by
  have apart : ∀ word ∈ words true, word ∉ words false := by decide
  show (if lowerAscii (trim raw) ∈ words true then some true
    else if lowerAscii (trim raw) ∈ words false then some false else none) = some value ↔ _
  split
  case isTrue on =>
    cases value with
    | false => exact iff_of_false (by simp) (apart _ on)
    | true => exact iff_of_true rfl on
  case isFalse noOn =>
    split
    case isTrue off =>
      cases value with
      | false => exact iff_of_true rfl off
      | true => exact iff_of_false (by simp) noOn
    case isFalse noOff =>
      cases value with
      | false => exact iff_of_false (by simp) noOff
      | true => exact iff_of_false (by simp) noOn

theorem isBlank_of_mem_words {value : Bool} {word : String} (among : word ∈ words value) :
    ∀ c ∈ word.toList, isBlank c = false := by
  have bare : ((words value).all fun word => word.toList.all fun c => !isBlank c) = true := by
    cases value <;> decide
  simpa using List.all_eq_true.mp (List.all_eq_true.mp bare word among)

/-- What is read is what is written. -/
theorem parseBool?_eq_some_iff {raw : String} {value : Bool} :
    parseBool? raw = some value ↔ Reads raw value := by
  rw [parseBool?_eq_some_iff_mem, lowerAscii, trim, String.toList_ofList]
  constructor
  · intro among
    obtain ⟨before, after, split, blank, blank'⟩ := exists_eq_append_trimChars raw.toList
    exact ⟨before, trimChars raw.toList, after, split, blank, blank', among⟩
  · rintro ⟨before, word, after, split, blank, blank', among⟩
    have bare : ∀ c ∈ word, isBlank c = false := by
      intro c member
      by_contra inside
      have blankAt : isBlank c = true := Bool.not_eq_false _ ▸ inside
      have lowered : c ∈ (String.ofList (word.map Char.toLower)).toList := by
        rw [String.toList_ofList]
        exact List.mem_map.mpr ⟨c, member, toLower_of_isBlank blankAt⟩
      exact inside (isBlank_of_mem_words among c lowered)
    rwa [split, trimChars_append blank blank' bare]

theorem parseBool?_eq_none_iff {raw : String} :
    parseBool? raw = none ↔ ∀ value, ¬ Reads raw value := by
  simp only [← parseBool?_eq_some_iff, Option.eq_none_iff_forall_ne_some, Ne]

instance (lookup : String → Option String) (switch : Switch) :
    Decidable (Readable lookup switch) :=
  decidable_of_iff (∀ raw ∈ lookup switch.envKey, (parseBool? raw).isSome = true) <| by
    simp only [Readable, Option.mem_def, Option.isSome_iff_exists, parseBool?_eq_some_iff]

/-! ### One switch after another -/

namespace Switch

@[simp] theorem mem_all (switch : Switch) : switch ∈ all := by cases switch <;> decide

theorem get_set (s : Settings) (value : Bool) (switch other : Switch) :
    other.get (switch.set s value) = if other = switch then value else other.get s := by
  cases switch <;> cases other <;> rfl

theorem ext_get {s t : Settings} (same : ∀ switch : Switch, switch.get s = switch.get t) :
    s = t := by
  obtain ⟨⟨requireTitle, rejectCycles⟩, ⟨includeDisabled⟩⟩ := s
  have first := same .requireTitle
  have second := same .rejectCycles
  have third := same .includeDisabled
  simp only [get] at first second third
  subst first second third
  rfl

variable {lookup : String → Option String} {s t u : Settings} {switch : Switch}

/-- A switch follows its variable whatever becomes of the other switches. -/
theorem Follows.congr (follows : switch.Follows lookup s t) (before : switch.get u = switch.get s)
    {v : Settings} (after : switch.get v = switch.get t) : switch.Follows lookup u v where
  set raw given := after ▸ follows.set raw given
  unset missing := by rw [after, before, follows.unset missing]

/-- What a switch is to be is settled by its variable and by what it was. -/
theorem Follows.unique (follows : switch.Follows lookup s t)
    (follows' : switch.Follows lookup s u) : switch.get t = switch.get u := by
  cases given : lookup switch.envKey with
  | none => rw [follows.unset given, follows'.unset given]
  | some raw =>
    have reads := parseBool?_eq_some_iff.mpr (follows.set raw given)
    have reads' := parseBool?_eq_some_iff.mpr (follows'.set raw given)
    exact Option.some.inj (reads.symm.trans reads')

theorem Follows.readable (follows : switch.Follows lookup s t) : Readable lookup switch :=
  fun raw given => ⟨switch.get t, follows.set raw given⟩

end Switch

namespace Overriding

variable {lookup : String → Option String} {o : Overriding} {switch : Switch}

theorem step_of_error {e : Error} (failed : o.error = some e) : step lookup o switch = o := by
  rw [step, failed]

theorem step_of_unreadable {raw : String} (fine : o.error = none)
    (given : lookup switch.envKey = some raw) (unreadable : ∀ value, ¬ Reads raw value) :
    step lookup o switch = { o with error := some (.invalidVariable switch.envKey raw) } := by
  rw [step, fine, given]
  dsimp only
  rw [parseBool?_eq_none_iff.mpr unreadable]

/-- A variable that is not set or can be read overrides its own switch alone. -/
theorem step_follows (fine : o.error = none) (readable : Readable lookup switch) :
    (step lookup o switch).error = none ∧
      switch.Follows lookup o.settings (step lookup o switch).settings ∧
      ∀ other, other ≠ switch →
        other.get (step lookup o switch).settings = other.get o.settings := by
  cases given : lookup switch.envKey with
  | none =>
    have kept : step lookup o switch = o := by rw [step, fine, given]
    rw [kept]
    exact ⟨fine, ⟨fun raw set => by simp [given] at set, fun _ => rfl⟩, fun _ _ => rfl⟩
  | some raw =>
    obtain ⟨value, reads⟩ := readable raw given
    have written : step lookup o switch =
        { o with settings := switch.set o.settings value,
                 applied := o.applied ++ [(switch, value)] } := by
      rw [step, fine, given]
      dsimp only
      rw [parseBool?_eq_some_iff.mpr reads]
    rw [written]
    refine ⟨fine, ⟨fun raw' set => ?_, fun unset => by simp [given] at unset⟩, fun other ne => ?_⟩
    · obtain rfl := Option.some.inj (given.symm.trans set)
      rwa [Switch.get_set, if_pos rfl]
    · rw [Switch.get_set, if_neg ne]

theorem foldl_step_of_error {e : Error} (failed : o.error = some e) (switches : List Switch) :
    switches.foldl (step lookup) o = o := by
  induction switches with
  | nil => rfl
  | cons switch rest ih => rw [List.foldl_cons, step_of_error failed, ih]

/-- Variables that can be read override their switches, each its own. -/
theorem foldl_step_follows {switches : List Switch} (distinct : switches.Nodup)
    (fine : o.error = none) (readable : ∀ switch ∈ switches, Readable lookup switch) :
    (switches.foldl (step lookup) o).error = none ∧
      (∀ switch ∈ switches,
        switch.Follows lookup o.settings (switches.foldl (step lookup) o).settings) ∧
      ∀ switch ∉ switches,
        switch.get (switches.foldl (step lookup) o).settings = switch.get o.settings := by
  induction switches generalizing o with
  | nil => exact ⟨fine, by simp, fun _ _ => rfl⟩
  | cons first rest ih =>
    obtain ⟨fresh, distinct⟩ := List.nodup_cons.mp distinct
    obtain ⟨readable, readable'⟩ := List.forall_mem_cons.mp readable
    obtain ⟨fine', follows, others⟩ := step_follows fine readable
    obtain ⟨fineEnd, followEnd, othersEnd⟩ := ih distinct fine' readable'
    refine ⟨fineEnd, List.forall_mem_cons.mpr ⟨?_, fun switch member => ?_⟩, fun switch out => ?_⟩
    · exact follows.congr rfl (othersEnd first fresh)
    · have ne : switch ≠ first := fun same => fresh (same ▸ member)
      exact (followEnd switch member).congr (others switch ne).symm rfl
    · obtain ⟨ne, out⟩ := not_or.mp (mt List.mem_cons.mpr out)
      exact (othersEnd switch out).trans (others switch ne)

end Overriding

/-! ### All switches -/

variable {s : Settings} {lookup : String → Option String}

theorem override_of_readable (readable : ∀ switch, Readable lookup switch) :
    (s.override lookup).error = none ∧
      ∀ switch : Switch, switch.Follows lookup s (s.override lookup).settings := by
  obtain ⟨fine, follows, -⟩ := Overriding.foldl_step_follows (o := ⟨s, none, []⟩)
    (show Switch.all.Nodup by decide) rfl fun switch _ => readable switch
  exact ⟨fine, fun switch => follows switch switch.mem_all⟩

/-- The first variable that cannot be read ends the overriding. -/
theorem override_of_unreadable {before after : List Switch} {switch : Switch} {raw : String}
    (split : Switch.all = before ++ switch :: after)
    (readable : ∀ earlier ∈ before, Readable lookup earlier)
    (given : lookup switch.envKey = some raw) (unreadable : ∀ value, ¬ Reads raw value) :
    (s.override lookup).error = some (.invalidVariable switch.envKey raw) ∧
      (∀ earlier ∈ before, earlier.Follows lookup s (s.override lookup).settings) ∧
      ∀ later ∈ switch :: after, later.get (s.override lookup).settings = later.get s := by
  have distinct : (before ++ switch :: after).Nodup := split ▸ by decide
  obtain ⟨distinct, -, apart⟩ := List.nodup_append.mp distinct
  obtain ⟨fine, follows, others⟩ := Overriding.foldl_step_follows (o := ⟨s, none, []⟩) distinct rfl
    readable
  have ended : s.override lookup =
      { before.foldl (Overriding.step lookup) ⟨s, none, []⟩ with
        error := some (.invalidVariable switch.envKey raw) } := by
    rw [override, split, List.foldl_append, List.foldl_cons,
      Overriding.step_of_unreadable fine given unreadable, Overriding.foldl_step_of_error rfl]
  rw [ended]
  exact ⟨rfl, follows, fun later member =>
    others later fun early => apart later early later member rfl⟩

/-- Some variable is the first that cannot be read, unless all can. -/
theorem exists_first_unreadable (unreadable : ¬ ∀ switch, Readable lookup switch) :
    ∃ before switch after raw, Switch.all = before ++ switch :: after ∧
      (∀ earlier ∈ before, Readable lookup earlier) ∧ lookup switch.envKey = some raw ∧
      ∀ value, ¬ Reads raw value := by
  obtain ⟨switch, unread⟩ := not_forall.mp unreadable
  have some : (Switch.all.find? fun switch => ¬ Readable lookup switch).isSome := by
    rw [List.find?_isSome]
    exact ⟨switch, switch.mem_all, decide_eq_true unread⟩
  obtain ⟨first, found⟩ := Option.isSome_iff_exists.mp some
  obtain ⟨stopped, before, after, split, passed⟩ := List.find?_eq_some_iff_append.mp found
  have unread : ¬ Readable lookup first := by simpa using stopped
  obtain ⟨raw, given⟩ := not_forall.mp unread
  obtain ⟨given, unread⟩ := Classical.not_imp.mp given
  exact ⟨before, first, after, raw, split,
    fun earlier member => by simpa using passed earlier member, given, not_exists.mp unread⟩

theorem overridden_of_fine (fine : (s.override lookup).error = none) :
    s.overridden lookup = .ok (s.override lookup).settings := by
  unfold overridden
  dsimp only
  rw [fine]

theorem overridden_of_failed {e : Error} (failed : (s.override lookup).error = some e) :
    s.overridden lookup = .error e := by
  unfold overridden
  dsimp only
  rw [failed]

/-- Overriding ends without an error exactly when every variable that is set can be read, and then
each switch is what its variable writes, or what it was when its variable is not set. Otherwise the
error names the first variable in order that cannot be read, with its text as it is; the switches
before it follow their variables and the others are what they were. What is overridden as a whole
comes out with every switch following its variable, or as the error alone. -/
theorem overrides_until_unreadable (s : Settings) (lookup : String → Option String) :
    let o := s.override lookup
    (o.error = none ↔ ∀ switch, Readable lookup switch) ∧
      (o.error = none → ∀ switch : Switch, switch.Follows lookup s o.settings) ∧
      (∀ e, o.error = some e → ∃ before switch after raw,
        Switch.all = before ++ switch :: after ∧ (∀ earlier ∈ before, Readable lookup earlier) ∧
          lookup switch.envKey = some raw ∧ (∀ value, ¬ Reads raw value) ∧
          e = .invalidVariable switch.envKey raw ∧
          (∀ earlier ∈ before, earlier.Follows lookup s o.settings) ∧
          ∀ later ∈ switch :: after, later.get o.settings = later.get s) ∧
      (∀ t, s.overridden lookup = .ok t ↔ ∀ switch : Switch, switch.Follows lookup s t) ∧
      ∀ e, s.overridden lookup = .error e ↔ o.error = some e := by
  intro o
  by_cases readable : ∀ switch, Readable lookup switch
  · obtain ⟨fine, follows⟩ := override_of_readable (s := s) readable
    refine ⟨iff_of_true fine readable, fun _ => follows, fun e failed => ?_, fun t => ?_,
      fun e => ?_⟩
    · cases fine.symm.trans failed
    · rw [overridden_of_fine fine, Except.ok.injEq]
      constructor
      · rintro rfl
        exact follows
      · exact fun follows' => Switch.ext_get fun switch => (follows switch).unique (follows' switch)
    · rw [overridden_of_fine fine, show o.error = none from fine]
      exact iff_of_false (by simp) (by simp)
  · obtain ⟨before, switch, after, raw, split, early, given, unread⟩ :=
      exists_first_unreadable readable
    obtain ⟨failed, follows, others⟩ := override_of_unreadable (s := s) split early given unread
    have notFine : ¬ o.error = none := by
      rw [show o.error = _ from failed]
      exact Option.some_ne_none _
    refine ⟨iff_of_false notFine readable, fun fine => absurd fine notFine, fun e failed' => ?_,
      fun t => ?_, fun e => ?_⟩
    · obtain rfl := Option.some.inj (failed.symm.trans failed')
      exact ⟨before, switch, after, raw, split, early, given, unread, rfl, follows, others⟩
    · rw [overridden_of_failed failed]
      exact iff_of_false (by simp) fun follows => readable fun switch => (follows switch).readable
    · rw [overridden_of_failed failed, show o.error = _ from failed, Except.error.injEq,
        Option.some.injEq]

def unsure (key : String) : Option String :=
  if key = Switch.requireTitle.envKey then some " Yes\t"
  else if key = Switch.includeDisabled.envKey then some "sometimes"
  else none

/-- Overriding ends at the last switch, and by then the title is asked for. -/
theorem overrides_until_unreadable_unsure :
    let o := ({} : Settings).override unsure
    let e : Error := .invalidVariable "SCHEMAFORM_INCLUDE_DISABLED" "sometimes"
    o.error = some e ∧ o.settings = { loader.requireTitle := true } ∧
      ({} : Settings).overridden unsure = .error e ∧
      ∃ before after, Switch.all = before ++ .includeDisabled :: after ∧
        (∀ earlier ∈ before, earlier.Follows unsure {} o.settings) ∧
        ∀ later ∈ Switch.includeDisabled :: after, later.get o.settings = later.get {} := by
  intro o e
  have failed : o.error = some e := by decide
  obtain ⟨-, -, first, -, whole⟩ := overrides_until_unreadable {} unsure
  obtain ⟨before, switch, after, raw, split, -, -, -, same, follows, others⟩ := first e failed
  obtain rfl : switch = .includeDisabled := by
    have key := (Error.invalidVariable.inj same).1
    cases switch with
    | includeDisabled => rfl
    | _ => exact absurd key (by decide)
  exact ⟨failed, by decide, (whole e).mpr failed, before, after, split, follows, others⟩

/-- Overriding is not all or nothing: where it ends with an error it may have changed the
settings. -/
theorem not_overrides_all_or_nothing :
    ¬ ∀ (s : Settings) (lookup : String → Option String) (e : Error),
      (s.override lookup).error = some e → (s.override lookup).settings = s := by
  intro unchanged
  have failed : (({} : Settings).override unsure).error =
      some (.invalidVariable "SCHEMAFORM_INCLUDE_DISABLED" "sometimes") := by
    decide
  have same := unchanged {} unsure _ failed
  exact absurd same (by decide)

end LiveForm.Settings
