import LiveForm.Schema.Codec
import Mathlib.Data.List.Nodup

/-!
# Records that are written as objects

What is read from an object depends on the entries under each key. `Attribute.ReadsAs` is what the
entries of an object have to do with one attribute: none of the entries under its key is at fault,
and the first of them reads as the value, which is the default where there is no entry. A record is
read from an object exactly when every attribute of it reads as some value, whatever the order of
the entries.
-/

namespace LiveForm

namespace Json

namespace Entries

def keys (entries : Entries) : List String := entries.map Prod.fst

variable {entries entries' : Entries} {key : String}

theorem mem_of_get?_eq_some {value : Json} (found : entries.get? key = some value) :
    (key, value) ∈ entries := by
  obtain ⟨e, first, rfl⟩ := Option.map_eq_some_iff.mp found
  have here := List.find?_some first
  obtain rfl := of_decide_eq_true here
  exact List.mem_of_find?_eq_some first

theorem get?_eq_none_iff : entries.get? key = none ↔ ∀ value, (key, value) ∉ entries := by
  rw [get?, Option.map_eq_none_iff, List.find?_eq_none]
  constructor
  · intro none value member
    exact none _ member (decide_eq_true rfl)
  · rintro none ⟨key', value⟩ member here
    obtain rfl := of_decide_eq_true here
    exact none value member

theorem get?_append (before after : Entries) (key : String) :
    get? (before ++ after) key = (get? before key).or (get? after key) := by
  rw [get?, List.find?_append, Option.map_or]
  rfl

/-- With distinct keys an entry is found by its key. -/
theorem get?_eq_some_iff (distinct : entries.keys.Nodup) {value : Json} :
    entries.get? key = some value ↔ (key, value) ∈ entries := by
  refine ⟨mem_of_get?_eq_some, fun member => ?_⟩
  cases found : entries.get? key with
  | none => exact absurd member (get?_eq_none_iff.mp found value)
  | some other =>
    have same := List.inj_on_of_nodup_map distinct (mem_of_get?_eq_some found) member rfl
    exact congrArg (some ∘ Prod.snd) same

theorem foldl_insert_eq_append {entries items : Entries}
    (distinct : (entries ++ items).keys.Nodup) :
    items.foldl (fun entries e => entries.insert e.1 e.2) entries = entries ++ items := by
  induction items generalizing entries with
  | nil => exact (List.append_nil entries).symm
  | cons e rest ih =>
    have fresh : ¬ entries.any (fun other => other.1 = e.1) = true := by
      simp only [List.any_eq_true, decide_eq_true_eq, not_exists, not_and]
      intro other member same
      rw [keys, List.map_append, List.map_cons, List.nodup_append] at distinct
      exact distinct.2.2 _ (List.mem_map_of_mem member) _ List.mem_cons_self same
    have inserted : entries.insert e.1 e.2 = entries ++ [e] := by rw [insert, if_neg fresh]
    rw [List.foldl_cons, inserted, ih (by rwa [List.append_assoc]), List.append_assoc]
    rfl

/-- Nothing is lost where the keys are distinct. -/
theorem collect_eq_self {items : Entries} (distinct : items.keys.Nodup) : collect items = items :=
  foldl_insert_eq_append distinct

theorem collect_perm (distinct : entries.keys.Nodup) (perm : entries.Perm entries') :
    (collect entries).Perm (collect entries') := by
  have distinct' : entries'.keys.Nodup := (perm.map Prod.fst).nodup_iff.mp distinct
  rwa [collect_eq_self distinct, collect_eq_self distinct']

/-- With distinct keys the order of the entries does not matter. -/
theorem get?_perm (distinct : entries.keys.Nodup) (perm : entries.Perm entries') (key : String) :
    entries.get? key = entries'.get? key := by
  have distinct' : entries'.keys.Nodup := (perm.map Prod.fst).nodup_iff.mp distinct
  ext value
  rw [get?_eq_some_iff distinct, get?_eq_some_iff distinct', perm.mem_iff]

end Entries

/-- An entry of an attribute that is written when there is something to write. -/
@[simp] theorem mem_optionalEntry {α : Type} {key : String} {write : α → Json} {a? : Option α}
    {e : String × Json} :
    e ∈ optionalEntry key write a? ↔ ∃ a, a? = some a ∧ (key, write a) = e := by
  cases a? with
  | none => simp [optionalEntry]
  | some a => simp [optionalEntry, eq_comm]

end Json

@[simp] theorem Decoder.count_ofNat (n : Nat) : Decoder.count (.ofNat n) = .ok n := by
  simp [Decoder.count, Json.ofNat]

/-- A list of written items is read item by item. -/
theorem Decoder.list_map {α β : Type} {item : Decoder α} {write : β → Json} {back : β → α}
    (reads : ∀ b, item (write b) = .ok (back b)) (items : List β) :
    Decoder.list item (.array (items.map write)) = .ok (items.map back) := by
  show (items.map write).mapM item = _
  induction items with
  | nil => rfl
  | cons b rest ih =>
    rw [List.map_cons, List.mapM_cons, reads, ih]
    rfl

theorem Decoder.list_map_same {α : Type} {item : Decoder α} {write : α → Json}
    (reads : ∀ a, item (write a) = .ok a) (items : List α) :
    Decoder.list item (.array (items.map write)) = .ok items := by
  simpa using Decoder.list_map (show ∀ a, item (write a) = .ok (id a) from reads) items

theorem Decoder.list_ofStrings (texts : List String) :
    Decoder.list .string (.ofStrings texts) = .ok texts :=
  list_map_same (show ∀ s, Decoder.string (.string s) = .ok s from fun _ => rfl) texts

/-- What an attribute finds in the entries of an object: what the first of its entries reads as, or
the default where there is none. -/
def Attribute.found? {α : Type} (a : Attribute α) (entries : Json.Entries) : Option α :=
  (entries.get? a.key).elim a.absent fun value => (a.read value).toOption

/-- In the entries of an object an attribute reads as a value: none of its entries is at fault, and
the value is what it finds there. -/
structure Attribute.ReadsAs {α : Type} (a : Attribute α) (entries : Json.Entries) (x : α) :
    Prop where
  sound : ∀ value, (a.key, value) ∈ entries → a.fault? value = none
  found : a.found? entries = some x

namespace Attribute

variable {α β : Type} {a : Attribute α} {entries : Json.Entries} {x : α}

theorem fault?_eq_none_iff {value : Json} :
    a.fault? value = none ↔ (a.read value).toOption.isSome = true := by
  rw [fault?]
  cases a.read value <;> simp [Except.toOption]

namespace ReadsAs

/-- Every entry of the attribute reads as the value, which is the default where there is none. -/
theorem of_forall (read_eq : ∀ value, (a.key, value) ∈ entries → a.read value = .ok x)
    (absent_eq : (∀ value, (a.key, value) ∉ entries) → a.absent = some x) :
    a.ReadsAs entries x where
  sound value member := by rw [fault?, read_eq value member]
  found := by
    rw [found?]
    cases found : entries.get? a.key with
    | none => exact absent_eq (Json.Entries.get?_eq_none_iff.mp found)
    | some value =>
      rw [Option.elim_some, read_eq value (Json.Entries.mem_of_get?_eq_some found)]
      rfl

theorem of_given {key : String} {read : Decoder α} {absent beyond : Option α} (written : Json)
    (given : ∀ value, (key, value) ∈ entries ↔ value = written) (reads : read written = .ok x) :
    (Attribute.mk key read absent beyond).ReadsAs entries x := by
  refine of_forall ?_ ?_
  · intro value member
    exact (given value).mp member ▸ reads
  · intro none
    exact absurd ((given written).mpr rfl) (none written)

/-- An attribute that is written when there is something to write, and may read as something
else. -/
theorem of_optional {key : String} {read : Decoder α} {back : β → Option α} (write : β → Json)
    (b? : Option β)
    (given : ∀ value, (key, value) ∈ entries ↔ ∃ b, b? = some b ∧ write b = value)
    (reads : ∀ b, Decoder.optional read (write b) = .ok (back b)) :
    (Attribute.optional key read).ReadsAs entries (b?.bind back) := by
  refine of_forall ?_ ?_
  · intro value member
    obtain ⟨b, rfl, rfl⟩ := (given value).mp member
    exact reads b
  · intro none
    cases b? with
    | none => rfl
    | some b => exact absurd ((given (write b)).mpr ⟨b, rfl, rfl⟩) (none (write b))

theorem of_optional_same {key : String} {read : Decoder α} (write : α → Json) (a? : Option α)
    (given : ∀ value, (key, value) ∈ entries ↔ ∃ a, a? = some a ∧ write a = value)
    (reads : ∀ a, Decoder.optional read (write a) = .ok (some a)) :
    (Attribute.optional key read).ReadsAs entries a? := by
  simpa using of_optional write a? given reads

/-- Where an array may end does not matter to the entries of an object. -/
theorem of_nullable_same {key : String} {read : Decoder α} (write : α → Json) (a? : Option α)
    (given : ∀ value, (key, value) ∈ entries ↔ ∃ a, a? = some a ∧ write a = value)
    (reads : ∀ a, Decoder.optional read (write a) = .ok (some a)) :
    (Attribute.nullable key read).ReadsAs entries a? :=
  have read := of_optional_same write a? given reads
  ⟨read.sound, read.found⟩

/-- A list that is written unless it is empty, and is empty where it is not written. -/
theorem of_unless_empty {key : String} {read : Decoder (List α)} {beyond : Option (List α)}
    (items : List α) (written : Json)
    (given : ∀ value, (key, value) ∈ entries ↔ items ≠ [] ∧ value = written)
    (reads : read written = .ok items) :
    (Attribute.mk key read (some []) beyond).ReadsAs entries items := by
  refine of_forall ?_ ?_
  · intro value member
    obtain ⟨-, rfl⟩ := (given value).mp member
    exact reads
  · intro none
    by_cases empty : items = []
    · rw [empty]
    · exact absurd ((given written).mpr ⟨empty, rfl⟩) (none written)

end ReadsAs

end Attribute

namespace Record

variable {name : String} {checks : List (String × (Json → Option Fault))} {entries : Json.Entries}

/-- Each key is checked once, so the entries are sound when every check finds its own ones so. -/
theorem firstFault?_eq_none_iff (distinct : (checks.map Prod.fst).Nodup) :
    firstFault? checks entries = none ↔
      ∀ check ∈ checks, ∀ value, (check.1, value) ∈ entries → check.2 value = none := by
  rw [firstFault?, List.findSome?_eq_none_iff]
  constructor
  · intro sound check member value given
    have here := sound _ given
    cases found : checks.find? fun other => other.1 = check.1 with
    | none => exact absurd (decide_eq_true rfl) (List.find?_eq_none.mp found check member)
    | some other =>
      have same := List.find?_some found
      obtain rfl := List.inj_on_of_nodup_map distinct (List.mem_of_find?_eq_some found) member
        (of_decide_eq_true same)
      simpa [found] using here
  · rintro sound ⟨key, value⟩ given
    dsimp only
    split
    case h_1 check found =>
      have here := List.find?_some found
      obtain rfl := of_decide_eq_true here
      exact sound check (List.mem_of_find?_eq_some found) value given
    case h_2 => rfl

variable {α β : Type} {b : β}

/-- An object is taken as a record when none of its entries is at fault. -/
theorem enter_bind_eq_ok_iff {next : Record → Except Fault β}
    (distinct : (checks.map Prod.fst).Nodup) :
    enter name checks (.object entries) >>= next = .ok b ↔
      (∀ check ∈ checks, ∀ value, (check.1, value) ∈ entries → check.2 value = none) ∧
        next ⟨name, checks.length, .entries entries⟩ = .ok b := by
  rw [← firstFault?_eq_none_iff distinct, enter]
  cases firstFault? checks entries <;> simp [bind, Except.bind]

/-- An attribute is taken from the entries as what it finds there. -/
theorem take_bind_eq_ok_iff {a : Attribute α} {size place : Nat} {next : α → Except Fault β} :
    take ⟨name, size, .entries entries⟩ place a >>= next = .ok b ↔
      ∃ x, a.found? entries = some x ∧ next x = .ok b := by
  unfold take Attribute.found?
  dsimp only
  cases entries.get? a.key with
  | none => cases a.absent <;> simp [bind, Except.bind]
  | some value =>
    dsimp only [Option.elim_some]
    cases a.read value <;> simp [bind, Except.bind, Except.toOption]

theorem finish_bind {next : Unit → Except Fault β} {size : Nat} :
    finish ⟨name, size, .entries entries⟩ >>= next = next () := rfl

end Record

end LiveForm
