import LiveForm.Proofs.Schema.Cycle
import Mathlib.Data.List.Nodup
import Mathlib.Order.Bounds.Basic

/-!
# The first cycle

`Schema.cycle?` is told here without the search. Going from a name to its parent step by step, one
comes back to the name when it is on a cycle, and comes to a name on a cycle when the chain of
parents does not end. The cycle that is found is the one that the chain of the earliest field comes
to whose chain does so; it begins with the first of its names on that chain, so the names that only
lead to it are left out, and it goes round once.

The search without a bound comes to one end only, which is that of the bounded one.
-/

namespace LiveForm.Schema

/-- The name that so many steps from a name to its parent lead to. -/
def ancestor? (s : Schema) : (steps : Nat) → String → Option String
  | 0, name => some name
  | steps + 1, name => (s.ancestor? steps name).bind s.parent?

/-- One comes back to the name by going from parent to parent. -/
def OnCycle (s : Schema) (name : String) : Prop :=
  ∃ steps, 1 ≤ steps ∧ s.ancestor? steps name = some name

/-- The chain of parents of a name comes to a name on a cycle. -/
def MeetsCycle (s : Schema) (name : String) : Prop :=
  ∃ steps, ∃ n ∈ s.ancestor? steps name, s.OnCycle n

/-- The name on a cycle that the chains of the fields come to first: of the earliest field whose
chain comes to a cycle, after the fewest steps. -/
def FirstMet (s : Schema) (start : String) : Prop :=
  ∃ (place steps : Nat) (name : String),
    s.names[place]? = some name ∧ IsLeast {p : Nat | ∃ n ∈ s.names[p]?, s.MeetsCycle n} place ∧
    s.ancestor? steps name = some start ∧
      IsLeast {k : Nat | ∃ n ∈ s.ancestor? k name, s.OnCycle n} steps

/-- The way round from a name: different fields, each followed by its parent, and the name again
behind the last one. -/
structure Loop (s : Schema) (start : String) (inner : List String) : Prop where
  distinct : (start :: inner).Nodup
  chain : (start :: (inner ++ [start])).IsChain s.Link
  fields : ∀ name ∈ start :: inner, name ∈ s.names

variable {s : Schema} {name parent start : String} {path cleared inner : List String}
  {found : ChainEnd}

section Ancestors

/-- The parent of a name is told by the last of its declarations that tells one. -/
theorem parent?_eq_some_iff : s.parent? name = some parent ↔
    ∃ before field after, s.fields = before ++ field :: after ∧ field.name = name ∧
      field.dependsOn = some parent ∧ ∀ f ∈ after, f.name = name → f.dependsOn = none := by
  simp only [parent?, List.findSome?_eq_some_iff, Option.ite_none_right_eq_some, ite_eq_right_iff]
  constructor
  · rintro ⟨after, field, before, split, ⟨same, depends⟩, silent⟩
    refine ⟨before.reverse, field, after.reverse, ?_, same, depends, ?_⟩
    · rw [List.reverse_eq_iff] at split
      simpa using split
    · simpa using silent
  · rintro ⟨before, field, after, split, same, depends, silent⟩
    exact ⟨after.reverse, field, before.reverse, by simp [split], ⟨same, depends⟩,
      by simpa using silent⟩

theorem reflTransGen_link_iff {ancestor : String} :
    Relation.ReflTransGen s.Link name ancestor ↔
      ∃ steps, s.ancestor? steps name = some ancestor := by
  constructor
  · intro reaches
    induction reaches with
    | refl => exact ⟨0, rfl⟩
    | tail _ link ih =>
      obtain ⟨steps, found⟩ := ih
      exact ⟨steps + 1, by rw [ancestor?, found]; exact link⟩
  · rintro ⟨steps, found⟩
    induction steps generalizing ancestor with
    | zero =>
      obtain rfl := Option.some.inj found
      exact .refl
    | succ steps ih =>
      obtain ⟨n, before, link⟩ := Option.bind_eq_some_iff.mp found
      exact (ih before).tail link

theorem onCycle_iff_transGen : s.OnCycle name ↔ Relation.TransGen s.Link name name := by
  rw [Relation.TransGen.tail'_iff]
  constructor
  · rintro ⟨steps, positive, found⟩
    obtain ⟨steps, rfl⟩ := Nat.exists_eq_add_one.mpr positive
    obtain ⟨n, before, link⟩ := Option.bind_eq_some_iff.mp found
    exact ⟨n, reflTransGen_link_iff.mpr ⟨steps, before⟩, link⟩
  · rintro ⟨n, reaches, link⟩
    obtain ⟨steps, found⟩ := reflTransGen_link_iff.mp reaches
    exact ⟨steps + 1, Nat.le_add_left 1 steps, by rw [ancestor?, found]; exact link⟩

theorem meetsCycle_iff :
    s.MeetsCycle name ↔ ∃ n, Relation.ReflTransGen s.Link name n ∧ s.OnCycle n := by
  simp only [MeetsCycle, reflTransGen_link_iff, Option.mem_def]
  exact ⟨fun ⟨steps, n, found, around⟩ => ⟨n, ⟨steps, found⟩, around⟩,
    fun ⟨n, ⟨steps, found⟩, around⟩ => ⟨steps, n, found, around⟩⟩

/-- A dangling parent is on no cycle. -/
theorem OnCycle.mem_names (around : s.OnCycle name) : name ∈ s.names := by
  obtain ⟨_, link, -⟩ := Relation.TransGen.head'_iff.mp (onCycle_iff_transGen.mp around)
  exact link.mem_names

/-- One can only go on from a name on a cycle to names from which one comes back. -/
theorem OnCycle.transGen_of_reaches {n : String} (around : s.OnCycle name)
    (reaches : Relation.ReflTransGen s.Link name n) : Relation.TransGen s.Link n name := by
  have round := onCycle_iff_transGen.mp around
  induction reaches with
  | refl => exact round
  | tail _ link ih =>
    obtain ⟨next, other, back⟩ := Relation.TransGen.head'_iff.mp ih
    obtain rfl := Option.some.inj (link.symm.trans other)
    rcases Relation.reflTransGen_iff_eq_or_transGen.mp back with rfl | back
    · exact round
    · exact back

theorem link_rightUnique : Relator.RightUnique s.Link :=
  fun _ _ _ first second => Option.some.inj (first.symm.trans second)

theorem Ends.not_meetsCycle (ends : s.Ends name) : ¬ s.MeetsCycle name := by
  rw [meetsCycle_iff]
  rintro ⟨n, reaches, around⟩
  induction reaches using Relation.ReflTransGen.head_induction_on with
  | refl => exact ends.not_transGen (onCycle_iff_transGen.mp around)
  | head link _ ih =>
    cases ends with
    | last orphan => exact Option.some_ne_none _ (link.symm.trans orphan)
    | next other ends =>
      obtain rfl := Option.some.inj (link.symm.trans other)
      exact ih ends

/-- Along a chain of parents stand the ancestors of the first name. -/
theorem ancestor?_of_isChain {names : List String} (chain : (name :: names).IsChain s.Link)
    {steps : Nat} {n : String} (there : (name :: names)[steps]? = some n) :
    s.ancestor? steps name = some n := by
  induction steps generalizing n with
  | zero => exact there
  | succ steps ih =>
    obtain ⟨inside, rfl⟩ := List.getElem?_eq_some_iff.mp there
    have before := ih (List.getElem?_eq_getElem (Nat.lt_of_succ_lt inside))
    rw [ancestor?, before]
    exact List.isChain_iff_getElem.mp chain steps inside

end Ancestors

section Loops

/-- One cannot leave the way round. -/
theorem Loop.mem_of_reaches {n : String} (loop : s.Loop start inner)
    (reaches : Relation.ReflTransGen s.Link start n) : n ∈ start :: inner := by
  induction reaches with
  | refl => exact List.mem_cons_self
  | @tail m n _ link ih =>
    obtain ⟨front, back, split⟩ := List.append_of_mem ih
    have chain : (front ++ m :: (back ++ [start])).IsChain s.Link := by
      have chain := loop.chain
      rwa [← List.cons_append, split, List.append_assoc] at chain
    obtain ⟨next, rest, tail⟩ := List.exists_cons_of_ne_nil (List.concat_ne_nil start back)
    rw [tail] at chain
    obtain rfl := Option.some.inj (link.symm.trans (List.isChain_append_cons_cons.mp chain).2.1)
    have member : n ∈ back ++ [start] := tail ▸ List.mem_cons_self
    rcases List.mem_append.mp member with member | same
    · rw [split]
      exact List.mem_append_right _ (List.mem_cons_of_mem m member)
    · exact List.mem_singleton.mp same ▸ List.mem_cons_self

theorem Loop.onCycle (loop : s.Loop start inner) : s.OnCycle start := by
  refine ⟨inner.length + 1, Nat.le_add_left 1 _, ancestor?_of_isChain loop.chain ?_⟩
  simp

/-- Whatever else on a cycle the chain of a name comes to is on the same way round. -/
theorem Loop.mem_of_onCycle {n : String} (loop : s.Loop start inner)
    (reaches : Relation.ReflTransGen s.Link name start)
    (reaches' : Relation.ReflTransGen s.Link name n) (around : s.OnCycle n) :
    n ∈ start :: inner := by
  refine loop.mem_of_reaches ?_
  rcases Relation.ReflTransGen.total_of_right_unique link_rightUnique reaches reaches'
    with behind | ahead
  · exact behind
  · exact (around.transGen_of_reaches ahead).to_reflTransGen

/-- There is one way from a name to another one that does not pass it before. -/
theorem eq_of_isChain_link {other : List String}
    (chain : (name :: (inner ++ [start])).IsChain s.Link)
    (chain' : (name :: (other ++ [start])).IsChain s.Link) (fresh : start ∉ inner)
    (fresh' : start ∉ other) : inner = other := by
  induction inner generalizing name other with
  | nil =>
    obtain ⟨link, -⟩ := List.isChain_cons_cons.mp chain
    cases other with
    | nil => rfl
    | cons n rest =>
      obtain ⟨link', -⟩ := List.isChain_cons_cons.mp chain'
      obtain rfl := Option.some.inj (link.symm.trans link')
      exact absurd List.mem_cons_self fresh'
  | cons n rest ih =>
    obtain ⟨link, chain⟩ := List.isChain_cons_cons.mp chain
    cases other with
    | nil =>
      obtain ⟨link', -⟩ := List.isChain_cons_cons.mp chain'
      obtain rfl := Option.some.inj (link.symm.trans link')
      exact absurd List.mem_cons_self fresh
    | cons n' rest' =>
      obtain ⟨link', chain'⟩ := List.isChain_cons_cons.mp chain'
      obtain rfl := Option.some.inj (link.symm.trans link')
      rw [ih chain chain' (mt (List.mem_cons_of_mem n) fresh) (mt (List.mem_cons_of_mem n) fresh')]

/-- There is one way round from a name. -/
theorem Loop.unique {other : List String} (loop : s.Loop start inner)
    (loop' : s.Loop start other) : inner = other :=
  eq_of_isChain_link loop.chain loop'.chain (List.nodup_cons.mp loop.distinct).1
    (List.nodup_cons.mp loop'.distinct).1

theorem FirstMet.unique {other : String} (first : s.FirstMet start) (first' : s.FirstMet other) :
    start = other := by
  obtain ⟨place, steps, name, here, earliest, found, least⟩ := first
  obtain ⟨place', steps', name', here', earliest', found', least'⟩ := first'
  obtain rfl := earliest.unique earliest'
  obtain rfl := Option.some.inj (here.symm.trans here')
  obtain rfl := least.unique least'
  exact Option.some.inj (found.symm.trans found')

end Loops

section Search

/-- When a walk comes back to a name that it has passed, the part since then is the way round. -/
theorem Walk.exists_loop (walk : s.Walk path name) (again : name ∈ path) :
    ∃ since lead, path = since ++ name :: lead ∧ path.takeWhile (· ≠ name) = since ∧
      s.Loop name since.reverse := by
  obtain ⟨since, lead, rfl, taken, round⟩ := walk.exists_round again
  obtain ⟨distinct, -, apart⟩ := List.nodup_append.mp walk.distinct
  refine ⟨since, lead, rfl, taken, List.nodup_cons.mpr ⟨?_, List.nodup_reverse.mpr distinct⟩,
    round, ?_⟩
  · intro member
    exact apart name (List.mem_reverse.mp member) name List.mem_cons_self rfl
  · intro n member
    have passed : n ∈ since ++ name :: lead := by
      rw [List.mem_append, List.mem_cons, ← List.mem_reverse]
      rcases List.mem_cons.mp member with same | member
      · exact .inr (.inl same)
      · exact .inl member
    obtain ⟨_, link⟩ := walk.exists_link n passed
    exact link.mem_names

/-- The cycle that a chain closes begins with the first of its names on the chain. -/
theorem Follows.exists_loop {cycle : List String}
    (follows : s.Follows cleared [] name (.closes cycle)) :
    ∃ start inner steps, cycle = start :: (inner ++ [start]) ∧ s.Loop start inner ∧
      s.ancestor? steps name = some start ∧
      IsLeast {k : Nat | ∃ n ∈ s.ancestor? k name, s.OnCycle n} steps := by
  obtain ⟨passed, start, walk, again, ⟨ahead, begins⟩, rfl⟩ :=
    follows.exists_walk rfl (Walk.start s name)
  obtain ⟨since, lead, rfl, taken, loop⟩ := walk.exists_loop again
  -- The way from the name to the cycle, and once round.
  have way : lead.reverse ++ start :: (since.reverse ++ [start]) = name :: ahead.reverse := by
    have way := congrArg List.reverse begins
    simpa using way.symm
  have chain : (name :: ahead.reverse).IsChain s.Link := by
    have chain := List.isChain_reverse.mpr walk.chain
    simpa [← way] using chain
  have reached : s.ancestor? lead.length name = some start := by
    refine ancestor?_of_isChain chain ?_
    rw [← way, List.getElem?_append_right (by simp)]
    simp
  refine ⟨start, since.reverse, lead.length, by rw [taken]; rfl, loop, reached,
    ⟨start, reached, loop.onCycle⟩, ?_⟩
  -- A name on a cycle before would be passed twice, on the way to the cycle and once round.
  rintro k ⟨n, found, around⟩
  by_contra early
  have inside : k < lead.reverse.length := by
    rw [List.length_reverse]
    omega
  have passed : n ∈ lead := by
    have there : (name :: ahead.reverse)[k]? = some lead.reverse[k] := by
      rw [← way, List.getElem?_append_left inside, List.getElem?_eq_getElem inside]
    obtain rfl := Option.some.inj (found.symm.trans (ancestor?_of_isChain chain there))
    exact List.mem_reverse.mp (List.getElem_mem inside)
  have again := loop.mem_of_onCycle (reflTransGen_link_iff.mpr ⟨_, reached⟩)
    (reflTransGen_link_iff.mpr ⟨_, found⟩) around
  obtain ⟨-, rest, apart⟩ := List.nodup_append.mp walk.distinct
  rcases List.mem_cons.mp again with rfl | member
  · exact (List.nodup_cons.mp rest).1 passed
  · exact apart n (List.mem_reverse.mp member) n (List.mem_cons_of_mem start passed) rfl

/-- When the chains of the earlier names end, the search among the others finds the cycle that is
met first. -/
theorem exists_loop_of_searchCycle? {before rest cycle : List String}
    (names : s.names = before ++ rest) (passed : ∀ n ∈ before, s.Ends n)
    (clear : ∀ n ∈ cleared, s.Ends n) (found : s.searchCycle? cleared rest = some cycle) :
    ∃ start inner, cycle = start :: (inner ++ [start]) ∧ s.FirstMet start ∧ s.Loop start inner := by
  induction rest generalizing before cleared with
  | nil => cases found
  | cons name rest ih =>
    have chain := s.follows_chainFrom cleared name
    rw [searchCycle?] at found
    cases comes : s.chainFrom cleared name with
    | closes closed =>
      rw [comes] at found chain
      obtain rfl := Option.some.inj found
      obtain ⟨start, inner, steps, shape, loop, reached, least⟩ := chain.exists_loop
      have here : s.names[before.length]? = some name := by simp [names]
      have meets : s.MeetsCycle name := ⟨steps, start, reached, loop.onCycle⟩
      refine ⟨start, inner, shape, ⟨before.length, steps, name, here, ⟨⟨name, here, meets⟩, ?_⟩,
        reached, least⟩, loop⟩
      rintro p ⟨n, there, around⟩
      by_contra early
      rw [names, List.getElem?_append_left (Nat.lt_of_not_le early)] at there
      exact (passed n (List.mem_of_getElem? there)).not_meetsCycle around
    | clears path =>
      rw [comes] at found
      obtain ⟨ends, others⟩ := chain.ends comes clear
      have passed' : ∀ n ∈ before ++ [name], s.Ends n :=
        List.forall_mem_append.mpr ⟨passed, List.forall_mem_singleton.mpr ends⟩
      refine ih (by rw [names, List.append_assoc]; rfl) passed' ?_ found
      refine List.forall_mem_append.mpr ⟨?_, clear⟩
      intro n member
      exact (others n member).resolve_left List.not_mem_nil

end Search

/-- The search comes to an end, though nothing bounds its steps. It finds nothing exactly when no
name is an ancestor of itself, which no name that is not declared can be. Otherwise it gives the
cycle that is met first, once round: different fields, each followed by its parent, between two
times the name at which the chain of the earliest field that comes to a cycle comes to it. -/
theorem cycle?_eq_first (s : Schema) :
    (∀ found, s.Searches [] s.names found ↔ s.cycle? = found) ∧
      (∀ name parent, s.parent? name = some parent ↔
        ∃ before field after, s.fields = before ++ field :: after ∧ field.name = name ∧
          field.dependsOn = some parent ∧ ∀ f ∈ after, f.name = name → f.dependsOn = none) ∧
      (s.cycle? = none ↔ ∀ name, ¬ s.OnCycle name) ∧
      (∀ name, s.OnCycle name → name ∈ s.names) ∧
      ∀ cycle, s.cycle? = some cycle ↔
        ∃ start inner, cycle = start :: (inner ++ [start]) ∧ s.FirstMet start ∧
          s.Loop start inner := by
  have finds : ∀ cycle, s.cycle? = some cycle → ∃ start inner,
      cycle = start :: (inner ++ [start]) ∧ s.FirstMet start ∧ s.Loop start inner :=
    fun cycle found =>
      exists_loop_of_searchCycle? (List.nil_append s.names).symm (by simp) (by simp) found
  have none_iff : s.cycle? = none ↔ ∀ name, ¬ s.OnCycle name := by
    rw [← not_iff_not, ← Ne, Option.ne_none_iff_isSome, cycle?_isSome_iff]
    simp [onCycle_iff_transGen]
  refine ⟨fun found => ⟨?_, ?_⟩, fun _ _ => parent?_eq_some_iff, none_iff,
    fun _ => OnCycle.mem_names, fun cycle => ⟨finds cycle, ?_⟩⟩
  · exact (searches_searchCycle? s [] s.names).unique
  · rintro rfl
    exact searches_searchCycle? s [] s.names
  · rintro ⟨start, inner, rfl, first, loop⟩
    cases found : s.cycle? with
    | none => exact absurd loop.onCycle (none_iff.mp found start)
    | some cycle =>
      obtain ⟨start', inner', rfl, first', loop'⟩ := finds cycle found
      obtain rfl := first.unique first'
      rw [loop.unique loop']

def roundabout : Schema where
  fields := [
    { label := "Lane", name := "lane", type := .text, dependsOn := some "field" },
    { label := "Road", name := "road", type := .text, dependsOn := some "left" },
    { label := "Right", name := "right", type := .text, dependsOn := some "left" },
    { label := "Left", name := "left", type := .text, dependsOn := some "right" }]

/-- The road enters on the left, so the cycle begins there. -/
theorem cycle?_eq_first_roundabout :
    roundabout.cycle? = some ["left", "right", "left"] ∧ roundabout.FirstMet "left" ∧
      roundabout.Loop "left" ["right"] ∧ roundabout.OnCycle "left" ∧
      "left" ∈ roundabout.names := by
  have found : roundabout.cycle? = some ["left", "right", "left"] := by decide
  obtain ⟨-, -, -, declared, first⟩ := cycle?_eq_first roundabout
  obtain ⟨start, inner, shape, met, loop⟩ := (first _).mp found
  obtain ⟨rfl, rest⟩ := List.cons.inj shape
  obtain rfl : ["right"] = inner := List.append_cancel_right rest
  exact ⟨found, met, loop, loop.onCycle, declared "left" loop.onCycle⟩

end LiveForm.Schema
