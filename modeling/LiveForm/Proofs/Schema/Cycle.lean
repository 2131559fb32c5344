import LiveForm.Schema.Cycle
import Mathlib.Data.List.Chain
import Mathlib.Data.List.Perm.Subperm
import Mathlib.Logic.Relation

/-!
# Cycles of parents

Following the parents of a name takes one path, which either ends or comes back to a name that it
has passed. `Walk` says what is known on the way: the names passed are different and each is
followed by its parent, so all of them are fields and the bound on the steps is never used up.
`Follows` and `Searches` tell the search with no bound at all; the bounded search is one of them,
and what is said of the search is said by induction over them. The names that are cleared have
chains that end, which is why a later chain may stop at them. The search therefore finds a cycle
exactly when there is one.
-/

namespace LiveForm.Schema

def Link (s : Schema) (name parent : String) : Prop := s.parent? name = some parent

/-- The chain of parents of a name ends. -/
inductive Ends (s : Schema) : String → Prop
  | last {name : String} (orphan : s.parent? name = none) : Ends s name
  | next {name parent : String} (link : s.Link name parent) (ends : Ends s parent) : Ends s name

/-- Names along which each is followed by its parent, and the first comes back at the end. -/
def IsCycle (s : Schema) (names : List String) : Prop :=
  ∃ name inner, names = name :: (inner ++ [name]) ∧ names.IsChain s.Link

/-- The way to a name: the names that were passed, the latest first. -/
structure Walk (s : Schema) (path : List String) (name : String) : Prop where
  distinct : path.Nodup
  chain : (name :: path).IsChain fun later earlier => s.Link earlier later

/-- Following the chain of parents from a name, having passed the names of `path`, with no bound on
the steps. -/
inductive Follows (s : Schema) (cleared : List String) :
    (path : List String) → String → ChainEnd → Prop
  | known {path : List String} {name : String} (before : name ∈ cleared) :
      Follows s cleared path name (.clears path)
  | back {path : List String} {name : String} (new : name ∉ cleared) (passed : name ∈ path) :
      Follows s cleared path name (.closes (name :: (path.takeWhile (· ≠ name)).reverse ++ [name]))
  | last {path : List String} {name : String} (new : name ∉ cleared) (fresh : name ∉ path)
      (orphan : s.parent? name = none) : Follows s cleared path name (.clears (name :: path))
  | next {path : List String} {name parent : String} {found : ChainEnd} (new : name ∉ cleared)
      (fresh : name ∉ path) (link : s.Link name parent)
      (rest : Follows s cleared (name :: path) parent found) : Follows s cleared path name found

/-- Following the chains of some names one after another, until one closes. -/
inductive Searches (s : Schema) :
    (cleared : List String) → List String → Option (List String) → Prop
  | done {cleared : List String} : Searches s cleared [] none
  | closes {cleared rest cycle : List String} {name : String}
      (chain : s.Follows cleared [] name (.closes cycle)) :
      Searches s cleared (name :: rest) (some cycle)
  | clears {cleared rest path : List String} {name : String} {found : Option (List String)}
      (chain : s.Follows cleared [] name (.clears path))
      (others : Searches s (path ++ cleared) rest found) : Searches s cleared (name :: rest) found

variable {s : Schema} {name parent : String} {path cleared : List String} {found : ChainEnd}

theorem Link.mem_names (link : s.Link name parent) : name ∈ s.names := by
  obtain ⟨field, member, found⟩ := List.exists_of_findSome?_eq_some link
  split at found
  case isTrue same => exact List.mem_map.mpr ⟨field, List.mem_reverse.mp member, same⟩
  case isFalse => simp at found

namespace Walk

theorem start (s : Schema) (name : String) : s.Walk [] name := ⟨List.nodup_nil, .singleton name⟩

theorem step (walk : s.Walk path name) (fresh : name ∉ path) (link : s.Link name parent) :
    s.Walk (name :: path) parent :=
  ⟨List.nodup_cons.mpr ⟨fresh, walk.distinct⟩, List.isChain_cons_cons.mpr ⟨link, walk.chain⟩⟩

theorem exists_link (walk : s.Walk path name) : ∀ n ∈ path, ∃ parent, s.Link n parent := by
  obtain ⟨-, chain⟩ := walk
  induction path generalizing name with
  | nil => simp
  | cons n rest ih =>
    obtain ⟨link, chain⟩ := List.isChain_cons_cons.mp chain
    exact List.forall_mem_cons.mpr ⟨⟨name, link⟩, ih chain⟩

/-- No walk is longer than the list of fields. -/
theorem length_le (walk : s.Walk path name) : path.length ≤ s.fields.length := by
  have inside : path ⊆ s.names := fun n member =>
    have ⟨_, link⟩ := walk.exists_link n member
    link.mem_names
  have shorter := (List.subperm_of_subset walk.distinct inside).length_le
  rwa [names, List.length_map] at shorter

/-- When the walk comes back to a name that it has passed, the part since then leads round. -/
theorem exists_round (walk : s.Walk path name) (passed : name ∈ path) :
    ∃ since before, path = since ++ name :: before ∧ path.takeWhile (· ≠ name) = since ∧
      (name :: (since.reverse ++ [name])).IsChain s.Link := by
  obtain ⟨since, before, rfl, fresh⟩ := List.eq_append_cons_of_mem passed
  refine ⟨since, before, rfl, ?_, ?_⟩
  · rw [List.takeWhile_append_of_pos, List.takeWhile_cons_of_neg, List.append_nil]
    · simp
    · intro n member
      exact decide_eq_true fun same : n = name => fresh (same ▸ member)
  · have loop : (name :: (since ++ [name])).IsChain fun later earlier => s.Link earlier later := by
      refine walk.chain.prefix ⟨before, ?_⟩
      simp
    rw [← List.isChain_reverse] at loop
    simpa using loop

theorem isCycle (walk : s.Walk path name) (passed : name ∈ path) :
    s.IsCycle (name :: (path.takeWhile (· ≠ name)).reverse ++ [name]) := by
  obtain ⟨since, before, -, taken, round⟩ := walk.exists_round passed
  rw [taken]
  exact ⟨name, since.reverse, rfl, round⟩

end Walk

/-- With enough room the bounded search follows the chain as the unbounded one does. -/
theorem follows_followParents {bound : Nat} (walk : s.Walk path name)
    (room : s.fields.length < bound + path.length) :
    s.Follows cleared path name (s.followParents cleared bound path name) := by
  induction bound generalizing path name with
  | zero =>
    have := walk.length_le
    omega
  | succ bound ih =>
    rw [followParents]
    split
    case isTrue before => exact .known before
    case isFalse new =>
      split
      case isTrue passed => exact .back new passed
      case isFalse fresh =>
        cases link : s.parent? name with
        | none => exact .last new fresh link
        | some parent =>
          refine .next new fresh link (ih (walk.step fresh link) ?_)
          rw [List.length_cons]
          omega

theorem follows_chainFrom (s : Schema) (cleared : List String) (name : String) :
    s.Follows cleared [] name (s.chainFrom cleared name) :=
  follows_followParents (Walk.start s name) (by simp)

/-- Without a bound the chain comes to one end only. -/
theorem Follows.unique {other : ChainEnd} (follows : s.Follows cleared path name found)
    (follows' : s.Follows cleared path name other) : found = other := by
  induction follows with
  | known before => cases follows' <;> first | rfl | contradiction
  | back new passed => cases follows' <;> first | rfl | contradiction
  | last new fresh orphan =>
    cases follows' with
    | known | back => contradiction
    | last => rfl
    | next _ _ link => exact absurd (orphan.symm.trans link) (Option.some_ne_none _).symm
  | next new fresh link _ ih =>
    cases follows' with
    | known | back => contradiction
    | last _ _ orphan => exact absurd (orphan.symm.trans link) (Option.some_ne_none _).symm
    | next _ _ link' rest' =>
      obtain rfl := Option.some.inj (link.symm.trans link')
      exact ih rest'

theorem searches_searchCycle? (s : Schema) (cleared names : List String) :
    s.Searches cleared names (s.searchCycle? cleared names) := by
  induction names generalizing cleared with
  | nil => exact .done
  | cons name rest ih =>
    have chain := s.follows_chainFrom cleared name
    rw [searchCycle?]
    cases found : s.chainFrom cleared name with
    | closes cycle => exact .closes (found ▸ chain)
    | clears path => exact .clears (found ▸ chain) (ih _)

theorem Searches.unique {names : List String} {found other : Option (List String)}
    (searches : s.Searches cleared names found) (searches' : s.Searches cleared names other) :
    found = other := by
  induction searches with
  | done =>
    cases searches'
    rfl
  | closes chain =>
    cases searches' with
    | closes chain' => rw [ChainEnd.closes.inj (chain.unique chain')]
    | clears chain' => cases chain.unique chain'
  | clears chain _ ih =>
    cases searches' with
    | closes chain' => cases chain.unique chain'
    | clears chain' others' =>
      obtain rfl := ChainEnd.clears.inj (chain.unique chain')
      exact ih others'

/-- When the search closes, a walk has come back to a name that it had passed. -/
theorem Follows.exists_walk {cycle : List String} (follows : s.Follows cleared path name found)
    (closed : found = .closes cycle) (walk : s.Walk path name) :
    ∃ passed start, s.Walk passed start ∧ start ∈ passed ∧ name :: path <:+ start :: passed ∧
      cycle = start :: (passed.takeWhile (· ≠ start)).reverse ++ [start] := by
  induction follows with
  | known => cases closed
  | @back path name _ passed =>
    obtain rfl := ChainEnd.closes.inj closed
    exact ⟨path, name, walk, passed, List.suffix_refl _, rfl⟩
  | last => cases closed
  | @next path name parent _ _ fresh link _ ih =>
    obtain ⟨all, start, walk', passed, before, shape⟩ := ih closed (walk.step fresh link)
    exact ⟨all, start, walk', passed, (List.suffix_cons parent _).trans before, shape⟩

/-- Whatever is cleared has a chain that ends, if that is so of what was cleared before. -/
theorem Follows.ends {passed : List String} (follows : s.Follows cleared path name found)
    (clears : found = .clears passed) (clear : ∀ n ∈ cleared, s.Ends n) :
    s.Ends name ∧ ∀ n ∈ passed, n ∈ path ∨ s.Ends n := by
  induction follows with
  | known before =>
    obtain rfl := ChainEnd.clears.inj clears
    exact ⟨clear _ before, fun n member => .inl member⟩
  | back => cases clears
  | last _ _ orphan =>
    obtain rfl := ChainEnd.clears.inj clears
    have ends := Ends.last orphan
    exact ⟨ends, List.forall_mem_cons.mpr ⟨.inr ends, fun n member => .inl member⟩⟩
  | next _ _ link _ ih =>
    obtain ⟨ends, others⟩ := ih clears
    refine ⟨.next link ends, ?_⟩
    intro n member
    rcases others n member with before | ends'
    · rcases List.mem_cons.mp before with rfl | before
      · exact .inr (.next link ends)
      · exact .inl before
    · exact .inr ends'

/-- A search without a result has followed the chain of every name to its end. -/
theorem Searches.ends {names : List String} {result : Option (List String)}
    (searches : s.Searches cleared names result) (nothing : result = none)
    (clear : ∀ n ∈ cleared, s.Ends n) : ∀ n ∈ names, s.Ends n := by
  induction searches with
  | done => simp
  | closes => cases nothing
  | clears chain _ ih =>
    obtain ⟨ends, others⟩ := chain.ends rfl clear
    refine List.forall_mem_cons.mpr ⟨ends, ih nothing ?_⟩
    refine List.forall_mem_append.mpr ⟨?_, clear⟩
    intro n member
    exact (others n member).resolve_left List.not_mem_nil

/-- What a search gives is a cycle. -/
theorem Searches.isCycle {names cycle : List String} {result : Option (List String)}
    (searches : s.Searches cleared names result) (gives : result = some cycle) :
    s.IsCycle cycle := by
  induction searches with
  | done => cases gives
  | closes chain =>
    obtain rfl := Option.some.inj gives
    obtain ⟨_, _, walk, again, -, rfl⟩ := chain.exists_walk rfl (Walk.start s _)
    exact walk.isCycle again
  | clears _ _ ih => exact ih gives

/-- A chain that ends does not come back to its first name. -/
theorem Ends.not_transGen (ends : s.Ends name) : ¬ Relation.TransGen s.Link name name := by
  induction ends with
  | last orphan =>
    intro around
    obtain ⟨parent, link, -⟩ := Relation.TransGen.head'_iff.mp around
    exact Option.some_ne_none parent (link.symm.trans orphan)
  | next link _ ih =>
    intro around
    obtain ⟨other, first, rest⟩ := Relation.TransGen.head'_iff.mp around
    obtain rfl := Option.some.inj (link.symm.trans first)
    exact ih (.tail' rest link)

theorem IsCycle.exists_transGen {names : List String} (cycle : s.IsCycle names) :
    ∃ name, Relation.TransGen s.Link name name := by
  obtain ⟨name, inner, rfl, chain⟩ := cycle
  have along : ∀ (first last : String) (inner : List String),
      (first :: (inner ++ [last])).IsChain s.Link → Relation.TransGen s.Link first last := by
    intro first last inner chain
    induction inner generalizing first with
    | nil => exact .single (List.isChain_pair.mp chain)
    | cons n rest ih =>
      obtain ⟨link, chain⟩ := List.isChain_cons_cons.mp chain
      exact .head link (ih n chain)
  exact ⟨name, along name name inner chain⟩

/-- The names that the search gives form a cycle. -/
theorem isCycle_of_cycle? {names : List String} (found : s.cycle? = some names) : s.IsCycle names :=
  (searches_searchCycle? s [] s.names).isCycle found

/-- The search gives a cycle exactly when some name is an ancestor of itself. -/
theorem cycle?_isSome_iff (s : Schema) :
    s.cycle?.isSome = true ↔ ∃ name, Relation.TransGen s.Link name name := by
  constructor
  · intro found
    obtain ⟨names, found⟩ := Option.isSome_iff_exists.mp found
    exact (isCycle_of_cycle? found).exists_transGen
  · rintro ⟨name, around⟩
    cases found : s.cycle? with
    | some names => rfl
    | none =>
      obtain ⟨parent, link, -⟩ := Relation.TransGen.head'_iff.mp around
      have ends := (searches_searchCycle? s [] s.names).ends found (by simp) name link.mem_names
      exact absurd around ends.not_transGen

end LiveForm.Schema
