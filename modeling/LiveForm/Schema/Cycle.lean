import LiveForm.Schema.Basic

/-!
# Cycles of dependencies

Every name has at most one parent, the field that its last dependent declaration names. So the
chain of parents of a name either ends or comes back to a name that it has passed.
`Schema.cycle?` follows the chain of each field in order and gives the first cycle that it meets.
A name that an earlier chain has passed without a cycle is cleared: no later chain goes on from it.
-/

namespace LiveForm.Schema

/-- The parent of a name: what the last declaration of this name that depends on something
depends on. -/
def parent? (s : Schema) (name : String) : Option String :=
  s.fields.reverse.findSome? fun f => if f.name = name then f.dependsOn else none

/-- What a chain of parents comes to. -/
inductive ChainEnd where
  /-- The chain ends, or meets a cleared name; the names that it has passed, the latest first. -/
  | clears (path : List String)
  /-- The chain comes back to a name: the cycle from that name on, with the name at both ends. -/
  | closes (cycle : List String)
  deriving DecidableEq, Repr

/-- Follows the chain of parents from a name, having passed the names of `path`, the latest
first. -/
def followParents (s : Schema) (cleared : List String) :
    (bound : Nat) → (path : List String) → String → ChainEnd
  | 0, path, _ => .clears path
  | bound + 1, path, name =>
    if name ∈ cleared then .clears path
    else if name ∈ path then
      .closes (name :: (path.takeWhile (· ≠ name)).reverse ++ [name])
    else
      match s.parent? name with
      | none => .clears (name :: path)
      | some parent => s.followParents cleared bound (name :: path) parent

/-- What the chain of a name comes to. A chain passes at most the names of all fields and one that
is no field before it ends or repeats itself. -/
def chainFrom (s : Schema) (cleared : List String) (name : String) : ChainEnd :=
  s.followParents cleared (s.fields.length + 2) [] name

/-- The first cycle that the chains of some names meet, apart from the cleared names. -/
def searchCycle? (s : Schema) (cleared : List String) : List String → Option (List String)
  | [] => none
  | name :: rest =>
    match s.chainFrom cleared name with
    | .closes cycle => some cycle
    | .clears path => s.searchCycle? (path ++ cleared) rest

/-- The first cycle of dependencies: the names along it, beginning and ending with the same one. -/
def cycle? (s : Schema) : Option (List String) := s.searchCycle? [] s.names

end LiveForm.Schema
