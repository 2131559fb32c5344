/-!
# Regular expressions

A `Regex` is an expression over sets of characters and conditions on positions, whatever these
are. Beside the type stand the measures that its users need: how few characters an expression
takes, whether it takes any, and on which conditions it begins and ends.
-/

namespace LiveForm.Pattern

/-- A regular expression over sets `σ` and conditions `κ`. A word is one character after another,
each of its sets having a single member. -/
inductive Regex (σ κ : Type) where
  | empty
  | word (letters : List σ)
  | consume (set : σ)
  | look (condition : κ)
  | concat (items : List (Regex σ κ))
  | alternation (branches : List (Regex σ κ))
  | repetition (min : Nat) (max : Option Nat) (greedy : Bool) (body : Regex σ κ)
  | capture (body : Regex σ κ)
  deriving Inhabited

namespace Regex

variable {σ κ τ μ : Type}

mutual

def map (f : σ → τ) (g : κ → μ) : Regex σ κ → Regex τ μ
  | .empty => .empty
  | .word letters => .word (letters.map f)
  | .consume set => .consume (f set)
  | .look condition => .look (g condition)
  | .concat items => .concat (mapAll f g items)
  | .alternation branches => .alternation (mapAll f g branches)
  | .repetition min max greedy body => .repetition min max greedy (body.map f g)
  | .capture body => .capture (body.map f g)

def mapAll (f : σ → τ) (g : κ → μ) : List (Regex σ κ) → List (Regex τ μ)
  | [] => []
  | item :: rest => item.map f g :: mapAll f g rest

end

mutual

/-- The expression never takes a character. -/
def takesNothing : Regex σ κ → Bool
  | .empty => true
  | .word letters => letters.isEmpty
  | .consume _ => false
  | .look _ => true
  | .concat items => allTakeNothing items
  | .alternation branches => allTakeNothing branches
  | .repetition _ _ _ body => body.takesNothing
  | .capture body => body.takesNothing

def allTakeNothing : List (Regex σ κ) → Bool
  | [] => true
  | item :: rest => item.takesNothing && allTakeNothing rest

end

mutual

/-- No part of the expression is a condition or a capture. -/
def isBare : Regex σ κ → Bool
  | .empty => true
  | .word _ => true
  | .consume _ => true
  | .look _ => false
  | .concat items => allBare items
  | .alternation branches => allBare branches
  | .repetition _ _ _ body => body.isBare
  | .capture _ => false

def allBare : List (Regex σ κ) → Bool
  | [] => true
  | item :: rest => item.isBare && allBare rest

end

mutual

/-- The fewest characters that a match takes, if no part of the expression is a set without
members, of which `isVoid` tells. -/
def fewest? (isVoid : σ → Bool) : Regex σ κ → Option Nat
  | .empty => some 0
  | .word letters => some letters.length
  | .consume set => if isVoid set then none else some 1
  | .look _ => some 0
  | .concat items => fewestOfAll? isVoid items
  | .alternation branches => fewestOfAny? isVoid branches
  | .repetition min _ _ body => (body.fewest? isVoid).map (min * ·)
  | .capture body => body.fewest? isVoid

/-- The fewest characters of one expression after another. -/
def fewestOfAll? (isVoid : σ → Bool) : List (Regex σ κ) → Option Nat
  | [] => some 0
  | item :: rest => do return (← item.fewest? isVoid) + (← fewestOfAll? isVoid rest)

/-- The fewest characters of any of several expressions. -/
def fewestOfAny? (isVoid : σ → Bool) : List (Regex σ κ) → Option Nat
  | [] => none
  | [branch] => branch.fewest? isVoid
  | branch :: rest => do
    return Nat.min (← branch.fewest? isVoid) (← fewestOfAny? isVoid rest)

end

mutual

/-- Every match begins with a condition of the given kind. -/
def beginsWith (p : κ → Bool) : Regex σ κ → Bool
  | .look condition => p condition
  | .concat items => rowBeginsWith p items
  | .alternation branches => allBeginWith p branches
  | .repetition min _ _ body => min != 0 && body.beginsWith p
  | .capture body => body.beginsWith p
  | _ => false

/-- The same for a row: what takes no character leaves the beginning to the next item. -/
def rowBeginsWith (p : κ → Bool) : List (Regex σ κ) → Bool
  | [] => false
  | item :: rest => item.beginsWith p || (item.takesNothing && rowBeginsWith p rest)

def allBeginWith (p : κ → Bool) : List (Regex σ κ) → Bool
  | [] => true
  | item :: rest => item.beginsWith p && allBeginWith p rest

end

mutual

/-- Every match ends with a condition of the given kind. -/
def endsWith (p : κ → Bool) : Regex σ κ → Bool
  | .look condition => p condition
  | .concat items => rowEndsWith p items
  | .alternation branches => allEndWith p branches
  | .repetition min _ _ body => min != 0 && body.endsWith p
  | .capture body => body.endsWith p
  | _ => false

/-- The same for a row: what takes no character leaves the end to the item before. -/
def rowEndsWith (p : κ → Bool) : List (Regex σ κ) → Bool
  | [] => false
  | item :: rest => rowEndsWith p rest || (allTakeNothing rest && item.endsWith p)

def allEndWith (p : κ → Bool) : List (Regex σ κ) → Bool
  | [] => true
  | item :: rest => item.endsWith p && allEndWith p rest

end

end Regex

end LiveForm.Pattern
