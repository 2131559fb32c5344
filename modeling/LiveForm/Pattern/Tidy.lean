import LiveForm.Pattern.Regex

/-!
# Tidy regular expressions

The functions here build expressions and tidy them on the way: rows within rows are joined and
their words run together, a choice between single characters becomes one set, what all branches
of a choice begin with is taken out of it, and nothing is repeated needlessly.
-/

namespace LiveForm.Pattern.Regex

variable {σ κ : Type}

mutual

/-- Two expressions are written alike. Captures have numbers of their own and never are. -/
def alike [BEq σ] [BEq κ] : Regex σ κ → Regex σ κ → Bool
  | .empty, .empty => true
  | .word x, .word y => x == y
  | .consume x, .consume y => x == y
  | .look x, .look y => x == y
  | .concat x, .concat y => allAlike x y
  | .alternation x, .alternation y => allAlike x y
  | .repetition lo hi greedy x, .repetition lo' hi' greedy' y =>
    lo == lo' && hi == hi' && greedy == greedy' && x.alike y
  | _, _ => false

def allAlike [BEq σ] [BEq κ] : List (Regex σ κ) → List (Regex σ κ) → Bool
  | [], [] => true
  | x :: xs, y :: ys => x.alike y && allAlike xs ys
  | _, _ => false

end

/-- The items that an expression contributes to a row. -/
def rowItems : Regex σ κ → List (Regex σ κ)
  | .empty => []
  | .concat items => items
  | item => [item]

/-- Puts an item in front of a row, joining two words that meet. -/
def pushItem (item : Regex σ κ) (row : List (Regex σ κ)) : List (Regex σ κ) :=
  match item, row with
  | .word front, .word back :: rest => .word (front ++ back) :: rest
  | item, row => item :: row

def row (items : List (Regex σ κ)) : Regex σ κ :=
  match (items.flatMap rowItems).foldr pushItem [] with
  | [] => .empty
  | [item] => item
  | items => .concat items

/-- The branches that an expression contributes to a choice. -/
def choiceBranches : Regex σ κ → List (Regex σ κ)
  | .alternation branches => branches
  | branch => [branch]

def asLetter? : Regex σ κ → Option σ
  | .word [letter] => some letter
  | _ => none

def asSet? : Regex σ κ → Option σ
  | .consume set => some set
  | _ => none

/-- One expression out of several. Branches that are all letters, or all sets, become what `join`
makes of them. -/
def plainChoice (join : List σ → Regex σ κ) (branches : List (Regex σ κ)) : Regex σ κ :=
  match branches with
  | [branch] => branch
  | branches =>
    match branches.mapM asLetter? <|> branches.mapM asSet? with
    | some sets => join sets
    | none => .alternation branches

/-- The items that two rows have in common at their beginnings. -/
def sharedItems [BEq σ] [BEq κ] : List (Regex σ κ) → List (Regex σ κ) → List (Regex σ κ)
  | x :: xs, y :: ys => if x.alike y then x :: sharedItems xs ys else []
  | _, _ => []

def asRow? : Regex σ κ → Option (List (Regex σ κ))
  | .concat items => some items
  | _ => none

/-- One expression out of several. If the branches are rows that begin alike, the common beginning
goes in front of the choice. -/
def choice [BEq σ] [BEq κ] (join : List σ → Regex σ κ) (branches : List (Regex σ κ)) :
    Regex σ κ :=
  let branches := branches.flatMap choiceBranches
  match branches.mapM asRow? with
  | some (first :: second :: rest) =>
    match (second :: rest).foldl sharedItems first with
    | [] => plainChoice join branches
    | shared =>
      let remainders := (first :: second :: rest).map fun items => row (items.drop shared.length)
      row (shared ++ [plainChoice join (remainders.flatMap choiceBranches)])
  | _ => plainChoice join branches

/-- An expression a number of times. What takes no character need not be repeated. -/
def times (min : Nat) (max : Option Nat) (greedy : Bool) (body : Regex σ κ) : Regex σ κ :=
  let (lo, hi) :=
    if body.takesNothing then (Nat.min min 1, some (Nat.min (max.getD 1) 1)) else (min, max)
  if lo = 0 ∧ hi = some 0 then .empty
  else if lo = 1 ∧ hi = some 1 then body
  else .repetition lo hi greedy body

end LiveForm.Pattern.Regex
