/-!
# Sets of characters

A set is the increasing list of the code points at which membership changes, beginning outside
of the set: `[0x41, 0x5b]` holds the letters `A` to `Z`. Every Boolean combination of two sets is
one merge of their lists, and a complement is a combination like any other.

Surrogates are code points but no characters, and a set made here never holds one.
-/

namespace LiveForm

/-- A set of code points, given by the points at which membership changes. -/
structure CharSet where
  bounds : List Nat
  deriving DecidableEq, Inhabited

namespace CharSet

/-- The number of code points. -/
def limit : Nat := 0x110000

def empty : CharSet := ⟨[]⟩

/-- The characters from `lo` to `hi`, both included, neither of which is a surrogate. -/
def range (lo hi : Nat) : CharSet :=
  if hi < lo then empty
  else if lo < 0xD800 ∧ 0xDFFF < hi then ⟨[lo, 0xD800, 0xE000, hi + 1]⟩
  else ⟨[lo, hi + 1]⟩

def singleton (c : Char) : CharSet := range c.toNat c.toNat

def full : CharSet := range 0 (limit - 1)

/-- Membership at `n`, having `inside` before the first of the bounds. -/
def member (n : Nat) : List Nat → Bool → Bool
  | [], inside => inside
  | b :: rest, inside => if n < b then inside else member n rest !inside

def containsPoint (s : CharSet) (n : Nat) : Bool := member n s.bounds false

def contains (s : CharSet) (c : Char) : Bool := s.containsPoint c.toNat

/-- Merges two lists of bounds. `x` and `y` say on which side of the two sets the merge stands,
`out` on which side of the result. -/
def merge (f : Bool → Bool → Bool) : (x y out : Bool) → List Nat → List Nat → List Nat
  | _, _, _, [], [] => []
  | x, y, out, a :: as, [] =>
    let rest := merge f (!x) y (f (!x) y) as []
    if f (!x) y = out then rest else a :: rest
  | x, y, out, [], b :: bs =>
    let rest := merge f x (!y) (f x (!y)) [] bs
    if f x (!y) = out then rest else b :: rest
  | x, y, out, a :: as, b :: bs =>
    if a < b then
      let rest := merge f (!x) y (f (!x) y) as (b :: bs)
      if f (!x) y = out then rest else a :: rest
    else if b < a then
      let rest := merge f x (!y) (f x (!y)) (a :: as) bs
      if f x (!y) = out then rest else b :: rest
    else
      let rest := merge f (!x) (!y) (f (!x) (!y)) as bs
      if f (!x) (!y) = out then rest else a :: rest
  termination_by _ _ _ as bs => as.length + bs.length

/-- The set whose membership is `f` of the memberships in two sets. -/
def combine (f : Bool → Bool → Bool) (s t : CharSet) : CharSet :=
  if f false false then
    match merge f false false true s.bounds t.bounds with
    | 0 :: rest => ⟨rest⟩
    | bounds => ⟨0 :: bounds⟩
  else ⟨merge f false false false s.bounds t.bounds⟩

def union (s t : CharSet) : CharSet := combine (· || ·) s t

def inter (s t : CharSet) : CharSet := combine (· && ·) s t

def diff (s t : CharSet) : CharSet := combine (fun x y => x && !y) s t

def symmDiff (s t : CharSet) : CharSet := combine Bool.xor s t

def compl (s : CharSet) : CharSet := full.diff s

def unions (sets : List CharSet) : CharSet := sets.foldl union empty

/-- The first and the last code point of each unbroken row. -/
def rangesOf : List Nat → List (Nat × Nat)
  | [] => []
  | [lo] => [(lo, limit - 1)]
  | lo :: stop :: rest => (lo, stop - 1) :: rangesOf rest

def ranges (s : CharSet) : List (Nat × Nat) := rangesOf s.bounds

def isSingleton (s : CharSet) : Bool :=
  match s.bounds with
  | [lo, stop] => stop = lo + 1
  | _ => false

def isEmpty (s : CharSet) : Bool := s.bounds.isEmpty

/-- Joins an increasing row of points into ranges, in reverse. -/
def joinPoints (ranges : List (Nat × Nat)) (n : Nat) : List (Nat × Nat) :=
  match ranges with
  | [] => [(n, n)]
  | (lo, hi) :: rest => if n ≤ hi + 1 then (lo, max hi n) :: rest else (n, n) :: ranges

/-- The set of the listed points, in any order. -/
def ofPoints (points : List Nat) : CharSet :=
  let ranges := ((points.mergeSort (· ≤ ·)).foldl joinPoints []).reverse
  ⟨ranges.flatMap fun r => [r.1, r.2 + 1]⟩

def hexValue (digits : List Char) : Nat :=
  digits.foldl (fun n c => 16 * n + (if c.isDigit then c.toNat - 48 else c.toNat - 87)) 0

/-- The words of a text, in order, and the word that is being collected, in reverse. -/
def splitWords : List Char → List Char → List (List Char)
  | [], word => if word.isEmpty then [] else [word.reverse]
  | c :: rest, word =>
    if c = ' ' ∨ c = '\n' then
      if word.isEmpty then splitWords rest [] else word.reverse :: splitWords rest []
    else splitWords rest (c :: word)

def words (text : String) : List (List Char) := splitWords text.toList []

/-- The bounds of a range `lo-hi` or of a single point. -/
def boundsOfWord (word : List Char) : List Nat :=
  let lo := hexValue (word.takeWhile (· ≠ '-'))
  match word.dropWhile (· ≠ '-') with
  | _ :: hi => [lo, hexValue hi + 1]
  | [] => [lo, lo + 1]

/-- The set that a table of increasing hexadecimal ranges lists. -/
def ofText (text : String) : CharSet := ⟨(words text).flatMap boundsOfWord⟩

@[simp] theorem containsPoint_empty (n : Nat) : empty.containsPoint n = false := rfl

end CharSet

end LiveForm
