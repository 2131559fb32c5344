import LiveForm.Pattern.ByteRow

/-!
# How matches begin

An opening is the first bytes of a match. Where an expression has only a few openings they are
listed, the preferred ones first. If the list that is left holds whole matches only, the pattern is
no more than a search for a few words.

The bounds keep the lists short: a set of more than ten characters and a choice that leads to more
than 250 openings have no list, an opening has at most a hundred bytes, and of a repetition only
the first ten rounds count.
-/

namespace LiveForm.Pattern

/-- The first bytes of a match. `isWhole` says that nothing follows them. -/
structure Opening where
  bytes : Word
  isWhole : Bool
  deriving DecidableEq, Inhabited

namespace Opening

/-- Keeps the first bytes, at most `n`. -/
def keep (n : Nat) (o : Opening) : Opening :=
  if o.bytes.length ≤ n then o else ⟨o.bytes.take n, false⟩

/-- The same bytes, with more to follow. -/
def unfinished (o : Opening) : Opening := { o with isWhole := false }

/-- The opening of a match that goes on with another one. -/
def append (o p : Opening) : Opening := ⟨o.bytes ++ p.bytes, p.isWhole⟩

/-- Joins neighbours with the same bytes. They are whole only if all of them are. -/
def joinEqual : List Opening → List Opening
  | [] => []
  | o :: rest =>
    match joinEqual rest with
    | [] => [o]
    | p :: rest =>
      if o.bytes = p.bytes then ⟨o.bytes, o.isWhole && p.isWhole⟩ :: rest else o :: p :: rest

/-- Drops the openings that go on from one before them, which is preferred wherever they occur.
`kept` are those before. -/
def dropShadowed (kept : List Opening) : List Opening → List Opening
  | [] => []
  | o :: rest =>
    if kept.any fun p => p.bytes.isPrefixOf o.bytes then dropShadowed kept rest
    else o :: dropShadowed (o :: kept) rest

/-- The bytes that two words have in common at their beginnings. -/
def sharedBytes : Word → Word → Word
  | x :: xs, y :: ys => if x = y then x :: sharedBytes xs ys else []
  | _, _ => []

/-- The bytes that all openings have in common at their beginnings. -/
def commonBytes : List Opening → Word
  | [] => []
  | o :: rest => rest.foldl (fun common p => sharedBytes common p.bytes) o.bytes

end Opening

/-- The openings of an expression, or `none` if they are not listed. -/
abbrev Openings := Option (List Opening)

namespace Openings

/-- The largest number of openings, of bytes of an opening, of characters of a set, and of rounds
of a repetition. -/
def maxCount : Nat := 250

def maxLength : Nat := 100

def maxMembers : Nat := 10

def maxRounds : Nat := 10

/-- The opening of what takes no character. -/
def blank : Openings := some [⟨[], true⟩]

/-- No opening is whole, so that what follows does not matter. -/
def isOpenEnded (os : Openings) : Bool := os.all fun os => os.all fun o => !o.isWhole

def unfinished (os : Openings) : Openings := os.map (·.map Opening.unfinished)

/-- The openings of one expression after another. If what follows is not listed, the openings
are as far as they go, unless one of them holds no byte. -/
def andThen (os ps : Openings) : Openings := do
  let os ← os
  match ps.filter fun ps => os.length * ps.length ≤ maxCount with
  | none => if os.any (·.bytes.isEmpty) then none else some (os.map Opening.unfinished)
  | some ps =>
    let joined := os.flatMap fun o => if o.isWhole then ps.map o.append else [o]
    some ((Opening.joinEqual joined).map (·.keep maxLength))

/-- The openings of either of two expressions, the first of which is preferred. Where they are too
many, four bytes of each are tried. -/
def orElse (os ps : Openings) : Openings := do
  let os ← os
  let ps ← ps
  if os.length + ps.length ≤ maxCount then some (Opening.joinEqual (os ++ ps))
  else
    let brief (os : List Opening) := Opening.joinEqual (os.map (·.keep 4))
    if (brief os).length + (brief ps).length ≤ maxCount then
      some (Opening.joinEqual (brief os ++ brief ps))
    else none

/-- The openings of a number of rounds after what has begun. -/
def rounds (part : Openings) : (count : Nat) → (begun : Openings) → Openings
  | 0, begun => begun
  | count + 1, begun =>
    if begun.isOpenEnded then begun else rounds part count (begun.andThen part)

/-- The openings of a repetition of a part. -/
def repeated (min : Nat) (max : Option Nat) (greedy : Bool) (part : Openings) : Openings :=
  if min = 0 then
    let part := if max = some 1 then part else part.unfinished
    if greedy then part.orElse blank else blank.orElse part
  else
    let begun := rounds part (Nat.min min maxRounds) blank
    if max = some min ∧ min ≤ maxRounds then begun else begun.unfinished

end Openings

variable {κ : Type}

mutual

/-- The openings of an expression. Conditions are taken to hold. -/
def openings : ByteRegex κ → Openings
  | .empty => .blank
  | .word letters => some [Opening.keep Openings.maxLength ⟨letters.flatMap letterBytes, true⟩]
  | .consume rows =>
    if (rows.map ByteRow.count).sum ≤ Openings.maxMembers then
      some ((rows.flatMap ByteRow.words).map fun word => ⟨word, true⟩)
    else none
  | .look _ => .blank
  | .concat items => openingsOfRow .blank items
  | .alternation branches => openingsOfChoice (some []) branches
  | .repetition min max greedy body => .repeated min max greedy (openings body)
  | .capture body => openings body

/-- The openings of a row after what has begun. -/
def openingsOfRow (begun : Openings) : List (ByteRegex κ) → Openings
  | [] => begun
  | item :: rest =>
    if begun.isOpenEnded then begun else openingsOfRow (begun.andThen (openings item)) rest

/-- The openings of a choice, and before them those that are preferred to it. -/
def openingsOfChoice (before : Openings) : List (ByteRegex κ) → Openings
  | [] => before
  | branch :: rest => openingsOfChoice (before.orElse (openings branch)) rest

end

/-- The ASCII characters that many texts hold in great number. -/
def commonLetters : List Char := "\n\r (),-./01249:_abcdefghilmnoprstuvxy|".toList

/-- A byte that few texts hold in great number. -/
def isRareByte (byte : Nat) : Bool := byte < 0x80 && !commonLetters.any fun c => c.toNat = byte

/-- Shortens a long list. Each step says how many bytes to keep while there are more openings than
the given number. -/
def shortened : List (Nat × Nat) → List Opening → List Opening
  | [], os => os
  | (bytes, count) :: steps, os =>
    if os.length ≤ count then os
    else shortened steps (Opening.dropShadowed [] (os.map (·.keep bytes)))

/-- Nothing but the openings has to be looked for: after the list was made as handy as possible,
all of them are still whole matches. It is made handy by dropping what is shadowed, by keeping only
what all openings have in common, and by shortening them when there are many. The last of these
counts only if it leads to openings that are not too short and not too many. -/
def areWords (os : List Opening) : Bool :=
  let kept := Opening.dropShadowed [] os
  let common := Opening.commonBytes kept
  let areWhole (os : List Opening) := os.all Opening.isWhole
  if os.isEmpty || os.any (·.bytes.isEmpty) then false
  else if 1 < os.length ∧ common.length ≤ 3 ∧ common.head?.any isRareByte then
    areWhole (kept.map (·.keep 1))
  else
    let isHandy := areWhole kept && kept.length ≤ 16
    let kept :=
      if 4 < common.length || (1 < common.length && !isHandy) then
        Opening.joinEqual (kept.map (·.keep common.length))
      else kept
    let short := shortened [(5, 10), (4, 10), (3, 64), (2, 64), (1, 10)] kept
    areWhole kept && (areWhole short || short.any (·.bytes.length ≤ 2) || 64 < short.length)

/-- The pattern is no more than a search for words: for the openings of its matches, or for a great
number of words that are written one after another. -/
def isWordSearch (node : ByteRegex κ) : Bool :=
  let isWordList :=
    match node with
    | .alternation branches => 3000 ≤ branches.length && branches.all (asWord? · |>.isSome)
    | _ => false
  node.isBare && (isWordList || (openings node).any fun os => areWords (Opening.joinEqual os))

end LiveForm.Pattern
