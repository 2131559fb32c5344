import LiveForm.Pattern.Node

/-!
# Matching

A set of positions of a text is a natural number whose bit `i` says whether position `i` is in the
set. `Plan.advance` takes all positions at which an expression may begin to all those at which it
may end, so that a match is found without trying any choice one by one: a step costs a few
operations on such sets, and a repetition at most as many steps as there are positions.

For one text every set of characters becomes the set of positions at which it can take a character,
and every condition the set of positions at which it holds.
-/

namespace LiveForm.Pattern

/-- A set of positions as the bits of a number. -/
abbrev Positions := Nat

/-- An expression prepared for one text. -/
abbrev Plan := Regex Positions Positions

/-- The positions that satisfy `p`, among those from `i` on whose characters are listed. -/
def positionsFrom (p : Char → Bool) (i : Nat) : List Char → Positions
  | [] => 0
  | c :: rest => (if p c then 1 <<< i else 0) ||| positionsFrom p (i + 1) rest

/-- Whether a character belongs to a word; beyond the ends there is none. -/
def isWordChar (unicode : Bool) : Option Char → Bool
  | none => false
  | some c => if unicode then Unicode.wordChars.contains c else c.isAlphanum || c = '_'

/-- Whether a condition holds between two characters, which are missing beyond the ends. -/
def Look.holds (look : Look) (before after : Option Char) : Bool :=
  match look with
  | .textStart => before.isNone
  | .textEnd => after.isNone
  | .lineStart false => before.isNone || before = some '\n'
  | .lineStart true =>
    before.isNone || before = some '\n' || (before = some '\r' && after ≠ some '\n')
  | .lineEnd false => after.isNone || after = some '\n'
  | .lineEnd true =>
    after.isNone || after = some '\r' || (after = some '\n' && before ≠ some '\r')
  | .word kind unicode =>
    let b := isWordChar unicode before
    let a := isWordChar unicode after
    match kind with
    | .boundary => b != a
    | .noBoundary => b == a
    | .start => !b && a
    | .stop => b && !a
    | .startHalf => !b
    | .stopHalf => !a

/-- The positions at which a condition holds, from `i` on, `before` being the character there. -/
def lookPositions (look : Look) (i : Nat) (before : Option Char) : List Char → Positions
  | [] => if look.holds before none then 1 <<< i else 0
  | c :: rest =>
    (if look.holds before (some c) then 1 <<< i else 0) ||| lookPositions look (i + 1) (some c) rest

def Node.plan (node : Node) (text : List Char) : Plan :=
  node.map (fun c => positionsFrom c.set.contains 0 text)
    (fun look => lookPositions look 0 none text)

/-- Takes a step a number of times, or until it changes nothing any more. -/
def repeatStep (step : Positions → Positions) : (count : Nat) → Positions → Positions
  | 0, starts => starts
  | count + 1, starts =>
    let next := step starts
    if next = starts then starts else repeatStep step count next

/-- Adds what a step reaches, again and again, or until it adds nothing any more. -/
def gather (step : Positions → Positions) : (count : Nat) → Positions → Positions
  | 0, reached => reached
  | count + 1, reached =>
    let next := reached ||| step reached
    if next = reached then reached else gather step count next

mutual

/-- The positions at which an expression may end that begins at one of those given. `size` is a
bound on the number of positions of the text. -/
def advance (size : Nat) : Plan → Positions → Positions
  | .empty, starts => starts
  | .word able, starts => able.foldl (fun starts able => (starts &&& able) <<< 1) starts
  | .consume able, starts => (starts &&& able) <<< 1
  | .look holds, starts => starts &&& holds
  | .concat items, starts => advanceAll size items starts
  | .alternation branches, starts => advanceAny size branches starts
  | .repetition min max _ body, starts =>
    let begun := repeatStep (advance size body) min starts
    match max with
    | some max => gather (advance size body) (max - min) begun
    | none => gather (advance size body) size begun
  | .capture body, starts => advance size body starts

/-- One expression after another. -/
def advanceAll (size : Nat) : List Plan → Positions → Positions
  | [], starts => starts
  | item :: rest, starts => advanceAll size rest (advance size item starts)

/-- Any of several expressions. -/
def advanceAny (size : Nat) : List Plan → Positions → Positions
  | [], _ => 0
  | item :: rest, starts => advance size item starts ||| advanceAny size rest starts

end

/-- Some stretch of the text matches the expression. -/
def Node.occursIn (node : Node) (text : String) : Bool :=
  let chars := text.toList
  let size := chars.length + 1
  advance size (Node.plan node chars) (1 <<< size - 1) != 0

end LiveForm.Pattern
