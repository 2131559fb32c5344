import LiveForm.Pattern.ByteRow
import LiveForm.Pattern.Memo
import LiveForm.Pattern.Node
import LiveForm.Pattern.Opening
import LiveForm.Pattern.WordTree

/-!
# The size of a pattern

A pattern may be written in a few characters and still stand for a huge machine. Its size is that
of the nondeterministic automaton over UTF-8 bytes, one that reads forwards and one that reads
backwards. A pattern is refused when either automaton is larger than the limit. What is only a
search for a few words needs no automaton and is never refused.

Forwards, the rows of a set share their common beginnings and every common ending that is still
remembered; backwards only the beginnings, as far as they are remembered.
-/

namespace LiveForm.Pattern

/-- The direction in which an automaton reads. -/
inductive Direction where
  | forwards
  | backwards
  deriving DecidableEq

/-- How many states each direction remembers. -/
def memorySlots : Direction → Nat
  | .forwards => 10000
  | .backwards => 1000

/-- A number for the given key: the one that is remembered, or that of a new state. -/
def remembered (key : List Nat) (edges : Nat) (m : Memo) (t : Tally) : Nat × Memo × Tally :=
  match m.find? key with
  | some number => (number, m, t)
  | none => (t.states, m.store key t.states, t.state edges)

/-- Groups neighbouring rows that begin with the same range. -/
def groupRows : List ByteRow → List (ByteRange × List ByteRow)
  | [] => []
  | [] :: rest => groupRows rest
  | (range :: row) :: rest =>
    match groupRows rest with
    | (next, rows) :: groups =>
      if next = range then (range, row :: rows) :: groups
      else (range, [row]) :: (next, rows) :: groups
    | [] => [(range, [row])]

/-- The state that reads the given rows, at most `depth` bytes long, and leads to `target`. -/
def stateOfRows (target : Nat) : (depth : Nat) → List ByteRow → Memo → Tally → Nat × Memo × Tally
  | 0, _, m, t => (target, m, t)
  | depth + 1, rows, m, t =>
    if rows.all List.isEmpty then (target, m, t)
    else
      let (edges, m, t) := (groupRows rows).foldl
        (fun (edges, m, t) (range, rows) =>
          let (next, m, t) := stateOfRows target depth rows m t
          (edges ++ [range.1, range.2, next], m, t))
        (([], m, t) : List Nat × Memo × Tally)
      remembered edges (edges.length / 3 * Tally.byteEdge) m t

/-- The states that read one row after another backwards, from `last` on. -/
def stateOfRow : (last : Nat) → ByteRow → Memo → Tally → Nat × Memo × Tally
  | last, [], m, t => (last, m, t)
  | last, range :: row, m, t =>
    let (next, m, t) := remembered [last, range.1, range.2] 0 m t
    stateOfRow next row m t

/-- The states of a set. ASCII fits one state beside the end. -/
def setTally (direction : Direction) (rows : List ByteRow) (t : Tally) : Tally :=
  let memo := Memo.empty (memorySlots direction)
  if rows.all fun row => row.length = 1 then
    (t.state 0).state (rows.length * Tally.byteEdge)
  else
    match direction with
    | .forwards => (stateOfRows t.states 4 rows memo (t.state 0)).2.2
    | .backwards =>
      let last := t.states + 1
      (rows.foldl
        (fun (m, t) row => let (_, m, t) := stateOfRow last row m t; (m, t))
        (memo, (t.state (rows.length * Tally.freeEdge)).state 0)).2

/-- The states of a repetition of a part. `takes` says that the part surely takes a character. -/
def repetitionTally (min : Nat) (max : Option Nat) (takes : Bool) (part : Tally → Tally)
    (t : Tally) : Tally :=
  match max with
  | none =>
    if min = 0 then if takes then part t.fork else (part t).fork.fork.state 0
    else (Tally.many part min t).fork
  | some max =>
    if min = 0 ∧ max = 1 then (part t.fork).state 0
    else
      let begun := if min = 0 then t.state 0 else Tally.many part min t
      if min = max then begun
      else Tally.many (fun t => part t.fork) (max - min) (begun.state 0)

mutual

/-- The states of an expression. Captures leave their mark only forwards. -/
def tally (direction : Direction) : ByteRegex Look → Tally → Tally
  | .empty, t => t.state 0
  | .word letters, t => t.plain (letters.flatMap letterBytes).length
  | .consume rows, t => setTally direction rows t
  | .look _, t => t.state 0
  | .concat items, t =>
    match direction with
    | .forwards => tallyAll .forwards items t
    | .backwards => tallyAllBackwards items t
  | .alternation branches, t =>
    match branches.mapM asWord?, branches with
    | some words, _ =>
      match direction with
      | .forwards => treeTally words t
      | .backwards => treeTally (words.map List.reverse) t
    | none, first :: second :: rest =>
      let t := tally direction second (tally direction first t)
      tallyAll direction rest
        ((t.state (branches.length * Tally.freeEdge)).state 0)
    | none, branches => tallyAll direction branches t
  | .repetition min max _ body, t =>
    let takes := (body.fewest? List.isEmpty).any (0 < ·)
    repetitionTally min max takes (fun t => tally direction body t) t
  | .capture body, t =>
    match direction with
    | .forwards => (tally direction body (t.state 0)).state 0
    | .backwards => tally direction body t

def tallyAll (direction : Direction) : List (ByteRegex Look) → Tally → Tally
  | [], t => t
  | node :: rest, t => tallyAll direction rest (tally direction node t)

/-- One expression after another, the last one first, as they are met backwards. -/
def tallyAllBackwards : List (ByteRegex Look) → Tally → Tally
  | [], t => t
  | node :: rest, t => tally .backwards node (tallyAllBackwards rest t)

end

/-- Every match begins, or read backwards ends, at an end of the text. -/
def isAnchored (direction : Direction) (node : ByteRegex Look) : Bool :=
  match direction with
  | .forwards => node.beginsWith (· = .textStart)
  | .backwards => node.endsWith (· = .textEnd)

/-- The states of the whole automaton. Unless every match is anchored, a loop finds its beginning.
Forwards the whole match leaves a mark on either side. -/
def machineTally (direction : Direction) (node : ByteRegex Look) : Tally :=
  let start : Tally := ⟨0, 0⟩
  let start :=
    if isAnchored direction node then start.state 0
    else (start.fork.state 0).state Tally.byteEdge
  (tally direction (.capture node) start).state 0

/-- An expression needs no automaton, or both of its automata stay within the limit. -/
def fitsLimit (node : Node) : Bool :=
  let node : ByteRegex Look := node.map (fun c => rowsOfSet c.set) id
  isWordSearch node ||
    (!(machineTally .forwards node).tooLarge && !(machineTally .backwards node).tooLarge)

end LiveForm.Pattern
