import LiveForm.Pattern.ByteRow
import LiveForm.Pattern.Tally

/-!
# Trees of words

A choice between words is built as a tree that shares their beginnings. A word that ends at a node
divides the words there into those before it and those after it, which share nothing, so that
earlier words keep going first. A tree is given by the words that go on from its root.
-/

namespace LiveForm.Pattern

/-- Puts a word with the others that begin with the same byte. -/
def insertWord (groups : List (Nat × List Word)) (byte : Nat) (rest : Word) :
    List (Nat × List Word) :=
  match groups with
  | [] => [(byte, [rest])]
  | (b, words) :: groups =>
    if b = byte then (b, words ++ [rest]) :: groups
    else (b, words) :: insertWord groups byte rest

/-- The words of each part, by their first byte. A part ends where a word ends; several that end
before any that goes on count once. -/
def wordParts : List Word → List (List (Nat × List Word))
  | words =>
    let late := words.dropWhile List.isEmpty
    let parts := late.foldl
      (fun parts word =>
        match word, parts with
        | [], parts => [] :: parts
        | byte :: rest, part :: parts => insertWord part byte rest :: parts
        | byte :: rest, [] => [insertWord [] byte rest])
      [[]]
    let parts := parts.reverse
    if late.length < words.length then [] :: parts else parts

/-- The states of a node, with everything below it. Each part that has words is a state that reads
a byte, and one more state goes to all parts and to the end of the words that end here. -/
def nodeTally : (depth : Nat) → List Word → Tally → Tally
  | 0, _, t => t
  | depth + 1, words, t =>
    let parts := wordParts words
    let t := parts.foldl
      (fun t part =>
        let t := part.foldl
          (fun t group => if group.2.all List.isEmpty then t else nodeTally depth group.2 t) t
        match part.length with
        | 0 => t
        | 1 => t.state 0
        | n => t.state (n * Tally.byteEdge))
      t
    let ends := parts.length - 1
    t.state (((parts.filter fun part => !part.isEmpty).length + ends) * Tally.freeEdge)

/-- The states of the tree of some words, with the common end of all words. -/
def treeTally (words : List Word) (t : Tally) : Tally :=
  let depth := words.foldl (fun depth word => Nat.max depth word.length) 0
  nodeTally depth words (t.state 0)

end LiveForm.Pattern
