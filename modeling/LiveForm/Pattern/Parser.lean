import LiveForm.Pattern.ClassParser
import LiveForm.Unicode.Property
import LiveForm.Unicode.Recent

/-!
# Reading patterns

A pattern is read with a stack of the groups that are still open. Each step takes at least one
character, so the length of the text bounds the number of steps. A repetition needs something to
repeat, a group its closing parenthesis, and no two groups may have the same name.
-/

namespace LiveForm.Pattern

/-- A group that is still open, with what was read before it in the enclosing group. -/
structure OpenGroup where
  change : Option FlagChange
  captures : Bool
  items : List Ast
  branches : List Ast
  verbose : Bool

/-- A pattern part way through. Items and branches of the current group are in reverse. -/
structure Parse where
  rest : List Char
  items : List Ast
  branches : List Ast
  groups : List OpenGroup
  verbose : Bool
  names : List (List Char)

namespace Parse

/-- The whole of the current group. -/
def body (p : Parse) : Ast :=
  Ast.ofBranches ((Ast.ofItems p.items.reverse :: p.branches).reverse)

def push (p : Parse) (item : Ast) (rest : List Char) : Parse :=
  { p with items := item :: p.items, rest := rest }

def openGroup (p : Parse) (change : Option FlagChange) (captures : Bool) (rest : List Char) :
    Parse :=
  let verbose := (change.bind (·.state? .verbose)).getD p.verbose
  { p with
    rest := rest
    items := []
    branches := []
    groups := ⟨change, captures, p.items, p.branches, p.verbose⟩ :: p.groups
    verbose := verbose }

def closeGroup? (p : Parse) (rest : List Char) : Option Parse :=
  match p.groups with
  | [] => none
  | g :: groups =>
    some { p with
      rest := rest
      items := .group g.change g.captures p.body :: g.items
      branches := g.branches
      groups := groups
      verbose := g.verbose }

/-- Repeats the last item. A directive and nothing at all cannot be repeated. -/
def repeat? (p : Parse) (min : Nat) (max : Option Nat) (rest : List Char) : Option Parse :=
  let lazy := rest.head? = some '?'
  let rest := if lazy then rest.tail else rest
  match p.items with
  | [] => none
  | .empty :: _ => none
  | .flags _ :: _ => none
  | item :: items =>
    some { p with items := .repetition min max (!lazy) item :: items, rest := rest }

def nameLetters : CharSet := Unicode.Property.alphabetic.union Unicode.Recent.alphabetic

def nameNumbers : CharSet :=
  (Unicode.Category.sets [.decimalNumber, .letterNumber, .otherNumber]).union
    Unicode.Recent.numbers

/-- The name of a group, up to its closing bracket: a letter or an underscore, then letters,
numbers, underscores, points and square brackets. -/
def groupName? (rest : List Char) : Option (List Char × List Char) :=
  let isLetter (c : Char) := c = '_' || nameLetters.contains c
  let isInner (c : Char) :=
    isLetter c || c = '.' || c = '[' || c = ']' || nameNumbers.contains c
  match rest.takeWhile (· ≠ '>'), rest.dropWhile (· ≠ '>') with
  | first :: name, _ :: left =>
    if isLetter first ∧ name.all isInner then some (first :: name, left) else none
  | _, _ => none

def flagOf? : Char → Option Flag
  | 'i' => some .ignoreCase
  | 'm' => some .multiLine
  | 's' => some .dotAll
  | 'U' => some .swapGreed
  | 'u' => some .unicode
  | 'R' => some .crlf
  | 'x' => some .verbose
  | _ => none

/-- The flags of a group up to its colon or parenthesis. Each flag and the minus may stand once,
and the minus not at the end. -/
def flags? (change : FlagChange) (negating : Bool) : List Char →
    Option (FlagChange × Char × List Char)
  | [] => none
  | c :: rest =>
    if c = ':' ∨ c = ')' then
      if negating ∧ change.off = [] then none else some (change, c, rest)
    else if c = '-' then if negating then none else flags? change true rest
    else do
      let flag ← flagOf? c
      if change.on.contains flag ∨ change.off.contains flag then none
      else if negating then flags? { change with off := flag :: change.off } true rest
      else flags? { change with on := flag :: change.on } false rest

/-- A group or a directive, after its opening parenthesis. -/
def group? (p : Parse) (rest : List Char) : Option Parse :=
  let named (rest : List Char) : Option Parse := do
    let (name, rest) ← groupName? rest
    if p.names.contains name then none
    else return { p with names := name :: p.names }.openGroup none true rest
  match space p.verbose rest with
  | '?' :: '=' :: _ => none
  | '?' :: '!' :: _ => none
  | '?' :: '<' :: '=' :: _ => none
  | '?' :: '<' :: '!' :: _ => none
  | '?' :: 'P' :: '<' :: rest => named rest
  | '?' :: '<' :: rest => named rest
  | '?' :: rest => do
    let (change, mark, rest) ← flags? ⟨[], []⟩ false rest
    if mark = ':' then return p.openGroup (some change) false rest
    else if change.on = [] ∧ change.off = [] then none
    else
      let verbose := (change.state? .verbose).getD p.verbose
      return { p with verbose := verbose }.push (.flags change) rest
  | rest => some (p.openGroup none true rest)

/-- One step, at a character that counts. -/
def step? (p : Parse) (c : Char) (rest : List Char) : Option Parse :=
  match c with
  | '(' => p.group? rest
  | ')' => p.closeGroup? rest
  | '|' =>
    some { p with rest := rest, items := [], branches := Ast.ofItems p.items.reverse :: p.branches }
  | '[' => do
    let (negated, inner, rest) ← class? p.verbose rest
    return p.push (.bracketed negated inner) rest
  | '?' => p.repeat? 0 (some 1) rest
  | '*' => p.repeat? 0 none rest
  | '+' => p.repeat? 1 none rest
  | '{' => do
    let (lo, hi, rest) ← counts? p.verbose rest
    p.repeat? lo hi (space p.verbose rest)
  | '\\' => do
    let (unit, rest) ← escape? p.verbose rest
    return p.push unit.toAst rest
  | '.' => some (p.push .dot rest)
  | '^' => some (p.push (.assertion .lineStart) rest)
  | '$' => some (p.push (.assertion .lineEnd) rest)
  | c => some (p.push (.literal ⟨c, false⟩) rest)

/-- Goes on to the end of the text, in at most `bound` steps. -/
def finish? : (bound : Nat) → Parse → Option Ast
  | bound, p =>
    match space p.verbose p.rest, bound with
    | [], _ => if p.groups.isEmpty then some p.body else none
    | _ :: _, 0 => none
    | c :: rest, bound + 1 =>
      match p.step? c rest with
      | some p => finish? bound p
      | none => none

end Parse

/-- The pattern that a text writes, if it is not nested too deep. -/
def Ast.parse? (text : String) : Option Ast := do
  let chars := text.toList
  let ast ← Parse.finish? chars.length ⟨chars, [], [], [], false, []⟩
  if ast.depth ≤ Ast.maxDepth then some ast else none

end LiveForm.Pattern
