import LiveForm.Pattern.Cursor

/-!
# Reading bracketed classes

A bracketed class is read with a stack of the brackets that are still open. Two classes may be
combined by `&&`, `--` and `~~`, which bind equally and to the left. Each step takes at least one
character, so the length of the text bounds the number of steps.
-/

namespace LiveForm.Pattern

/-- A bracket that is still open: whether it is negated, the operation that waits for its right
side, and the items read so far, in reverse. -/
structure OpenClass where
  negated : Bool
  pending : Option (ClassOp × ClassTree)
  items : List ClassTree

namespace OpenClass

/-- The class read so far, with the operation that waits for it. -/
def tree (c : OpenClass) : ClassTree :=
  let items := ClassTree.ofItems c.items.reverse
  match c.pending with
  | some (op, lhs) => .operation op lhs items
  | none => items

def push (c : OpenClass) (item : ClassTree) : OpenClass := { c with items := item :: c.items }

/-- Begins the right side of an operation. -/
def operate (c : OpenClass) (op : ClassOp) : OpenClass :=
  { c with pending := some (op, c.tree), items := [] }

end OpenClass

/-- The set that a name between colons stands for. -/
def posixNamed? (name : String) : Option CharSet :=
  match name with
  | "alnum" => some (.ofText "30-39 41-5a 61-7a")
  | "alpha" => some (.ofText "41-5a 61-7a")
  | "ascii" => some (.ofText "0-7f")
  | "blank" => some (.ofText "9 20")
  | "cntrl" => some (.ofText "0-1f 7f")
  | "digit" => some (.ofText "30-39")
  | "graph" => some (.ofText "21-7e")
  | "lower" => some (.ofText "61-7a")
  | "print" => some (.ofText "20-7e")
  | "punct" => some (.ofText "21-2f 3a-40 5b-60 7b-7e")
  | "space" => some (.ofText "9-d 20")
  | "upper" => some (.ofText "41-5a")
  | "word" => some (.ofText "30-39 41-5a 5f 61-7a")
  | "xdigit" => some (.ofText "30-39 41-46 61-66")
  | _ => none

/-- A class between colons, after its opening bracket. -/
def posix? (rest : List Char) : Option (ClassTree × List Char) := do
  match rest with
  | ':' :: rest =>
    let negated := rest.head? = some '^'
    let rest := if negated then rest.tail else rest
    match rest.dropWhile (· ≠ ':') with
    | ':' :: ']' :: left =>
      let set ← posixNamed? (String.ofList (rest.takeWhile (· ≠ ':')))
      return (.posix negated set, left)
    | _ => none
  | _ => none

/-- The literal hyphens that a class may begin with, and what follows them. -/
def leadingHyphens (verbose : Bool) : (bound : Nat) → List Char → List ClassTree × List Char
  | 0, rest => ([], rest)
  | bound + 1, '-' :: rest =>
    let (items, left) := leadingHyphens verbose bound (space verbose rest)
    (.literal ⟨'-', false⟩ :: items, left)
  | _, rest => ([], rest)

/-- Opens a bracket: a negation, literal hyphens, and a literal closing bracket that comes first. -/
def openClass? (verbose : Bool) (rest : List Char) : Option (OpenClass × List Char) := do
  let rest := space verbose rest
  let negated := rest.head? = some '^'
  let rest := if negated then space verbose rest.tail else rest
  let (hyphens, rest) := leadingHyphens verbose rest.length rest
  match hyphens, rest with
  | _, [] => none
  | [], ']' :: rest => some (⟨negated, none, [.literal ⟨']', false⟩]⟩, space verbose rest)
  | hyphens, rest => some (⟨negated, none, hyphens⟩, rest)

/-- One character or escape of a class. -/
def classPrimitive? (verbose : Bool) : List Char → Option (Primitive × List Char)
  | '\\' :: rest => escape? verbose rest
  | c :: rest => some (.ofChar c, rest)
  | [] => none

/-- A single item or a range of a class. -/
def classRange? (verbose : Bool) (rest : List Char) : Option (ClassTree × List Char) := do
  let (first, rest) ← classPrimitive? verbose rest
  match space verbose rest with
  | [] => none
  | '-' :: after =>
    let next := peekSpace verbose after
    if next = some ']' ∨ next = some '-' then return (← first.toClass?, '-' :: after)
    else
      let (last, rest) ← classPrimitive? verbose (space verbose after)
      match first, last with
      | .literal lo, .literal hi =>
        if lo.char ≤ hi.char then return (.range lo hi, rest) else none
      | _, _ => none
  | rest => return (← first.toClass?, rest)

/-- A class part way through: the innermost bracket, those around it and what is left, or the
complete class and what follows it. -/
inductive ClassProgress where
  | inside (current : OpenClass) (outer : List OpenClass) (rest : List Char)
  | done (negated : Bool) (inner : ClassTree) (rest : List Char)

/-- One step inside a class. -/
def classStep? (verbose : Bool) (current : OpenClass) (outer : List OpenClass) (rest : List Char) :
    Option ClassProgress :=
  match space verbose rest with
  | [] => none
  | '[' :: rest =>
    match posix? rest with
    | some (item, rest) => some (.inside (current.push item) outer rest)
    | none => do
      let (opened, rest) ← openClass? verbose rest
      return .inside opened (current :: outer) rest
  | ']' :: rest =>
    match outer with
    | [] => some (.done current.negated current.tree rest)
    | parent :: outer =>
      some (.inside (parent.push (.bracketed current.negated current.tree)) outer rest)
  | '&' :: '&' :: rest => some (.inside (current.operate .intersection) outer rest)
  | '-' :: '-' :: rest => some (.inside (current.operate .difference) outer rest)
  | '~' :: '~' :: rest => some (.inside (current.operate .symmetricDifference) outer rest)
  | rest => do
    let (item, rest) ← classRange? verbose rest
    return .inside (current.push item) outer rest

/-- Goes on to the end of the outermost class, in at most `bound` steps. -/
def finishClass? (verbose : Bool) : (bound : Nat) → ClassProgress →
    Option (Bool × ClassTree × List Char)
  | _, .done negated inner rest => some (negated, inner, rest)
  | 0, .inside _ _ _ => none
  | bound + 1, .inside current outer rest => do
    finishClass? verbose bound (← classStep? verbose current outer rest)

/-- A bracketed class, after its opening bracket. -/
def class? (verbose : Bool) (rest : List Char) : Option (Bool × ClassTree × List Char) := do
  let (opened, left) ← openClass? verbose rest
  finishClass? verbose (rest.length + 1) (.inside opened [] left)

end LiveForm.Pattern
