import LiveForm.Double.Numeral
import LiveForm.Json.Parser
import LiveForm.Pattern.Syntax
import LiveForm.Text.Blank

/-!
# Reading the small parts of a pattern

Every reader takes the characters that are left and returns what it has read together with the
rest, or nothing when the text is at fault. In verbose mode blanks and comments may stand between
most characters; `space` skips them.
-/

namespace LiveForm.Pattern

/-- Skips blanks and comments; `inComment` says whether a comment has begun. -/
def skipSpace : (inComment : Bool) → List Char → List Char
  | _, [] => []
  | false, c :: rest =>
    if Text.isBlank c then skipSpace false rest
    else if c = '#' then skipSpace true rest
    else c :: rest
  | true, c :: rest => skipSpace (c ≠ '\n') rest

/-- What follows the blanks and comments, where these do not count. -/
def space (verbose : Bool) (rest : List Char) : List Char :=
  if verbose then skipSpace false rest else rest

/-- The next character of weight, looking past blanks and the mark of one comment. -/
def peekSpace (verbose : Bool) (rest : List Char) : Option Char :=
  if verbose then
    match rest.dropWhile Text.isBlank with
    | '#' :: comment =>
      match comment.dropWhile Text.isBlank with
      | c :: _ => some c
      | [] => rest.head?
    | c :: _ => some c
    | [] => rest.head?
  else rest.head?

/-- Collects at most `bound` characters that satisfy `p`; after each, what does not count is
skipped. -/
def collect (verbose : Bool) (p : Char → Bool) : (bound : Nat) → List Char → List Char × List Char
  | 0, rest => ([], rest)
  | _, [] => ([], [])
  | bound + 1, c :: rest =>
    if p c then
      let (taken, left) := collect verbose p bound (space verbose rest)
      (c :: taken, left)
    else ([], c :: rest)

/-- Collects every character up to a mark, and drops the mark. -/
def collectUntil? (verbose : Bool) (mark : Char) (rest : List Char) :
    Option (List Char × List Char) :=
  match collect verbose (· ≠ mark) rest.length (space verbose rest) with
  | (taken, _ :: left) => some (taken, left)
  | (_, []) => none

/-- A decimal number below `2 ^ 32` with blanks on either side. -/
def decimal? (verbose : Bool) (rest : List Char) : Option Nat × List Char :=
  let rest := rest.dropWhile Text.isBlank
  let (digits, rest) := collect verbose Char.isDigit rest.length rest
  let value := Numeral.digitsValue digits
  let rest := (space verbose rest).dropWhile Text.isBlank
  (if digits ≠ [] ∧ value < 0x100000000 then some value else none, space verbose rest)

/-- The bounds of a counted repetition, after its opening brace. -/
def counts? (verbose : Bool) (rest : List Char) : Option (Nat × Option Nat × List Char) := do
  let (lo, rest) := decimal? verbose (space verbose rest)
  let lo ← lo
  match rest with
  | '}' :: rest => some (lo, some lo, rest)
  | ',' :: rest =>
    match space verbose rest with
    | '}' :: rest => some (lo, none, rest)
    | rest =>
      let (hi, rest) := decimal? verbose rest
      let hi ← hi
      match rest with
      | '}' :: rest => if lo ≤ hi then some (lo, some hi, rest) else none
      | _ => none
  | _ => none

def charOfPoint? (n : Nat) : Option Char :=
  if n.isValidChar then some (Char.ofNat n) else none

def hexValue? (digits : List Char) : Option Nat :=
  digits.foldlM (fun n c => do return 16 * n + (← Json.Token.hexValue? c)) 0

/-- A character by its code point: a fixed number of digits, or any number in braces. -/
def codePoint? (verbose : Bool) (digits : Nat) (rest : List Char) :
    Option (Char × Bool × List Char) :=
  match space verbose rest with
  | '{' :: rest => do
    let (digits, rest) ← collectUntil? verbose '}' rest
    guard (digits ≠ [])
    return (← charOfPoint? (← hexValue? digits), false, rest)
  | rest => do
    let (taken, rest) := collect verbose (fun c => (Json.Token.hexValue? c).isSome) digits rest
    guard (taken.length = digits)
    return (← charOfPoint? (← hexValue? taken), true, rest)

/-- Splits at the first place where a text occurs. -/
def splitAt? (mark : List Char) : List Char → Option (List Char × List Char)
  | [] => none
  | c :: rest =>
    if mark.isPrefixOf (c :: rest) then some ([], (c :: rest).drop mark.length)
    else (splitAt? mark rest).map fun (before, after) => (c :: before, after)

/-- What the braces after a property mark ask for. -/
def PropertyQuery.ofText (text : List Char) : PropertyQuery :=
  let valued (differs : Bool) (parts : List Char × List Char) : PropertyQuery :=
    .valued (String.ofList parts.1) differs (String.ofList parts.2)
  match splitAt? ['!', '='] text, splitAt? [':'] text <|> splitAt? ['='] text with
  | some parts, _ => valued true parts
  | none, some parts => valued false parts
  | none, none => .named (String.ofList text)

/-- A property in braces or as a single letter. -/
def property? (verbose : Bool) (rest : List Char) : Option (PropertyQuery × List Char) :=
  match space verbose rest with
  | '{' :: rest => do
    let (text, rest) ← collectUntil? verbose '}' rest
    return (PropertyQuery.ofText text, rest)
  | c :: rest => if c = '\\' then none else some (.named (String.ofList [c]), rest)
  | [] => none

/-- A unit that is written by one character or one escape. -/
inductive Primitive where
  | literal (l : Literal)
  | dot
  | assertion (kind : Assertion)
  | shorthand (negated : Bool) (kind : Shorthand)
  | property (negated : Bool) (query : PropertyQuery)

def Primitive.toAst : Primitive → Ast
  | .literal l => .literal l
  | .dot => .dot
  | .assertion kind => .assertion kind
  | .shorthand negated kind => .shorthand negated kind
  | .property negated query => .property negated query

/-- The part of a class that a unit may be; assertions are none. -/
def Primitive.toClass? : Primitive → Option ClassTree
  | .literal l => some (.literal l)
  | .shorthand negated kind => some (.shorthand negated kind)
  | .property negated query => some (.property negated query)
  | _ => none

/-- A character that stands for itself. -/
def Primitive.ofChar (c : Char) : Primitive := .literal ⟨c, false⟩

/-- Characters that may be escaped to stand for themselves: ASCII but neither letters, digits nor
angle brackets. -/
def isEscapable (c : Char) : Bool := c.toNat < 0x80 && !c.isAlphanum && c != '<' && c != '>'

def isBoundaryChar (c : Char) : Bool := c.isAlpha || c = '-'

/-- The word boundary that a name in braces asks for. -/
def boundaryNamed? : String → Option Assertion
  | "start" => some .wordStart
  | "end" => some .wordEnd
  | "start-half" => some .wordStartHalf
  | "end-half" => some .wordEndHalf
  | _ => none

/-- A word boundary, after its letter. Braces that do not begin with a letter are left to be read
as a repetition. -/
def boundary? (verbose : Bool) (rest : List Char) : Option (Primitive × List Char) :=
  match rest with
  | '{' :: inside => do
    let inside := space verbose inside
    let first ← inside.head?
    if isBoundaryChar first then
      let (name, left) := collect verbose isBoundaryChar inside.length inside
      guard (left.head? = some '}')
      return (.assertion (← boundaryNamed? (String.ofList name)), left.tail)
    else return (.assertion .wordBoundary, rest)
  | _ => some (.assertion .wordBoundary, rest)

/-- What follows a backslash. -/
def escape? (verbose : Bool) : List Char → Option (Primitive × List Char)
  | [] => none
  | c :: rest =>
    let special (c : Char) : Option (Primitive × List Char) := some (.literal ⟨c, false⟩, rest)
    let code (digits : Nat) (isByte : Bool) : Option (Primitive × List Char) := do
      let (c, fixed, rest) ← codePoint? verbose digits rest
      return (.literal ⟨c, fixed && isByte⟩, rest)
    let asked (negated : Bool) : Option (Primitive × List Char) := do
      let (query, rest) ← property? verbose rest
      return (.property negated query, rest)
    match c with
    | 'x' => code 2 true
    | 'u' => code 4 false
    | 'U' => code 8 false
    | 'p' => asked false
    | 'P' => asked true
    | 'd' => some (.shorthand false .digit, rest)
    | 'D' => some (.shorthand true .digit, rest)
    | 's' => some (.shorthand false .space, rest)
    | 'S' => some (.shorthand true .space, rest)
    | 'w' => some (.shorthand false .word, rest)
    | 'W' => some (.shorthand true .word, rest)
    | 'a' => special '\x07'
    | 'f' => special '\x0c'
    | 't' => special '\t'
    | 'n' => special '\n'
    | 'r' => special '\r'
    | 'v' => special '\x0b'
    | 'A' => some (.assertion .textStart, rest)
    | 'z' => some (.assertion .textEnd, rest)
    | 'b' => boundary? verbose rest
    | 'B' => some (.assertion .noWordBoundary, rest)
    | '<' => some (.assertion .wordStart, rest)
    | '>' => some (.assertion .wordEnd, rest)
    | c => if isEscapable c then special c else none

end LiveForm.Pattern
