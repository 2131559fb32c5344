import LiveForm.Double.Scaling
import LiveForm.Json.Basic

/-!
# Reading a JSON document

A document is read in two passes. `Token.scan?` splits the text into tokens, one character at a
time; `Json.ofTokens?` builds the value with a stack of the containers that are still open.
Both walk their input once, so both end for every input.

Reading is strict: no comments, no trailing commas, no control characters in strings, no lone
surrogates, no numbers beyond the range of doubles and at most `maxDepth` open containers.
-/

namespace LiveForm.Json

/-- A lexical unit of a document. -/
inductive Token where
  | openArray
  | closeArray
  | openObject
  | closeObject
  | colon
  | comma
  | scalar (value : Json)
  deriving Inhabited

namespace Token

/-- The number that a lexeme writes: no plus sign, no leading zeros, digits on both sides of a
point. Integers outside of 64 bits and the integer `-0` are doubles. A double is read step by step,
so it is not always the nearest one. -/
def number? (lexeme : List Char) : Option Number := do
  let n ← Numeral.scan? lexeme
  guard (n.sign ≠ some false)
  guard (n.whole = ['0'] ∨ (n.whole ≠ [] ∧ n.whole.head? ≠ some '0'))
  guard (n.fraction ≠ some [])
  let magnitude := Numeral.digitsValue n.whole
  if n.isInteger ∧ !n.negative ∧ magnitude < 0x10000000000000000 then some (.int magnitude)
  else if n.isInteger ∧ n.negative ∧ magnitude ≠ 0 ∧ magnitude ≤ 0x8000000000000000 then
    some (.int (-magnitude))
  else n.stepwise?.map .double

/-- The token that a lexeme of letters, digits, signs and points stands for. -/
def ofLexeme? (lexeme : List Char) : Option Token :=
  match String.ofList lexeme with
  | "null" => some (.scalar .null)
  | "true" => some (.scalar (.bool true))
  | "false" => some (.scalar (.bool false))
  | _ => (number? lexeme).map fun n => .scalar (.number n)

/-- Where a scan stands. Collected characters are in reverse. -/
inductive Scan where
  | between
  | lexeme (collected : List Char)
  | text (collected : List Char)
  | escape (collected : List Char)
  /-- Inside the four digits of a code unit, after the high surrogate `high` if there was one. -/
  | unit (collected : List Char) (high : Option Nat) (missing value : Nat)
  /-- After a high surrogate: the backslash of the low one must follow. -/
  | lowEscape (collected : List Char) (high : Nat)
  /-- After a high surrogate and a backslash. -/
  | lowMark (collected : List Char) (high : Nat)

def hexValue? (c : Char) : Option Nat :=
  if c.isDigit then some (c.toNat - '0'.toNat)
  else if 'a' ≤ c ∧ c ≤ 'f' then some (c.toNat - 'a'.toNat + 10)
  else if 'A' ≤ c ∧ c ≤ 'F' then some (c.toNat - 'A'.toNat + 10)
  else none

def isHighSurrogate (n : Nat) : Bool := 0xD800 ≤ n && n < 0xDC00

def isLowSurrogate (n : Nat) : Bool := 0xDC00 ≤ n && n < 0xE000

def isLexemeChar (c : Char) : Bool := c.isAlphanum || c = '+' || c = '-' || c = '.'

/-- What an escape by a letter stands for. -/
def escaped? : Char → Option Char
  | '"' => some '"'
  | '\\' => some '\\'
  | '/' => some '/'
  | 'b' => some '\x08'
  | 'f' => some '\x0c'
  | 'n' => some '\n'
  | 'r' => some '\r'
  | 't' => some '\t'
  | _ => none

/-- The token that a character is by itself. -/
def punctuation? : Char → Option Token
  | '[' => some .openArray
  | ']' => some .closeArray
  | '{' => some .openObject
  | '}' => some .closeObject
  | ':' => some .colon
  | ',' => some .comma
  | _ => none

/-- The step between two tokens: the new tokens are put in front of the earlier ones. -/
def start? (tokens : List Token) (c : Char) : Option (List Token × Scan) :=
  if c = ' ' ∨ c = '\t' ∨ c = '\n' ∨ c = '\r' then some (tokens, .between)
  else if c = '"' then some (tokens, .text [])
  else if isLexemeChar c then some (tokens, .lexeme [c])
  else (punctuation? c).map fun t => (t :: tokens, .between)

/-- What a complete code unit leads to. -/
def unitEnd? (collected : List Char) (high : Option Nat) (value : Nat) : Option Scan :=
  match high with
  | some h =>
    if isLowSurrogate value then
      some (.text (Char.ofNat (0x10000 + (h - 0xD800) * 0x400 + (value - 0xDC00)) :: collected))
    else none
  | none =>
    if isHighSurrogate value then some (.lowEscape collected value)
    else if isLowSurrogate value then none
    else some (.text (Char.ofNat value :: collected))

/-- One character of the scan. -/
def step? (tokens : List Token) (scan : Scan) (c : Char) : Option (List Token × Scan) :=
  match scan with
  | .between => start? tokens c
  | .lexeme collected =>
    if isLexemeChar c then some (tokens, .lexeme (c :: collected))
    else do start? ((← ofLexeme? collected.reverse) :: tokens) c
  | .text collected =>
    if c = '"' then some (.scalar (.string (String.ofList collected.reverse)) :: tokens, .between)
    else if c = '\\' then some (tokens, .escape collected)
    else if c.toNat < 0x20 then none
    else some (tokens, .text (c :: collected))
  | .escape collected =>
    if c = 'u' then some (tokens, .unit collected none 4 0)
    else do return (tokens, .text ((← escaped? c) :: collected))
  | .unit collected high missing value => do
    let value := 16 * value + (← hexValue? c)
    if missing = 1 then return (tokens, ← unitEnd? collected high value)
    else return (tokens, .unit collected high (missing - 1) value)
  | .lowEscape collected high => if c = '\\' then some (tokens, .lowMark collected high) else none
  | .lowMark collected high =>
    if c = 'u' then some (tokens, .unit collected (some high) 4 0) else none

/-- Scans on from a given point, with the earlier tokens in reverse. -/
def scanFrom? (tokens : List Token) (scan : Scan) : List Char → Option (List Token)
  | [] =>
    match scan with
    | .between => some tokens.reverse
    | .lexeme collected => do return ((← ofLexeme? collected.reverse) :: tokens).reverse
    | _ => none
  | c :: rest =>
    match step? tokens scan c with
    | some (tokens, scan) => scanFrom? tokens scan rest
    | none => none

/-- The tokens of a text. -/
def scan? (text : String) : Option (List Token) := scanFrom? [] .between text.toList

end Token

/-- At most this many containers may be open at once. -/
def maxDepth : Nat := 127

/-- A container that is still open. Items are in reverse, entries in order. -/
inductive Frame where
  | array (items : List Json)
  | object (entries : Entries) (key : String)

/-- What may come next. -/
inductive Expected where
  | value
  | valueOrClose
  | key (entries : Entries)
  | keyOrClose
  | colon (entries : Entries) (key : String)
  | commaOrClose

/-- A document part way through: the open containers, the innermost first. -/
inductive Progress where
  | inside (frames : List Frame) (expected : Expected)
  | done (value : Json)

namespace Progress

/-- Puts a complete value into the innermost open container. -/
def supply (value : Json) : List Frame → Progress
  | [] => .done value
  | .array items :: outer => .inside (.array (value :: items) :: outer) .commaOrClose
  | .object entries key :: outer =>
    .inside (.object (entries.insert key value) key :: outer) .commaOrClose

/-- A token where a value may stand. -/
def value? (frames : List Frame) : Token → Option Progress
  | .scalar v => some (supply v frames)
  | .openArray =>
    if frames.length < maxDepth then some (.inside (.array [] :: frames) .valueOrClose) else none
  | .openObject => if frames.length < maxDepth then some (.inside frames .keyOrClose) else none
  | _ => none

/-- One token of the document. -/
def step? : Progress → Token → Option Progress
  | .done _, _ => none
  | .inside frames .value, token => value? frames token
  | .inside (.array [] :: outer) .valueOrClose, .closeArray => some (supply (.array []) outer)
  | .inside frames .valueOrClose, token => value? frames token
  | .inside frames .keyOrClose, .closeObject => some (supply (.object []) frames)
  | .inside frames .keyOrClose, .scalar (.string key) => some (.inside frames (.colon [] key))
  | .inside frames (.key entries), .scalar (.string key) =>
    some (.inside frames (.colon entries key))
  | .inside frames (.colon entries key), .colon =>
    some (.inside (.object entries key :: frames) .value)
  | .inside (.array items :: outer) .commaOrClose, .comma =>
    some (.inside (.array items :: outer) .value)
  | .inside (.array items :: outer) .commaOrClose, .closeArray =>
    some (supply (.array items.reverse) outer)
  | .inside (.object entries _ :: outer) .commaOrClose, .comma =>
    some (.inside outer (.key entries))
  | .inside (.object entries _ :: outer) .commaOrClose, .closeObject =>
    some (supply (.object entries) outer)
  | _, _ => none

end Progress

def ofTokens? (tokens : List Token) : Option Json := do
  match ← tokens.foldlM Progress.step? (.inside [] .value) with
  | .done value => some value
  | .inside _ _ => none

/-- The value of a JSON document. -/
def parse? (text : String) : Option Json := do ofTokens? (← Token.scan? text)

end LiveForm.Json
