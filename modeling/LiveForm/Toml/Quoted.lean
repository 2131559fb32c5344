import LiveForm.Pattern.Cursor
import LiveForm.Toml.Basic

/-!
# Quoted texts of TOML

Basic texts are in double quotes and know escapes, literal texts in single quotes and know none.
Three quotes enclose a text of several lines, which may end in up to two further quotes of its own.
Control characters other than the tab stand in no text.
-/

namespace LiveForm.Toml

/-- A character that may not be written as it is. -/
def isForbidden (c : Char) : Bool := (c.toNat < 0x20 && c != '\t') || c.toNat = 0x7F

def isSpace (c : Char) : Bool := c = ' ' || c = '\t'

/-- Where the scan of a text stands. -/
inductive TextScan where
  | plain
  | escape
  /-- Digits of a code point: how many are missing, and the value so far. -/
  | code (missing value : Nat)
  /-- After a backslash and blanks: the line must end. -/
  | blankToEnd
  /-- After a backslash at the end of a line: blanks and line ends do not count. -/
  | continued
  deriving DecidableEq

/-- The style of a quoted text. -/
structure TextStyle where
  quote : Char
  escapes : Bool
  multiline : Bool

/-- What an escape by a letter stands for. -/
def escaped? : Char → Option Char
  | 'b' => some '\x08'
  | 't' => some '\t'
  | 'n' => some '\n'
  | 'f' => some '\x0c'
  | 'r' => some '\r'
  | 'e' => some '\x1b'
  | '"' => some '"'
  | '\\' => some '\\'
  | _ => none

/-- The number of digits after the letter of a code point. -/
def codeDigits? : Char → Option Nat
  | 'x' => some 2
  | 'u' => some 4
  | 'U' => some 8
  | _ => none

/-- The end of a text at a quote: the further quotes that belong to the text, and what follows. -/
def closing? (style : TextStyle) (rest : List Char) : Option (List Char × List Char) :=
  if style.multiline then
    let quotes := (rest.takeWhile (· = style.quote)).length
    if quotes < 2 then none
    else
      let own := min (quotes - 2) 2
      some (List.replicate own style.quote, rest.drop (own + 2))
  else some ([], rest)

/-- A line end at the front, and what follows it. -/
def lineEnd? : List Char → Option (List Char)
  | '\n' :: rest => some rest
  | '\r' :: '\n' :: rest => some rest
  | _ => none

/-- Scans a text after its opening quotes. `collected` is in reverse. -/
def textFrom? (style : TextStyle) : TextScan → (collected : List Char) → List Char →
    Option (List Char × List Char)
  | _, _, [] => none
  | .code missing value, collected, c :: rest => do
    let value := 16 * value + (← Json.Token.hexValue? c)
    if missing ≤ 1 then
      textFrom? style .plain ((← Pattern.charOfPoint? value) :: collected) rest
    else textFrom? style (.code (missing - 1) value) collected rest
  | .escape, collected, c :: rest =>
    match escaped? c, codeDigits? c with
    | some d, _ => textFrom? style .plain (d :: collected) rest
    | none, some digits => textFrom? style (.code digits 0) collected rest
    | none, none =>
      if !style.multiline then none
      else if isSpace c then textFrom? style .blankToEnd collected rest
      else if c = '\n' then textFrom? style .continued collected rest
      else if c = '\r' ∧ rest.head? = some '\n' then textFrom? style .continued collected rest
      else none
  | .blankToEnd, collected, c :: rest =>
    if isSpace c then textFrom? style .blankToEnd collected rest
    else if c = '\n' then textFrom? style .continued collected rest
    else if c = '\r' ∧ rest.head? = some '\n' then textFrom? style .continued collected rest
    else none
  | scan, collected, c :: rest =>
    if scan = .continued ∧ (isSpace c ∨ c = '\n') then textFrom? style .continued collected rest
    else if c = '\r' ∧ style.multiline ∧ rest.head? = some '\n' then
      textFrom? style scan collected rest
    else if c = '\n' ∧ style.multiline then textFrom? style .plain (c :: collected) rest
    else if c = style.quote then
      match closing? style rest with
      | some (own, rest) => some ((own ++ collected).reverse, rest)
      | none => textFrom? style .plain (c :: collected) rest
    else if c = '\\' ∧ style.escapes then textFrom? style .escape collected rest
    else if isForbidden c then none
    else textFrom? style .plain (c :: collected) rest

/-- A text on one line, after its opening quote. -/
def lineText? (quote : Char) (rest : List Char) : Option (List Char × List Char) :=
  textFrom? ⟨quote, quote = '"', false⟩ .plain [] rest

/-- A text of several lines, after its opening quotes. A line end right there does not count. -/
def blockText? (quote : Char) (rest : List Char) : Option (List Char × List Char) :=
  textFrom? ⟨quote, quote = '"', true⟩ .plain [] ((lineEnd? rest).getD rest)

/-- A quoted text of any style. -/
def text? : List Char → Option (List Char × List Char)
  | '"' :: '"' :: '"' :: rest => blockText? '"' rest
  | '\'' :: '\'' :: '\'' :: rest => blockText? '\'' rest
  | '"' :: rest => lineText? '"' rest
  | '\'' :: rest => lineText? '\'' rest
  | _ => none

/-- A character of a key without quotes. -/
def isKeyChar (c : Char) : Bool := c.isAlphanum || c = '_' || c = '-'

/-- One part of a key. -/
def keyPart? (rest : List Char) : Option (String × List Char) :=
  match rest with
  | '"' :: rest => (lineText? '"' rest).map fun (key, rest) => (String.ofList key, rest)
  | '\'' :: rest => (lineText? '\'' rest).map fun (key, rest) => (String.ofList key, rest)
  | rest =>
    let key := rest.takeWhile isKeyChar
    if key.isEmpty then none else some (String.ofList key, rest.dropWhile isKeyChar)

/-- How deep arrays and inline tables may be nested, and how many parts a key may have. -/
def maxDepth : Nat := 80

/-- A dotted key with blanks around it: its parts before the last, in order, and the last. It has at
most `bound` parts. -/
def key? : (bound : Nat) → List Char → Option (List String × String × List Char)
  | 0, _ => none
  | bound + 1, rest => do
    let (part, rest) ← keyPart? (rest.dropWhile isSpace)
    match rest.dropWhile isSpace with
    | '.' :: rest =>
      let (path, last, rest) ← key? bound rest
      return (part :: path, last, rest)
    | rest => return ([], part, rest)

end LiveForm.Toml
