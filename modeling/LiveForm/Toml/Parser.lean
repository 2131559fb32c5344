import LiveForm.Toml.Quoted
import LiveForm.Toml.Scalar

/-!
# Reading TOML documents

A document is read line by line: a header begins the section of a table, and every other line that
is not blank adds a value to the current section. Arrays and inline tables may go over several
lines and end in a comma; they may be nested `maxDepth` deep. In an inline table a line may also end
on either side of an equals sign, but never inside a key.
-/

namespace LiveForm.Toml

/-- Skips blanks, line ends and comments; `inComment` says whether a comment has begun. -/
def skipLines? : (inComment : Bool) → List Char → Option (List Char)
  | _, [] => some []
  | _, '\n' :: rest => skipLines? false rest
  | inComment, c :: rest =>
    if c = '\r' ∧ rest.head? = some '\n' then skipLines? inComment rest
    else if inComment then if isForbidden c then none else skipLines? true rest
    else if isSpace c then skipLines? false rest
    else if c = '#' then skipLines? true rest
    else some (c :: rest)

/-- What follows the end of a line, before which there may be blanks and a comment. -/
def endLine? (rest : List Char) : Option (List Char) :=
  match rest.dropWhile isSpace with
  | [] => some []
  | '#' :: comment =>
    let isText (c : Char) := c != '\n' && c != '\r'
    if (comment.takeWhile isText).any isForbidden then none
    else
      match comment.dropWhile isText with
      | [] => some []
      | rest => lineEnd? rest
  | rest => lineEnd? rest

/-- The items of an array, after its opening bracket. -/
def items? (value? : List Char → Option (Toml × List Char)) :
    (bound : Nat) → (items : List Toml) → List Char → Option (List Toml × List Char)
  | 0, _, _ => none
  | bound + 1, items, rest => do
    match ← skipLines? false rest with
    | ']' :: rest => return (items.reverse, rest)
    | rest =>
      let (item, rest) ← value? rest
      match ← skipLines? false rest with
      | ',' :: rest => items? value? bound (item :: items) rest
      | ']' :: rest => return ((item :: items).reverse, rest)
      | _ => none

/-- The equals sign and the value after a key. `skip?` passes what may stand around the sign. -/
def assigned? (skip? : List Char → Option (List Char))
    (value? : List Char → Option (Toml × List Char)) (rest : List Char) :
    Option (Toml × List Char) := do
  match ← skip? rest with
  | '=' :: rest => value? (← skip? rest)
  | _ => none

/-- The entries of an inline table, after its opening brace. -/
def inlineEntries? (value? : List Char → Option (Toml × List Char)) :
    (bound : Nat) → (entries : Entries) → List Char → Option (Entries × List Char)
  | 0, _, _ => none
  | bound + 1, entries, rest => do
    match ← skipLines? false rest with
    | '}' :: rest => return (entries, rest)
    | rest =>
      let (path, key, rest) ← key? maxDepth rest
      let (value, rest) ← assigned? (skipLines? false) value? rest
      let entries ← addValue path key value .inline entries
      match ← skipLines? false rest with
      | ',' :: rest => inlineEntries? value? bound entries rest
      | '}' :: rest => return (entries, rest)
      | _ => none

/-- A value, with at most `depth` containers inside each other, and what follows it. -/
def value? : (depth : Nat) → List Char → Option (Toml × List Char)
  | depth, rest =>
    match rest, depth with
    | '[' :: _, 0 => none
    | '{' :: _, 0 => none
    | '[' :: rest, depth + 1 => do
      let (items, rest) ← items? (value? depth) (rest.length + 1) [] rest
      return (.array items, rest)
    | '{' :: rest, depth + 1 => do
      let (entries, rest) ← inlineEntries? (value? depth) (rest.length + 1) [] rest
      return (.table .inline entries, rest)
    | '"' :: _, _ => (text? rest).map fun (_, rest) => (.scalar, rest)
    | '\'' :: _, _ => (text? rest).map fun (_, rest) => (.scalar, rest)
    | _, _ => scalar? rest

/-- A document part way through: all tables so far, and the path of the current section. -/
structure Document where
  root : Entries
  current : List String

/-- One line that is not blank, up to its end. -/
def line? (d : Document) (rest : List Char) : Option (Document × List Char) :=
  match rest with
  | '[' :: '[' :: rest => do
    let (path, key, rest) ← key? maxDepth rest
    match rest with
    | ']' :: ']' :: rest => return (⟨← openTables path key d.root, path ++ [key]⟩, rest)
    | _ => none
  | '[' :: rest => do
    let (path, key, rest) ← key? maxDepth rest
    match rest with
    | ']' :: rest => return (⟨← openTable path key d.root, path ++ [key]⟩, rest)
    | _ => none
  | rest => do
    let (path, key, rest) ← key? maxDepth rest
    let (value, rest) ← assigned? (fun rest => some (rest.dropWhile isSpace)) (value? maxDepth) rest
    let root ← changeAt false (addValue path key value) d.current .headed d.root
    return ({ d with root := root }, rest)

/-- Reads the lines of a document, at most `bound` of them. -/
def lines? : (bound : Nat) → Document → List Char → Option Entries
  | bound, d, rest =>
    match skipLines? false rest, bound with
    | none, _ => none
    | some [], _ => some d.root
    | some (_ :: _), 0 => none
    | some (c :: rest), bound + 1 => do
      let (d, rest) ← line? d (c :: rest)
      lines? bound d (← endLine? rest)

/-- The root table of a document, which a byte-order mark may precede. -/
def parse? (text : String) : Option Entries :=
  let chars := text.toList
  let chars := if chars.head? = some '\ufeff' then chars.tail else chars
  lines? chars.length ⟨[], []⟩ chars

end LiveForm.Toml
