import LiveForm.CharSet
import LiveForm.Pattern.Regex

/-!
# Sets of characters as rows of byte ranges

The encodings of the characters of a set, in increasing order, are covered by rows of byte ranges:
a row stands for every sequence that takes its first byte from the first range, its second from the
second, and so on. A row holds characters of one length only.

An expression whose sets are given in this way is an expression over bytes.
-/

namespace LiveForm.Pattern

/-- A range of bytes, both ends included. -/
abbrev ByteRange := Nat × Nat

/-- One range for each byte of an encoding. -/
abbrev ByteRow := List ByteRange

/-- A word as bytes. -/
abbrev Word := List Nat

/-- The rows of byte ranges for the values from `lo` to `hi` of `k` continuation bytes and a leading
part that is marked by `lead`. -/
def byteRows (lead : Nat) : (k : Nat) → (lo hi : Nat) → List ByteRow
  | 0, lo, hi => [[(lead + lo, lead + hi)]]
  | k + 1, lo, hi =>
    let block := Nat.pow 64 (k + 1)
    let first := lo / block
    let last := hi / block
    let within (n lo hi : Nat) : List ByteRow :=
      (byteRows 0x80 k lo hi).map ((lead + n, lead + n) :: ·)
    if first = last then within first (lo % block) (hi % block)
    else
      let head := if lo % block = 0 then [] else within first (lo % block) (block - 1)
      let tail := if hi % block = block - 1 then [] else within last 0 (hi % block)
      let start := if lo % block = 0 then first else first + 1
      let stop := if hi % block = block - 1 then last + 1 else last
      let middle :=
        if start < stop then
          [(lead + start, lead + stop - 1) :: List.replicate (k + 1) (0x80, 0xBF)]
        else []
      head ++ middle ++ tail

/-- The rows of a range of characters, split where the length of the encoding changes. -/
def rowsOfRange (range : Nat × Nat) : List ByteRow :=
  let part (lead k lo hi : Nat) : List ByteRow :=
    let lo := Nat.max lo range.1
    let hi := Nat.min hi range.2
    if lo ≤ hi then byteRows lead k lo hi else []
  part 0 0 0 0x7F ++ part 0xC0 1 0x80 0x7FF ++ part 0xE0 2 0x800 0xFFFF ++
    part 0xF0 3 0x10000 0x10FFFF

def rowsOfSet (set : CharSet) : List ByteRow := set.ranges.flatMap rowsOfRange

namespace ByteRow

/-- The bytes of the row of a single character. -/
def bytes (row : ByteRow) : Word := row.map Prod.fst

/-- How many characters a row stands for. -/
def count : ByteRow → Nat
  | [] => 1
  | (lo, hi) :: row => (hi + 1 - lo) * count row

/-- The encodings of the characters that a row stands for, in increasing order. -/
def words : ByteRow → List Word
  | [] => [[]]
  | (lo, hi) :: row =>
    (List.range' lo (hi + 1 - lo)).flatMap fun byte => (words row).map (byte :: ·)

/-- A row stands for as many characters as it has encodings. -/
theorem length_words (row : ByteRow) : row.words.length = row.count := by
  induction row with
  | nil => rfl
  | cons range row ih => simp [words, count, List.length_flatMap, ih, List.map_const']

end ByteRow

/-- An expression whose sets are given by their rows. -/
abbrev ByteRegex (κ : Type) := Regex (List ByteRow) κ

def letterBytes (rows : List ByteRow) : Word := rows.flatMap ByteRow.bytes

/-- The bytes of an expression that is a word. -/
def asWord? {κ : Type} : ByteRegex κ → Option Word
  | .word letters => some (letters.flatMap letterBytes)
  | _ => none

end LiveForm.Pattern
