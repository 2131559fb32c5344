/-!
# Blank characters and trimming

A blank is a character with the white-space property: the ASCII blanks, the next-line and
no-break spaces, and the spaces and separators of the wider character set. Zero-width
characters are not blanks.
-/

namespace LiveForm.Text

def isBlank (c : Char) : Bool :=
  let n := c.toNat
  (0x9 ≤ n && n ≤ 0xD) || n == 0x20 || n == 0x85 || n == 0xA0 || n == 0x1680 ||
    (0x2000 ≤ n && n ≤ 0x200A) || n == 0x2028 || n == 0x2029 || n == 0x202F || n == 0x205F ||
    n == 0x3000

/-- The characters without the blanks on either side. -/
def trimChars (chars : List Char) : List Char :=
  ((chars.dropWhile isBlank).reverse.dropWhile isBlank).reverse

def trim (s : String) : String := String.ofList (trimChars s.toList)

/-- The text has no character other than blanks. -/
def isAllBlank (s : String) : Bool := s.toList.all isBlank

theorem dropWhile_isBlank_eq_nil_iff (chars : List Char) :
    chars.dropWhile isBlank = [] ↔ ∀ c ∈ chars, isBlank c = true := by
  induction chars with
  | nil => simp
  | cons c rest ih => by_cases h : isBlank c <;> simp [h, ih]

theorem trimChars_eq_nil_iff (chars : List Char) :
    trimChars chars = [] ↔ ∀ c ∈ chars, isBlank c = true := by
  constructor
  · intro none c member
    have blank := (dropWhile_isBlank_eq_nil_iff _).1 (List.reverse_eq_nil_iff.1 none)
    have dropped : chars.dropWhile isBlank = [] := by
      cases h : chars.dropWhile isBlank with
      | nil => rfl
      | cons d rest =>
        have first := List.head_dropWhile_not isBlank (l := chars) (by simp [h])
        have inside := blank d (by simp [h])
        simp [h, inside] at first
    exact (dropWhile_isBlank_eq_nil_iff _).1 dropped c member
  · intro all
    simp [trimChars, (dropWhile_isBlank_eq_nil_iff _).2 all]

/-- Trimming leaves nothing exactly when there are only blanks. -/
theorem trim_eq_empty_iff (s : String) : trim s = "" ↔ isAllBlank s = true := by
  rw [isAllBlank, List.all_eq_true, ← trimChars_eq_nil_iff, trim]
  constructor
  · intro h
    simpa using congrArg String.toList h
  · intro h
    rw [h]

/-- A letter of ASCII in lower case; every other character stays. -/
def lowerAscii (s : String) : String := String.ofList (s.toList.map Char.toLower)

end LiveForm.Text
