import LiveForm.Unicode.Property
import LiveForm.Unicode.Recent

/-!
# Quoted text

A text in double quotes, as descriptions and messages show it. The quote, the backslash and the
common control characters are escaped by a letter; characters that do not print and those that
would attach to the character before them are written by their code point. An apostrophe stands
for itself.
-/

namespace LiveForm.Text

/-- Characters that have no visible form: controls, format characters, separators other than the
space, and code points without a character. -/
def invisible : CharSet :=
  (Unicode.Category.sets [.control, .format, .privateUse, .unassigned, .spaceSeparator,
    .lineSeparator, .paragraphSeparator]).diff (.singleton ' ')

/-- Voiced sound marks of half width. They belong to the character before them and yet take a
place of their own. -/
def spacedSoundMarks : CharSet := .ofText "ff9e-ff9f"

/-- Characters that a quoted text writes by their code point: those without a visible form, among
them the fillers, which are letters, and those that would be drawn on the character before. -/
def escapedByCode : CharSet :=
  (CharSet.unions [invisible, Unicode.Property.defaultIgnorable,
    Unicode.Property.graphemeExtend]).diff
    ((Unicode.Recent.all.diff Unicode.Recent.graphemeExtend).union spacedSoundMarks)

/-- One character as it stands inside quotes. -/
def quotedChar (c : Char) : List Char :=
  match c with
  | '\x00' => ['\\', '0']
  | '\t' => ['\\', 't']
  | '\r' => ['\\', 'r']
  | '\n' => ['\\', 'n']
  | '\\' => ['\\', '\\']
  | '"' => ['\\', '"']
  | c =>
    if escapedByCode.contains c then
      ['\\', 'u', '\x7b'] ++ Nat.toDigits 16 c.toNat ++ ['\x7d']
    else [c]

/-- The text in quotes. -/
def quoted (s : String) : String :=
  String.ofList ('"' :: s.toList.flatMap quotedChar ++ ['"'])

end LiveForm.Text
