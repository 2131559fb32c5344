import LiveForm.Json.Basic

/-!
# The compact text of a JSON value

Values are written without any space, entries in their order. In strings the quote, the
backslash and the control characters below U+0020 are escaped, the five common ones by a
letter and the others by four lower-case hexadecimal digits; everything else stands for itself.
-/

namespace LiveForm.Json

/-- A natural number as at least `width` lower-case hexadecimal digits. -/
def hexDigits (width n : Nat) : List Char :=
  let digits := Nat.toDigits 16 n
  List.replicate (width - digits.length) '0' ++ digits

/-- One character as it is written inside a string. -/
def escapeChar (c : Char) : List Char :=
  match c with
  | '"' => ['\\', '"']
  | '\\' => ['\\', '\\']
  | '\x08' => ['\\', 'b']
  | '\x0c' => ['\\', 'f']
  | '\n' => ['\\', 'n']
  | '\r' => ['\\', 'r']
  | '\t' => ['\\', 't']
  | c => if c.toNat < 0x20 then '\\' :: 'u' :: hexDigits 4 c.toNat else [c]

def quote (s : String) : String :=
  String.ofList ('"' :: s.toList.flatMap escapeChar ++ ['"'])

mutual

def text : Json → String
  | null => "null"
  | bool true => "true"
  | bool false => "false"
  | number n => n.text
  | string s => quote s
  | array items => "[" ++ String.intercalate "," (itemTexts items) ++ "]"
  | object entries => "\x7b" ++ String.intercalate "," (entryTexts entries) ++ "\x7d"

def itemTexts : List Json → List String
  | [] => []
  | v :: rest => text v :: itemTexts rest

def entryTexts : List (String × Json) → List String
  | [] => []
  | (key, v) :: rest => (quote key ++ ":" ++ text v) :: entryTexts rest

end

end LiveForm.Json
