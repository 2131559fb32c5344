import LiveForm.Json.Basic
import LiveForm.Text.Quoted

/-!
# Faults of a document

When a JSON value cannot be read as a value of some type, the `Fault` says what was met and what
was wanted. The wording is in `Fault.message`.
-/

namespace LiveForm

/-- What was met, as far as a message shows it. -/
inductive Found where
  | null
  | boolean (value : Bool)
  | integer (value : Int)
  | floating (value : Double.Finite)
  | string (value : String)
  | sequence
  | mapping
  deriving DecidableEq

/-- What was wanted. -/
inductive Wanted where
  | boolean
  | string
  | sequence
  | count
  | number
  /-- One of a fixed set of names, by itself or as the only key of an object. -/
  | choice
  /-- An object with one key. -/
  | singleKey
  /-- The value beside a name that carries none. -/
  | unit
  | record (name : String)
  deriving DecidableEq

/-- Why a value cannot be read. -/
inductive Fault where
  | missing (key : String)
  | unknownName (name : String) (known : List String)
  | wrongType (found : Found) (wanted : Wanted)
  | wrongValue (found : Found) (wanted : Wanted)
  /-- The array form of a record ends before an element that cannot be left out. -/
  | tooShort (length : Nat) (record : String) (size : Nat)
  /-- The array form of a record goes on after its last element. -/
  | tooLong (length : Nat)
  deriving DecidableEq

namespace Found

/-- What a value is to a message. -/
def ofJson : Json → Found
  | .null => null
  | .bool b => boolean b
  | .number (.int n) => integer n
  | .number (.double x) => floating x
  | .string s => string s
  | .array _ => sequence
  | .object _ => mapping

def text : Found → String
  | null => "null"
  | boolean b => "boolean `" ++ (if b then "true" else "false") ++ "`"
  | integer n => "integer `" ++ toString n ++ "`"
  | floating x => "floating point `" ++ Double.Layout.document.finiteText x ++ "`"
  | string s => "string " ++ Text.quoted s
  | sequence => "sequence"
  | mapping => "map"

end Found

namespace Wanted

def text : Wanted → String
  | boolean => "a boolean"
  | string => "a string"
  | sequence => "a sequence"
  | count => "usize"
  | number => "f64"
  | choice => "string or map"
  | singleKey => "map with a single key"
  | unit => "unit"
  | record name => "struct " ++ name

end Wanted

namespace Fault

def ticked (name : String) : String := "`" ++ name ++ "`"

def message : Fault → String
  | missing key => "missing field " ++ ticked key
  | unknownName name known =>
    "unknown variant " ++ ticked name ++ ", expected one of " ++
      String.intercalate ", " (known.map ticked)
  | wrongType found wanted => "invalid type: " ++ found.text ++ ", expected " ++ wanted.text
  | wrongValue found wanted => "invalid value: " ++ found.text ++ ", expected " ++ wanted.text
  | tooShort length record size =>
    "invalid length " ++ toString length ++ ", expected struct " ++ record ++ " with " ++
      toString size ++ " elements"
  | tooLong length =>
    "invalid length " ++ toString length ++ ", expected fewer elements in array"

end Fault

end LiveForm
