import LiveForm.Double.Layout

/-!
# JSON values

Numbers keep the form in which they were written: an integer and a double of the same value
are different numbers. Objects keep their entries in order; a key is looked up at its first
entry, and `Json.insert` keeps keys distinct by replacing the value in place.
-/

namespace LiveForm

/-- A JSON number: an integer, or a finite double. -/
inductive Number where
  | int (value : Int)
  | double (value : Double.Finite)
  deriving DecidableEq

namespace Number

/-- The number as a double; an integer is rounded to the nearest one. -/
def toDouble : Number → Double
  | int n => .ofInt n
  | double x => .finite x

def text : Number → String
  | int n => toString n
  | double x => Double.Layout.document.finiteText x

@[simp] theorem toDouble_int (n : Int) : (int n).toDouble = .ofInt n := rfl

@[simp] theorem toDouble_double (x : Double.Finite) : (double x).toDouble = .finite x := rfl

end Number

/-- A JSON value. -/
inductive Json where
  | null
  | bool (value : Bool)
  | number (value : Number)
  | string (value : String)
  | array (items : List Json)
  | object (entries : List (String × Json))
  deriving Inhabited

namespace Json

/-- A mapping from keys to values, in order. -/
abbrev Entries := List (String × Json)

namespace Entries

/-- The value of the first entry with this key. -/
def get? (entries : Entries) (key : String) : Option Json :=
  (entries.find? fun e => e.1 = key).map Prod.snd

/-- Replaces the value of a key where it stands, or adds the key at the end. -/
def insert (entries : Entries) (key : String) (value : Json) : Entries :=
  if entries.any fun e => e.1 = key then
    entries.map fun e => if e.1 = key then (key, value) else e
  else entries ++ [(key, value)]

/-- Entries gathered one after another, a later one in the place of an earlier one with its key. -/
def collect (items : List (String × Json)) : Entries :=
  items.foldl (fun entries e => entries.insert e.1 e.2) []

@[simp] theorem get?_nil (key : String) : get? [] key = none := rfl

@[simp] theorem get?_cons (e : String × Json) (rest : Entries) (key : String) :
    get? (e :: rest) key = if e.1 = key then some e.2 else get? rest key := by
  by_cases h : e.1 = key <;> simp [get?, h]

@[simp] theorem insert_nil (key : String) (value : Json) :
    insert [] key value = [(key, value)] := rfl

end Entries

/-- A double as a JSON value; JSON has no number that is not finite. -/
def ofDouble : Double → Json
  | .finite x => .number (.double x)
  | _ => .null

def ofNat (n : Nat) : Json := .number (.int n)

def ofStrings (texts : List String) : Json := .array (texts.map .string)

def isNull : Json → Bool
  | null => true
  | _ => false

/-- The value of a key, when the value is an object that has it. -/
def get? (value : Json) (key : String) : Option Json :=
  match value with
  | object entries => Entries.get? entries key
  | _ => none

end Json

end LiveForm
