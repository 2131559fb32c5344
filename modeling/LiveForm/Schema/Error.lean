import LiveForm.Decode.Fault

/-!
# Why a schema is refused
-/

namespace LiveForm

/-- An attribute that every field of a document must have. -/
inductive CoreAttribute where
  | type
  | label
  | name
  deriving DecidableEq, Repr

namespace CoreAttribute

/-- The attributes in the order in which they are looked for. -/
def all : List CoreAttribute := [type, label, name]

def key : CoreAttribute → String
  | type => "type"
  | label => "label"
  | name => "name"

end CoreAttribute

/-- Why a schema is refused. Fields are counted from zero. -/
inductive SchemaError where
  /-- The document is not JSON. -/
  | malformed
  | notAnObject
  | missingFields
  | missingTitle
  | missingAttribute (index : Nat) (lacking : CoreAttribute)
  | invalidField (index : Nat) (fault : Fault)
  | emptyName (index : Nat)
  | duplicateName (name : String)
  | dependencyCycle (names : List String)
  deriving DecidableEq

namespace SchemaError

def message : SchemaError → String
  | malformed => "Invalid JSON format"
  | notAnObject => "Schema must be a JSON object"
  | missingFields => "Schema must have a \"fields\" array"
  | missingTitle => "Schema must have a \"title\" property"
  | missingAttribute index lacking =>
    "Field #" ++ toString index ++ " is missing \"" ++ lacking.key ++ "\""
  | invalidField index fault => "Field #" ++ toString index ++ " is invalid: " ++ fault.message
  | emptyName index => "Field #" ++ toString index ++ " has an empty name"
  | duplicateName name => "Duplicate field name: " ++ name
  | dependencyCycle names => "Cyclic dependsOn chain: " ++ String.intercalate " -> " names

end SchemaError

end LiveForm
