import LiveForm.Schema.Cycle
import LiveForm.Schema.Error
import LiveForm.Text.Blank

/-!
# The structure of a schema

What the types do not say: names are not blank and differ from each other, and, where this is
asked for, dependencies form no cycle. A dependency on a field that does not exist is accepted.
-/

namespace LiveForm.Schema

/-- The first fault of the names, beginning at a place, after the names already seen. -/
def nameFault? (index : Nat) (seen : List String) : List Field → Option SchemaError
  | [] => none
  | f :: rest =>
    if Text.isAllBlank f.name then some (.emptyName index)
    else if f.name ∈ seen then some (.duplicateName f.name)
    else nameFault? (index + 1) (f.name :: seen) rest

/-- The first fault of the structure. -/
def structureFault? (s : Schema) (rejectCycles : Bool) : Option SchemaError :=
  match nameFault? 0 [] s.fields with
  | some fault => some fault
  | none => if rejectCycles then s.cycle?.map SchemaError.dependencyCycle else none

/-- Accepts a schema whose structure is sound. -/
def checkStructure (s : Schema) (rejectCycles : Bool) : Except SchemaError Unit :=
  match s.structureFault? rejectCycles with
  | some fault => .error fault
  | none => .ok ()

end LiveForm.Schema
