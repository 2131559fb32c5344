/-!
# Diagnostics

What the library reports about its own work, beside its results: a level, a message and named
texts. The fields of a diagnostic are in the order of their names.
-/

namespace LiveForm

/-- A report about the library's own work. -/
structure Diagnostic where
  /-- Something was skipped that its author will want to know about. -/
  isWarning : Bool
  message : String
  fields : List (String × String)
  deriving DecidableEq, Repr

namespace Diagnostic

def debug (message : String) (fields : List (String × String)) : Diagnostic :=
  ⟨false, message, fields⟩

def warn (message : String) (fields : List (String × String)) : Diagnostic :=
  ⟨true, message, fields⟩

def level (d : Diagnostic) : String := if d.isWarning then "WARN" else "DEBUG"

end Diagnostic

end LiveForm
