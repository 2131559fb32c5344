import LiveForm.CharSet

/-!
# Classes of characters in the rules for breaks

The rules that find the borders of user-perceived characters, of words and of sentences each
divide the characters into classes. A class that holds what the others leave has no entry.
-/

namespace LiveForm.Unicode

/-- A class by its names, in lower case and without separators. -/
structure BreakClass where
  names : List String
  set : CharSet

def BreakClass.named? (classes : List BreakClass) (name : String) : Option CharSet :=
  (classes.find? fun c => c.names.contains name).map BreakClass.set

end LiveForm.Unicode
