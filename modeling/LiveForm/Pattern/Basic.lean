import LiveForm.Pattern.Match
import LiveForm.Pattern.Size

/-!
# Patterns

A `Pattern` is a text that compiles, together with the expression it stands for. Compiling may
fail, because the text is at fault or because the pattern is too large; matching never does.
-/

namespace LiveForm

structure Pattern where
  source : String
  node : Pattern.Node
  deriving Inhabited

namespace Pattern

/-- Compiles a text to a pattern. -/
def compile? (source : String) : Option Pattern := do
  let ast ← Ast.parse? source
  let (node, _) ← ast.toNode? .initial
  if fitsLimit node then some ⟨source, node⟩ else none

/-- The pattern matches somewhere in the text. -/
def occursIn (pattern : Pattern) (text : String) : Bool := Node.occursIn pattern.node text

end Pattern

end LiveForm
