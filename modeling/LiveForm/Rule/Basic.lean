import LiveForm.Pattern.Basic
import LiveForm.Rule.Kind
import LiveForm.Schema.Basic
import LiveForm.Value

/-!
# Rules

The constraints of a field become a list of rules, in the order of priority of their kinds. A
pattern that does not compile gives no rule. Only the rule of a required field looks at absent
values; every other rule holds for them, and for all values that it cannot read.
-/

namespace LiveForm

/-- A check of a control's value. -/
inductive Rule where
  | required
  | pattern (pattern : Pattern)
  | minLength (bound : Nat)
  | maxLength (bound : Nat)
  | min (bound : Double)
  | max (bound : Double)
  deriving Inhabited

namespace Rule

def kind : Rule → RuleKind
  | required => .required
  | pattern _ => .pattern
  | minLength _ => .minLength
  | maxLength _ => .maxLength
  | min _ => .min
  | max _ => .max

/-- What a rule asks of a value that is present. -/
def holdsOfPresent : Rule → Json → Bool
  | required, _ => true
  | pattern p, v => v.asText?.all p.occursIn
  | minLength bound, v => v.textLength?.all (bound ≤ ·)
  | maxLength bound, v => v.textLength?.all (· ≤ bound)
  | min bound, v => v.asNumber?.all bound.le
  | max bound, v => v.asNumber?.all (·.le bound)

/-- The value satisfies the rule. -/
def holds (rule : Rule) (value : Json) : Bool :=
  match rule with
  | required => !value.isAbsent
  | rule => value.isAbsent || rule.holdsOfPresent value

/-- The kinds of the rules that a value fails, in the order of the rules. -/
def failing (rules : List Rule) (value : Json) : List RuleKind :=
  (rules.filter fun rule => !rule.holds value).map kind

/-- The bound of a rule as a message shows it. -/
def boundText? : Rule → Option String
  | minLength bound => some (toString bound)
  | maxLength bound => some (toString bound)
  | min bound => some bound.thresholdText
  | max bound => some bound.thresholdText
  | _ => none

@[simp] theorem failing_nil (value : Json) : failing [] value = [] := rfl

@[simp] theorem failing_append (first second : List Rule) (value : Json) :
    failing (first ++ second) value = failing first value ++ failing second value := by
  simp [failing]

end Rule

namespace Validation

/-- The pattern, unless it is empty. -/
def declaredPattern? (v : Validation) : Option String := v.pattern.filter fun p => p ≠ ""

/-- The rules of the constraints. -/
def rules (v : Validation) : List Rule :=
  (v.declaredPattern?.bind Pattern.compile?).toList.map .pattern ++
  v.minLength.toList.map .minLength ++
  v.maxLength.toList.map .maxLength ++
  v.min.toList.map .min ++
  v.max.toList.map .max

end Validation

namespace Field

/-- The rules of a field. -/
def rules (f : Field) : List Rule :=
  (if f.required then [.required] else []) ++
    (match f.validation with
    | some v => v.rules
    | none => [])

/-- The pattern of a field that gives no rule because it does not compile. -/
def skippedPattern? (f : Field) : Option String :=
  (f.validation.bind Validation.declaredPattern?).filter fun p => (Pattern.compile? p).isNone

end Field

end LiveForm
