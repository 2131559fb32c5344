import LiveForm.Decode.Basic

/-!
# Kinds of rules

The kinds are ordered by priority: of several rules that fail, the message is about the first kind.
-/

namespace LiveForm

inductive RuleKind where
  | required
  | pattern
  | minLength
  | maxLength
  | min
  | max
  deriving DecidableEq, Repr, Inhabited

namespace RuleKind

/-- All kinds in the order of priority. -/
def all : List RuleKind := [required, pattern, minLength, maxLength, min, max]

/-- The place in the order of priority. -/
def rank : RuleKind → Nat
  | required => 0
  | pattern => 1
  | minLength => 2
  | maxLength => 3
  | min => 4
  | max => 5

def name : RuleKind → String
  | required => "required"
  | pattern => "pattern"
  | minLength => "minLength"
  | maxLength => "maxLength"
  | min => "min"
  | max => "max"

def named? (name : String) : Option RuleKind := all.find? fun k => k.name = name

def toJson (k : RuleKind) : Json := .string k.name

def decode : Decoder RuleKind := .choice named? (all.map name)

/-- The kinds in the order of priority, with repetitions. -/
def sorted (kinds : List RuleKind) : List RuleKind := kinds.mergeSort fun a b => a.rank ≤ b.rank

@[simp] theorem mem_all (k : RuleKind) : k ∈ all := by cases k <;> decide

@[simp] theorem named?_name (k : RuleKind) : named? k.name = some k := by cases k <;> decide

theorem rank_injective {a b : RuleKind} (equal : a.rank = b.rank) : a = b := by
  cases a <;> cases b <;> first | rfl | contradiction

end RuleKind

end LiveForm
