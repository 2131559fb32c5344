import LiveForm.Proofs.Form.Explaining
import LiveForm.Proofs.Rule.Violation

/-!
# What a message says

`Field.Due` says what there is to say about a field from its declaration and the state of its
control: nothing while the control is untouched or disabled or no declared rule is violated, and
otherwise a word about the first rule that is, in the order of priority, with the bound of that very
rule. The message looks at none of this. It goes through the kinds that the control keeps as failing
and looks a bound up by its kind among the rules that were compiled. In every reached form it says
what is due and nothing else.
-/

namespace LiveForm

/-- The complaint about a value that violates a rule, with the bound of the rule. -/
def Rule.complaint (label : String) : Rule → String
  | required => label ++ " is required."
  | pattern _ => label ++ " has invalid format."
  | minLength bound => label ++ " must be at least " ++ toString bound ++ " characters."
  | maxLength bound => label ++ " must be at most " ++ toString bound ++ " characters."
  | min bound => label ++ " should be >= " ++ bound.thresholdText ++ "."
  | max bound => label ++ " should be <= " ++ bound.thresholdText ++ "."

namespace Field

/-- The first rule, in the order of priority, that a field declares and a value violates. -/
structure FirstViolated (field : Field) (value : Json) (rule : Rule) : Prop where
  declared : field.Declares rule
  violated : rule.ViolatedBy value
  first : ∀ other, field.Declares other → other.ViolatedBy value →
    rule.kind.rank ≤ other.kind.rank

/-- What there is to say about a field whose control is in some state. A custom message stands in
for every complaint but that of a required field. -/
inductive Due (field : Field) (c : Control) : String → Prop
  | untouched (untouched : c.touched = false) : Due field c ""
  | disabled (disabled : c.disabled = true) : Due field c ""
  | satisfied (satisfied : ∀ rule, field.Declares rule → ¬ rule.ViolatedBy c.value) :
      Due field c ""
  | missing (touched : c.touched = true) (enabled : c.disabled = false)
      (first : field.FirstViolated c.value .required) :
      Due field c (Rule.required.complaint field.label)
  | custom {rule : Rule} {v : Validation} {text : String} (touched : c.touched = true)
      (enabled : c.disabled = false) (first : field.FirstViolated c.value rule)
      (other : rule ≠ .required) (given : field.validation = some v)
      (written : v.message = some text) : Due field c text
  | standard {rule : Rule} (touched : c.touched = true) (enabled : c.disabled = false)
      (first : field.FirstViolated c.value rule) (other : rule ≠ .required)
      (silent : ∀ v, field.validation = some v → v.message = none) :
      Due field c (rule.complaint field.label)

variable {field : Field} {value : Json} {rule other : Rule}

/-- A field declares one rule of a kind at most. -/
theorem Declares.eq_of_kind_eq (declared : field.Declares rule) (declared' : field.Declares other)
    (same : rule.kind = other.kind) : rule = other := by
  have distinct : (field.rules.map Rule.kind).Nodup :=
    field.kinds_rules_sublist.nodup (by decide)
  exact List.inj_on_of_nodup_map distinct ((field.mem_rules_iff rule).mpr declared)
    ((field.mem_rules_iff other).mpr declared') same

theorem FirstViolated.unique (first : field.FirstViolated value rule)
    (first' : field.FirstViolated value other) : rule = other := by
  refine first.declared.eq_of_kind_eq first'.declared (RuleKind.rank_injective ?_)
  exact Nat.le_antisymm (first.first other first'.declared first'.violated)
    (first'.first rule first.declared first.violated)

theorem customMessage?_eq_some_iff {text : String} :
    field.customMessage? = some text ↔ ∃ v, field.validation = some v ∧ v.message = some text :=
  Option.bind_eq_some_iff

theorem customMessage?_eq_none_iff :
    field.customMessage? = none ↔ ∀ v, field.validation = some v → v.message = none :=
  Option.bind_eq_none_iff

end Field

namespace Control

variable {c : Control} {field : Field} {rule : Rule}

/-- The kind that a message is about fails, and no failing kind comes before it. -/
theorem firstError?_eq_some_iff {kind : RuleKind} :
    c.firstError? = some kind ↔ kind ∈ c.errors ∧ ∀ other ∈ c.errors, kind.rank ≤ other.rank := by
  have ordered : RuleKind.all.Pairwise fun first later => first.rank < later.rank := by decide
  rw [firstError?, List.find?_eq_some_iff_append]
  constructor
  · rintro ⟨fails, before, after, split, passed⟩
    refine ⟨by simpa [hasError] using fails, fun other failing => ?_⟩
    rw [split] at ordered
    obtain ⟨-, later, -⟩ := List.pairwise_append.mp ordered
    have among : other ∈ before ++ kind :: after := split ▸ RuleKind.mem_all other
    rcases List.mem_append.mp among with early | late
    · exact absurd failing (by simpa [hasError] using passed other early)
    · rcases List.mem_cons.mp late with rfl | behind
      · exact Nat.le_refl _
      · exact Nat.le_of_lt ((List.pairwise_cons.mp later).1 other behind)
  · rintro ⟨fails, first⟩
    obtain ⟨before, after, split⟩ := List.append_of_mem (RuleKind.mem_all kind)
    refine ⟨by simpa [hasError] using fails, before, after, split, fun other early => ?_⟩
    rw [split] at ordered
    have earlier : other.rank < kind.rank :=
      (List.pairwise_append.mp ordered).2.2 other early kind List.mem_cons_self
    have passed : other ∉ c.errors := fun failing => Nat.not_le_of_lt earlier (first other failing)
    simpa [hasError] using passed

theorem errorMessage_of_untouched (untouched : c.touched = false) : c.errorMessage field = "" := by
  rw [errorMessage, if_neg (by simp [untouched])]

theorem errorMessage_of_valid (valid : c.firstError? = none) : c.errorMessage field = "" := by
  rw [errorMessage, valid, ite_self]

theorem errorMessage_of_required (touched : c.touched = true)
    (about : c.firstError? = some .required) :
    c.errorMessage field = Rule.required.complaint field.label := by
  rw [errorMessage, if_pos touched, about]
  rfl

theorem errorMessage_of_other {kind : RuleKind} (touched : c.touched = true)
    (about : c.firstError? = some kind) (other : kind ≠ .required) :
    c.errorMessage field = field.customMessage?.getD (c.defaultMessage field.label kind) := by
  rw [errorMessage, if_pos touched, about]
  cases kind with
  | required => exact absurd rfl other
  | _ => cases field.customMessage? <;> rfl

end Control

namespace Form

namespace Serves

variable {c : Control} {field : Field} {rule : Rule}

/-- While a control is enabled, its failing kinds are those of the declared rules that its value
violates. -/
theorem mem_errors_iff (serves : Serves c field) (enabled : c.disabled = false) {kind : RuleKind} :
    kind ∈ c.errors ↔ ∃ rule, field.Declares rule ∧ rule.kind = kind ∧ rule.ViolatedBy c.value := by
  have errors : c.errors = Rule.failing field.rules c.value := by
    rw [serves.upToDate, Control.errorsOf, if_neg (by simp [enabled]), serves.rules_eq]
  simp only [errors, Rule.mem_failing_iff, Field.mem_rules_iff]

/-- The message about an enabled control is about the first rule that is violated. -/
theorem firstError?_eq_some_iff (serves : Serves c field) (enabled : c.disabled = false)
    {kind : RuleKind} :
    c.firstError? = some kind ↔ ∃ rule, rule.kind = kind ∧ field.FirstViolated c.value rule := by
  simp only [Control.firstError?_eq_some_iff, serves.mem_errors_iff enabled]
  constructor
  · rintro ⟨⟨rule, declared, rfl, violated⟩, first⟩
    exact ⟨rule, rfl, declared, violated,
      fun other declared' violated' => first other.kind ⟨other, declared', rfl, violated'⟩⟩
  · rintro ⟨rule, rfl, first⟩
    refine ⟨⟨rule, first.declared, rfl, first.violated⟩, ?_⟩
    rintro _ ⟨other, declared, rfl, violated⟩
    exact first.first other declared violated

theorem firstError?_eq_none_iff (serves : Serves c field) (enabled : c.disabled = false) :
    c.firstError? = none ↔ ∀ rule, field.Declares rule → ¬ rule.ViolatedBy c.value := by
  rw [Control.firstError?_eq_none_iff, List.eq_nil_iff_forall_not_mem]
  simp only [serves.mem_errors_iff enabled]
  constructor
  · exact fun none rule declared violated => none rule.kind ⟨rule, declared, rfl, violated⟩
  · rintro satisfied _ ⟨rule, declared, -, violated⟩
    exact satisfied rule declared violated

/-- The bound that is looked up by its kind is that of the declared rule of this kind. -/
theorem boundText_eq (serves : Serves c field) (declared : field.Declares rule) :
    c.boundText rule.kind = rule.boundText?.getD "" := by
  have alone : ∀ other ∈ field.rules.filter (fun other => other.kind = rule.kind),
      other = rule := by
    intro other member
    obtain ⟨among, same⟩ := List.mem_filter.mp member
    exact ((field.mem_rules_iff other).mp among).eq_of_kind_eq declared (of_decide_eq_true same)
  have found : rule ∈ field.rules.filter fun other => other.kind = rule.kind :=
    List.mem_filter.mpr ⟨(field.mem_rules_iff rule).mpr declared, decide_eq_true rfl⟩
  rw [Control.boundText, serves.rules_eq, List.eq_replicate_of_mem alone,
    List.findSome?_replicate_of_pos (List.length_pos_of_mem found)]

theorem defaultMessage_eq (serves : Serves c field) (declared : field.Declares rule)
    (label : String) : c.defaultMessage label rule.kind = rule.complaint label := by
  have bound := serves.boundText_eq declared
  cases rule with
  | required => rfl
  | pattern => rfl
  | minLength | maxLength | min | max =>
    rw [Rule.kind] at bound ⊢
    rw [Control.defaultMessage, bound]
    rfl

theorem firstError?_of_disabled (serves : Serves c field) (disabled : c.disabled = true) :
    c.firstError? = none := by
  rw [Control.firstError?_eq_none_iff, serves.upToDate, Control.errorsOf, if_pos disabled]

/-- What the message says is due. -/
theorem due_errorMessage (serves : Serves c field) : field.Due c (c.errorMessage field) := by
  cases touched : c.touched with
  | false =>
    rw [Control.errorMessage_of_untouched touched]
    exact .untouched touched
  | true =>
    cases disabled : c.disabled with
    | true =>
      rw [Control.errorMessage_of_valid (serves.firstError?_of_disabled disabled)]
      exact .disabled disabled
    | false =>
      cases about : c.firstError? with
      | none =>
        rw [Control.errorMessage_of_valid about]
        exact .satisfied ((serves.firstError?_eq_none_iff disabled).mp about)
      | some kind =>
        obtain ⟨rule, rfl, first⟩ := (serves.firstError?_eq_some_iff disabled).mp about
        by_cases demand : rule.kind = .required
        · obtain rfl : rule = .required := by
            cases rule <;> first | rfl | cases demand
          rw [Control.errorMessage_of_required touched about]
          exact .missing touched disabled first
        · have other : rule ≠ .required := fun same => demand (congrArg Rule.kind same)
          rw [Control.errorMessage_of_other touched about demand,
            serves.defaultMessage_eq first.declared]
          cases custom : field.customMessage? with
          | none =>
            exact .standard touched disabled first other
              (Field.customMessage?_eq_none_iff.mp custom)
          | some text =>
            obtain ⟨v, given, written⟩ := Field.customMessage?_eq_some_iff.mp custom
            exact .custom touched disabled first other given written

/-- The message says what is due. -/
theorem errorMessage_eq_of_due (serves : Serves c field) {message : String}
    (due : field.Due c message) : c.errorMessage field = message := by
  have about {rule : Rule} (enabled : c.disabled = false)
      (first : field.FirstViolated c.value rule) : c.firstError? = some rule.kind :=
    (serves.firstError?_eq_some_iff enabled).mpr ⟨rule, rfl, first⟩
  have other_kind {rule : Rule} (other : rule ≠ .required) : rule.kind ≠ .required := by
    cases rule <;> first | exact absurd rfl other | exact RuleKind.noConfusion
  cases due with
  | untouched untouched => exact Control.errorMessage_of_untouched untouched
  | disabled disabled =>
    exact Control.errorMessage_of_valid (serves.firstError?_of_disabled disabled)
  | satisfied satisfied =>
    cases disabled : c.disabled with
    | true => exact Control.errorMessage_of_valid (serves.firstError?_of_disabled disabled)
    | false =>
      exact Control.errorMessage_of_valid ((serves.firstError?_eq_none_iff disabled).mpr satisfied)
  | missing touched enabled first =>
    exact Control.errorMessage_of_required touched (about enabled first)
  | custom touched enabled first other given written =>
    rw [Control.errorMessage_of_other touched (about enabled first) (other_kind other),
      Field.customMessage?_eq_some_iff.mpr ⟨_, given, written⟩, Option.getD_some]
  | standard touched enabled first other silent =>
    rw [Control.errorMessage_of_other touched (about enabled first) (other_kind other),
      Field.customMessage?_eq_none_iff.mpr silent, Option.getD_none,
      serves.defaultMessage_eq first.declared]

end Serves

/-- In every reached form the message about a field of the schema says what is due by the
declaration of the field and the state of its control, and nothing else. A complaint is about one
rule only: no two of the declared rules are violated first. -/
theorem errorMessage_eq_iff_due {schema : Schema} (distinct : schema.names.Nodup)
    (initial : Json.Entries) (actions : List Action) :
    let f := reached schema initial actions
    ∀ field ∈ schema.fields, ∃ c, f.control? field.name = some c ∧
      (∀ message, f.errorMessage field = message ↔ field.Due c message) ∧
      ∀ rule other, field.FirstViolated c.value rule → field.FirstViolated c.value other →
        rule = other := by
  intro f field declared
  obtain ⟨c, found, serves⟩ := control?_reached distinct initial actions declared
  have message_eq : f.errorMessage field = c.errorMessage field := by
    rw [errorMessage, found]
  refine ⟨c, found, fun message => ?_, fun _ _ => Field.FirstViolated.unique⟩
  rw [message_eq]
  constructor
  · rintro rfl
    exact serves.due_errorMessage
  · exact serves.errorMessage_eq_of_due

def seatsField : Field where
  label := "Seats"
  name := "seats"
  type := .number
  required := true
  validation := some { minLength := some 2, min := some (.ofInt 5), max := some (.ofInt 40) }

def booking : Schema where
  fields := [seatsField]

/-- What is typed is too short and too small, and the message quotes the length; a number has no
length, and the message quotes the bound that it exceeds. -/
theorem errorMessage_eq_iff_due_seats :
    let typed := reached booking [] [.setValue "seats" (.string "3"), .touch "seats"]
    let counted := reached booking [] [.setValue "seats" (.number (.int 41)), .touch "seats"]
    booking.names.Nodup ∧ seatsField ∈ booking.fields ∧
      (∃ c, typed.control? "seats" = some c ∧
        seatsField.Due c "Seats must be at least 2 characters.") ∧
      ∃ c, counted.control? "seats" = some c ∧ seatsField.Due c "Seats should be <= 40." := by
  intro typed counted
  have distinct : booking.names.Nodup := by decide
  have declared : seatsField ∈ booking.fields := List.mem_singleton.mpr rfl
  obtain ⟨c, found, due, -⟩ := errorMessage_eq_iff_due distinct []
    [.setValue "seats" (.string "3"), .touch "seats"] seatsField declared
  obtain ⟨c', found', due', -⟩ := errorMessage_eq_iff_due distinct []
    [.setValue "seats" (.number (.int 41)), .touch "seats"] seatsField declared
  have short : typed.errorMessage seatsField = "Seats must be at least 2 characters." := by
    decide +kernel
  have large : counted.errorMessage seatsField = "Seats should be <= 40." := by
    decide +kernel
  exact ⟨distinct, declared, ⟨c, found, (due _).mp short⟩, ⟨c', found', (due' _).mp large⟩⟩

end Form

end LiveForm
