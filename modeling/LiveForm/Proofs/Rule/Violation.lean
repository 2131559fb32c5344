import LiveForm.Proofs.Rule.Constraint

/-!
# What fails

`Rule.ViolatedBy` says value by value what violates a rule, and `Field.Declares` reads the rules of
a field off its declaration, both without the list of rules and without the checks. A value fails
the kinds of the declared rules that it violates, each once and in the order of priority. An absent
value violates no rule but that of a required field, and a pattern that does not compile is as good
as none.
-/

namespace LiveForm

namespace Json

inductive Absent : Json → Prop
  | null : Absent .null
  | refusal : Absent (.bool false)
  | emptyText : Absent (.string "")
  | emptyList : Absent (.array [])
  | emptyMapping : Absent (.object [])

/-- The text that a pattern is looked for in. -/
inductive Shows : Json → String → Prop
  | text (s : String) : Shows (.string s) s
  | number (n : Number) : Shows (.number n) n.text

/-- The number that a range is about. -/
inductive CountsAs : Json → Double → Prop
  | number (n : Number) : CountsAs (.number n) n.toDouble
  | text {s : String} {x : Double} (reads : Double.read? (Text.trim s) = some x)
      (finite : x.isFinite = true) : CountsAs (.string s) x

variable {value : Json}

theorem isAbsent_iff_absent : value.isAbsent = true ↔ value.Absent := by
  constructor
  · intro absent
    cases value with
    | null => exact .null
    | bool b =>
      obtain rfl : b = false := by simpa [isAbsent] using absent
      exact .refusal
    | number n => cases absent
    | string s =>
      obtain rfl : s = "" := by simpa [isAbsent] using absent
      exact .emptyText
    | array items =>
      obtain rfl : items = [] := by simpa [isAbsent] using absent
      exact .emptyList
    | object entries =>
      obtain rfl : entries = [] := by simpa [isAbsent] using absent
      exact .emptyMapping
  · rintro (_ | _) <;> rfl

@[simp] theorem absent_string_iff {s : String} : (string s).Absent ↔ s = "" :=
  ⟨fun .emptyText => rfl, fun empty => empty ▸ .emptyText⟩

theorem textLength?_eq_some_iff {length : Nat} :
    value.textLength? = some length ↔ ∃ text, value = .string text ∧ text.length = length := by
  cases value <;> simp [textLength?]

theorem asText?_eq_some_iff_shows {text : String} :
    value.asText? = some text ↔ value.Shows text := by
  constructor
  · intro reads
    cases value with
    | string s =>
      obtain rfl := Option.some.inj reads
      exact .text s
    | number n =>
      obtain rfl := Option.some.inj reads
      exact .number n
    | _ => cases reads
  · rintro (_ | _) <;> rfl

theorem asNumber?_eq_some_iff_countsAs {x : Double} :
    value.asNumber? = some x ↔ value.CountsAs x := by
  constructor
  · intro reads
    cases value with
    | string s =>
      rw [asNumber?, numberInText?, Option.filter_eq_some_iff] at reads
      exact .text reads.1 reads.2
    | number n =>
      obtain rfl := Option.some.inj reads
      exact .number n
    | _ => cases reads
  · rintro (_ | ⟨reads, finite⟩)
    · rfl
    · rw [asNumber?, numberInText?, Option.filter_eq_some_iff]
      exact ⟨reads, finite⟩

theorem CountsAs.present {x : Double} (counts : value.CountsAs x) : ¬ value.Absent := by
  intro absent
  cases counts with
  | number => cases absent
  | text reads =>
    cases absent
    have unread : Double.read? (Text.trim "") = none := by decide
    cases unread.symm.trans reads

end Json

/-- A value violates a rule. An absent value violates the rule of a required field and no other;
lengths are asked of texts alone, and a range only of what counts as a number. -/
inductive Rule.ViolatedBy : Rule → Json → Prop
  | required {value : Json} (absent : value.Absent) : ViolatedBy .required value
  | pattern {p : Pattern} {value : Json} {text : String} (present : ¬ value.Absent)
      (shown : value.Shows text) (unmatched : p.occursIn text = false) :
      ViolatedBy (.pattern p) value
  | minLength {bound : Nat} {text : String} (present : text ≠ "") (short : text.length < bound) :
      ViolatedBy (.minLength bound) (.string text)
  | maxLength {bound : Nat} {text : String} (long : bound < text.length) :
      ViolatedBy (.maxLength bound) (.string text)
  | min {bound number : Double} {value : Json} (counts : value.CountsAs number)
      (below : bound.le number = false) : ViolatedBy (.min bound) value
  | max {bound number : Double} {value : Json} (counts : value.CountsAs number)
      (above : number.le bound = false) : ViolatedBy (.max bound) value

/-- The rules that a field declares. A pattern counts when it is not empty and compiles. -/
inductive Field.Declares (field : Field) : Rule → Prop
  | required (demanded : field.required = true) : Declares field .required
  | pattern {v : Validation} {source : String} {p : Pattern} (given : field.validation = some v)
      (written : v.pattern = some source) (nonempty : source ≠ "")
      (compiles : Pattern.compile? source = some p) : Declares field (.pattern p)
  | minLength {v : Validation} {bound : Nat} (given : field.validation = some v)
      (written : v.minLength = some bound) : Declares field (.minLength bound)
  | maxLength {v : Validation} {bound : Nat} (given : field.validation = some v)
      (written : v.maxLength = some bound) : Declares field (.maxLength bound)
  | min {v : Validation} {bound : Double} (given : field.validation = some v)
      (written : v.min = some bound) : Declares field (.min bound)
  | max {v : Validation} {bound : Double} (given : field.validation = some v)
      (written : v.max = some bound) : Declares field (.max bound)

namespace Rule

variable {value : Json}

/-- Of the values that are present a rule fails when it fails what it asks of them. -/
theorem holds_eq_false_of_ne_required {rule : Rule} (other : rule ≠ .required) :
    rule.holds value = false ↔ ¬ value.Absent ∧ rule.holdsOfPresent value = false := by
  rw [← Json.isAbsent_iff_absent, Bool.not_eq_true, ← Bool.or_eq_false_iff]
  cases rule with
  | required => exact absurd rfl other
  | _ => rfl

/-- A rule fails of the values that violate it. -/
theorem holds_eq_false_iff (rule : Rule) (value : Json) :
    rule.holds value = false ↔ rule.ViolatedBy value := by
  cases rule with
  | required =>
    rw [holds, Bool.not_eq_false', Json.isAbsent_iff_absent]
    constructor
    · exact .required
    · intro violated
      cases violated with
      | required absent => exact absent
  | pattern p =>
    rw [holds_eq_false_of_ne_required (by simp), holdsOfPresent, Option.all_eq_false]
    simp only [Json.asText?_eq_some_iff_shows]
    constructor
    · rintro ⟨present, _, shown, unmatched⟩
      exact .pattern present shown unmatched
    · intro violated
      cases violated with
      | pattern present shown unmatched => exact ⟨present, _, shown, unmatched⟩
  | minLength bound =>
    rw [holds_eq_false_of_ne_required (by simp), holdsOfPresent, Option.all_eq_false]
    simp only [Json.textLength?_eq_some_iff, decide_eq_false_iff_not, Nat.not_le]
    constructor
    · rintro ⟨present, _, ⟨text, rfl, rfl⟩, short⟩
      exact .minLength (mt Json.absent_string_iff.mpr present) short
    · intro violated
      cases violated with
      | minLength present short =>
        exact ⟨mt Json.absent_string_iff.mp present, _, ⟨_, rfl, rfl⟩, short⟩
  | maxLength bound =>
    rw [holds_eq_false_of_ne_required (by simp), holdsOfPresent, Option.all_eq_false]
    simp only [Json.textLength?_eq_some_iff, decide_eq_false_iff_not, Nat.not_le]
    constructor
    · rintro ⟨-, _, ⟨text, rfl, rfl⟩, long⟩
      exact .maxLength long
    · intro violated
      cases violated with
      | maxLength long =>
        refine ⟨?_, _, ⟨_, rfl, rfl⟩, long⟩
        rw [Json.absent_string_iff]
        rintro rfl
        exact absurd long (Nat.not_lt_zero bound)
  | min bound =>
    rw [holds_eq_false_of_ne_required (by simp), holdsOfPresent, Option.all_eq_false]
    simp only [Json.asNumber?_eq_some_iff_countsAs]
    constructor
    · rintro ⟨_, _, counts, below⟩
      exact .min counts below
    · intro violated
      cases violated with
      | min counts below => exact ⟨counts.present, _, counts, below⟩
  | max bound =>
    rw [holds_eq_false_of_ne_required (by simp), holdsOfPresent, Option.all_eq_false]
    simp only [Json.asNumber?_eq_some_iff_countsAs]
    constructor
    · rintro ⟨_, _, counts, above⟩
      exact .max counts above
    · intro violated
      cases violated with
      | max counts above => exact ⟨counts.present, _, counts, above⟩

instance (rule : Rule) (value : Json) : Decidable (rule.ViolatedBy value) :=
  decidable_of_iff _ (rule.holds_eq_false_iff value)

/-- An absent value violates the rule of a required field, and no other. -/
theorem violatedBy_iff_of_absent {rule : Rule} (absent : value.Absent) :
    rule.ViolatedBy value ↔ rule = .required := by
  constructor
  · intro violated
    refine Classical.byContradiction fun other => ?_
    rw [← holds_eq_false_iff, holds_eq_false_of_ne_required other] at violated
    exact violated.1 absent
  · rintro rfl
    exact .required absent

/-- The kinds that fail are those of the rules that are violated. -/
theorem mem_failing_iff {rules : List Rule} {kind : RuleKind} :
    kind ∈ failing rules value ↔ ∃ rule ∈ rules, rule.kind = kind ∧ rule.ViolatedBy value := by
  simp [failing, ← holds_eq_false_iff, and_assoc, and_comm]

end Rule

namespace Field

theorem mem_rules_iff (field : Field) (rule : Rule) : rule ∈ field.rules ↔ field.Declares rule := by
  simp only [rules_eq_append, List.mem_append, List.mem_ite_nil_right, List.mem_singleton]
  constructor
  · rintro (⟨demanded, rfl⟩ | constraint)
    · exact .required demanded
    · cases given : field.validation with
      | none => simp [given] at constraint
      | some v =>
        simp only [given, Option.elim_some, Validation.rules, List.mem_append, List.mem_map,
          Option.mem_toList, Validation.bind_compile?_eq_some_iff] at constraint
        rcases constraint with
          ((((⟨p, ⟨source, written, nonempty, compiles⟩, rfl⟩ | ⟨_, written, rfl⟩) |
            ⟨_, written, rfl⟩) | ⟨_, written, rfl⟩) | ⟨_, written, rfl⟩)
        · exact .pattern given written nonempty compiles
        · exact .minLength given written
        · exact .maxLength given written
        · exact .min given written
        · exact .max given written
  · intro declares
    cases declares with
    | required demanded => exact .inl ⟨demanded, rfl⟩
    | pattern given written nonempty compiles =>
      have counts := Validation.bind_compile?_eq_some_iff.mpr ⟨_, written, nonempty, compiles⟩
      simp [given, Validation.rules, counts]
    | minLength given written | maxLength given written | min given written | max given written =>
      simp [given, Validation.rules, written]

theorem kinds_toList_sublist {α : Type} (constraint : Option α) (rule : α → Rule) {kind : RuleKind}
    (same : ∀ a, (rule a).kind = kind) :
    ((constraint.toList.map rule).map Rule.kind).Sublist [kind] := by
  cases constraint with
  | none => exact List.nil_sublist [kind]
  | some a =>
    rw [← same a]
    exact List.Sublist.refl _

/-- The rules of a field are in the order of priority, one of a kind at most. -/
theorem kinds_rules_sublist (field : Field) :
    (field.rules.map Rule.kind).Sublist RuleKind.all := by
  have demand : ((if field.required then [Rule.required] else []).map Rule.kind).Sublist
      [.required] := by
    cases field.required <;> decide
  have constraints : ((field.validation.elim [] Validation.rules).map Rule.kind).Sublist
      [.pattern, .minLength, .maxLength, .min, .max] := by
    cases field.validation with
    | none => exact List.nil_sublist _
    | some v =>
      simp only [Option.elim_some, Validation.rules, List.map_append]
      exact ((((kinds_toList_sublist _ Rule.pattern fun _ => rfl).append
        (kinds_toList_sublist _ Rule.minLength fun _ => rfl)).append
        (kinds_toList_sublist _ Rule.maxLength fun _ => rfl)).append
        (kinds_toList_sublist _ Rule.min fun _ => rfl)).append
        (kinds_toList_sublist _ Rule.max fun _ => rfl)
  rw [rules_eq_append, List.map_append]
  exact demand.append constraints

/-- An absent value fails the rule of a required field, if there is one, and nothing else. -/
theorem failing_rules_of_absent (field : Field) {value : Json} (absent : value.Absent) :
    Rule.failing field.rules value = if field.required then [.required] else [] := by
  have none : Rule.failing (field.validation.elim [] Validation.rules) value = [] := by
    rw [Rule.failing, List.map_eq_nil_iff, List.filter_eq_nil_iff]
    intro rule among
    cases given : field.validation with
    | none => simp [given] at among
    | some v =>
      rw [given] at among
      simp [Validation.holds_of_mem_rules among, Json.isAbsent_iff_absent.mpr absent]
  rw [rules_eq_append, Rule.failing_append, none, List.append_nil]
  cases field.required <;>
    simp [Rule.failing, Rule.holds, Rule.kind, Json.isAbsent_iff_absent.mpr absent]

/-- A pattern that does not compile is as good as none. -/
theorem rules_eq_of_uncompilable {field : Field} {v : Validation} {source : String}
    (given : field.validation = some v) (written : v.pattern = some source)
    (broken : Pattern.compile? source = none) :
    field.rules = { field with validation := some { v with pattern := none } }.rules := by
  have none : v.declaredPattern?.bind Pattern.compile? = none := by
    rw [Option.eq_none_iff_forall_ne_some]
    intro p counts
    obtain ⟨_, written', -, compiles⟩ := Validation.bind_compile?_eq_some_iff.mp counts
    obtain rfl := Option.some.inj (written.symm.trans written')
    cases broken.symm.trans compiles
  rw [rules_eq_append, rules_eq_append, given, Option.elim_some, Option.elim_some,
    Validation.rules, Validation.rules, none]
  rfl

theorem absent_defaultValue (t : FieldType) : t.defaultValue.Absent := by
  cases t <;> constructor

/-- The kinds that fail are in the order of priority, each once, and they are those of the rules
that the field declares and the value violates. An absent value fails the rule of a required field
alone, and so does the value of an untouched control of any type; a pattern that does not compile
changes nothing about the other rules. -/
theorem failing_rules_exact (field : Field) (value : Json) :
    let kinds := Rule.failing field.rules value
    kinds.Pairwise (fun first later => first.rank < later.rank) ∧
      (∀ kind, kind ∈ kinds ↔
        ∃ rule, field.Declares rule ∧ rule.kind = kind ∧ rule.ViolatedBy value) ∧
      (value.Absent →
        (∀ rule : Rule, rule.ViolatedBy value ↔ rule = .required) ∧
          kinds = if field.required then [.required] else []) ∧
      (∀ v source, field.validation = some v → v.pattern = some source →
        Pattern.compile? source = none →
        kinds = Rule.failing
          { field with validation := some { v with pattern := none } }.rules value) ∧
      ∀ t : FieldType, Rule.failing field.rules t.defaultValue =
        if field.required then [.required] else [] := by
  intro kinds
  refine ⟨?_, ?_, fun absent => ⟨?_, field.failing_rules_of_absent absent⟩, ?_,
    fun t => field.failing_rules_of_absent (absent_defaultValue t)⟩
  · have ordered : RuleKind.all.Pairwise fun first later => first.rank < later.rank := by decide
    exact ordered.sublist ((List.filter_sublist.map Rule.kind).trans field.kinds_rules_sublist)
  · intro kind
    simp only [kinds, Rule.mem_failing_iff, mem_rules_iff]
  · exact fun _ => Rule.violatedBy_iff_of_absent absent
  · intro v source given written broken
    rw [← rules_eq_of_uncompilable given written broken]

def terseCode : Field where
  label := "Code"
  name := "code"
  type := .text
  required := true
  validation := some { pattern := some "[", minLength := some 3 }

/-- No code is missing, a short one is too short, and neither is asked for the pattern. -/
theorem failing_rules_exact_terse :
    Json.Absent (.string "") ∧ Rule.failing terseCode.rules (.string "") = [.required] ∧
      Pattern.compile? "[" = none ∧ Rule.failing terseCode.rules (.string "ab") = [.minLength] ∧
      Rule.failing terseCode.rules (.string "ab") = Rule.failing
        { terseCode with validation := some { minLength := some 3 } }.rules (.string "ab") := by
  have broken : Pattern.compile? "[" = none := rfl
  obtain ⟨-, -, missing, -, -⟩ := failing_rules_exact terseCode (.string "")
  obtain ⟨-, -, -, unasked, -⟩ := failing_rules_exact terseCode (.string "ab")
  have same := unasked _ "[" rfl rfl broken
  exact ⟨.emptyText, (missing .emptyText).2, broken, same.trans rfl, same⟩

end Field

end LiveForm
