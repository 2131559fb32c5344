import LiveForm.Json.Parser
import LiveForm.Proofs.Double.Numeral
import LiveForm.Proofs.Text.Trimming
import LiveForm.Rule.Basic

/-!
# Numbers and their typed texts

A number that is sent as a number and one that is typed into a text are judged alike. The text of a
number is a numeral that stands for the same double, so it reads as the number itself, an integer
that no double holds being rounded once on either way; and it is never empty and has no blanks, so
it is as present as the number and what is typed around it is trimmed away.
-/

namespace LiveForm

theorem Json.asNumber?_string (s : String) :
    (Json.string s).asNumber? = (Double.read? (Text.trim s)).filter Double.isFinite := rfl

theorem Numeral.isBlank_chars {n : Numeral} (plain : n.Plain) (plus : Bool) :
    ∀ c ∈ n.chars plus, Text.isBlank c = false := by
  have sign (s : Option Bool) : ∀ c ∈ signChars s, Text.isBlank c = false := by
    rcases s with _ | _ | _ <;> simp [signChars] <;> rfl
  obtain ⟨s, whole, fraction, exponent⟩ := n
  obtain ⟨-, only, onlyFraction⟩ := plain
  simp only [chars, List.forall_mem_append]
  refine ⟨sign s, fun c member => Text.isBlank_of_isDigit (only c member), ?_, ?_⟩
  · cases fraction with
    | none => simp
    | some digits =>
      exact List.forall_mem_cons.2
        ⟨rfl, fun c member => Text.isBlank_of_isDigit (onlyFraction c member)⟩
  · cases exponent with
    | none => simp
    | some k =>
      exact List.forall_mem_cons.2 ⟨rfl, List.forall_mem_append.2
        ⟨sign _, fun c member => Text.isBlank_of_isDigit (isDigit_toDigits _ c member)⟩⟩

namespace Number

/-- An integer of 64 bits, with a sign or without, or a double. -/
def Fits : Number → Prop
  | int n => -(2 ^ 63) ≤ n ∧ n < 2 ^ 64
  | double _ => True

variable {n : Number}

/-- The text of a number is a numeral that stands for the same double. -/
theorem text_eq_chars (n : Number) :
    ∃ written : Numeral, written.Plain ∧ written.toDouble = n.toDouble ∧
      n.text.toList = written.chars true := by
  cases n with
  | int n =>
    refine ⟨⟨if n < 0 then some true else none, Nat.toDigits 10 n.natAbs, none, none⟩,
      ⟨Nat.toDigits_ne_nil, Numeral.isDigit_toDigits _, by simp⟩, ?_, ?_⟩
    · rw [Numeral.toDouble_eq_nearest, toDouble_int, Double.ofInt_eq_nearest]
      congr 1
      · by_cases minus : n < 0 <;> simp [Numeral.negative, minus]
      · simp [Numeral.value]
    · rw [text, Int.toString_eq_repr, Int.repr_eq_if]
      by_cases minus : n < 0
      · have magnitude : n.natAbs = (-n).toNat := by omega
        simp [minus, not_le.2 minus, magnitude, Nat.repr_eq_ofList_toDigits, Numeral.chars,
          Numeral.signChars]
      · have magnitude : n.natAbs = n.toNat := by omega
        simp [minus, not_lt.1 minus, magnitude, Nat.repr_eq_ofList_toDigits]
  | double x => exact Double.Layout.document.finiteText_eq_chars rfl x

@[simp] theorem text_ne_empty (n : Number) : n.text ≠ "" := by
  obtain ⟨written, plain, -, chars⟩ := n.text_eq_chars
  intro empty
  have none : written.chars true = [] := by rw [← chars, empty]; rfl
  simp only [Numeral.chars, List.append_eq_nil_iff] at none
  exact plain.whole_ne_nil none.2.1

theorem Fits.isFinite_toDouble (fits : n.Fits) : n.toDouble.isFinite = true := by
  cases n with
  | int n =>
    obtain ⟨low, high⟩ := fits
    exact Double.isFinite_ofInt (by omega)
  | double x => rfl

/-- Every number of a document fits. -/
theorem fits_of_number? {lexeme : List Char} (read : Json.Token.number? lexeme = some n) :
    n.Fits := by
  simp only [Json.Token.number?, Option.bind_eq_bind, Option.bind_eq_some_iff] at read
  obtain ⟨written, -, -, -, -, -, -, -, read⟩ := read
  split_ifs at read with unsigned signed
  · obtain rfl := Option.some.inj read
    exact ⟨by omega, by omega⟩
  · obtain rfl := Option.some.inj read
    exact ⟨by omega, by omega⟩
  · obtain ⟨x, -, rfl⟩ := Option.map_eq_some_iff.mp read
    trivial

/-- The text of a number, with any blanks around it, reads as the number. -/
theorem asNumber?_typed (fits : n.Fits) {before after : List Char}
    (blank : ∀ c ∈ before, Text.isBlank c = true) (blank' : ∀ c ∈ after, Text.isBlank c = true) :
    (Json.string (String.ofList (before ++ n.text.toList ++ after))).asNumber? =
      (Json.number n).asNumber? := by
  obtain ⟨written, plain, stands, chars⟩ := n.text_eq_chars
  have trimmed : Text.trim (String.ofList (before ++ n.text.toList ++ after)) = n.text := by
    rw [Text.trim, String.toList_ofList, Text.trimChars_append blank blank'
      (chars ▸ Numeral.isBlank_chars plain true), String.ofList_toList]
  rw [Json.asNumber?_string, trimmed, Numeral.read?_of_chars plain chars, stands,
    Option.filter_some, if_pos fits.isFinite_toDouble, Json.asNumber?_number]

end Number

namespace Rule

/-- Two values that are both present and read as the same number meet the same rules of those that
ask for no text, and the same patterns if they have the same text too. -/
theorem holds_congr {value typed : Json} (present : value.isAbsent = false)
    (present' : typed.isAbsent = false) (number : typed.asNumber? = value.asNumber?) {rule : Rule}
    (kind : rule.kind ∈ [.required, .min, .max] ∨
      rule.kind = .pattern ∧ typed.asText? = value.asText?) :
    rule.holds typed = rule.holds value := by
  cases rule with
  | required => simp [holds, present, present']
  | pattern p =>
    have text : typed.asText? = value.asText? := by simpa [Rule.kind] using kind
    simp [holds, holdsOfPresent, present, present', text]
  | minLength bound => simp [Rule.kind] at kind
  | maxLength bound => simp [Rule.kind] at kind
  | min bound => simp [holds, holdsOfPresent, present, present', number]
  | max bound => simp [holds, holdsOfPresent, present, present', number]

/-- A number is judged as its text is, be it typed with blanks around it or, where a pattern looks
at the text itself, as it stands. -/
theorem judged_as_typed {n : Number} (fits : n.Fits) :
    ∃ text, (Json.number n).asText? = some text ∧
      (∀ before after : List Char,
        (∀ c ∈ before, Text.isBlank c = true) → (∀ c ∈ after, Text.isBlank c = true) →
        let typed := Json.string (String.ofList (before ++ text.toList ++ after))
        typed.asNumber? = (Json.number n).asNumber? ∧
          ∀ rule : Rule, rule.kind ∈ [.required, .min, .max] →
            rule.holds typed = rule.holds (.number n)) ∧
      ∀ rule : Rule, rule.kind ∈ [.required, .pattern, .min, .max] →
        rule.holds (.string text) = rule.holds (.number n) := by
  have present (before after : List Char) :
      (Json.string (String.ofList (before ++ n.text.toList ++ after))).isAbsent = false := by
    simp [Json.isAbsent]
  refine ⟨n.text, rfl, fun before after blank blank' => ?_, fun rule kind => ?_⟩
  · have number := Number.asNumber?_typed fits blank blank'
    exact ⟨number, fun rule kind => holds_congr rfl (present before after) number (.inl kind)⟩
  · have number := Number.asNumber?_typed fits (List.forall_mem_nil (Text.isBlank · = true))
      (List.forall_mem_nil (Text.isBlank · = true))
    have present := present [] []
    simp only [List.nil_append, List.append_nil, String.ofList_toList] at number present
    refine holds_congr rfl present number ?_
    simp only [List.mem_cons, List.not_mem_nil, or_false] at kind ⊢
    rcases kind with kind | kind | kind | kind
    · exact .inl (.inl kind)
    · exact .inr ⟨kind, rfl⟩
    · exact .inl (.inr (.inl kind))
    · exact .inl (.inr (.inr kind))

/-- The integer after `2 ^ 53` is no double. It is rounded to the bound, typed or not. -/
theorem judged_as_typed_after_doubles :
    (Number.int 9007199254740993).Fits ∧
      (Rule.max (.ofInt 9007199254740992)).holds (.string " 9007199254740993\t") = true := by
  have fits : (Number.int 9007199254740993).Fits := ⟨by norm_num, by norm_num⟩
  refine ⟨fits, ?_⟩
  obtain ⟨text, isText, padded, -⟩ := judged_as_typed fits
  obtain rfl : "9007199254740993" = text := Option.some.inj isText
  have typed := (padded [' '] ['\t'] (List.forall_mem_singleton.2 rfl)
    (List.forall_mem_singleton.2 rfl)).2 (.max (.ofInt 9007199254740992)) (by simp [Rule.kind])
  exact typed.trans (by decide +kernel)

end Rule

end LiveForm
