import LiveForm.Double.Layout
import LiveForm.Double.Numeral
import LiveForm.Proofs.Double.Shortest
import Mathlib.Data.List.TakeWhile

/-!
# Numerals that are written and read

`Numeral.chars` writes a numeral out. Reading is its inverse on every plain numeral, one with digits
before the point, and the double that is read depends on the rational number alone. Each layout
writes a finite double as such a numeral of its shortest decimal, and an integer is written as its
digits, so both texts read as the number that they were made from.
-/

namespace LiveForm

namespace Numeral

/-- The digits before and after the point, scaled by the power of ten. -/
def value (n : Numeral) : ℚ :=
  digitsValue (n.whole ++ n.fraction.getD []) *
    10 ^ (n.exponent.getD 0 - (n.fraction.getD []).length)

theorem toDouble_eq_nearest (n : Numeral) : n.toDouble = Double.nearest n.negative n.value :=
  Double.ofDecimal_eq_nearest _ _ _

/-- There are digits before the point, and only digits on either side of it. -/
structure Plain (n : Numeral) : Prop where
  whole_ne_nil : n.whole ≠ []
  isDigit_whole : ∀ c ∈ n.whole, c.isDigit = true
  isDigit_fraction : ∀ c ∈ n.fraction.getD [], c.isDigit = true

def signChars : Option Bool → List Char
  | some true => ['-']
  | some false => ['+']
  | none => []

/-- The sign of an exponent. A plus is written or left out. -/
def exponentSign (plus : Bool) (k : ℤ) : Option Bool :=
  if k < 0 then some true else if plus then some false else none

@[simp] def exponentChars (plus : Bool) : Option ℤ → List Char
  | some k => 'e' :: (signChars (exponentSign plus k) ++ Nat.toDigits 10 k.natAbs)
  | none => []

@[simp] def fractionChars : Option (List Char) → List Char
  | some digits => '.' :: digits
  | none => []

def chars (plus : Bool) (n : Numeral) : List Char :=
  signChars n.sign ++ (n.whole ++ (fractionChars n.fraction ++ exponentChars plus n.exponent))

@[simp] theorem chars_unsigned (plus : Bool) (whole : List Char) (fraction : Option (List Char))
    (exponent : Option ℤ) :
    chars plus ⟨none, whole, fraction, exponent⟩ =
      whole ++ (fractionChars fraction ++ exponentChars plus exponent) := rfl

/-! ### Digits -/

theorem digitsValue_eq_ofDigitChars (digits : List Char) :
    digitsValue digits = Nat.ofDigitChars 10 digits 0 :=
  Nat.ofDigitChars_eq_foldl.symm

@[simp] theorem digitsValue_toDigits (n : ℕ) : digitsValue (Nat.toDigits 10 n) = n := by
  rw [digitsValue_eq_ofDigitChars, Nat.ofDigitChars_ten_toDigits]

theorem digitsValue_zeros_append (k : ℕ) (digits : List Char) :
    digitsValue (List.replicate k '0' ++ digits) = digitsValue digits := by
  rw [digitsValue_eq_ofDigitChars, Nat.ofDigitChars_append, Nat.ofDigitChars_replicate_zero,
    Nat.mul_zero, digitsValue_eq_ofDigitChars]

theorem digitsValue_append_zeros (digits : List Char) (k : ℕ) :
    digitsValue (digits ++ List.replicate k '0') = 10 ^ k * digitsValue digits := by
  rw [digitsValue_eq_ofDigitChars, Nat.ofDigitChars_append, Nat.ofDigitChars_replicate_zero,
    digitsValue_eq_ofDigitChars]

theorem isDigit_toDigits (n : ℕ) : ∀ c ∈ Nat.toDigits 10 n, c.isDigit = true :=
  fun _ => Nat.isDigit_of_mem_toDigits (by decide) (by decide)

variable {digits rest : List Char} {plus : Bool}

/-- Digits are taken up to what does not continue them. -/
theorem takeWhile_isDigit_append (only : ∀ c ∈ digits, c.isDigit = true)
    (stop : ∀ c ∈ rest.head?, c.isDigit = false) :
    (digits ++ rest).takeWhile Char.isDigit = digits ∧
      (digits ++ rest).dropWhile Char.isDigit = rest := by
  rw [List.takeWhile_append_of_pos only, List.dropWhile_append_of_pos only]
  cases rest with
  | nil => simp
  | cons c rest =>
    have other : c.isDigit = false := stop c rfl
    simp [other]

/-! ### Reading what is written -/

theorem takeSign_signChars_append (sign : Option Bool) (nonempty : digits ≠ [])
    (only : ∀ c ∈ digits, c.isDigit = true) :
    takeSign (signChars sign ++ (digits ++ rest)) = (sign, digits ++ rest) := by
  rcases sign with _ | _ | _
  · obtain ⟨c, more, rfl⟩ := List.exists_cons_of_ne_nil nonempty
    have digit : c.isDigit = true := only c List.mem_cons_self
    have minus : c ≠ '-' := by rintro rfl; cases digit
    have plus : c ≠ '+' := by rintro rfl; cases digit
    simp [signChars, takeSign, minus, plus]
  · rfl
  · rfl

theorem scanExponent?_exponent (plus : Bool) (k : ℤ) :
    scanExponent? (signChars (exponentSign plus k) ++ Nat.toDigits 10 k.natAbs) = some k := by
  have signed : takeSign (signChars (exponentSign plus k) ++ Nat.toDigits 10 k.natAbs) =
      (exponentSign plus k, Nat.toDigits 10 k.natAbs) := by
    rw [← List.append_nil (Nat.toDigits 10 k.natAbs)]
    exact takeSign_signChars_append _ Nat.toDigits_ne_nil (isDigit_toDigits _)
  have minus : exponentSign plus k = some true ↔ k < 0 := by
    unfold exponentSign
    split_ifs <;> simp_all
  rw [scanExponent?, signed]
  simp only [minus, digitsValue_toDigits]
  rw [if_pos ⟨Nat.toDigits_ne_nil, List.all_eq_true.2 (isDigit_toDigits _)⟩]
  split_ifs <;> congr 1 <;> omega

theorem finish?_exponentChars (sign : Option Bool) (whole : List Char)
    (fraction : Option (List Char)) (plus : Bool) (exponent : Option ℤ) :
    finish? sign whole fraction (exponentChars plus exponent) =
      some ⟨sign, whole, fraction, exponent⟩ := by
  cases exponent with
  | none => rfl
  | some k => simp [finish?, scanExponent?_exponent]

theorem head?_exponentChars (plus : Bool) (exponent : Option ℤ) :
    ∀ c ∈ (exponentChars plus exponent).head?, c = 'e' := by
  cases exponent <;> simp

/-- A plain numeral is read as it was written. -/
theorem scan?_chars {n : Numeral} (plain : n.Plain) (plus : Bool) :
    scan? (n.chars plus) = some n := by
  obtain ⟨sign, whole, fraction, exponent⟩ := n
  obtain ⟨nonempty, only, onlyFraction⟩ := plain
  have stop : ∀ c ∈ (exponentChars plus exponent).head?, c.isDigit = false := by
    intro c first
    rw [head?_exponentChars plus exponent c first]
    rfl
  rw [scan?, chars, takeSign_signChars_append sign nonempty only]
  cases fraction with
  | none =>
    obtain ⟨taken, dropped⟩ := takeWhile_isDigit_append only stop
    simp only [fractionChars, List.nil_append, taken, dropped]
    split
    · next rest point =>
      have mark := head?_exponentChars plus exponent '.' (by rw [point]; rfl)
      cases mark
    · rw [if_neg nonempty, finish?_exponentChars]
  | some fraction =>
    have onlyFraction : ∀ c ∈ fraction, c.isDigit = true := onlyFraction
    have point : ∀ c ∈ ('.' :: (fraction ++ exponentChars plus exponent)).head?,
        c.isDigit = false := by simp
    obtain ⟨taken, dropped⟩ := takeWhile_isDigit_append only point
    obtain ⟨taken', dropped'⟩ := takeWhile_isDigit_append onlyFraction stop
    simp only [fractionChars, List.cons_append, taken, dropped, taken', dropped']
    rw [if_neg fun empty => nonempty empty.1, finish?_exponentChars]

theorem read?_of_chars {n : Numeral} {text : String} (plain : n.Plain)
    (written : text.toList = n.chars plus) : Double.read? text = some n.toDouble := by
  rw [Double.read?, written, scan?_chars plain plus]

end Numeral

namespace Double.Layout

variable {digits : List Char} (layout : Layout)

/-- Positional text is a numeral of the digits scaled by their power of ten. -/
theorem pointed_eq_chars (nonempty : digits ≠ []) (only : ∀ c ∈ digits, c.isDigit = true)
    (plus : Bool) (e : ℤ) :
    ∃ n : Numeral, n.Plain ∧ n.sign = none ∧ n.value = Numeral.digitsValue digits * 10 ^ e ∧
      layout.pointed digits (e + digits.length) = n.chars plus := by
  have zeros (k : ℕ) : ∀ c ∈ List.replicate k '0', c.isDigit = true := by
    intro c member
    rw [List.eq_of_mem_replicate member]
    rfl
  have length : 0 < digits.length := List.length_pos_iff.2 nonempty
  by_cases below : e + digits.length ≤ 0
  · refine ⟨⟨none, ['0'], some (List.replicate (-(e + digits.length)).toNat '0' ++ digits), none⟩,
      ⟨by simp, by simp, List.forall_mem_append.2 ⟨zeros _, only⟩⟩, rfl, ?_, ?_⟩
    · have value := Numeral.digitsValue_zeros_append ((-(e + digits.length)).toNat + 1) digits
      rw [List.replicate_succ, List.cons_append] at value
      simp only [Numeral.value, Option.getD_some, Option.getD_none, List.singleton_append, value,
        List.length_append, List.length_replicate]
      congr 2
      omega
    · simp [pointed, below]
  by_cases within : digits.length ≤ (e + digits.length).toNat
  · obtain ⟨k, rfl⟩ : ∃ k : ℕ, e = k := Int.eq_ofNat_of_zero_le (by omega)
    have fill : (k + digits.length : ℤ).toNat - digits.length = k := by omega
    refine ⟨⟨none, digits ++ List.replicate k '0', if layout.keepsPoint then some ['0'] else none,
      none⟩, ⟨by simp [nonempty], List.forall_mem_append.2 ⟨only, zeros k⟩, ?_⟩, rfl, ?_, ?_⟩
    · cases layout.keepsPoint <;> simp
    · cases layout.keepsPoint with
      | false => simp [Numeral.value, Numeral.digitsValue_append_zeros, mul_comm]
      | true =>
        have value := Numeral.digitsValue_append_zeros digits (k + 1)
        rw [List.replicate_succ', ← List.append_assoc] at value
        have unit : (10 : ℚ) ^ (0 - (['0'].length : ℕ) : ℤ) = 10⁻¹ := by norm_num
        simp only [Numeral.value, if_true, Option.getD_some, Option.getD_none, value, unit]
        push_cast
        rw [zpow_natCast, pow_succ]
        field_simp
    · simp only [pointed, below, within, fill, if_true, if_false]
      cases layout.keepsPoint <;> simp
  · refine ⟨⟨none, digits.take (e + digits.length).toNat,
      some (digits.drop (e + digits.length).toNat), none⟩,
      ⟨?_, fun c member => only c (List.mem_of_mem_take member),
        fun c member => only c (List.mem_of_mem_drop member)⟩, rfl, ?_, ?_⟩
    · simp only [ne_eq, List.take_eq_nil_iff, nonempty, or_false]
      omega
    · simp only [Numeral.value, Option.getD_some, Option.getD_none, List.take_append_drop,
        List.length_drop]
      congr 2
      omega
    · simp [pointed, below, within]

theorem scientific_eq_chars (nonempty : digits ≠ []) (only : ∀ c ∈ digits, c.isDigit = true)
    {plus : Bool} (mark : layout.plusMark = if plus then "+" else "") (e : ℤ) :
    ∃ n : Numeral, n.Plain ∧ n.sign = none ∧ n.value = Numeral.digitsValue digits * 10 ^ e ∧
      layout.scientific digits (e + (digits.length - 1 : ℕ)) = n.chars plus := by
  have exponent (k : ℤ) : ((if 0 ≤ k then layout.plusMark else "-") ++ toString k.natAbs).toList =
      Numeral.signChars (Numeral.exponentSign plus k) ++ Nat.toDigits 10 k.natAbs := by
    rw [mark, Nat.toString_eq_ofList_toDigits, Numeral.exponentSign]
    by_cases negative : k < 0
    · simp [negative, not_le.2 negative, Numeral.signChars]
    · cases plus <;> simp [negative, not_lt.1 negative, Numeral.signChars]
  obtain ⟨c, rest, rfl⟩ := List.exists_cons_of_ne_nil nonempty
  have first : c.isDigit = true := only c List.mem_cons_self
  cases rest with
  | nil =>
    refine ⟨⟨none, [c], none, some e⟩, ⟨by simp, by simp [first], by simp⟩, rfl, ?_, ?_⟩
    · simp [Numeral.value]
    · simp only [scientific]
      rw [exponent]
      simp
  | cons d rest =>
    refine ⟨⟨none, [c], some (d :: rest), some (e + (d :: rest).length)⟩, ⟨by simp, by simp [first],
      fun c member => only c (List.mem_cons_of_mem _ member)⟩, rfl, ?_, ?_⟩
    · simp [Numeral.value]
    · simp only [scientific]
      rw [exponent]
      simp

variable {plus : Bool} (mark : layout.plusMark = if plus then "+" else "")
include mark

/-- The text of a decimal is a numeral of its value. -/
theorem magnitude_eq_chars (d : Decimal) :
    ∃ n : Numeral, n.Plain ∧ n.sign = none ∧ n.value = d.value ∧
      layout.magnitude d = n.chars plus := by
  have nonempty : d.text ≠ [] := Nat.toDigits_ne_nil
  have only : ∀ c ∈ d.text, c.isDigit = true := Numeral.isDigit_toDigits d.digits
  have length : 0 < d.text.length := List.length_pos_iff.2 nonempty
  have value : (Numeral.digitsValue d.text * 10 ^ d.exponent : ℚ) = d.value := by
    rw [Decimal.text, Numeral.digitsValue_toDigits, Decimal.value]
  rw [← value, magnitude]
  split_ifs
  · have whole : d.leading + 1 = d.exponent + d.text.length := by rw [Decimal.leading]; omega
    rw [whole]
    exact layout.pointed_eq_chars nonempty only plus d.exponent
  · exact layout.scientific_eq_chars nonempty only mark d.exponent

/-- The text of a finite double is a numeral that stands for it. -/
theorem finiteText_eq_chars (x : Finite) :
    ∃ n : Numeral, n.Plain ∧ n.toDouble = finite x ∧
      (layout.finiteText x).toList = n.chars plus := by
  obtain ⟨n, plain, unsigned, value, written⟩ :=
    layout.magnitude_eq_chars mark (x.shortest layout.tie)
  refine ⟨{ n with sign := if x.negative then some true else none },
    ⟨plain.whole_ne_nil, plain.isDigit_whole, plain.isDigit_fraction⟩, ?_, ?_⟩
  · rw [← x.toDouble_shortest layout.tie, Decimal.toDouble_eq_nearest, ← value,
      Numeral.toDouble_eq_nearest]
    cases x.negative <;> rfl
  · rw [finiteText, String.toList_ofList, written]
    cases x.negative <;> simp [Numeral.chars, Numeral.signChars, unsigned]

/-- The text of a finite double reads as that double. -/
theorem read?_finiteText (x : Finite) : read? (layout.finiteText x) = some (finite x) := by
  obtain ⟨n, plain, stands, written⟩ := layout.finiteText_eq_chars mark x
  rw [Numeral.read?_of_chars plain written, stands]

end Double.Layout

end LiveForm
