import LiveForm.Text.Blank
import Mathlib.Data.List.TakeWhile

/-!
# What trimming takes away

Trimming takes the blanks off both ends of a row of characters and nothing else. A row without
blanks is what is left of itself between any blanks.
-/

namespace LiveForm.Text

/-- What is left after trimming stands between blanks. -/
theorem exists_eq_append_trimChars (chars : List Char) :
    ∃ before after, chars = before ++ trimChars chars ++ after ∧
      (∀ c ∈ before, isBlank c = true) ∧ ∀ c ∈ after, isBlank c = true := by
  let rest := (chars.dropWhile isBlank).reverse
  have front : chars.takeWhile isBlank ++ chars.dropWhile isBlank = chars :=
    List.takeWhile_append_dropWhile
  have back : rest.takeWhile isBlank ++ rest.dropWhile isBlank = rest :=
    List.takeWhile_append_dropWhile
  refine ⟨chars.takeWhile isBlank, (rest.takeWhile isBlank).reverse, ?_,
    fun c member => List.mem_takeWhile_imp member, fun c member => ?_⟩
  · rw [trimChars, List.append_assoc, ← List.reverse_append, back, List.reverse_reverse, front]
  · exact List.mem_takeWhile_imp (List.mem_reverse.mp member)

/-- Of blanks around characters that are none, only these characters are left. -/
theorem trimChars_append {before word after : List Char}
    (blank : ∀ c ∈ before, isBlank c = true) (blank' : ∀ c ∈ after, isBlank c = true)
    (bare : ∀ c ∈ word, isBlank c = false) : trimChars (before ++ word ++ after) = word := by
  cases word with
  | nil =>
    rw [List.append_nil, trimChars_eq_nil_iff]
    exact List.forall_mem_append.mpr ⟨blank, blank'⟩
  | cons c rest =>
    have kept : ∀ row : List Char, (∀ c ∈ row, isBlank c = false) →
        row.dropWhile isBlank = row := by
      intro row bare
      rw [List.dropWhile_eq_self_iff]
      exact fun inside => by simp [bare]
    have front : (before ++ (c :: rest) ++ after).dropWhile isBlank = (c :: rest) ++ after := by
      rw [List.append_assoc, List.dropWhile_append_of_pos blank, List.cons_append,
        List.dropWhile_cons_of_neg (by simp [bare])]
    rw [trimChars, front, List.reverse_append, List.dropWhile_append_of_pos (by simpa using blank'),
      kept _ (fun d member => bare d (List.mem_reverse.mp member)), List.reverse_reverse]

theorem toLower_of_isBlank {c : Char} (blank : isBlank c = true) : c.toLower = c := by
  have outside : ¬ (c.val ≥ 'A'.val ∧ c.val ≤ 'Z'.val) := by
    rintro ⟨above, below⟩
    have above : 65 ≤ c.toNat := UInt32.le_iff_toNat_le.mp above
    have below : c.toNat ≤ 90 := UInt32.le_iff_toNat_le.mp below
    simp only [isBlank, Bool.or_eq_true, Bool.and_eq_true, decide_eq_true_eq, beq_iff_eq] at blank
    omega
  exact dif_neg outside

theorem isBlank_of_isDigit {c : Char} (digit : c.isDigit = true) : isBlank c = false := by
  have range : 48 ≤ c.toNat ∧ c.toNat ≤ 57 := Char.isDigit_iff_toNat.1 digit
  simp only [isBlank, Bool.or_eq_false_iff, Bool.and_eq_false_iff, decide_eq_false_iff_not,
    beq_eq_false_iff_ne]
  omega

end LiveForm.Text
