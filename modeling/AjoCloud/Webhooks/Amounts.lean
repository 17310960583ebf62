import AjoCloud.Lib.Digits
import AjoCloud.Webhooks.Events

/-!
# The provider's amounts

`toMinorUnits` works on the text of an amount.  It reads the decimals that are a whole number of minor
units, and nothing else.
-/

namespace AjoCloud.Webhooks

open Lib

section Text

variable {d : Decimal} {text : List Char}

theorem isNegative_text (d : Decimal) : isNegative d.text = d.negative := by
  rw [isNegative, Decimal.text]
  cases d.negative with
  | true => rfl
  | false =>
      obtain ⟨c, rest, hwhole⟩ := List.exists_cons_of_ne_nil d.whole_ne_nil
      have hdigit := d.whole_digits c (hwhole ▸ List.mem_cons_self)
      simpa [Decimal.unsignedText, hwhole] using Decimal.ne_of_isDigit hdigit rfl

theorem unsigned_text (d : Decimal) : unsigned d.text = d.unsignedText := by
  rw [unsigned, isNegative_text, Decimal.text]
  cases d.negative with
  | true => rfl
  | false => rfl

theorem wholePart_text (d : Decimal) : wholePart (unsigned d.text) = d.whole := by
  rw [unsigned_text]
  exact d.takeWhile_unsignedText

theorem fractionPart_text (d : Decimal) : fractionPart (unsigned d.text) = d.fraction := by
  rw [unsigned_text]
  exact d.takeWhile_drop_unsignedText

/-- A decimal has the shape that is asked for. -/
theorem isPlainDecimal_text (d : Decimal) : isPlainDecimal d.text = true := by
  rw [isPlainDecimal, unsigned_text, d.span_unsignedText.1, d.span_unsignedText.2]
  split
  · simpa using d.whole_ne_nil
  · next hpoint =>
      split at hpoint
      · cases hpoint
      · next hsome =>
          cases hpoint
          simpa [d.whole_ne_nil, hsome] using d.fraction_digits

/-- What has the shape is the text of a decimal. -/
theorem exists_text_eq (h : isPlainDecimal text = true) : ∃ d : Decimal, d.text = text := by
  have hsign : (if isNegative text then ['-'] else []) ++ unsigned text = text := by
    rw [unsigned]
    split
    · next hminus =>
        obtain ⟨rest, rfl⟩ := List.head?_eq_some_iff.mp (of_decide_eq_true hminus)
        rfl
    · rfl
  rw [isPlainDecimal, Bool.and_eq_true, Bool.not_eq_true', List.isEmpty_eq_false_iff] at h
  obtain ⟨hsome, hrest⟩ := h
  obtain ⟨d, hnegative, hd⟩ : ∃ d : Decimal, d.negative = isNegative text ∧
      d.unsignedText = unsigned text := by
    refine Decimal.exists_unsignedText_eq _ hsome ?_
    split at hrest
    · next hnone => exact .inl hnone
    · next c fraction hpoint =>
        simp only [Bool.and_eq_true, decide_eq_true_eq, Bool.not_eq_true', List.isEmpty_eq_false_iff,
          List.all_eq_true] at hrest
        obtain ⟨⟨rfl, hnonempty⟩, hdigits⟩ := hrest
        exact .inr ⟨fraction, hnonempty, hdigits, hpoint⟩
  refine ⟨d, ?_⟩
  rw [Decimal.text, hnegative, hd, hsign]

end Text

/-- There is precision below the minor unit when a digit after the second is no zero. -/
theorem isSubMinor_iff {fraction : List Char} :
    isSubMinor fraction = false ↔ ∀ c ∈ fraction.drop 2, c = '0' := by
  rw [isSubMinor]
  by_cases hlong : 2 < fraction.length
  · simp [hlong]
  · rw [List.drop_eq_nil_of_le (Nat.le_of_not_lt hlong)]
    simp

/-- The minor units of a decimal are a hundred times its value, where that is a whole number. -/
theorem minorUnits_text (d : Decimal) {m : Int} : minorUnits d.text = some m ↔ d.value * 100 = m := by
  have hmagnitude : ∀ n : Int, d.magnitude * 100 = n ↔
      isSubMinor d.fraction = false ∧ (digitsValue (d.whole ++ shiftDigits 2 d.fraction) : Int) = n := by
    intro n
    rw [isSubMinor_iff, ← d.magnitude_shift_eq_iff]
    norm_num
  have hread : minorUnits d.text = if isSubMinor d.fraction then none else
      some (if d.negative then -(digitsValue (d.whole ++ shiftDigits 2 d.fraction) : Int)
        else digitsValue (d.whole ++ shiftDigits 2 d.fraction)) := by
    rw [minorUnits, if_pos (isPlainDecimal_text d), wholePart_text, fractionPart_text, isNegative_text]
    rfl
  rw [hread, Decimal.value]
  cases hsub : isSubMinor d.fraction with
  | true =>
      refine iff_of_false (by simp) ?_
      split
      · intro hvalue
        have hneg := (hmagnitude (-m)).mp (by push_cast; linarith)
        rw [hsub] at hneg
        cases hneg.1
      · intro hvalue
        have hpos := (hmagnitude m).mp hvalue
        rw [hsub] at hpos
        cases hpos.1
  | false =>
      rw [if_neg Bool.false_ne_true, Option.some_inj]
      split
      · have hneg := hmagnitude (-m)
        rw [hsub, and_iff_right rfl] at hneg
        push_cast at hneg
        rw [neg_mul, neg_eq_iff_eq_neg, neg_eq_iff_eq_neg, hneg]
      · have hpos := hmagnitude m
        rw [hsub, and_iff_right rfl] at hpos
        exact hpos.symm

/-- **Amounts are parsed exactly.**  A text is read as `m` minor units exactly when, without the white
space around it, it is a decimal that is worth `m` hundredths. -/
theorem toMinorUnits_eq_some_iff {s : String} {m : Int} :
    toMinorUnits (some (.string s)) = some m ↔
      ∃ d : Decimal, d.text = (trim s).toList ∧ d.value * 100 = m := by
  rw [toMinorUnits]
  constructor
  · intro h
    have hplain : isPlainDecimal (trim s).toList = true := by
      by_contra hnot
      rw [minorUnits, if_neg hnot] at h
      cases h
    obtain ⟨d, hd⟩ := exists_text_eq hplain
    rw [← hd, minorUnits_text] at h
    exact ⟨d, hd, h⟩
  · rintro ⟨d, hd, hvalue⟩
    rw [← hd, minorUnits_text]
    exact hvalue

end AjoCloud.Webhooks
