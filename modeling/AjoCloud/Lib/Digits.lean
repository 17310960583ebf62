import Mathlib.Algebra.Order.Field.Rat
import Mathlib.Data.List.TakeWhile
import Mathlib.Tactic.FieldSimp
import Mathlib.Tactic.Linarith
import Mathlib.Tactic.Positivity
import Mathlib.Tactic.Ring

/-!
# Digit strings and decimals

The value of a string of decimal digits, and that of a decimal with a fraction.  A fraction is shifted by
`k` places when its first `k` digits, with zeros after them where they are fewer, are read as a number;
`shift_eq` says what the digits after them still are worth.
-/

namespace AjoCloud.Lib

/-! ## Digits -/

section Digits

variable {ds es : List Char}

/-- The number that the digits denote. -/
def digitsValue (ds : List Char) : Nat := Nat.ofDigitChars 10 ds 0

@[simp] theorem digitsValue_nil : digitsValue [] = 0 := Nat.ofDigitChars_nil

theorem digitsValue_append (ds es : List Char) :
    digitsValue (ds ++ es) = digitsValue ds * 10 ^ es.length + digitsValue es := by
  rw [digitsValue, Nat.ofDigitChars_append, Nat.ofDigitChars_eq_ofDigitChars_zero, Nat.mul_comm]
  rfl

@[simp] theorem digitsValue_zeros (n : Nat) : digitsValue (List.replicate n '0') = 0 := by
  rw [digitsValue, Nat.ofDigitChars_replicate_zero, Nat.mul_zero]

/-- Leading zeros are worth nothing. -/
theorem digitsValue_zeros_append (n : Nat) (ds : List Char) :
    digitsValue (List.replicate n '0' ++ ds) = digitsValue ds := by
  rw [digitsValue_append, digitsValue_zeros, Nat.zero_mul, Nat.zero_add]

theorem digitsValue_cons (c : Char) (ds : List Char) :
    digitsValue (c :: ds) = (c.toNat - '0'.toNat) * 10 ^ ds.length + digitsValue ds := by
  rw [← List.singleton_append, digitsValue_append]
  simp [digitsValue, Nat.ofDigitChars_cons]

theorem digitsValue_lt (h : ∀ c ∈ ds, c.isDigit = true) : digitsValue ds < 10 ^ ds.length := by
  induction ds with
  | nil => exact Nat.one_pos
  | cons c ds ih =>
      rw [List.forall_mem_cons, Char.isDigit_iff_toNat] at h
      have hdigit : c.toNat - '0'.toNat ≤ 9 := Nat.sub_le_of_le_add h.1.2
      calc digitsValue (c :: ds)
          = (c.toNat - '0'.toNat) * 10 ^ ds.length + digitsValue ds := digitsValue_cons c ds
        _ < 9 * 10 ^ ds.length + 10 ^ ds.length :=
            Nat.add_lt_add_of_le_of_lt (Nat.mul_le_mul_right _ hdigit) (ih h.2)
        _ = 10 ^ (c :: ds).length := by rw [List.length_cons, pow_succ]; ring

/-- Digits that are worth nothing are zeros. -/
theorem digitsValue_eq_zero_iff (h : ∀ c ∈ ds, c.isDigit = true) :
    digitsValue ds = 0 ↔ ∀ c ∈ ds, c = '0' := by
  constructor
  · intro hzero
    induction ds with
    | nil => exact List.forall_mem_nil _
    | cons c ds ih =>
        rw [List.forall_mem_cons, Char.isDigit_iff_toNat] at h
        rw [digitsValue_cons, Nat.add_eq_zero_iff] at hzero
        have hle : c.toNat ≤ '0'.toNat := by
          have hprod := Nat.mul_eq_zero.mp hzero.1
          exact Nat.sub_eq_zero_iff_le.mp (hprod.resolve_right (by positivity))
        refine List.forall_mem_cons.mpr ⟨?_, ih h.2 hzero.2⟩
        exact Char.toNat_inj.mp (Nat.le_antisymm hle h.1.1)
  · intro hall
    rw [List.eq_replicate_iff.mpr ⟨rfl, hall⟩, digitsValue_zeros]

end Digits

/-! ## Fractions -/

section Fractions

variable {k : Nat} {fraction : List Char}

/-- The first `k` digits of a fraction, filled up with zeros. -/
def shiftDigits (k : Nat) (fraction : List Char) : List Char :=
  (fraction ++ List.replicate k '0').take k

@[simp] theorem length_shiftDigits (k : Nat) (fraction : List Char) :
    (shiftDigits k fraction).length = k := by
  simp [shiftDigits]

/-- What the digits are worth after the point. -/
def fractionValue (fraction : List Char) : ℚ := digitsValue fraction / 10 ^ fraction.length

theorem fractionValue_nonneg (fraction : List Char) : 0 ≤ fractionValue fraction := by
  rw [fractionValue]
  positivity

theorem fractionValue_lt_one (h : ∀ c ∈ fraction, c.isDigit = true) : fractionValue fraction < 1 := by
  rw [fractionValue, div_lt_one (by positivity)]
  exact_mod_cast digitsValue_lt h

/-- Zeros at the end are worth nothing. -/
theorem fractionValue_append_zeros (fraction : List Char) (n : Nat) :
    fractionValue (fraction ++ List.replicate n '0') = fractionValue fraction := by
  rw [fractionValue, fractionValue, digitsValue_append, digitsValue_zeros, List.length_append,
    List.length_replicate, pow_add]
  push_cast
  field_simp
  ring

/-- Shifted by `k` places, a fraction is its first `k` digits and the fraction of those after them. -/
theorem shift_eq (k : Nat) (fraction : List Char) :
    fractionValue fraction * 10 ^ k =
      digitsValue (shiftDigits k fraction) + fractionValue (fraction.drop k) := by
  obtain ⟨rest, hsplit, hrest⟩ : ∃ rest,
      fraction ++ List.replicate k '0' = shiftDigits k fraction ++ rest ∧
        fractionValue rest = fractionValue (fraction.drop k) := by
    refine ⟨_, (List.take_append_drop k _).symm, ?_⟩
    rw [List.drop_append, List.drop_replicate]
    exact fractionValue_append_zeros _ _
  rw [← hrest, ← fractionValue_append_zeros fraction k, hsplit, fractionValue, fractionValue,
    digitsValue_append, List.length_append, length_shiftDigits, pow_add]
  push_cast
  field_simp

/-- A fraction that is no longer than `k` digits is shifted exactly. -/
theorem shift_eq_of_length_le (h : fraction.length ≤ k) :
    fractionValue fraction * 10 ^ k = digitsValue (shiftDigits k fraction) := by
  rw [shift_eq, List.drop_eq_nil_of_le h]
  simp [fractionValue]

/-- A shifted fraction is a whole number exactly when the digits after the first `k` are zeros. -/
theorem exists_shift_eq_iff (h : ∀ c ∈ fraction, c.isDigit = true) {n : Int} :
    fractionValue fraction * 10 ^ k = n ↔
      (∀ c ∈ fraction.drop k, c = '0') ∧ digitsValue (shiftDigits k fraction) = n := by
  have hrest : ∀ c ∈ fraction.drop k, c.isDigit = true := fun c hc ↦ h c (List.mem_of_mem_drop hc)
  have hnonneg := fractionValue_nonneg (fraction.drop k)
  have hlt := fractionValue_lt_one hrest
  have hzero : fractionValue (fraction.drop k) = 0 ↔ ∀ c ∈ fraction.drop k, c = '0' := by
    rw [← digitsValue_eq_zero_iff hrest, fractionValue, div_eq_zero_iff, Nat.cast_eq_zero]
    exact or_iff_left (by positivity)
  rw [shift_eq, ← hzero]
  constructor
  · intro hn
    have hdiff : fractionValue (fraction.drop k) = ((n - digitsValue (shiftDigits k fraction) : Int) : ℚ) := by
      push_cast
      linarith
    rw [hdiff] at hnonneg hlt ⊢
    have hwhole : n - digitsValue (shiftDigits k fraction) = 0 :=
      Int.le_antisymm (Int.lt_add_one_iff.mp (by exact_mod_cast hlt)) (by exact_mod_cast hnonneg)
    exact ⟨by exact_mod_cast hwhole, by omega⟩
  · rintro ⟨hnone, rfl⟩
    rw [hnone, add_zero]
    rfl

end Fractions

/-! ## Decimals -/

/-- An optional minus, digits, and perhaps a point with digits after it. -/
structure Decimal where
  negative : Bool
  whole : List Char
  fraction : List Char
  whole_ne_nil : whole ≠ []
  whole_digits : ∀ c ∈ whole, c.isDigit = true
  fraction_digits : ∀ c ∈ fraction, c.isDigit = true

namespace Decimal

/-- How it is written without the sign; without a fraction there is no point. -/
def unsignedText (d : Decimal) : List Char :=
  d.whole ++ if d.fraction = [] then [] else '.' :: d.fraction

/-- How it is written. -/
def text (d : Decimal) : List Char := (if d.negative then ['-'] else []) ++ d.unsignedText

/-- Its value without the sign. -/
def magnitude (d : Decimal) : ℚ := digitsValue d.whole + fractionValue d.fraction

def value (d : Decimal) : ℚ := if d.negative then -d.magnitude else d.magnitude

/-- Shifted by `k` places, a decimal is a whole number exactly when the digits of the fraction after the
first `k` are zeros, and then it is the number of the digits before them. -/
theorem magnitude_shift_eq_iff (d : Decimal) {k : Nat} {n : Int} :
    d.magnitude * 10 ^ k = n ↔
      (∀ c ∈ d.fraction.drop k, c = '0') ∧ digitsValue (d.whole ++ shiftDigits k d.fraction) = n := by
  have hsub : d.magnitude * 10 ^ k = n ↔
      fractionValue d.fraction * 10 ^ k = ((n - digitsValue d.whole * 10 ^ k : Int) : ℚ) := by
    rw [magnitude, add_mul]
    push_cast
    constructor
    · intro h
      linarith
    · intro h
      linarith
  rw [hsub, exists_shift_eq_iff d.fraction_digits, digitsValue_append, length_shiftDigits]
  refine and_congr_right fun _ ↦ ?_
  push_cast
  omega

/-! ### Reading the text -/

/-- No digit is a character that is none. -/
theorem ne_of_isDigit {c x : Char} (h : c.isDigit = true) (hx : x.isDigit = false) : c ≠ x := by
  rintro rfl
  rw [hx] at h
  cases h

/-- The digits at the front of the text, and what comes after them. -/
theorem span_unsignedText (d : Decimal) :
    d.unsignedText.takeWhile Char.isDigit = d.whole ∧
      d.unsignedText.dropWhile Char.isDigit = if d.fraction = [] then [] else '.' :: d.fraction := by
  rw [unsignedText, List.takeWhile_append_of_pos d.whole_digits,
    List.dropWhile_append_of_pos d.whole_digits]
  split
  · exact ⟨List.append_nil _, rfl⟩
  · exact ⟨List.append_nil _, rfl⟩

/-- What comes before the point. -/
theorem takeWhile_unsignedText (d : Decimal) : d.unsignedText.takeWhile (· ≠ '.') = d.whole := by
  have hwhole : ∀ c ∈ d.whole, decide (c ≠ '.') = true := fun c hc ↦
    decide_eq_true (ne_of_isDigit (d.whole_digits c hc) rfl)
  rw [unsignedText, List.takeWhile_append_of_pos hwhole]
  split
  · exact List.append_nil _
  · exact List.append_nil _

/-- What comes after the point, up to the next. -/
theorem takeWhile_drop_unsignedText (d : Decimal) :
    ((d.unsignedText.dropWhile (· ≠ '.')).drop 1).takeWhile (· ≠ '.') = d.fraction := by
  have hwhole : ∀ c ∈ d.whole, decide (c ≠ '.') = true := fun c hc ↦
    decide_eq_true (ne_of_isDigit (d.whole_digits c hc) rfl)
  have hfraction : ∀ c ∈ d.fraction, decide (c ≠ '.') = true := fun c hc ↦
    decide_eq_true (ne_of_isDigit (d.fraction_digits c hc) rfl)
  rw [unsignedText, List.dropWhile_append_of_pos hwhole]
  split
  · next hnone =>
      rw [hnone]
      rfl
  · exact List.takeWhile_eq_self_iff.mpr hfraction

/-- A decimal is written in one way. -/
theorem text_injective {d e : Decimal} (h : d.text = e.text) : d = e := by
  have hfront : ∀ d : Decimal, d.unsignedText.head? ≠ some '-' := by
    intro d
    obtain ⟨c, rest, hwhole⟩ := List.exists_cons_of_ne_nil d.whole_ne_nil
    have hdigit := d.whole_digits c (hwhole ▸ List.mem_cons_self)
    simpa [unsignedText, hwhole] using ne_of_isDigit hdigit rfl
  have hsign : d.negative = e.negative := by
    cases hd : d.negative <;> cases he : e.negative
    · rfl
    · rw [text, text, hd, he] at h
      exact absurd (congrArg List.head? h) (hfront d)
    · rw [text, text, hd, he] at h
      exact absurd (congrArg List.head? h).symm (hfront e)
    · rfl
  have hrest : d.unsignedText = e.unsignedText := by
    rw [text, text, hsign] at h
    exact List.append_cancel_left h
  have hwhole : d.whole = e.whole := by
    rw [← d.takeWhile_unsignedText, hrest, e.takeWhile_unsignedText]
  have hfraction : d.fraction = e.fraction := by
    rw [← d.takeWhile_drop_unsignedText, hrest, e.takeWhile_drop_unsignedText]
  cases d
  cases e
  subst hsign hwhole hfraction
  rfl

/-- Digits at the front, and after them nothing or a point with digits after it, are the text of a
decimal. -/
theorem exists_unsignedText_eq {text : List Char} (negative : Bool)
    (hsome : text.takeWhile Char.isDigit ≠ [])
    (hrest : text.dropWhile Char.isDigit = [] ∨ ∃ fraction, fraction ≠ [] ∧
      (∀ c ∈ fraction, c.isDigit = true) ∧ text.dropWhile Char.isDigit = '.' :: fraction) :
    ∃ d : Decimal, d.negative = negative ∧ d.unsignedText = text := by
  have hsplit := List.takeWhile_append_dropWhile (p := Char.isDigit) (l := text)
  have hwhole := fun c (hc : c ∈ text.takeWhile Char.isDigit) ↦ List.mem_takeWhile_imp hc
  generalize text.takeWhile Char.isDigit = whole at hsplit hwhole hsome
  obtain hnone | ⟨fraction, hnonempty, hdigits, hpoint⟩ := hrest
  · refine ⟨⟨negative, whole, [], hsome, hwhole, nofun⟩, rfl, ?_⟩
    rw [hnone] at hsplit
    rw [← hsplit]
    rfl
  · refine ⟨⟨negative, whole, fraction, hsome, hwhole, hdigits⟩, rfl, ?_⟩
    rw [hpoint] at hsplit
    rw [← hsplit, unsignedText, if_neg hnonempty]

end Decimal

end AjoCloud.Lib
