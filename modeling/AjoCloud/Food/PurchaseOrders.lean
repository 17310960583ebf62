import AjoCloud.Lib.Digits
import Mathlib.Algebra.BigOperators.Group.List.Basic
import Mathlib.Algebra.Order.Floor.Ring
import Mathlib.Data.Rat.Floor

/-!
# Purchase orders

The totals of `food-ajo-policy.ts`.  The quantity of a line is a decimal with up to three places; its price
is scaled to thousandths and rounded half up.
-/

namespace AjoCloud.Food

open Lib

/-- A line of an order, as far as its price goes. -/
structure PurchaseOrderItem where
  quantity : String
  unitPriceMinor : Int

/-- `/^\d{1,9}(\.\d{1,3})?$/`, which the request body asks of a quantity. -/
def isQuantity (quantity : String) : Bool :=
  let whole := quantity.toList.takeWhile Char.isDigit
  1 ≤ whole.length && whole.length ≤ 9 &&
    match quantity.toList.dropWhile Char.isDigit with
    | [] => true
    | c :: fraction =>
        c = '.' && 1 ≤ fraction.length && fraction.length ≤ 3 && fraction.all Char.isDigit

/-- The two parts of `quantity.split('.')`. -/
def quantityParts (quantity : String) : List Char × List Char :=
  (quantity.toList.takeWhile (· ≠ '.'),
    ((quantity.toList.dropWhile (· ≠ '.')).drop 1).takeWhile (· ≠ '.'))

/-- `scaleByQuantity`. -/
def scaleByQuantity (unitPriceMinor : Int) (quantity : String) : Int :=
  let (whole, fraction) := quantityParts quantity
  let thousandths : Int :=
    Nat.ofDigitChars 10 whole 0 * 1000 + Nat.ofDigitChars 10 ((fraction ++ ['0', '0', '0']).take 3) 0
  let scaled := unitPriceMinor * thousandths
  let remainder := scaled.tmod 1000
  scaled.tdiv 1000 + if 1000 ≤ remainder * 2 then 1 else 0

/-- `purchaseOrderTotalMinor`. -/
def purchaseOrderTotalMinor (items : List PurchaseOrderItem) : Int :=
  items.foldl (fun total item ↦ total + scaleByQuantity item.unitPriceMinor item.quantity) 0

/-! ## A line -/

/-- A quantity is a decimal. -/
theorem exists_decimal {quantity : String} (h : isQuantity quantity = true) :
    ∃ d : Decimal, d.negative = false ∧ d.text = quantity.toList ∧ d.fraction.length ≤ 3 := by
  simp only [isQuantity, Bool.and_eq_true, decide_eq_true_eq] at h
  obtain ⟨⟨hsome, -⟩, hrest⟩ := h
  obtain ⟨d, hnegative, hd⟩ : ∃ d : Decimal, d.negative = false ∧ d.unsignedText = quantity.toList := by
    refine Decimal.exists_unsignedText_eq _ (List.ne_nil_of_length_pos hsome) ?_
    split at hrest
    · next hnone => exact .inl hnone
    · next c fraction hpoint =>
        simp only [Bool.and_eq_true, decide_eq_true_eq, List.all_eq_true] at hrest
        obtain ⟨⟨⟨rfl, hnonempty⟩, -⟩, hdigits⟩ := hrest
        exact .inr ⟨fraction, List.ne_nil_of_length_pos hnonempty, hdigits, hpoint⟩
  refine ⟨d, hnegative, by rw [Decimal.text, hnegative, hd]; rfl, ?_⟩
  rw [← hd, d.span_unsignedText.2] at hrest
  by_cases hnone : d.fraction = []
  · rw [hnone]
    exact Nat.zero_le 3
  · rw [if_neg hnone] at hrest
    simp only [Bool.and_eq_true, decide_eq_true_eq] at hrest
    exact hrest.1.2

/-- A number of thousandths, rounded half up. -/
theorem round_thousandths {scaled : Int} (h : 0 ≤ scaled) :
    (scaled.tdiv 1000 + if 1000 ≤ scaled.tmod 1000 * 2 then 1 else 0) =
      ⌊(scaled / 1000 : ℚ) + 1 / 2⌋ := by
  rw [Int.tdiv_eq_ediv_of_nonneg h, Int.tmod_eq_emod_of_nonneg h]
  have hfloor : (scaled / 1000 : ℚ) + 1 / 2 = ((scaled + 500 : Int) : ℚ) / ((1000 : Nat) : ℚ) := by
    push_cast
    ring
  rw [hfloor, Rat.floor_intCast_div_natCast (scaled + 500) 1000]
  split
  · omega
  · omega

/-- What a line costs is its price times its quantity, rounded half up. -/
theorem scaleByQuantity_eq {price : Int} {quantity : String} {d : Decimal} (hprice : 0 < price)
    (hnegative : d.negative = false) (htext : d.text = quantity.toList) (hplaces : d.fraction.length ≤ 3) :
    scaleByQuantity price quantity = ⌊(price : ℚ) * d.value + 1 / 2⌋ := by
  have hparts : quantityParts quantity = (d.whole, d.fraction) := by
    rw [Decimal.text, hnegative] at htext
    rw [quantityParts, ← htext]
    exact Prod.ext d.takeWhile_unsignedText d.takeWhile_drop_unsignedText
  have hscaled : (price : ℚ) * d.value =
      ((price * (digitsValue d.whole * 1000 + digitsValue (shiftDigits 3 d.fraction)) : Int) : ℚ) /
        1000 := by
    have hthousandths := shift_eq_of_length_le hplaces
    rw [Decimal.value, hnegative, if_neg Bool.false_ne_true, Decimal.magnitude]
    push_cast
    rw [← hthousandths]
    ring
  rw [scaleByQuantity, hparts, hscaled]
  refine round_thousandths ?_
  positivity

/-! ## An order -/

theorem purchaseOrderTotalMinor_eq_sum (items : List PurchaseOrderItem) :
    purchaseOrderTotalMinor items =
      (items.map fun item ↦ scaleByQuantity item.unitPriceMinor item.quantity).sum := by
  rw [purchaseOrderTotalMinor, List.sum_eq_foldl, List.foldl_map]

/-- **Totals are exact.**  A line costs its price times its quantity, rounded half up, however the quantity
is spelled; and an order costs what its lines do, in any order and in any parts. -/
theorem purchase_totals_exact {price : Int} {quantity : String} (hprice : 0 < price)
    (hquantity : isQuantity quantity = true) :
    (∃ d : Decimal, d.text = quantity.toList ∧
      scaleByQuantity price quantity = ⌊(price : ℚ) * d.value + 1 / 2⌋ ∧
      ∀ (quantity' : String) (d' : Decimal), isQuantity quantity' = true →
        d'.text = quantity'.toList → d'.value = d.value →
        scaleByQuantity price quantity' = scaleByQuantity price quantity) ∧
    ∀ items items' : List PurchaseOrderItem,
      purchaseOrderTotalMinor items =
          (items.map fun item ↦ scaleByQuantity item.unitPriceMinor item.quantity).sum ∧
        (items.Perm items' → purchaseOrderTotalMinor items = purchaseOrderTotalMinor items') ∧
        purchaseOrderTotalMinor (items ++ items') =
          purchaseOrderTotalMinor items + purchaseOrderTotalMinor items' := by
  constructor
  · obtain ⟨d, hnegative, htext, hplaces⟩ := exists_decimal hquantity
    have hcost := scaleByQuantity_eq hprice hnegative htext hplaces
    refine ⟨d, htext, hcost, fun quantity' d' hquantity' htext' hvalue ↦ ?_⟩
    obtain ⟨d'', hnegative'', htext'', hplaces''⟩ := exists_decimal hquantity'
    obtain rfl : d'' = d' := Decimal.text_injective (htext''.trans htext'.symm)
    rw [scaleByQuantity_eq hprice hnegative'' htext'' hplaces'', hvalue, hcost]
  · intro items items'
    refine ⟨purchaseOrderTotalMinor_eq_sum items, fun hperm ↦ ?_, ?_⟩
    · rw [purchaseOrderTotalMinor_eq_sum, purchaseOrderTotalMinor_eq_sum]
      exact (hperm.map _).sum_eq
    · rw [purchaseOrderTotalMinor_eq_sum, purchaseOrderTotalMinor_eq_sum,
        purchaseOrderTotalMinor_eq_sum, List.map_append, List.sum_append]

/-- Two and a half at 1.51 each. -/
theorem purchase_totals_exact_halves :
    scaleByQuantity 151 "2.5" = 378 ∧ scaleByQuantity 151 "002.500" = 378 := by
  obtain ⟨⟨d, htext, -, hspelled⟩, -⟩ := purchase_totals_exact (by decide : (0 : Int) < 151)
    (by decide : isQuantity "2.5" = true)
  have hd : d = ⟨false, ['2'], ['5'], nofun, by simp, by simp⟩ := Decimal.text_injective htext
  have hvalue : (⟨false, ['0', '0', '2'], ['5', '0', '0'], nofun, by simp, by simp⟩ : Decimal).value =
      d.value := by
    rw [hd]
    norm_num [Decimal.value, Decimal.magnitude, fractionValue, digitsValue, Nat.ofDigitChars_cons]
    ring
  have hscaled : scaleByQuantity 151 "2.5" = 378 := by decide
  exact ⟨hscaled, (hspelled "002.500" _ (by decide) rfl hvalue).trans hscaled⟩

end AjoCloud.Food
