import AjoCloud.Fees.Tiers

/-!
# Fees below their base

Nothing in `fee-rule.ts` compares a fee with the amount it is charged on.  Here is when it stays below
that amount, read off the fields of the rule.
-/

namespace AjoCloud.Fees

open Lib

variable {rule : FeeDefinition} {tiers : List FeeTier} {base fee : Int}

/-- Before its minimum and its maximum, the rule asks for less than the amount. -/
def AsksLess (rule : FeeDefinition) (tiers : List FeeTier) (base : Int) : Prop :=
  match rule.calculationType with
  | .fixed => rule.amountMinor.getD 0 < base
  | .percentage => rule.basisPoints.getD 0 < 10000
  | .tiered => rule.basisPoints.getD 0 < 10000 ∧
      ∀ tier ∈ tiers, covers tier base → providerCostMinor rule base + tier.amountMinor < base

/-- The rule asks for less than the amount and has no minimum that reaches it, or its maximum is less
than the amount. -/
def StaysBelow (rule : FeeDefinition) (tiers : List FeeTier) (base : Int) : Prop :=
  AsksLess rule tiers base ∧ (∀ minimum, rule.minimumMinor = some minimum → minimum < base) ∨
    ∃ maximum, rule.maximumMinor = some maximum ∧ maximum < base

/-- The definition in force, if there is one, stays below the amount. -/
def DefinitionStaysBelow (db : Db) (code : FeeCode) (base : Int) (now : Timestamp) : Prop :=
  ∀ definition, activeDefinition db code now = some definition →
    StaysBelow definition (tiersOf db definition) base

/-- A percentage of an amount is less than it below a hundred percent. -/
theorem percentageOf_lt_iff (hbase : 0 < base) {basisPoints : Option Int} :
    percentageOf base basisPoints < base ↔ basisPoints.getD 0 < 10000 := by
  generalize hrate : basisPoints.getD 0 = rate
  rw [percentageOf, hrate]
  constructor
  · intro hlt
    by_contra hge
    have hle : base * 10000 ≤ base * rate :=
      Int.mul_le_mul_of_nonneg_left (not_lt.mp hge) hbase.le
    rw [Int.tdiv_eq_ediv_of_nonneg (by omega)] at hlt
    omega
  · intro hlt
    have hle : base * rate ≤ base * 9999 :=
      Int.mul_le_mul_of_nonneg_left (Int.le_sub_one_of_lt hlt) hbase.le
    rcases le_or_gt 0 (base * rate) with hnonneg | hneg
    · rw [Int.tdiv_eq_ediv_of_nonneg hnonneg]
      omega
    · have hopposite : 0 ≤ (-(base * rate)).tdiv 10000 := Int.tdiv_nonneg (by omega) (by decide)
      rw [Int.neg_tdiv] at hopposite
      omega

/-- What the rule comes to, and what it asks for. -/
theorem unboundedFee_lt_iff (hbase : 0 < base) {amount : Int}
    (h : unboundedFee rule tiers base = .ok amount) : amount < base ↔ AsksLess rule tiers base := by
  cases hcalculation : rule.calculationType with
  | fixed =>
      rw [unboundedFee, hcalculation] at h
      rw [AsksLess, hcalculation, ← Except.ok.inj h]
  | percentage =>
      rw [unboundedFee, hcalculation] at h
      rw [AsksLess, hcalculation, ← Except.ok.inj h]
      exact percentageOf_lt_iff hbase
  | tiered =>
      obtain ⟨haccepted, tier, htier⟩ : assertTiersPartitionRange tiers = .ok () ∧
          ∃ tier, tierFor tiers base = some tier := by
        simp only [unboundedFee, hcalculation, bind_eq_ok, orThrow_eq_ok] at h
        obtain ⟨_, haccepted, tier, htier, -⟩ := h
        exact ⟨haccepted, tier, htier⟩
      rw [unboundedFee_tiered hcalculation haccepted htier] at h
      obtain ⟨hmem, hcovers⟩ := (tierFor_eq_some haccepted).mp htier
      -- The amount lies in one tier, the one that was found.
      have honly : (∀ t ∈ tiers, covers t base → providerCostMinor rule base + t.amountMinor < base) ↔
          providerCostMinor rule base + tier.amountMinor < base := by
        constructor
        · intro hall
          exact hall tier hmem hcovers
        · intro hlt t ht htcovers
          rw [covers_unique haccepted ht hmem htcovers hcovers]
          exact hlt
      rw [AsksLess, hcalculation, ← Except.ok.inj h, max_lt_iff, percentageOf_lt_iff hbase]
      exact and_congr_right fun _ ↦ honly.symm

theorem clamped_lt_iff {amount : Int} : clamped rule amount < base ↔
    amount < base ∧ (∀ minimum, rule.minimumMinor = some minimum → minimum < base) ∨
      ∃ maximum, rule.maximumMinor = some maximum ∧ maximum < base := by
  unfold clamped
  cases rule.minimumMinor with
  | none =>
      cases rule.maximumMinor with
      | none => simp
      | some maximum => simp [or_comm]
  | some minimum =>
      cases rule.maximumMinor with
      | none => simp
      | some maximum => simp [or_comm]

/-- A fee is less than the amount exactly when its rule stays below the amount. -/
theorem assessVersionedFee_lt_iff (hbase : 0 < base)
    (h : assessVersionedFee rule tiers base = .ok fee) : fee < base ↔ StaysBelow rule tiers base := by
  obtain ⟨-, amount, hamount, rfl, -⟩ := assessVersionedFee_eq_ok.mp h
  rw [clamped_lt_iff, unboundedFee_lt_iff hbase hamount, StaysBelow]

theorem assess_lt_iff {db : Db} {code : FeeCode} {now : Timestamp} (hbase : 0 < base)
    (h : assess db code base now = .ok fee) :
    fee < base ↔ DefinitionStaysBelow db code base now := by
  unfold assess at h
  unfold DefinitionStaysBelow
  cases hactive : activeDefinition db code now with
  | none =>
      rw [hactive] at h
      cases h
      simpa using hbase
  | some definition =>
      rw [hactive] at h
      simpa using assessVersionedFee_lt_iff hbase h

end AjoCloud.Fees
