import AjoCloud.Database.Basic

/-!
# Fee rules

`fee-rule.ts` and `FeesService`: versioned definitions, tiers with a provider cost, and the fee a
definition assesses on an amount.  Division truncates, as `bigint` division does.
-/

namespace AjoCloud.Fees

open Lib ServiceError

/-- The codes of the fees the platform charges. -/
inductive FeeCode where
  | deposit
  | payout
  | ajoSwap
  | billPayment
deriving DecidableEq, Repr

/-- The code as it is stored. -/
def FeeCode.toString : FeeCode → String
  | .deposit => "DEPOSIT"
  | .payout => "PAYOUT"
  | .ajoSwap => "AJO_SWAP"
  | .billPayment => "BILL_PAYMENT"

/-- Basis points of an amount, truncated. -/
def percentageOf (baseMinor : Int) (basisPoints : Option Int) : Int :=
  (baseMinor * basisPoints.getD 0).tdiv 10000

/-- What the payment provider charges for a transaction of this size. -/
def providerCostMinor (rule : FeeDefinition) (baseMinor : Int) : Int :=
  (baseMinor * rule.providerRateBasisPoints.getD 0).tdiv 10000 + rule.providerFlatMinor.getD 0

/-- The markup band covering an amount. -/
def tierFor (tiers : List FeeTier) (baseMinor : Int) : Option FeeTier :=
  tiers.find? fun tier ↦ tier.fromMinor ≤ baseMinor ∧ tier.toMinor.all (baseMinor < ·)

/-- The loop of `assertTiersPartitionRange` over the ordered tiers. -/
def assertTiersAbut : List FeeTier → Except ServiceError Unit
  | [] => .ok ()
  | [tier] => require (tier.toMinor = none) (unprocessable "The final fee tier must be open ended")
  | tier :: next :: rest => do
      require (tier.toMinor ≠ none) (unprocessable "Only the final fee tier may be open ended")
      require (tier.toMinor = some next.fromMinor)
        (unprocessable "Fee tiers must not overlap or leave a gap between bands")
      require (¬ tier.amountMinor < 0) (unprocessable "A fee tier cannot be negative")
      assertTiersAbut (next :: rest)

/-- Refuse tiers that do not partition their range. -/
def assertTiersPartitionRange (tiers : List FeeTier) : Except ServiceError Unit := do
  require (tiers ≠ []) (unprocessable "A tiered fee needs at least one tier")
  let ordered := tiers.insertionSort fun left right ↦ left.fromMinor ≤ right.fromMinor
  require (ordered.head?.map (·.fromMinor) = some 0) (unprocessable "Fee tiers must start at zero")
  assertTiersAbut ordered

/-- The amount before the minimum and the maximum are applied. -/
def unboundedFee (rule : FeeDefinition) (tiers : List FeeTier) (baseMinor : Int) :
    Except ServiceError Int :=
  match rule.calculationType with
  | .fixed => .ok (rule.amountMinor.getD 0)
  | .percentage => .ok (percentageOf baseMinor rule.basisPoints)
  | .tiered => do
      assertTiersPartitionRange tiers
      let tier ← orThrow (tierFor tiers baseMinor) (unprocessable "No fee tier covers this amount")
      let costPlus := providerCostMinor rule baseMinor + tier.amountMinor
      let floor := percentageOf baseMinor rule.basisPoints
      pure (if costPlus > floor then costPlus else floor)

/-- `assessVersionedFee`: the amount. -/
def assessVersionedFee (rule : FeeDefinition) (tiers : List FeeTier) (baseMinor : Int) :
    Except ServiceError Int := do
  require (¬ baseMinor < 0) (unprocessable "Fee base cannot be negative")
  let amountMinor ← unboundedFee rule tiers baseMinor
  let amountMinor := match rule.minimumMinor with
    | some minimum => if amountMinor < minimum then minimum else amountMinor
    | none => amountMinor
  let amountMinor := match rule.maximumMinor with
    | some maximum => if amountMinor > maximum then maximum else amountMinor
    | none => amountMinor
  require (¬ amountMinor < 0) (unprocessable "Fee cannot be negative")
  pure amountMinor

/-- The current version of a fee, honouring effective dating: of the definitions in force, the one
with the highest version. -/
def activeDefinition (db : Db) (code : FeeCode) (now : Timestamp) : Option FeeDefinition :=
  ((db.feeDefinitions.findMany fun d ↦ d.code = code.toString ∧ d.isActive ∧ d.effectiveAt ≤ now ∧
    d.expiresAt.all (now < ·)).insertionSort fun a b ↦ b.version ≤ a.version).head?

/-- The tiers of a definition, in order. -/
def tiersOf (db : Db) (definition : FeeDefinition) : List FeeTier :=
  (db.feeTiers.findMany fun t ↦ t.feeDefinitionId = definition.id).insertionSort
    fun a b ↦ a.fromMinor ≤ b.fromMinor

/-- `FeesService.assess`: the amount, zero when no definition is in force. -/
def assess (db : Db) (code : FeeCode) (baseMinor : Int) (now : Timestamp) :
    Except ServiceError Int :=
  match activeDefinition db code now with
  | none => .ok 0
  | some definition => assessVersionedFee definition (tiersOf db definition) baseMinor

/-- No fee is negative. -/
theorem assessVersionedFee_nonneg {rule : FeeDefinition} {tiers : List FeeTier} {base fee : Int}
    (h : assessVersionedFee rule tiers base = .ok fee) : 0 ≤ fee := by
  simp only [assessVersionedFee, bind_eq_ok, require_eq_ok, pure_eq_ok, exists_const] at h
  obtain ⟨-, _, -, hfee, rfl⟩ := h
  exact not_lt.mp hfee

theorem assess_nonneg {db : Db} {code : FeeCode} {base fee : Int} {now : Timestamp}
    (h : assess db code base now = .ok fee) : 0 ≤ fee := by
  rw [assess] at h
  split at h
  · cases h
    exact le_refl 0
  · exact assessVersionedFee_nonneg h

end AjoCloud.Fees
