import AjoCloud.Database.Basic

/-!
# The settlement policy of an Ajo group

`ajo-settlement-policy.ts` and the parts of `ajo-policy.ts` that swaps use: account codes,
idempotency keys, and the small predicates on statuses and amounts.
-/

namespace AjoCloud.Ajo

open Lib ServiceError Ledger

/-! ## Codes and keys -/

/-- The ledger account code holding one group's pooled contributions. -/
def poolAccountCode (groupId : Uuid) : String := "AJO_GROUP:" ++ groupId.toString ++ ":POOL"

/-- Idempotency key for a contribution, scoped to the schedule it settles. -/
def contributionIdempotencyKey (scheduleId : Uuid) (callerKey : String) : String :=
  "ajo-contribution:" ++ scheduleId.toString ++ (":" ++ callerKey)

/-- Idempotency key for a payout, derived entirely from the schedule. -/
def payoutIdempotencyKey (payoutScheduleId : Uuid) : String :=
  "ajo-payout:" ++ payoutScheduleId.toString

theorem poolAccountCode_inj {g h : Uuid} (e : poolAccountCode g = poolAccountCode h) :
    g = h := by
  unfold poolAccountCode at e
  exact (keyed_inj e).1

/-- A contribution's key is never a payout's. -/
theorem contributionIdempotencyKey_ne_payout (s p : Uuid) (k : String) :
    contributionIdempotencyKey s k ≠ payoutIdempotencyKey p := by
  intro e
  exact append_ne_append 5 (by simp) (by simp) (by simp) _ _ (String.append_assoc.symm.trans e)

/-- The code of a pool is made for pools. -/
theorem codePurpose_poolAccountCode (groupId : Uuid) :
    codePurpose (poolAccountCode groupId) = some .ajoGroupPool := by
  unfold poolAccountCode
  rw [codePurpose, String.append_assoc, if_pos (isPrefixOf_append _ _)]

/-! ## Contribution schedules -/

/-- Contribution schedule states that still owe money. -/
def isOutstanding (status : ContributionScheduleStatus) : Bool :=
  match status with
  | .pending | .due | .partiallyPaid | .overdue => true
  | .paid | .waived | .cancelled => false

/-- The state a contribution schedule should hold given what has been paid. -/
def contributionScheduleStatusFor (amountDueMinor amountPaidMinor : Int)
    (dueAt now : Timestamp) : ContributionScheduleStatus :=
  if amountPaidMinor ≥ amountDueMinor then .paid
  else if amountPaidMinor > 0 then .partiallyPaid
  else if now ≥ dueAt then .overdue
  else .due

/-- Whether a contribution may be accepted, or the message of the error. -/
def assertContributionAmount (amountMinor amountDueMinor amountPaidMinor : Int) :
    Except String Unit :=
  if amountMinor ≤ 0 then .error "A contribution must be greater than zero"
  else if amountDueMinor - amountPaidMinor ≤ 0 then
    .error "This contribution has already been paid in full"
  else if amountMinor > amountDueMinor - amountPaidMinor then
    .error "That is more than this contribution still owes"
  else .ok ()

theorem assertContributionAmount_eq_ok {amount due paid : Int} {u : Unit}
    (h : assertContributionAmount amount due paid = .ok u) : 0 < amount ∧ paid + amount ≤ due := by
  unfold assertContributionAmount at h
  split at h
  · cases h
  · split at h
    · cases h
    · split at h
      · cases h
      · exact ⟨by omega, by omega⟩

/-- Whether a cycle has collected everything it is owed. -/
def isCycleFullyCollected (schedules : List ContributionSchedule) : Bool :=
  schedules.all fun schedule ↦ !isOutstanding schedule.status

/-! ## Payout schedules -/

/-- Whether a payout schedule can be executed at all. -/
def canExecutePayout (status : PayoutScheduleStatus) : Bool :=
  match status with
  | .pending | .ready | .held => true
  | .processing | .paid | .failed | .cancelled => false

/-- The payout states a swap is refused on. -/
def isProhibitedPayout (status : PayoutScheduleStatus) : Bool :=
  match status with
  | .processing | .paid | .failed | .cancelled => true
  | .pending | .ready | .held => false

/-! ## Swaps -/

/-- `assertPayoutAllowsSwap`. -/
def assertPayoutAllowsSwap (status : PayoutScheduleStatus) : Except ServiceError Unit :=
  require (¬ isProhibitedPayout status) (conflict "A payout for a swap position has started")

/-- `assertSwapNotExpired`. -/
def assertSwapNotExpired (expiresAt : Option Timestamp) (now : Timestamp) :
    Except ServiceError Unit :=
  require (expiresAt.all (now < ·)) (conflict "Swap request has expired")

/-- `assertAllSwapApprovals`; an approver's decision is the last one recorded. -/
def assertAllSwapApprovals (requiredApproverIds : List Uuid)
    (approvals : List SwapApproval) : Except ServiceError Unit :=
  require (requiredApproverIds ≠ [] ∧ ∀ id ∈ requiredApproverIds,
      (approvals.reverse.find? fun a ↦ a.approverMemberId = id).map (·.decision) = some .approved)
    (unprocessable "All required parties must approve a slot swap")

end AjoCloud.Ajo
