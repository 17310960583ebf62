import AjoCloud.Common.ServiceError
import AjoCloud.Lib.Table

/-!
# The rows of an Ajo group

The tables of the Ajo schema, with the columns the services read.  The unique columns of each
table are its `Schema`.
-/

namespace AjoCloud

open Lib

/-! ## Groups, members and slots -/

/-- `AjoGroupStatus`. -/
inductive AjoGroupStatus where
  | draft
  | open
  | locked
  | active
  | completed
  | suspended
  | cancelled
deriving DecidableEq, Repr

/-- `AjoMemberRole`. -/
inductive AjoMemberRole where
  | groupAdmin
  | member
deriving DecidableEq, Repr

/-- `AjoMemberStatus`. -/
inductive AjoMemberStatus where
  | invited
  | active
  | suspended
  | left
  | removed
deriving DecidableEq, Repr

/-- `AjoContributionMode`. -/
inductive AjoContributionMode where
  | fixed
  | flexibleUnit
deriving DecidableEq, Repr

/-- `ContributionFrequency`. -/
inductive ContributionFrequency where
  | daily
  | weekly
  | monthly
deriving DecidableEq, Repr

/-- A group. -/
structure AjoGroup where
  id : Uuid
  name : String
  status : AjoGroupStatus := .draft
  contributionMode : AjoContributionMode := .fixed
  contributionFrequency : ContributionFrequency
  baseContributionMinor : Int
  contributionUnitMinor : Option Int := none
  currency : String := "NGN"
  maxMembers : Nat := 1000
  maxSlots : Nat
  minSlotsPerMember : Nat := 1
  maxSlotsPerMember : Nat := 100
  contributionOpenOffsetMinutes : Nat := 0
  contributionCloseOffsetMinutes : Nat := 0
  gracePeriodMinutes : Nat := 0
  payoutEligibilityCutoffMinutes : Nat := 0
  payoutProcessingWindowMinutes : Nat := 1440
  payoutOffsetMinutes : Nat := 0
  startDate : Timestamp
  endDate : Timestamp
  createdByUserId : Uuid
  scheduleVersion : Nat := 0
  shortCode : String
  publiclyListed : Bool := false
  description : Option String := none
  deletedAt : Option Timestamp := none
deriving DecidableEq

instance : Schema AjoGroup := (Schema.primary (·.id)).unique fun g ↦ some g.shortCode

/-- `ajo_groups_capacity_check`; minutes cannot be negative here. -/
def AjoGroup.CapacityCheck (g : AjoGroup) : Prop :=
  (2 ≤ g.maxMembers ∧ g.maxMembers ≤ 1000) ∧ (2 ≤ g.maxSlots ∧ g.maxSlots ≤ 1000) ∧
    1 ≤ g.minSlotsPerMember ∧ g.minSlotsPerMember ≤ g.maxSlotsPerMember ∧
    g.maxSlotsPerMember ≤ g.maxSlots ∧ 0 < g.baseContributionMinor ∧
    (∀ unit ∈ g.contributionUnitMinor, 0 < unit) ∧ 0 < g.payoutProcessingWindowMinutes

instance (g : AjoGroup) : Decidable g.CapacityCheck := by
  unfold AjoGroup.CapacityCheck
  infer_instance

/-- A person's membership of a group. -/
structure AjoGroupMember where
  id : Uuid
  groupId : Uuid
  userId : Uuid
  role : AjoMemberRole
  status : AjoMemberStatus
deriving DecidableEq

instance : Schema AjoGroupMember :=
  (Schema.primary (·.id)).unique fun m ↦ some (m.groupId, m.userId)

/-- A position in a group's rotation, held by a member. -/
structure AjoSlot where
  id : Uuid
  groupId : Uuid
  memberId : Uuid
  position : Nat
deriving DecidableEq

instance : Schema AjoSlot :=
  (Schema.primary (·.id)).unique fun s ↦ some (s.groupId, s.position)

/-- What a member has undertaken to pay. -/
structure AjoContributionPlan where
  id : Uuid
  groupId : Uuid
  memberId : Uuid
  contributionUnitMinor : Int
  unitQuantity : Nat
  expectedPerCycleMinor : Int
  totalExpectedMinor : Int
  actualPaidMinor : Int := 0
  outstandingMinor : Int
  expectedEntitlementMinor : Int
  currency : String
deriving DecidableEq

instance : Schema AjoContributionPlan :=
  (Schema.primary (·.id)).unique fun p ↦ some p.memberId

/-- `ajo_contribution_plans_amount_check`. -/
def AjoContributionPlan.AmountCheck (p : AjoContributionPlan) : Prop :=
  0 < p.contributionUnitMinor ∧ 0 < p.unitQuantity ∧ 0 < p.expectedPerCycleMinor ∧
    0 ≤ p.totalExpectedMinor ∧ 0 ≤ p.actualPaidMinor ∧ 0 ≤ p.outstandingMinor ∧
    0 < p.expectedEntitlementMinor

instance (p : AjoContributionPlan) : Decidable p.AmountCheck :=
  inferInstanceAs (Decidable (_ ∧ _ ∧ _ ∧ _ ∧ _ ∧ _ ∧ _))

/-- `GroupInvitationStatus`. -/
inductive GroupInvitationStatus where
  | active
  | revoked
  | expired
  | exhausted
deriving DecidableEq, Repr

/-- An invitation to a group; only a digest of its code is stored. -/
structure GroupInvitation where
  id : Uuid
  groupId : Uuid
  createdByMemberId : Uuid
  tokenDigest : String
  status : GroupInvitationStatus := .active
  maxUses : Nat := 1
  useCount : Nat := 0
  expiresAt : Timestamp
deriving DecidableEq

instance : Schema GroupInvitation :=
  (Schema.primary (·.id)).unique fun i ↦ some i.tokenDigest

/-! ## Schedules -/

/-- `AjoCycleStatus`. -/
inductive AjoCycleStatus where
  | pending
  | open
  | processing
  | completed
  | failed
  | cancelled
deriving DecidableEq, Repr

/-- A round of the rotation. -/
structure AjoCycle where
  id : Uuid
  groupId : Uuid
  sequence : Nat
  status : AjoCycleStatus
  contributionDueAt : Timestamp
  payoutDueAt : Timestamp
deriving DecidableEq

instance : Schema AjoCycle :=
  (Schema.primary (·.id)).unique fun c ↦ some (c.groupId, c.sequence)

/-- `ScheduleVersionReason`. -/
inductive ScheduleVersionReason where
  | initialLock
  | approvedSwap
  | administrativeCorrection
deriving DecidableEq, Repr

/-- A version of a group's schedule. -/
structure AjoScheduleVersion where
  id : Uuid
  groupId : Uuid
  version : Nat
  previousVersionId : Option Uuid
  reason : ScheduleVersionReason
  createdByUserId : Uuid
deriving DecidableEq

instance : Schema AjoScheduleVersion :=
  (Schema.primary (·.id)).unique fun v ↦ some (v.groupId, v.version)

/-- `ContributionScheduleStatus`. -/
inductive ContributionScheduleStatus where
  | pending
  | due
  | partiallyPaid
  | paid
  | overdue
  | waived
  | cancelled
deriving DecidableEq, Repr

/-- What one slot owes in one cycle. -/
structure ContributionSchedule where
  id : Uuid
  groupId : Uuid
  cycleId : Uuid
  slotId : Uuid
  amountDueMinor : Int
  amountPaidMinor : Int
  currency : String
  dueAt : Timestamp
  status : ContributionScheduleStatus
deriving DecidableEq

instance : Schema ContributionSchedule :=
  (Schema.primary (·.id)).unique fun s ↦ some (s.cycleId, s.slotId)

/-- `PayoutScheduleStatus`. -/
inductive PayoutScheduleStatus where
  | pending
  | ready
  | processing
  | paid
  | held
  | failed
  | cancelled
deriving DecidableEq, Repr

/-- Which slot a cycle pays out to, under one version of the schedule. -/
structure PayoutSchedule where
  id : Uuid
  groupId : Uuid
  cycleId : Uuid
  slotId : Uuid
  amountDueMinor : Int
  amountPaidMinor : Int
  currency : String
  dueAt : Timestamp
  status : PayoutScheduleStatus
  scheduleVersion : Nat
deriving DecidableEq

instance : Schema PayoutSchedule :=
  ((Schema.primary (·.id)).unique fun s ↦ some (s.cycleId, s.slotId, s.scheduleVersion)).unique
    fun s ↦ some (s.groupId, s.slotId, s.scheduleVersion)

/-! ## Money in and out -/

/-- `ContributionStatus`, and `PayoutStatus`, which has the same values. -/
inductive MovementStatus where
  | pending
  | processing
  | succeeded
  | failed
  | reversed
deriving DecidableEq, Repr

/-- A payment into a group's pool. -/
structure Contribution where
  id : Uuid
  groupId : Uuid
  scheduleId : Uuid
  memberId : Uuid
  slotId : Uuid
  amountMinor : Int
  currency : String
  status : MovementStatus
  idempotencyKey : String
  ledgerTransactionId : Option Uuid
deriving DecidableEq

instance : Schema Contribution :=
  (Schema.primary (·.id)).unique fun c ↦ some c.idempotencyKey

/-- A payment out of a group's pool. -/
structure Payout where
  id : Uuid
  groupId : Uuid
  scheduleId : Uuid
  memberId : Uuid
  slotId : Uuid
  amountMinor : Int
  currency : String
  status : MovementStatus
  idempotencyKey : String
  ledgerTransactionId : Option Uuid
deriving DecidableEq

instance : Schema Payout :=
  (Schema.primary (·.id)).unique fun p ↦ some p.idempotencyKey

/-! ## Swaps -/

/-- `SwapRequestStatus`. -/
inductive SwapRequestStatus where
  | pending
  | approved
  | rejected
  | cancelled
  | executed
  | expired
deriving DecidableEq, Repr

/-- `SwapInitiatorType`. -/
inductive SwapInitiatorType where
  | member
  | administrator
deriving DecidableEq, Repr

/-- A request to exchange two slots. -/
structure SwapRequest where
  id : Uuid
  groupId : Uuid
  requestedByMemberId : Uuid
  initiatedByUserId : Uuid
  initiatorType : SwapInitiatorType
  fromSlotId : Uuid
  toSlotId : Uuid
  originalFromPosition : Nat
  originalToPosition : Nat
  proposedFromPosition : Nat
  proposedToPosition : Nat
  status : SwapRequestStatus
  reason : Option String
  previousScheduleVersion : Nat
  scheduleVersion : Nat
  resultingScheduleVersion : Option Nat
  feeAssessmentId : Option Uuid
  expiresAt : Option Timestamp
deriving DecidableEq

instance : Schema SwapRequest :=
  (Schema.primary (·.id)).unique (·.feeAssessmentId)

/-- `SwapApprovalDecision`. -/
inductive SwapApprovalDecision where
  | approved
  | rejected
deriving DecidableEq, Repr

/-- A slot owner's decision on a swap. -/
structure SwapApproval where
  id : Uuid
  swapRequestId : Uuid
  approverMemberId : Uuid
  decision : SwapApprovalDecision
  reason : Option String
  decidedAt : Timestamp
deriving DecidableEq

instance : Schema SwapApproval :=
  (Schema.primary (·.id)).unique fun a ↦ some (a.swapRequestId, a.approverMemberId)

end AjoCloud
