import AjoCloud.Ajo.Policy
import AjoCloud.Fees.Basic

/-!
# Swapping slots

`AjoSwapsService`: a swap is requested, approved by every owner of its two slots, and executed by
the last approval, which copies the group's payout schedule into a new version with the two slots
exchanged.  `AjoGroupsService.schedule` shows the version in force.
-/

namespace AjoCloud.Ajo

open Lib ServiceError Fees

/-! ## Requesting -/

/-- The request body of `create`. -/
structure CreateSwapRequestDto where
  fromSlotId : Uuid
  toSlotId : Uuid
  reason : Option String

/-- The active membership of a user in a group. -/
def activeMembership (db : Db) (userId groupId : Uuid) : Except ServiceError AjoGroupMember := do
  let membership ← orThrow
    (db.ajoGroupMembers.find? fun m ↦ m.groupId = groupId ∧ m.userId = userId)
    (forbidden "Active group membership is required")
  require (membership.status = .active) (forbidden "Active group membership is required")
  pure membership

/-- The owner of a slot is an active member. -/
def hasActiveOwner (db : Db) (slot : AjoSlot) : Bool :=
  (db.ajoGroupMembers.find? fun m ↦ m.id = slot.memberId).any fun m ↦ m.status = .active

/-- The swap request that `create` stores. -/
def newSwapRequest (ctx : Ctx) (userId : Uuid) (group : AjoGroup) (membership : AjoGroupMember)
    (dto : CreateSwapRequestDto) (origin target : AjoSlot) : SwapRequest where
  id := ctx.uuid 0
  groupId := group.id
  requestedByMemberId := membership.id
  initiatedByUserId := userId
  initiatorType := if membership.role = .groupAdmin then .administrator else .member
  fromSlotId := origin.id
  toSlotId := target.id
  originalFromPosition := origin.position
  originalToPosition := target.position
  proposedFromPosition := target.position
  proposedToPosition := origin.position
  status := .pending
  reason := dto.reason.filter (· ≠ "")
  previousScheduleVersion := group.scheduleVersion
  scheduleVersion := group.scheduleVersion
  resultingScheduleVersion := none
  feeAssessmentId := none
  expiresAt := some (ctx.now + 72 * 60 * 60000)

/-- `assessFee`: the definition is read without its tiers. -/
def assessSwapFee (ctx : Ctx) (db : Db) (swapId : Uuid) (currency : String)
    (calculationBaseMinor : Int) : Except ServiceError Db :=
  match activeDefinition db .ajoSwap ctx.now with
  | none => .ok db
  | some definition => do
      let amountMinor ← assessVersionedFee definition [] calculationBaseMinor
      require (fitsBigInt amountMinor) (.database .valueTooLong)
      let feeAssessments ← orThrow
        (db.feeAssessments.insert
          ⟨ctx.uuid 1, definition.id, "SwapRequest", swapId, amountMinor, currency,
            some calculationBaseMinor⟩)
        (.database .uniqueConstraint)
      let swapRequests ← orThrow
        (db.swapRequests.update (fun s ↦ s.id = swapId)
          fun s ↦ { s with feeAssessmentId := some (ctx.uuid 1) })
        (.database .uniqueConstraint)
      pure { db with feeAssessments := feeAssessments, swapRequests := swapRequests }

/-- Only the fee on a request is written, and what was assessed. -/
theorem assessSwapFee_eq_ok {ctx : Ctx} {db db' : Db} {swapId : Uuid} {currency : String} {base : Int}
    (h : assessSwapFee ctx db swapId currency base = .ok db') :
    ∃ feeAssessments swapRequests f,
      db' = { db with feeAssessments := feeAssessments, swapRequests := swapRequests } ∧
      swapRequests.rows = db.swapRequests.rows.map f ∧
      ∀ w, ∃ feeAssessmentId, f w = { w with feeAssessmentId := feeAssessmentId } := by
  unfold assessSwapFee at h
  split at h
  · cases h
    exact ⟨_, _, id, rfl, (List.map_id _).symm, fun w ↦ ⟨w.feeAssessmentId, rfl⟩⟩
  · simp only [bind_eq_ok, require_eq_ok, orThrow_eq_ok, pure_eq_ok, exists_const] at h
    obtain ⟨_, -, -, feeAssessments, -, swapRequests, hupdate, rfl⟩ := h
    refine ⟨feeAssessments, swapRequests, _, rfl, Table.rows_of_update hupdate, fun w ↦ ?_⟩
    split
    · exact ⟨_, rfl⟩
    · exact ⟨w.feeAssessmentId, rfl⟩

/-- The check of `create` that no payout of the slots has started, under the group's current
version. -/
def assertNoPayoutStarted (db : Db) (group : AjoGroup) (slotIds : List Uuid) :
    Except ServiceError Unit :=
  match db.payoutSchedules.find? fun p ↦ p.groupId = group.id ∧
      p.scheduleVersion = group.scheduleVersion ∧ p.slotId ∈ slotIds ∧
      isProhibitedPayout p.status with
  | some prohibited => assertPayoutAllowsSwap prohibited.status
  | none => .ok ()

/-- `AjoSwapsService.create`. -/
def createSwap (ctx : Ctx) (db : Db) (userId groupId : Uuid) (dto : CreateSwapRequestDto) :
    Except ServiceError (SwapRequest × Db) := do
  require (dto.fromSlotId ≠ dto.toSlotId) (unprocessable "Swap positions must be different")
  let membership ← activeMembership db userId groupId
  let group ← orThrow (db.ajoGroups.find? fun g ↦ g.id = groupId)
    (notFound "Ajo group was not found")
  let slots := db.ajoSlots.findMany fun s ↦
    s.groupId = groupId ∧ (s.id = dto.fromSlotId ∨ s.id = dto.toSlotId)
  require (group.status = .locked ∨ group.status = .active)
    (conflict "Group does not permit swaps")
  require (slots.length = 2 ∧ slots.all (hasActiveOwner db))
    (conflict "Both swap positions require unrestricted active owners")
  let origin ← orThrow (slots.find? fun s ↦ s.id = dto.fromSlotId)
    (notFound "Swap slot was not found in this group")
  let target ← orThrow (slots.find? fun s ↦ s.id = dto.toSlotId)
    (notFound "Swap slot was not found in this group")
  require (membership.role = .groupAdmin ∨ origin.memberId = membership.id)
    (forbidden "Members can initiate swaps only from their own position")
  require ((db.swapRequests.find? fun s ↦ s.groupId = groupId ∧ s.status = .pending ∧
      (s.fromSlotId ∈ [origin.id, target.id] ∨ s.toSlotId ∈ [origin.id, target.id])) = none)
    (conflict "A conflicting swap request already exists")
  assertNoPayoutStarted db group [origin.id, target.id]
  require ((db.contributionSchedules.find? fun s ↦ s.groupId = groupId ∧
      s.slotId ∈ [origin.id, target.id] ∧ s.status = .overdue) = none)
    (conflict "An affected member has an overdue contribution")
  let swap := newSwapRequest ctx userId group membership dto origin target
  let swapRequests ← orThrow (db.swapRequests.insert swap) (.database .uniqueConstraint)
  let db ← assessSwapFee ctx { db with swapRequests := swapRequests } swap.id group.currency
    group.baseContributionMinor
  pure (swap, db)

/-! ## Executing -/

/-- The slot that takes the place of `slotId` when `a` and `b` are exchanged. -/
def exchange (a b slotId : Uuid) : Uuid :=
  if slotId = a then b else if slotId = b then a else slotId

/-- The rows of the new version: one for each row of the old one, in their order. -/
def nextRows (ctx : Ctx) (swap : SwapRequest) : Nat → List PayoutSchedule → List PayoutSchedule
  | _, [] => []
  | index, entry :: rest =>
      { id := ctx.uuid (10 + index)
        groupId := entry.groupId
        cycleId := entry.cycleId
        slotId := exchange swap.fromSlotId swap.toSlotId entry.slotId
        amountDueMinor := entry.amountDueMinor
        amountPaidMinor := 0
        currency := entry.currency
        dueAt := entry.dueAt
        status := .pending
        scheduleVersion := swap.previousScheduleVersion + 1 } ::
        nextRows ctx swap (index + 1) rest

/-- The rows of one version of a group's payout schedule. -/
def versionRows (db : Db) (groupId : Uuid) (version : Nat) : List PayoutSchedule :=
  db.payoutSchedules.findMany fun p ↦ p.groupId = groupId ∧ p.scheduleVersion = version

/-- `AjoSwapsService.execute`. -/
def executeSwap (ctx : Ctx) (db : Db) (userId swapId : Uuid) :
    Except ServiceError (SwapRequest × Db) := do
  let swap ← orThrow (db.swapRequests.find? fun s ↦ s.id = swapId)
    (conflict "Swap is no longer pending")
  let group ← orThrow (db.ajoGroups.find? fun g ↦ g.id = swap.groupId)
    (.database .recordNotFound)
  require (swap.status = .pending) (conflict "Swap is no longer pending")
  require (group.status ≠ .suspended) (conflict "Suspended groups cannot execute swaps")
  require (group.scheduleVersion = swap.previousScheduleVersion)
    (conflict "Schedule changed after this swap was requested")
  let current := (versionRows db swap.groupId swap.previousScheduleVersion).insertionSort
    fun a b ↦ a.dueAt ≤ b.dueAt
  require (current ≠ []) (conflict "Current payout schedule is missing")
  let nextVersion := swap.previousScheduleVersion + 1
  let payoutSchedules ← orThrow (db.payoutSchedules.insertMany (nextRows ctx swap 0 current))
    (.database .uniqueConstraint)
  let previous := db.ajoScheduleVersions.find? fun v ↦
    v.groupId = swap.groupId ∧ v.version = swap.previousScheduleVersion
  let ajoScheduleVersions ← orThrow
    (db.ajoScheduleVersions.insert
      ⟨ctx.uuid 1, swap.groupId, nextVersion, previous.map (·.id), .approvedSwap, userId⟩)
    (.database .uniqueConstraint)
  let executed := { swap with
    status := SwapRequestStatus.executed
    resultingScheduleVersion := some nextVersion }
  pure (executed,
    { db with
      payoutSchedules := payoutSchedules
      ajoScheduleVersions := ajoScheduleVersions
      ajoGroups := db.ajoGroups.modify (fun g ↦ g.id = swap.groupId)
        (fun g ↦ { g with scheduleVersion := nextVersion }) fun h ↦ h
      swapRequests := db.swapRequests.modify (fun s ↦ s.id = swap.id)
        (fun s ↦ { s with
          status := .executed
          resultingScheduleVersion := some nextVersion }) fun h ↦ h })

/-! ## Deciding -/

/-- `requirePending`.  An expired request is refused; the write that marks it expired is part of
the transaction and is rolled back with it. -/
def requirePending (ctx : Ctx) (db : Db) (groupId swapId : Uuid) :
    Except ServiceError SwapRequest := do
  let swap ← orThrow (db.swapRequests.find? fun s ↦ s.id = swapId ∧ s.groupId = groupId)
    (notFound "Swap request was not found")
  require (swap.status = .pending) (conflict "Swap request is no longer pending")
  assertSwapNotExpired swap.expiresAt ctx.now
  pure swap

/-- `swapApproval.upsert`. -/
def upsertApproval (ctx : Ctx) (db : Db) (swapId memberId : Uuid)
    (decision : SwapApprovalDecision) (reason : Option String) : Except ServiceError Db :=
  match db.swapApprovals.find? fun a ↦
      a.swapRequestId = swapId ∧ a.approverMemberId = memberId with
  | some existing => .ok
      { db with
        swapApprovals := db.swapApprovals.modify (fun a ↦ a.id = existing.id)
          (fun a ↦ { a with
            decision := decision
            reason := (reason.filter (· ≠ "")).or a.reason
            decidedAt := ctx.now }) fun h ↦ h }
  | none => do
      let swapApprovals ← orThrow
        (db.swapApprovals.insert
          ⟨ctx.uuid 0, swapId, memberId, decision, reason.filter (· ≠ ""), ctx.now⟩)
        (.database .uniqueConstraint)
      pure { db with swapApprovals := swapApprovals }

/-- The owners of a swap's two slots, each once. -/
def requiredApprovers (db : Db) (swap : SwapRequest) : List Uuid :=
  ((db.ajoSlots.findMany fun s ↦ s.id = swap.fromSlotId ∨ s.id = swap.toSlotId).map
    (·.memberId)).eraseDups

/-- The approvals recorded on a swap. -/
def approvalsOf (db : Db) (swapId : Uuid) : List SwapApproval :=
  db.swapApprovals.findMany fun a ↦ a.swapRequestId = swapId

/-- Every required approver has approved. -/
def allApproved (approvers : List Uuid) (approvals : List SwapApproval) : Bool :=
  approvers.all fun id ↦ approvals.any fun a ↦ a.approverMemberId = id ∧ a.decision = .approved

/-- `AjoSwapsService.approve`. -/
def approveSwap (ctx : Ctx) (db : Db) (userId groupId swapId : Uuid) (reason : Option String) :
    Except ServiceError (SwapRequest × Db) := do
  let swap ← requirePending ctx db groupId swapId
  let membership ← activeMembership db userId groupId
  require (membership.id ∈ requiredApprovers db swap)
    (forbidden "Only an affected position owner can approve")
  let db ← upsertApproval ctx db swap.id membership.id .approved reason
  if allApproved (requiredApprovers db swap) (approvalsOf db swap.id) then do
    assertAllSwapApprovals (requiredApprovers db swap) (approvalsOf db swap.id)
    executeSwap ctx db userId swap.id
  else pure (swap, db)

/-- `AjoSwapsService.reject`. -/
def rejectSwap (ctx : Ctx) (db : Db) (userId groupId swapId : Uuid) (reason : Option String) :
    Except ServiceError (SwapRequest × Db) := do
  let swap ← requirePending ctx db groupId swapId
  let membership ← orThrow
    (db.ajoGroupMembers.find? fun m ↦ m.groupId = groupId ∧ m.userId = userId)
    (forbidden "Group membership is required")
  let slot := db.ajoSlots.find? fun s ↦
    (s.id = swap.fromSlotId ∨ s.id = swap.toSlotId) ∧ s.memberId = membership.id
  require (slot.isSome ∨ membership.role = .groupAdmin)
    (forbidden "Only an affected owner or administrator can reject")
  let db ← upsertApproval ctx db swap.id membership.id .rejected reason
  pure ({ swap with status := .rejected },
    { db with
      swapRequests := db.swapRequests.modify (fun s ↦ s.id = swap.id)
        (fun s ↦ { s with status := .rejected }) fun h ↦ h })

/-! ## The schedule in force -/

/-- One round as `AjoGroupsService.schedule` shows it. -/
structure CycleView where
  sequence : Nat
  contributionDueAt : Timestamp
  payoutDueAt : Timestamp
  status : AjoCycleStatus
  contributionSchedules : List ContributionSchedule
  payoutSchedules : List PayoutSchedule

/-- `requireMembership`. -/
def requireMembership (db : Db) (userId groupId : Uuid) : Except ServiceError AjoGroupMember := do
  let membership ← orThrow
    (db.ajoGroupMembers.find? fun m ↦ m.groupId = groupId ∧ m.userId = userId)
    (forbidden "You do not have access to this group")
  require (membership.status = .active) (forbidden "You do not have access to this group")
  pure membership

/-- `AjoGroupsService.schedule`: each cycle with the payout rows of the current version, and the
contributions of the caller, or of everyone for the administrator. -/
def schedule (db : Db) (userId groupId : Uuid) : Except ServiceError (List CycleView) := do
  let membership ← requireMembership db userId groupId
  let group ← orThrow (db.ajoGroups.find? fun g ↦ g.id = groupId)
    (notFound "Ajo group was not found")
  let cycles := (db.ajoCycles.findMany fun c ↦ c.groupId = groupId).insertionSort
    fun a b ↦ a.sequence ≤ b.sequence
  let mine := fun (s : ContributionSchedule) ↦ membership.role = .groupAdmin ||
    (db.ajoSlots.find? fun slot ↦ slot.id = s.slotId).any fun slot ↦ slot.memberId = membership.id
  pure (cycles.map fun c ↦
    { sequence := c.sequence
      contributionDueAt := c.contributionDueAt
      payoutDueAt := c.payoutDueAt
      status := c.status
      contributionSchedules := db.contributionSchedules.findMany fun s ↦
        s.cycleId = c.id ∧ mine s
      payoutSchedules := db.payoutSchedules.findMany fun p ↦
        p.cycleId = c.id ∧ p.scheduleVersion = group.scheduleVersion })

end AjoCloud.Ajo
