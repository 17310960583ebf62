import AjoCloud.Ajo.Invitations
import AjoCloud.Ajo.Schedule
import AjoCloud.Kyc.Facts

/-!
# Opening, joining and locking a group

`AjoGroupsService`: `create` opens a group with its administrator, `join` admits a member on an
invitation or on the public code of a listed group, and `lock` draws up the rotation.
-/

namespace AjoCloud.Ajo

open Lib Calendar ServiceError

/-! ## Opening -/

/-- The request body of `create`, with its dates read and its amounts parsed. -/
structure CreateAjoGroupDto where
  name : String
  contributionFrequency : ContributionFrequency
  contributionMode : AjoContributionMode := .fixed
  baseContributionMinor : Int
  contributionUnitMinor : Option Int := none
  maxMembers : Nat := 1000
  maxSlots : Nat
  requestedSlots : Nat
  minSlotsPerMember : Nat := 1
  maxSlotsPerMember : Option Nat := none
  contributionOpenOffsetMinutes : Nat := 0
  contributionCloseOffsetMinutes : Nat := 0
  gracePeriodMinutes : Nat := 0
  payoutEligibilityCutoffMinutes : Nat := 0
  payoutOffsetMinutes : Nat := 0
  payoutProcessingWindowMinutes : Nat := 1440
  startDate : Timestamp
  endDate : Timestamp

/-- `resolveMaxSlotsPerMember`. -/
def resolveMaxSlotsPerMember (requested : Option Nat) (maxSlots : Nat) : Nat :=
  requested.getD maxSlots

/-- `assertSlotCapacity`. -/
def assertSlotCapacity (minSlotsPerMember maxSlotsPerMember requestedSlots maxSlots : Nat) :
    Except ServiceError Unit := do
  require (¬ maxSlotsPerMember < minSlotsPerMember)
    (unprocessable "Minimum slots cannot exceed maximum slots")
  require (¬ maxSlots < maxSlotsPerMember)
    (unprocessable "Maximum slots per member cannot exceed the group’s total slots")
  require (¬ (requestedSlots < minSlotsPerMember ∨ maxSlotsPerMember < requestedSlots))
    (unprocessable "Requested slots violate per-member limits")
  require (¬ maxSlots < requestedSlots) (unprocessable "Requested slots exceed group capacity")

/-- What a slot of the new group costs a cycle. -/
def contributionUnit (dto : CreateAjoGroupDto) : Option Int :=
  match dto.contributionMode with
  | .flexibleUnit => dto.contributionUnitMinor
  | .fixed => some dto.baseContributionMinor

/-- The group's row.  Its dates are kept to the day. -/
def newGroup (ctx : Ctx) (shortCode : String) (userId : Uuid) (dto : CreateAjoGroupDto)
    (unitMinor : Int) : AjoGroup where
  id := ctx.uuid 0
  name := trim dto.name
  contributionFrequency := dto.contributionFrequency
  contributionMode := dto.contributionMode
  baseContributionMinor := unitMinor
  contributionUnitMinor := if dto.contributionMode = .flexibleUnit then some unitMinor else none
  maxMembers := dto.maxMembers
  maxSlots := dto.maxSlots
  minSlotsPerMember := dto.minSlotsPerMember
  maxSlotsPerMember := resolveMaxSlotsPerMember dto.maxSlotsPerMember dto.maxSlots
  contributionOpenOffsetMinutes := dto.contributionOpenOffsetMinutes
  contributionCloseOffsetMinutes := dto.contributionCloseOffsetMinutes
  gracePeriodMinutes := dto.gracePeriodMinutes
  payoutEligibilityCutoffMinutes := dto.payoutEligibilityCutoffMinutes
  payoutProcessingWindowMinutes := dto.payoutProcessingWindowMinutes
  payoutOffsetMinutes := dto.payoutOffsetMinutes
  startDate := toDate dto.startDate
  endDate := toDate dto.endDate
  createdByUserId := userId
  shortCode := shortCode

/-- A member and what comes with one: the slots, from the first position that is free on, and the
contribution plan for them. -/
structure Enrolment where
  member : AjoGroupMember
  taken : Nat
  requestedSlots : Nat
  unitMinor : Int
  currency : String

/-- The slots of a new member. -/
def newSlots (ctx : Ctx) (e : Enrolment) : List AjoSlot :=
  (List.range e.requestedSlots).map fun index ↦
    ⟨ctx.uuid (10 + index), e.member.groupId, e.member.id, e.taken + index + 1⟩

/-- The contribution plan of a new member. -/
def newPlan (ctx : Ctx) (e : Enrolment) : AjoContributionPlan where
  id := ctx.uuid 2
  groupId := e.member.groupId
  memberId := e.member.id
  contributionUnitMinor := e.unitMinor
  unitQuantity := e.requestedSlots
  expectedPerCycleMinor := e.unitMinor * e.requestedSlots
  totalExpectedMinor := 0
  outstandingMinor := 0
  expectedEntitlementMinor := e.unitMinor * e.requestedSlots
  currency := e.currency

/-- The rows that `create` and `join` write alike. -/
def enrol (ctx : Ctx) (db : Db) (e : Enrolment) : Except ServiceError Db := do
  let ajoGroupMembers ← insertRow db.ajoGroupMembers e.member
  let ajoSlots ← orThrow (db.ajoSlots.insertMany (newSlots ctx e)) (.database .uniqueConstraint)
  let plan := newPlan ctx e
  require (fitsBigInt plan.expectedPerCycleMinor) (.database .valueTooLong)
  require plan.AmountCheck (.database .checkConstraint)
  let ajoContributionPlans ← insertRow db.ajoContributionPlans plan
  pure { db with
    ajoGroupMembers := ajoGroupMembers
    ajoSlots := ajoSlots
    ajoContributionPlans := ajoContributionPlans }

/-- The codes that `create` draws: one for the invitation, and one that the database gives the
group. -/
structure DrawnCodes where
  invitationCode : String
  shortCode : String

/-- `AjoGroupsService.create`. -/
def createGroup (codec : Codec) (ctx : Ctx) (codes : DrawnCodes) (db : Db) (userId : Uuid)
    (dto : CreateAjoGroupDto) : Except ServiceError (AjoGroup × Db) := do
  assertAjoGroupBounds dto.startDate dto.endDate dto.maxSlots
  assertSlotCapacity dto.minSlotsPerMember
    (resolveMaxSlotsPerMember dto.maxSlotsPerMember dto.maxSlots) dto.requestedSlots dto.maxSlots
  let unitMinor ← orThrow (contributionUnit dto)
    (unprocessable "Flexible Ajo requires a contribution unit")
  let group := newGroup ctx codes.shortCode userId dto unitMinor
  require (fitsBigInt unitMinor) (.database .valueTooLong)
  require group.CapacityCheck (.database .checkConstraint)
  let ajoGroups ← insertRow db.ajoGroups group
  let admin : AjoGroupMember := ⟨ctx.uuid 1, group.id, userId, .groupAdmin, .active⟩
  let db ← enrol ctx { db with ajoGroups := ajoGroups }
    ⟨admin, 0, dto.requestedSlots, unitMinor, group.currency⟩
  let groupInvitations ← insertRow db.groupInvitations
    { id := ctx.uuid 3
      groupId := group.id
      createdByMemberId := admin.id
      tokenDigest := codec.digestInvitationCode codes.invitationCode
      maxUses := dto.maxSlots - dto.requestedSlots
      expiresAt := dto.startDate }
  pure (group, { db with groupInvitations := groupInvitations })

/-! ## Joining -/

/-- The request body of `join`. -/
structure JoinAjoGroupDto where
  invitationCode : String
  requestedSlots : Nat

/-- The slots of a group. -/
def slotsOf (db : Db) (groupId : Uuid) : List AjoSlot := db.ajoSlots.findMany (·.groupId = groupId)

/-- The active members of a group. -/
def activeMembersOf (db : Db) (groupId : Uuid) : List AjoGroupMember :=
  db.ajoGroupMembers.findMany fun m ↦ m.groupId = groupId ∧ m.status = .active

/-- The person who answers for a group: its active administrator, or else its founder. -/
def organiserOf (db : Db) (group : AjoGroup) : Uuid :=
  ((db.ajoGroupMembers.find? fun m ↦
    m.groupId = group.id ∧ m.role = .groupAdmin ∧ m.status = .active).map (·.userId)).getD
      group.createdByUserId

/-- The invitation admits one more person to the group. -/
def Admits (now : Timestamp) (groupId : Uuid) (invitation : GroupInvitation) : Prop :=
  invitation.groupId = groupId ∧ invitation.status = .active ∧ now < invitation.expiresAt ∧
    invitation.useCount < invitation.maxUses

instance (now : Timestamp) (groupId : Uuid) (invitation : GroupInvitation) :
    Decidable (Admits now groupId invitation) := inferInstanceAs (Decidable (_ ∧ _ ∧ _ ∧ _))

/-- What the code of a link is good for: nothing but the listing, or the invitation that it
spends. -/
def admission (codec : Codec) (ctx : Ctx) (db : Db) (group : AjoGroup) (code : String) :
    Except ServiceError (Option GroupInvitation) :=
  let viaListing := (normalisePublicCode codec code).any fun publicCode ↦
    group.publiclyListed && group.shortCode = publicCode
  if viaListing then .ok none
  else do
    let refusal := forbidden "Invitation is invalid or expired"
    let invitationCode ← orThrow (canonicalInvitationCode codec code) refusal
    let invitation ← orThrow
      (db.groupInvitations.find? fun i ↦
        i.tokenDigest = codec.digestInvitationCode invitationCode)
      refusal
    require (Admits ctx.now group.id invitation) refusal
    pure (some invitation)

/-- The invitation that admitted a member has one use less. -/
def spendInvitation (db : Db) (invitation : Option GroupInvitation) : Db :=
  match invitation with
  | none => db
  | some invitation =>
      { db with
        groupInvitations := db.groupInvitations.modify (fun i ↦ i.id = invitation.id)
          (fun i ↦ { i with useCount := i.useCount + 1 }) fun h ↦ h }

/-- `AjoGroupsService.join`. -/
def joinGroup (codec : Codec) (ctx : Ctx) (db : Db) (userId groupId : Uuid)
    (dto : JoinAjoGroupDto) : Except ServiceError ((Uuid × Nat) × Db) := do
  let group ← orThrow (db.ajoGroups.find? fun g ↦ g.id = groupId)
    (notFound "Ajo group was not found")
  require (AcceptsMembers group) (conflict "This group no longer accepts members")
  Kyc.assertOrganiserVerified db (organiserOf db group)
  let invitation ← admission codec ctx db group dto.invitationCode
  let taken := (slotsOf db groupId).length
  require (¬ group.maxSlots < taken + dto.requestedSlots)
    (conflict "Requested slots exceed remaining group capacity")
  require (¬ group.maxMembers ≤ (activeMembersOf db groupId).length)
    (conflict "Group member capacity has been reached")
  require (¬ (dto.requestedSlots < group.minSlotsPerMember ∨
      group.maxSlotsPerMember < dto.requestedSlots))
    (conflict "Requested slots violate this group’s per-member limits")
  let member : AjoGroupMember := ⟨ctx.uuid 1, groupId, userId, .member, .active⟩
  let db ← enrol ctx db
    ⟨member, taken, dto.requestedSlots,
      group.contributionUnitMinor.getD group.baseContributionMinor, group.currency⟩
  pure ((member.id, dto.requestedSlots), spendInvitation db invitation)

/-! ## Listing -/

/-- The caller is the active administrator of the group. -/
def requireAdministrator (db : Db) (userId groupId : Uuid) (refusal : String) :
    Except ServiceError AjoGroupMember := do
  let membership ← orThrow
    (db.ajoGroupMembers.find? fun m ↦ m.groupId = groupId ∧ m.userId = userId)
    (forbidden refusal)
  require (membership.role = .groupAdmin ∧ membership.status = .active) (forbidden refusal)
  pure membership

/-- `AjoGroupsService.setListing`. -/
def setListing (db : Db) (userId groupId : Uuid) (listed : Bool) :
    Except ServiceError (Unit × Db) := do
  let _ ← requireAdministrator db userId groupId
    "Only this group’s active administrator can list it"
  let group ← orThrow (db.ajoGroups.find? fun g ↦ g.id = groupId)
    (notFound "Ajo group was not found")
  require (listed = true → AcceptsMembers group)
    (conflict "Only a group that is still taking members can be listed")
  pure ((), { db with
    ajoGroups := db.ajoGroups.modify (fun g ↦ g.id = groupId)
      (fun g ↦ { g with publiclyListed := listed }) fun h ↦ h })

/-! ## Locking -/

/-- The contribution plans of a group. -/
def plansOf (db : Db) (groupId : Uuid) : List AjoContributionPlan :=
  db.ajoContributionPlans.findMany (·.groupId = groupId)

/-- What every slot owes in a cycle; the identifiers are those from `first` on. -/
def cycleContributions (ctx : Ctx) (group : AjoGroup) (cycle : RotationCycle) (cycleId : Uuid) :
    Nat → List AjoSlot → List ContributionSchedule
  | _, [] => []
  | first, slot :: rest =>
      { id := ctx.uuid first
        groupId := group.id
        cycleId := cycleId
        slotId := slot.id
        amountDueMinor := cycle.contributionAmountMinor
        amountPaidMinor := 0
        currency := group.currency
        dueAt := cycle.contributionDueAt
        status := .pending } ::
        cycleContributions ctx group cycle cycleId (first + 1) rest

/-- The row of a cycle. -/
def cycleRow (group : AjoGroup) (cycle : RotationCycle) (cycleId : Uuid) : AjoCycle where
  id := cycleId
  groupId := group.id
  sequence := cycle.sequence
  status := .pending
  contributionDueAt := cycle.contributionDueAt
  payoutDueAt := cycle.payoutDueAt

/-- The payout of a cycle. -/
def cyclePayout (id : Uuid) (group : AjoGroup) (cycle : RotationCycle) (cycleId : Uuid) :
    PayoutSchedule where
  id := id
  groupId := group.id
  cycleId := cycleId
  slotId := cycle.payoutSlotId
  amountDueMinor := cycle.payoutAmountMinor
  amountPaidMinor := 0
  currency := group.currency
  dueAt := cycle.payoutDueAt
  status := .pending
  scheduleVersion := group.scheduleVersion + 1

/-- The rows of one cycle: itself, what every slot owes in it, and its payout.  They take the
identifiers from `first` on. -/
def lockCycle (ctx : Ctx) (group : AjoGroup) (slots : List AjoSlot) (first : Nat)
    (cycle : RotationCycle) (db : Db) : Except ServiceError Db := do
  let cycleId := ctx.uuid first
  let ajoCycles ← insertRow db.ajoCycles (cycleRow group cycle cycleId)
  let contributionSchedules ← orThrow
    (db.contributionSchedules.insertMany
      (cycleContributions ctx group cycle cycleId (first + 2) slots))
    (.database .uniqueConstraint)
  require (fitsBigInt cycle.payoutAmountMinor) (.database .valueTooLong)
  let payoutSchedules ← insertRow db.payoutSchedules
    (cyclePayout (ctx.uuid (first + 1)) group cycle cycleId)
  pure { db with
    ajoCycles := ajoCycles
    contributionSchedules := contributionSchedules
    payoutSchedules := payoutSchedules }

/-- The loop of `lock` over the planned cycles. -/
def lockCycles (ctx : Ctx) (group : AjoGroup) (slots : List AjoSlot) :
    Nat → List RotationCycle → Db → Except ServiceError Db
  | _, [], db => .ok db
  | first, cycle :: rest, db => do
      let db ← lockCycle ctx group slots first cycle db
      lockCycles ctx group slots (first + slots.length + 2) rest db

/-- A plan with its totals over all cycles. -/
def lockedPlan (group : AjoGroup) (slotCount cycleCount : Nat) (plan : AjoContributionPlan) :
    AjoContributionPlan :=
  { plan with
    totalExpectedMinor := plan.expectedPerCycleMinor * cycleCount
    outstandingMinor := plan.expectedPerCycleMinor * cycleCount
    expectedEntitlementMinor := group.baseContributionMinor * slotCount * plan.unitQuantity }

/-- The error of a group with more members than it has room for. -/
def capacityError : ServiceError := unprocessable "Active member count exceeds group capacity"

/-- The error of a group whose plans are not those of its slots. -/
def plansError : ServiceError := unprocessable "Contribution plans do not match active slots"

/-- What `lock` answers. -/
structure LockAnswer where
  id : Uuid
  status : AjoGroupStatus
  scheduleVersion : Nat
  cycleCount : Nat

/-- `AjoGroupsService.lock`. -/
def lock (ctx : Ctx) (db : Db) (userId groupId : Uuid) :
    Except ServiceError (LockAnswer × Db) := do
  let _ ← requireAdministrator db userId groupId
    "Only this group’s active administrator can lock it"
  let group ← orThrow (db.ajoGroups.find? fun g ↦ g.id = groupId)
    (notFound "Ajo group was not found")
  let slots := (slotsOf db groupId).insertionSort fun a b ↦ a.position ≤ b.position
  let plans := plansOf db groupId
  let members := activeMembersOf db groupId
  require (AcceptsMembers group) (conflict "Only a draft or open group can be locked")
  let scheduleVersion := group.scheduleVersion + 1
  let cycles ← generateRotationSchedule group slots
  require (¬ group.maxMembers < members.length) capacityError
  require (plans.length = members.length ∧ (plans.map (·.unitQuantity)).sum = slots.length)
    plansError
  let db ← lockCycles ctx group slots 1 cycles db
  let updated := plans.map (lockedPlan group slots.length cycles.length)
  require (∀ plan ∈ updated, fitsBigInt plan.totalExpectedMinor ∧
      fitsBigInt plan.expectedEntitlementMinor)
    (.database .valueTooLong)
  require (∀ plan ∈ updated, plan.AmountCheck) (.database .checkConstraint)
  let ajoScheduleVersions ← insertRow db.ajoScheduleVersions
    ⟨ctx.uuid 0, groupId, scheduleVersion, none, .initialLock, userId⟩
  pure (⟨groupId, .locked, scheduleVersion, cycles.length⟩,
    { db with
      ajoContributionPlans := db.ajoContributionPlans.modify (·.groupId = groupId)
        (lockedPlan group slots.length cycles.length) fun h ↦ h
      ajoScheduleVersions := ajoScheduleVersions
      ajoGroups := db.ajoGroups.modify (fun g ↦ g.id = groupId)
        (fun g ↦ { g with status := .locked, scheduleVersion := scheduleVersion }) fun h ↦ h })

end AjoCloud.Ajo
