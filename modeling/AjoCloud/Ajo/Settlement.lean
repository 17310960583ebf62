import AjoCloud.Ajo.Policy
import AjoCloud.Payments.Basic

/-!
# Money into and out of an Ajo cycle

`AjoSettlementService` and the payment target for contributions.  A contribution is paid directly
(`payContribution`) or through a payment intent (`ajoContributionTarget`); both end in
`recordContributionWithin`.  `executePayout` pays a cycle's pool to the slot whose turn it is.
-/

namespace AjoCloud.Ajo

open Lib ServiceError Ledger Payments

/-! ## Accounts -/

/-- The pool account of a group, as it is created on first use. -/
def newPoolAccount (id groupId : Uuid) (currency : String) : FinancialAccount where
  id := id
  code := poolAccountCode groupId
  name := "Ajo group pool " ++ groupId.toString
  type := .liability
  purpose := some .ajoGroupPool
  currency := currency
  walletId := none
  isActive := true
  purpose_eq := .inr (codePurpose_poolAccountCode groupId)

/-- `poolAccountWithin`; `id` is the identifier a new account gets. -/
def poolAccountWithin (db : Db) (id groupId : Uuid) (currency : String) :
    Except ServiceError (Uuid × Db) :=
  match db.ledger.accounts.find? fun a ↦ a.code = poolAccountCode groupId with
  | some existing => do
      require existing.isActive (unprocessable "This group’s pool account is not active")
      pure (existing.id, db)
  | none => do
      let ledger ← db.ledger.createAccount (newPoolAccount id groupId currency)
      pure (id, { db with ledger := ledger })

/-- `memberWalletAccount`. -/
def memberWalletAccount (db : Db) (userId : Uuid) (currency : String) :
    Except ServiceError FinancialAccount := do
  let wallet ← orThrow (db.wallets.find? fun w ↦ w.userId = userId ∧ w.currency = currency)
    (unprocessable "No wallet in this currency")
  orThrow
    (db.ledger.accounts.find? fun a ↦ a.walletId = some wallet.id ∧
      a.purpose = some .walletAvailable ∧ a.currency = currency ∧ a.isActive)
    (unprocessable "Required financial accounts are not configured")

/-! ## Contributions -/

/-- The row `recordContributionWithin` creates. -/
def newContribution (id memberId : Uuid) (schedule : ContributionSchedule) (amountMinor : Int)
    (idempotencyKey : String) (ledgerTransactionId : Uuid) : Contribution where
  id := id
  groupId := schedule.groupId
  scheduleId := schedule.id
  memberId := memberId
  slotId := schedule.slotId
  amountMinor := amountMinor
  currency := schedule.currency
  status := .succeeded
  idempotencyKey := idempotencyKey
  ledgerTransactionId := some ledgerTransactionId

/-- What `recordContributionWithin` writes on the schedule. -/
def creditSchedule (schedule : ContributionSchedule) (amountMinor : Int) (now : Timestamp)
    (row : ContributionSchedule) : ContributionSchedule :=
  { row with
    amountPaidMinor := schedule.amountPaidMinor + amountMinor
    status := contributionScheduleStatusFor schedule.amountDueMinor
      (schedule.amountPaidMinor + amountMinor) schedule.dueAt now }

/-- `recordContributionWithin`: the contribution row and the schedule's new balance and status. -/
def recordContributionWithin (ctx : Ctx) (db : Db) (memberId : Uuid)
    (schedule : ContributionSchedule) (amountMinor : Int) (idempotencyKey : String)
    (ledgerTransactionId : Uuid) : Except ServiceError (Contribution × Db) := do
  let contribution := newContribution (ctx.uuid 2) memberId schedule amountMinor idempotencyKey
    ledgerTransactionId
  require (fitsVarChar 128 idempotencyKey ∧ fitsBigInt amountMinor) (.database .valueTooLong)
  let contributions ← orThrow (db.contributions.insert contribution)
    (.database .uniqueConstraint)
  pure (contribution,
    { db with
      contributions := contributions
      contributionSchedules := db.contributionSchedules.modify (fun s ↦ s.id = schedule.id)
        (creditSchedule schedule amountMinor ctx.now) fun h ↦ h })

/-- The posting of a direct contribution. -/
def contributionPosting (ctx : Ctx) (userId groupId : Uuid) (schedule : ContributionSchedule)
    (amountMinor : Int) (idempotencyKey : String) (wallet pool : Uuid) : LedgerPostingCommand where
  idempotencyKey := idempotencyKey
  reference := "AJO-CONTRIB-" ++ (ctx.uuid 3).toString
  description := "Ajo contribution for schedule " ++ schedule.id.toString
  currency := schedule.currency
  initiatedByUserId := some userId
  correlationId := some groupId.toString
  entries := [⟨wallet, .debit, amountMinor⟩, ⟨pool, .credit, amountMinor⟩]

/-- `payContribution` for a key that has not been used. -/
def payFresh (ctx : Ctx) (db : Db) (userId groupId memberId : Uuid)
    (schedule : ContributionSchedule) (amountMinor : Int) (idempotencyKey : String) :
    Except ServiceError (Contribution × Db) := do
  require (¬ (schedule.status = .cancelled ∨ schedule.status = .waived))
    (conflict "That contribution is no longer collectable")
  (assertContributionAmount amountMinor schedule.amountDueMinor
    schedule.amountPaidMinor).mapError unprocessable
  let walletAccount ← memberWalletAccount db userId schedule.currency
  let (pool, db) ← poolAccountWithin db (ctx.uuid 1) groupId schedule.currency
  require (¬ db.balance walletAccount.id < amountMinor)
    (unprocessable "Your wallet does not have enough for this contribution")
  let (posting, ledger) ← db.ledger.postWithin (ctx.uuid 0)
    (contributionPosting ctx userId groupId schedule amountMinor idempotencyKey walletAccount.id
      pool)
  recordContributionWithin ctx { db with ledger := ledger } memberId schedule amountMinor
    idempotencyKey posting.id

/-- The request body of `payContribution`. -/
structure PayContributionDto where
  amountMinor : Int
  idempotencyKey : String

/-- `AjoSettlementService.payContribution`. -/
def payContribution (ctx : Ctx) (db : Db) (userId groupId scheduleId : Uuid)
    (dto : PayContributionDto) : Except ServiceError (Contribution × Db) := do
  let schedule ← orThrow (db.contributionSchedules.find? fun s ↦ s.id = scheduleId)
    (notFound "That contribution was not found")
  require (schedule.groupId = groupId) (notFound "That contribution was not found")
  let slot ← orThrow (db.ajoSlots.find? fun s ↦ s.id = schedule.slotId)
    (.database .recordNotFound)
  let member ← orThrow
    (db.ajoGroupMembers.find? fun m ↦ m.groupId = groupId ∧ m.userId = userId)
    (forbidden "You are not an active member of this group")
  require (member.status = .active) (forbidden "You are not an active member of this group")
  require (slot.memberId = member.id) (forbidden "That contribution belongs to another member")
  let idempotencyKey := contributionIdempotencyKey scheduleId dto.idempotencyKey
  match db.contributions.find? fun c ↦ c.idempotencyKey = idempotencyKey with
  | some existing => pure (existing, db)
  | none => payFresh ctx db userId groupId member.id schedule dto.amountMinor idempotencyKey

/-! ## Contributions through payment intents -/

/-- A schedule with the member who owes it and the labels its payment shows. -/
structure Owed where
  schedule : ContributionSchedule
  memberId : Uuid
  groupName : String
  sequence : Nat

/-- `AjoContributionTarget.owed`: the schedule, provided the caller is the active member who holds
its slot. -/
def owed (db : Db) (userId : Uuid) (scheduleId : Option Uuid) : Except ServiceError Owed := do
  let id ← orThrow scheduleId (notFound "That contribution was not found")
  let schedule ← orThrow (db.contributionSchedules.find? fun s ↦ s.id = id)
    (notFound "That contribution was not found")
  let slot ← orThrow (db.ajoSlots.find? fun s ↦ s.id = schedule.slotId)
    (.database .recordNotFound)
  let group ← orThrow (db.ajoGroups.find? fun g ↦ g.id = schedule.groupId)
    (.database .recordNotFound)
  let cycle ← orThrow (db.ajoCycles.find? fun c ↦ c.id = schedule.cycleId)
    (.database .recordNotFound)
  let member ← orThrow
    (db.ajoGroupMembers.find? fun m ↦ m.groupId = schedule.groupId ∧ m.userId = userId)
    (notFound "That contribution was not found")
  require (member.status = .active ∧ slot.memberId = member.id)
    (notFound "That contribution was not found")
  pure ⟨schedule, member.id, group.name, cycle.sequence⟩

/-- `AjoContributionTarget.label`. -/
def contributionLabel (groupName : String) (sequence : Nat) : String :=
  "Ajo: " ++ groupName ++ (", round " ++ toString sequence)

/-- `AjoContributionTarget.resolve`. -/
def resolveContribution (db : Db) (userId : Uuid) (scheduleId : Option Uuid)
    (requestedAmountMinor : Option Int) : Except ServiceError ResolvedTarget := do
  let o ← owed db userId scheduleId
  require (¬ (o.schedule.status = .cancelled ∨ o.schedule.status = .waived))
    (conflict "That contribution is no longer collectable")
  require (o.schedule.status ≠ .paid) (conflict "This contribution has already been paid")
  let amountMinor ← (partialAmount (o.schedule.amountDueMinor - o.schedule.amountPaidMinor)
    requestedAmountMinor).mapError unprocessable
  pure ⟨amountMinor, o.schedule.currency, contributionLabel o.groupName o.sequence⟩

/-- `AjoContributionTarget.creditAccount`. -/
def creditPool (ctx : Ctx) (db : Db) (scheduleId : Option Uuid) (currency : String) :
    Except ServiceError (Uuid × Db) := do
  let id ← orThrow scheduleId (notFound "That contribution was not found")
  let schedule ← orThrow (db.contributionSchedules.find? fun s ↦ s.id = id)
    (notFound "That contribution was not found")
  poolAccountWithin db (ctx.uuid 1) schedule.groupId currency

/-- `AjoContributionTarget.settle`. -/
def settleContribution (ctx : Ctx) (db : Db) (payment : SettledPayment) :
    Except ServiceError Db := do
  let o ← owed db payment.userId payment.targetId
  let (_, db) ← recordContributionWithin ctx db o.memberId o.schedule payment.amountMinor
    (contributionIdempotencyKey o.schedule.id ("intent:" ++ payment.intentId.toString))
    payment.ledgerTransactionId
  pure db

/-- `AjoContributionTarget`: one member's contribution for one round. -/
def ajoContributionTarget : PaymentTarget where
  type := .ajoContribution
  methods := [.wallet]
  amountRule := .part
  feeCode := none
  holdsFee := false
  completesLater := false
  resolve := fun _ db userId scheduleId requested ↦
    resolveContribution db userId scheduleId requested
  creditAccount := creditPool
  settle := settleContribution

/-! ## Payouts -/

/-- `assertGroupAdmin`. -/
def assertGroupAdmin (db : Db) (userId groupId : Uuid) : Except ServiceError Unit := do
  let member ← orThrow
    (db.ajoGroupMembers.find? fun m ↦ m.groupId = groupId ∧ m.userId = userId)
    (forbidden "Only this group’s active administrator can do that")
  require (member.status = .active ∧ member.role = .groupAdmin)
    (forbidden "Only this group’s active administrator can do that")

/-- The posting of a payout. -/
def payoutPosting (ctx : Ctx) (userId groupId : Uuid) (schedule : PayoutSchedule)
    (pool wallet : Uuid) : LedgerPostingCommand where
  idempotencyKey := payoutIdempotencyKey schedule.id
  reference := "AJO-PAYOUT-" ++ (ctx.uuid 3).toString
  description := "Ajo payout for schedule " ++ schedule.id.toString
  currency := schedule.currency
  initiatedByUserId := some userId
  correlationId := some groupId.toString
  entries := [⟨pool, .debit, schedule.amountDueMinor⟩, ⟨wallet, .credit, schedule.amountDueMinor⟩]

/-- The row a payout creates. -/
def newPayout (id groupId memberId : Uuid) (schedule : PayoutSchedule)
    (ledgerTransactionId : Uuid) : Payout where
  id := id
  groupId := groupId
  scheduleId := schedule.id
  memberId := memberId
  slotId := schedule.slotId
  amountMinor := schedule.amountDueMinor
  currency := schedule.currency
  status := .succeeded
  idempotencyKey := payoutIdempotencyKey schedule.id
  ledgerTransactionId := some ledgerTransactionId

/-- What a payout writes on its schedule. -/
def markPaid (schedule row : PayoutSchedule) : PayoutSchedule :=
  { row with status := .paid, amountPaidMinor := schedule.amountDueMinor }

/-- `settlePayout` for a schedule that has not been paid. -/
def payOut (ctx : Ctx) (db : Db) (userId groupId : Uuid) (schedule : PayoutSchedule)
    (slot : AjoSlot) : Except ServiceError (Payout × Db) := do
  require (canExecutePayout schedule.status) (conflict "That payout has already been settled")
  require (isCycleFullyCollected
      (db.contributionSchedules.findMany fun s ↦ s.cycleId = schedule.cycleId))
    (.payoutHeld "This cycle has not collected every contribution, so it cannot pay out yet"
      .conflict)
  let recipient ← orThrow (db.ajoGroupMembers.find? fun m ↦ m.id = slot.memberId)
    (notFound "The payout recipient was not found")
  let _ ← orThrow (db.ajoGroups.find? fun g ↦ g.id = groupId) (.database .recordNotFound)
  let (pool, db) ← poolAccountWithin db (ctx.uuid 1) groupId schedule.currency
  let walletAccount ← memberWalletAccount db recipient.userId schedule.currency
  require (¬ db.balance pool < schedule.amountDueMinor)
    (.payoutHeld "This group’s pool does not hold enough for this payout" .unprocessableEntity)
  let (posting, ledger) ← db.ledger.postWithin (ctx.uuid 0)
    (payoutPosting ctx userId groupId schedule pool walletAccount.id)
  let payout := newPayout (ctx.uuid 2) groupId slot.memberId schedule posting.id
  let payouts ← orThrow (db.payouts.insert payout) (.database .uniqueConstraint)
  pure (payout,
    { db with
      ledger := ledger
      payouts := payouts
      payoutSchedules := db.payoutSchedules.modify (fun s ↦ s.id = schedule.id)
        (markPaid schedule) fun h ↦ h })

/-- `AjoSettlementService.settlePayout`. -/
def settlePayout (ctx : Ctx) (db : Db) (userId groupId payoutScheduleId : Uuid) :
    Except ServiceError (Payout × Db) := do
  let schedule ← orThrow (db.payoutSchedules.find? fun s ↦ s.id = payoutScheduleId)
    (notFound "That payout was not found")
  require (schedule.groupId = groupId) (notFound "That payout was not found")
  let slot ← orThrow (db.ajoSlots.find? fun s ↦ s.id = schedule.slotId)
    (.database .recordNotFound)
  assertGroupAdmin db userId groupId
  match db.payouts.find? fun p ↦ p.idempotencyKey = payoutIdempotencyKey payoutScheduleId with
  | some existing => pure (existing, db)
  | none => payOut ctx db userId groupId schedule slot

/-- The hold `executePayout` writes after the transaction has rolled back. -/
def holdPayout (db : Db) (payoutScheduleId : Uuid) : Db :=
  { db with
    payoutSchedules := db.payoutSchedules.modify (fun s ↦ s.id = payoutScheduleId)
      (fun s ↦ { s with status := .held }) fun h ↦ h }

/-- `AjoSettlementService.executePayout`: the answer, and the database left behind it. -/
def executePayout (ctx : Ctx) (db : Db) (userId groupId payoutScheduleId : Uuid) :
    Except ServiceError Payout × Db :=
  match settlePayout ctx db userId groupId payoutScheduleId with
  | .ok (payout, db) => (.ok payout, db)
  | .error (.payoutHeld message httpError) =>
      (.error (.http httpError message), holdPayout db payoutScheduleId)
  | .error e => (.error e, db)

end AjoCloud.Ajo
