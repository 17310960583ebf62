import AjoCloud.Common.Text
import AjoCloud.Fees.Basic

/-!
# Payment intents

`payment-policy.ts`, the `PaymentTarget` contract and `PaymentsService`.  The service owns the
mechanics every payment shares; a target answers the questions that differ between products.
-/

namespace AjoCloud.Payments

open Lib ServiceError Ledger Fees

/-! ## `payment-policy.ts` -/

/-- How long an unconfirmed intent stays payable. -/
def INTENT_TTL_MS : Int := 15 * 60 * 1000

/-- The smallest deposit the platform accepts. -/
def MINIMUM_DEPOSIT_MINOR : Int := 50000

/-- An intent may only be confirmed while it is awaiting confirmation. -/
def isConfirmable (status : PaymentIntentStatus) : Bool := status = .requiresConfirmation

/-- A confirmable intent that has not timed out. -/
def isPayable (status : PaymentIntentStatus) (expiresAt now : Timestamp) : Bool :=
  isConfirmable status && now < expiresAt

/-- Terminal states never change again. -/
def isTerminal (status : PaymentIntentStatus) : Bool :=
  status = .succeeded || status = .failed || status = .cancelled

/-- Whether settlement completes within the request. -/
def settlesSynchronously (method : PaymentMethod) : Bool := method = .wallet

/-- The total charged for a payment. -/
def totalFor (amountMinor feeMinor : Int) : Int := amountMinor + feeMinor

/-- A payment must move a positive amount. -/
def isPayableAmount (amountMinor : Int) : Bool := 0 < amountMinor

/-- Whether the wallet can cover the total. -/
def canPayFromWallet (availableMinor totalMinor : Int) : Bool := totalMinor ≤ availableMinor

/-- The amount to take for a target that allows part payment, or the message of the
`PaymentAmountError`. -/
def partialAmount (outstandingMinor : Int) (requestedMinor : Option Int) : Except String Int :=
  if outstandingMinor ≤ 0 then .error "This has already been paid in full"
  else match requestedMinor with
    | none => .ok outstandingMinor
    | some requested =>
        if requested ≤ 0 then .error "Choose an amount greater than zero"
        else if requested > outstandingMinor then .error "That is more than is still owed"
        else .ok requested

/-- `partialAmount` takes a positive amount, at most what is owed. -/
theorem partialAmount_eq_ok {outstanding amount : Int} {requested : Option Int}
    (h : partialAmount outstanding requested = .ok amount) :
    0 < amount ∧ amount ≤ outstanding ∧ ∀ r ∈ requested, amount = r := by
  unfold partialAmount at h
  split at h
  · cases h
  · next hpos =>
      cases requested with
      | none =>
          cases h
          exact ⟨by omega, le_refl _, by simp⟩
      | some r =>
          simp only at h
          split at h
          · cases h
          · split at h
            · cases h
            · cases h
              exact ⟨by omega, by omega, by simp⟩

/-! ## The target contract -/

/-- How a target's amount is decided: read from its row, chosen by the payer, or at most what is
still owed. -/
inductive PaymentAmountRule where
  | fixed
  | chosen
  | part
deriving DecidableEq, Repr

/-- What a target costs. -/
structure ResolvedTarget where
  amountMinor : Int
  currency : String
  description : String

/-- A payment whose money has been posted. -/
structure SettledPayment where
  userId : Uuid
  targetId : Option Uuid
  intentId : Uuid
  amountMinor : Int
  feeMinor : Int
  currency : String
  ledgerTransactionId : Uuid

/-- What a product answers about its payments. -/
structure PaymentTarget where
  type : PaymentTargetType
  methods : List PaymentMethod
  amountRule : PaymentAmountRule
  feeCode : Option FeeCode
  /-- Credit the fee to `creditAccount` with the amount, rather than to fee revenue at once. -/
  holdsFee : Bool
  /-- The target has an `afterCommit`, and is only done once the provider has answered. -/
  completesLater : Bool
  /-- What the target costs, and that the user may pay it. -/
  resolve : Ctx → Db → Uuid → Option Uuid → Option Int → Except ServiceError ResolvedTarget
  /-- The account the payment is credited to, created on first use. -/
  creditAccount : Ctx → Db → Option Uuid → String → Except ServiceError (Uuid × Db)
  /-- Record the payment against the target. -/
  settle : Ctx → Db → SettledPayment → Except ServiceError Db

/-- What to pass a target as the requested amount when re-resolving a stored intent. -/
def storedRequest (handler : PaymentTarget) (amountMinor : Int) : Option Int :=
  if handler.amountRule = .fixed then none else some amountMinor

/-! ## `PaymentsService.create` -/

/-- The request body of `create`. -/
structure CreateIntentDto where
  targetId : Option Uuid
  amountMinor : Option Int

/-- The columns of an intent hold the values. -/
def intentFits (intent : PaymentIntent) : Bool :=
  fitsVarChar 128 intent.idempotencyKey && fitsVarChar 3 intent.currency &&
    fitsBigInt intent.amountMinor && fitsBigInt intent.feeMinor && fitsBigInt intent.totalMinor

/-- The fee a target is charged on an amount. -/
def feeFor (db : Db) (handler : PaymentTarget) (amountMinor : Int) (now : Timestamp) :
    Except ServiceError Int :=
  match handler.feeCode with
  | some code => assess db code amountMinor now
  | none => .ok 0

/-- The intent that `create` stores. -/
def newIntent (ctx : Ctx) (db : Db) (handler : PaymentTarget) (userId : Uuid)
    (targetId : Option Uuid) (idempotencyKey : String) (target : ResolvedTarget)
    (feeMinor : Int) : PaymentIntent where
  id := ctx.uuid 0
  userId := userId
  walletId := (db.wallets.find? fun w ↦ w.userId = userId ∧ w.currency = target.currency).map (·.id)
  status := .requiresConfirmation
  targetType := handler.type
  targetId := targetId
  amountMinor := target.amountMinor
  feeMinor := feeMinor
  totalMinor := totalFor target.amountMinor feeMinor
  currency := target.currency
  method := none
  providerReference := none
  idempotencyKey := idempotencyKey
  ledgerTransactionId := none
  failureReason := none
  confirmedAt := none
  settledAt := none
  expiresAt := ctx.now + INTENT_TTL_MS

/-- `create` for a key that has not been used. -/
def createFresh (ctx : Ctx) (db : Db) (handler : PaymentTarget) (userId : Uuid)
    (dto : CreateIntentDto) (idempotencyKey : String) :
    Except ServiceError (PaymentIntent × Db) := do
  require (¬ (dto.amountMinor.isSome ∧ handler.amountRule = .fixed))
    (unprocessable "The amount for this payment cannot be changed")
  let target ← handler.resolve ctx db userId dto.targetId dto.amountMinor
  require (isPayableAmount target.amountMinor) (unprocessable "This item has nothing to pay")
  let feeMinor ← feeFor db handler target.amountMinor ctx.now
  let intent := newIntent ctx db handler userId dto.targetId idempotencyKey target feeMinor
  require (intentFits intent) (.database .valueTooLong)
  let paymentIntents ← orThrow (db.paymentIntents.insert intent) (.database .uniqueConstraint)
  pure (intent, { db with paymentIntents := paymentIntents })

/-- `PaymentsService.create`, for the target the request names. -/
def create (ctx : Ctx) (db : Db) (handler : PaymentTarget) (userId : Uuid)
    (dto : CreateIntentDto) (idempotencyKey : String) :
    Except ServiceError (PaymentIntent × Db) :=
  match db.paymentIntents.find? fun i ↦ i.userId = userId ∧ i.idempotencyKey = idempotencyKey with
  | some existing => .ok (existing, db)
  | none => createFresh ctx db handler userId dto idempotencyKey

/-! ## `PaymentsService.settleFromWallet` -/

/-- The payer's wallet account and the account fees go to. -/
structure PayerAccounts where
  available : FinancialAccount
  feeRevenue : FinancialAccount

/-- `PaymentsService.accounts`. -/
def accounts (db : Db) (walletId : Uuid) (currency : String) :
    Except ServiceError PayerAccounts := do
  let available ← orThrow
    (db.ledger.accounts.find? fun a ↦ a.walletId = some walletId ∧
      a.purpose = some .walletAvailable ∧ a.currency = currency ∧ a.isActive)
    (unprocessable "Required financial accounts are not configured")
  let feeRevenue ← orThrow
    (db.ledger.accounts.find? fun a ↦ a.walletId = none ∧
      a.purpose = some .platformFeeRevenue ∧ a.currency = currency ∧ a.isActive)
    (unprocessable "Required financial accounts are not configured")
  pure ⟨available, feeRevenue⟩

/-- The ledger key of a wallet settlement. -/
def intentKey (intentId : Uuid) (idempotencyKey : String) : String :=
  "payment-intent:" ++ intentId.toString ++ (":" ++ idempotencyKey)

theorem intentKey_inj {i j : Uuid} {k k' : String} (e : intentKey i k = intentKey j k') :
    i = j := by
  unfold intentKey at e
  exact (keyed_inj e).1

/-- The posting of a wallet settlement. -/
def walletPosting (handler : PaymentTarget) (userId : Uuid) (intent : PaymentIntent)
    (idempotencyKey description : String) (accounts : PayerAccounts) (destination : Uuid) :
    LedgerPostingCommand where
  idempotencyKey := intentKey intent.id idempotencyKey
  reference := "PAY-" ++ intent.id.shortCode
  description := sliceTo 500 description
  currency := intent.currency
  initiatedByUserId := some userId
  correlationId := some intent.id.toString
  entries :=
    [⟨accounts.available.id, .debit, intent.totalMinor⟩,
      ⟨destination, .credit, if handler.holdsFee then intent.totalMinor else intent.amountMinor⟩] ++
    if 0 < intent.feeMinor ∧ ¬ handler.holdsFee then
      [⟨accounts.feeRevenue.id, .credit, intent.feeMinor⟩]
    else []

/-- What `settleFromWallet` hands the target. -/
def settledPayment (userId : Uuid) (intent : PaymentIntent) (posting : LedgerReference) :
    SettledPayment where
  userId := userId
  targetId := intent.targetId
  intentId := intent.id
  amountMinor := intent.amountMinor
  feeMinor := intent.feeMinor
  currency := intent.currency
  ledgerTransactionId := posting.id

/-- What `settleFromWallet` writes on the intent. -/
def markSettled (ctx : Ctx) (handler : PaymentTarget) (posting : LedgerReference)
    (intent : PaymentIntent) : PaymentIntent :=
  { intent with
    status := if handler.completesLater then .processing else .succeeded
    method := some .wallet
    ledgerTransactionId := some posting.id
    confirmedAt := some ctx.now
    settledAt := if handler.completesLater then intent.settledAt else some ctx.now }

/-- `settleFromWallet` for an intent that is awaiting confirmation. -/
def settlePending (ctx : Ctx) (db : Db) (handler : PaymentTarget) (userId : Uuid)
    (intent : PaymentIntent) (idempotencyKey : String) :
    Except ServiceError (PaymentIntent × Db) := do
  let walletId ← orThrow intent.walletId
    (unprocessable "No wallet is available for this currency")
  let target ← handler.resolve ctx db userId intent.targetId
    (storedRequest handler intent.amountMinor)
  require (target.amountMinor = intent.amountMinor)
    (conflict "The amount changed. Start this payment again.")
  let payer ← accounts db walletId intent.currency
  let (destination, db) ← handler.creditAccount ctx db intent.targetId intent.currency
  require (canPayFromWallet (db.balance payer.available.id) intent.totalMinor)
    (unprocessable "Your wallet balance is not enough")
  let (posting, ledger) ← db.ledger.postWithin (ctx.uuid 0)
    (walletPosting handler userId intent idempotencyKey target.description payer destination)
  let db ← handler.settle ctx { db with ledger := ledger } (settledPayment userId intent posting)
  let paymentIntents ← orThrow
    (db.paymentIntents.update (fun i ↦ i.id = intent.id) (markSettled ctx handler posting))
    (.database .uniqueConstraint)
  pure (markSettled ctx handler posting intent, { db with paymentIntents := paymentIntents })

/-- The transaction of `PaymentsService.settleFromWallet`. -/
def settleFromWallet (ctx : Ctx) (db : Db) (handler : PaymentTarget) (userId intentId : Uuid)
    (idempotencyKey : String) : Except ServiceError (PaymentIntent × Db) := do
  let intent ← orThrow (db.paymentIntents.find? fun i ↦ i.id = intentId ∧ i.userId = userId)
    (notFound "Payment was not found")
  if intent.status = .requiresConfirmation then
    settlePending ctx db handler userId intent idempotencyKey
  else pure (intent, db)

/-! ## `PaymentsService.startExternal` -/

/-- What the provider is asked to collect. -/
structure ChargeRequest where
  internalReference : String
  amountMinor : Int
  currency : String
  customerEmail : String
  description : String
deriving DecidableEq

/-- The provider's answer to a charge request, transfer or card. -/
structure ProviderCharge where
  providerReference : String

/-- The payment provider. -/
structure PaymentProvider where
  createCardCharge : ChargeRequest → Except ServiceError ProviderCharge
  createTransferCharge : ChargeRequest → Except ServiceError ProviderCharge

/-- The charge for a method: a card is charged, anything else is a transfer. -/
def PaymentProvider.charge (provider : PaymentProvider) (method : PaymentMethod)
    (input : ChargeRequest) : Except ServiceError ProviderCharge :=
  if method = .card then provider.createCardCharge input else provider.createTransferCharge input

/-- The charge `startExternal` asks for. -/
def chargeRequest (ctx : Ctx) (db : Db) (intent : PaymentIntent) (description : String) :
    ChargeRequest where
  internalReference := "PAY-" ++ intent.id.shortCode ++
    ("-" ++ String.ofList (((ctx.uuid 0).digits.take 6).map Char.toUpper))
  amountMinor := intent.totalMinor
  currency := intent.currency
  customerEmail := ((db.users.find? fun u ↦ u.id = intent.userId).bind (·.email)).getD ""
  description := description

/-- `PaymentsService.startExternal`: the charge asked for, and the database left. -/
def startExternal (ctx : Ctx) (db : Db) (handler : PaymentTarget) (provider : PaymentProvider)
    (userId intentId : Uuid) (method : PaymentMethod) :
    Except ServiceError (ChargeRequest × Db) := do
  let intent ← orThrow (db.paymentIntents.find? fun i ↦ i.id = intentId ∧ i.userId = userId)
    (notFound "Payment was not found")
  let target ← handler.resolve ctx db userId intent.targetId
    (storedRequest handler intent.amountMinor)
  let input := chargeRequest ctx db intent target.description
  let charge ← provider.charge method input
  let paymentIntents ← orThrow
    (db.paymentIntents.update (fun i ↦ i.id = intent.id) fun i ↦
      { i with
        status := .processing
        method := some method
        providerReference := some charge.providerReference
        confirmedAt := some ctx.now })
    (.database .uniqueConstraint)
  pure (input, { db with paymentIntents := paymentIntents })

end AjoCloud.Payments
