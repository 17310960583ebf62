import AjoCloud.Payments.Basic

/-!
# Paying bills

The transactions of `BillPaymentsService` and the payment target for bills.  A bill's money waits
in the payer's reserve while the provider is asked; the provider's answer settles it, releases it,
reverses it later, or leaves it for reconciliation.
-/

namespace AjoCloud.Bills

open Lib ServiceError Ledger Payments Fees

/-- What the service is configured with: the provider's name, and the keyed digest of references. -/
structure BillConfig where
  provider : String
  digest : String → String

/-! ## Amounts and accounts -/

/-- `assertAmount`. -/
def assertAmount (amountMinor : Int) (currency : String) (product : Option BillProduct) :
    Except ServiceError Unit := do
  require (¬ amountMinor ≤ 0) (unprocessable "Amount must be positive")
  require (∀ p ∈ product, p.currency = currency)
    (unprocessable "Product and wallet currencies do not match")
  require (∀ p ∈ product, ∀ m ∈ p.minimumMinor, ¬ amountMinor < m)
    (unprocessable "Amount is below the product minimum")
  require (∀ p ∈ product, ∀ m ∈ p.maximumMinor, ¬ amountMinor > m)
    (unprocessable "Amount exceeds the product maximum")
  require (∀ p ∈ product, ∀ f ∈ p.fixedAmountMinor, amountMinor = f)
    (unprocessable "Amount must match the product fixed amount")

/-- The accounts a bill moves money between. -/
structure BillAccounts where
  available : FinancialAccount
  reserved : FinancialAccount
  providerPayable : FinancialAccount
  feeRevenue : FinancialAccount

/-- `accounts`: every one of them, or none. -/
def accounts (db : Db) (walletId : Uuid) (currency : String) :
    Except ServiceError BillAccounts := do
  let find (owner : Option Uuid) (purpose : FinancialAccountPurpose) :=
    orThrow
      (db.ledger.accounts.find? fun a ↦ a.walletId = owner ∧ a.purpose = some purpose ∧
        a.currency = currency ∧ a.isActive)
      (unprocessable "Required financial accounts are not configured")
  let available ← find (some walletId) .walletAvailable
  let reserved ← find (some walletId) .walletReserved
  let providerPayable ← find none .providerPayable
  let feeRevenue ← find none .platformFeeRevenue
  pure ⟨available, reserved, providerPayable, feeRevenue⟩

/-! ## Reserving -/

/-- The columns of a bill hold the values. -/
def billFits (payment : BillPayment) : Bool :=
  fitsVarChar 64 payment.provider && fitsVarChar 128 payment.idempotencyKey &&
    fitsVarChar 128 payment.requestHash && fitsBigInt payment.amountMinor &&
    fitsBigInt payment.feeMinor && fitsBigInt payment.totalDebitMinor

/-- The row of a bill whose money has been reserved. -/
def newBill (ctx : Ctx) (config : BillConfig) (validation : BillCustomerValidation)
    (userId walletId : Uuid) (idempotencyKey requestHash : String) (amountMinor feeMinor : Int)
    (currency : String) (intentId : Option Uuid) (reserve : Uuid) : BillPayment where
  id := ctx.uuid 2
  internalReference := "BILL-" ++ (ctx.uuid 3).toString
  provider := config.provider
  providerReference := none
  idempotencyKey := idempotencyKey
  requestHash := requestHash
  userId := userId
  walletId := walletId
  billerId := validation.billerId
  productId := validation.productId
  validationId := some validation.id
  customerReferenceDigest := validation.customerReferenceDigest
  customerReferenceMasked := validation.customerReferenceMasked
  verifiedCustomerName := validation.verifiedCustomerName
  amountMinor := amountMinor
  feeMinor := feeMinor
  totalDebitMinor := amountMinor + feeMinor
  currency := currency
  status := .pending
  providerStatus := none
  reconciliationState := .notRequired
  failureCode := none
  failureReason := none
  paymentIntentId := intentId
  reserveLedgerTransactionId := some reserve
  ledgerTransactionId := none
  releaseLedgerTransactionId := none
  reversalLedgerTransactionId := none
  validatedAt := some ctx.now
  processingAt := none
  completedAt := none
  failedAt := none
  reversedAt := none

/-- The fee that was assessed on a bill. -/
def billAssessment (id : Uuid) (payment : BillPayment) (definition : FeeDefinition) :
    FeeAssessment where
  id := id
  feeDefinitionId := definition.id
  subjectType := "BillPayment"
  subjectId := payment.id
  amountMinor := payment.feeMinor
  currency := payment.currency
  calculationBaseMinor := some payment.amountMinor

/-- The assessment is stored when a definition is in force. -/
def recordAssessment (ctx : Ctx) (db : Db) (payment : BillPayment) :
    Option FeeDefinition → Except ServiceError (Table FeeAssessment)
  | some definition => insertRow db.feeAssessments (billAssessment (ctx.uuid 4) payment definition)
  | none => pure db.feeAssessments

/-- The rows that go with a reserved bill: the bill, the fee that was assessed on it, and the
first attempt. -/
def recordBill (ctx : Ctx) (db : Db) (payment : BillPayment) (fee : Option FeeDefinition) :
    Except ServiceError Db := do
  require (billFits payment) (.database .valueTooLong)
  let payments ← insertRow db.bills.payments payment
  let feeAssessments ← recordAssessment ctx db payment fee
  let attempts ← insertRow db.bills.attempts
    ⟨ctx.uuid 5, payment.id, 1, none, .pending, payment.requestHash, none⟩
  pure { db with
    feeAssessments := feeAssessments
    bills := { db.bills with payments := payments, attempts := attempts } }

/-- The request body of `create`. -/
structure CreateBillPaymentDto where
  walletId : Uuid
  amountMinor : Int

/-- The posting that reserves a bill's money. -/
def reservePosting (ctx : Ctx) (userId : Uuid) (currency : String) (totalDebitMinor : Int)
    (accounts : BillAccounts) : LedgerPostingCommand where
  idempotencyKey := "bill-reserve:" ++ (ctx.uuid 2).toString
  reference := "BILL-" ++ ((ctx.uuid 3).toString ++ "-RESERVE")
  description := "Reserve wallet funds for Bill Payment"
  currency := currency
  initiatedByUserId := some userId
  correlationId := some (ctx.uuid 2).toString
  entries := [⟨accounts.available.id, .debit, totalDebitMinor⟩,
    ⟨accounts.reserved.id, .credit, totalDebitMinor⟩]

/-- The transaction of `create` for a key that has not been used. -/
def reserveFresh (ctx : Ctx) (db : Db) (config : BillConfig) (validation : BillCustomerValidation)
    (userId : Uuid) (idempotencyKey requestHash : String) (dto : CreateBillPaymentDto) :
    Except ServiceError (BillPayment × Db) := do
  let wallet ← orThrow
    (db.wallets.find? fun w ↦ w.id = dto.walletId ∧ w.userId = userId ∧ w.status = .active)
    (notFound "Wallet was not found")
  let product := validation.productId.bind fun id ↦ db.bills.products.find? fun p ↦ p.id = id
  assertAmount dto.amountMinor wallet.currency product
  let fee ← orThrow (activeDefinition db .billPayment ctx.now)
    (unprocessable "Bill Payment fee is not configured")
  -- The definition is read without its tiers here.
  let feeMinor ← assessVersionedFee fee [] dto.amountMinor
  let accounts ← accounts db wallet.id wallet.currency
  require (¬ db.balance accounts.available.id < dto.amountMinor + feeMinor)
    (unprocessable "Insufficient wallet funds")
  let (reserve, ledger) ← db.ledger.postWithin (ctx.uuid 0)
    (reservePosting ctx userId wallet.currency (dto.amountMinor + feeMinor) accounts)
  let payment := newBill ctx config validation userId wallet.id idempotencyKey requestHash
    dto.amountMinor feeMinor wallet.currency none reserve.id
  let db ← recordBill ctx { db with ledger := ledger } payment (some fee)
  pure (payment, db)

/-- The transaction of `create`.  The validation and the hash of the request were read before it
opened. -/
def reserve (ctx : Ctx) (db : Db) (config : BillConfig) (validation : BillCustomerValidation)
    (userId : Uuid) (idempotencyKey requestHash : String) (dto : CreateBillPaymentDto) :
    Except ServiceError (BillPayment × Db) :=
  match db.bills.payments.find? fun p ↦ p.userId = userId ∧ p.idempotencyKey = idempotencyKey with
  | some existing => do
      require (existing.requestHash = requestHash)
        (conflict "Idempotency key was used for a different bill payment")
      pure (existing, db)
  | none => reserveFresh ctx db config validation userId idempotencyKey requestHash dto

/-! ## The provider's answer -/

/-- `ProviderBillPaymentState`. -/
inductive ProviderBillPaymentState where
  | pending
  | successful
  | failed
  | unknown
  | reversed
deriving DecidableEq, Repr

/-- The provider's answer about a bill. -/
structure ProviderBillPayment where
  providerReference : Option String
  state : ProviderBillPaymentState
  providerStatus : String
  failureCode : Option String

/-- The columns hold the provider's texts. -/
def answerFits (result : ProviderBillPayment) : Bool :=
  result.providerReference.all (fitsVarChar 191 ·) && fitsVarChar 80 result.providerStatus &&
    result.failureCode.all (fitsVarChar 64 ·)

/-- The value that is written when the provider gave one. -/
def orKeep (given current : Option String) : Option String := given.filter (· ≠ "") <|> current

/-- `syncIntent`, when the bill was paid. -/
def syncSucceeded (ctx : Ctx) (db : Db) (intentId : Option Uuid) : Db :=
  { db with
    paymentIntents := db.paymentIntents.modify
      (fun i ↦ intentId = some i.id ∧ i.status = .processing)
      (fun i ↦ { i with status := .succeeded, settledAt := some ctx.now }) fun h ↦ h }

/-- `syncIntent`, when the bill was refused. -/
def syncFailed (db : Db) (intentId : Option Uuid) : Db :=
  { db with
    paymentIntents := db.paymentIntents.modify
      (fun i ↦ intentId = some i.id ∧ i.status = .processing)
      (fun i ↦ { i with
        status := .failed
        failureReason := some ("The provider could not complete this payment. " ++
          "Your money is back in your wallet.") }) fun h ↦ h }

/-- The ledger key of what happens to a bill. -/
def billKey (event : String) (paymentId : Uuid) : String := "bill-" ++ (event ++ paymentId.toString)

/-- A posting about a bill. -/
def billPosting (event tag description : String) (payment : BillPayment)
    (initiatedByUserId : Option Uuid) (entries : List LedgerPostingEntry) :
    LedgerPostingCommand where
  idempotencyKey := billKey event payment.id
  reference := payment.internalReference ++ tag
  description := description
  currency := payment.currency
  initiatedByUserId := initiatedByUserId
  correlationId := some payment.id.toString
  entries := entries

/-- The fee line of a bill, when there is a fee. -/
def feeEntry (accounts : BillAccounts) (direction : EntryDirection) (feeMinor : Int) :
    List LedgerPostingEntry :=
  if 0 < feeMinor then [⟨accounts.feeRevenue.id, direction, feeMinor⟩] else []

/-- The posting that returns a refused bill's money. -/
def releasePosting (payment : BillPayment) (accounts : BillAccounts) : LedgerPostingCommand :=
  billPosting "release:" "-RELEASE" "Release Bill Payment wallet reserve" payment none
    [⟨accounts.reserved.id, .debit, payment.totalDebitMinor⟩,
      ⟨accounts.available.id, .credit, payment.totalDebitMinor⟩]

/-- The posting that pays a bill's money to the provider. -/
def settlePosting (payment : BillPayment) (accounts : BillAccounts) : LedgerPostingCommand :=
  billPosting "settle:" "-SETTLE" "Settle successful Bill Payment" payment none
    ([⟨accounts.reserved.id, .debit, payment.totalDebitMinor⟩,
      ⟨accounts.providerPayable.id, .credit, payment.amountMinor⟩] ++
      feeEntry accounts .credit payment.feeMinor)

/-- The posting that takes a paid bill back. -/
def reversalPosting (payment : BillPayment) (accounts : BillAccounts) (actorUserId : Uuid) :
    LedgerPostingCommand :=
  billPosting "reversal:" "-REVERSAL" "Reverse successful Bill Payment" payment (some actorUserId)
    ([⟨accounts.providerPayable.id, .debit, payment.amountMinor⟩] ++
      feeEntry accounts .debit payment.feeMinor ++
      [⟨accounts.available.id, .credit, payment.totalDebitMinor⟩])

/-- The branch of `applyProviderResult` for a refused bill. -/
def releaseBill (ctx : Ctx) (db : Db) (payment : BillPayment) (accounts : BillAccounts)
    (result : ProviderBillPayment) : Except ServiceError (BillPayment × Db) := do
  let (release, ledger) ← db.ledger.postWithin (ctx.uuid 0) (releasePosting payment accounts)
  require (answerFits result) (.database .valueTooLong)
  let mark (p : BillPayment) : BillPayment :=
    { p with
      status := .failed
      providerReference := orKeep result.providerReference p.providerReference
      providerStatus := some result.providerStatus
      failureCode := orKeep result.failureCode p.failureCode
      failureReason := some "Provider confirmed failure"
      failedAt := some ctx.now
      releaseLedgerTransactionId := some release.id }
  let payments ← updateRow db.bills.payments (fun p ↦ p.id = payment.id) mark
  let attempts ← updateRow db.bills.attempts
    (fun a ↦ a.billPaymentId = payment.id ∧ a.attemptNumber = 1)
    fun a ↦ { a with status := .failed, completedAt := some ctx.now }
  pure (mark payment, syncFailed
    { db with
      ledger := ledger
      bills := { db.bills with payments := payments, attempts := attempts } }
    payment.paymentIntentId)

/-- The branch of `applyProviderResult` for a paid bill. -/
def settleBill (ctx : Ctx) (db : Db) (payment : BillPayment) (accounts : BillAccounts)
    (result : ProviderBillPayment) : Except ServiceError (BillPayment × Db) := do
  let (posting, ledger) ← db.ledger.postWithin (ctx.uuid 0) (settlePosting payment accounts)
  require (answerFits result) (.database .valueTooLong)
  let mark (p : BillPayment) : BillPayment :=
    { p with
      status := .successful
      providerReference := orKeep result.providerReference p.providerReference
      providerStatus := some result.providerStatus
      reconciliationState := .notRequired
      processingAt := some ctx.now
      completedAt := some ctx.now
      ledgerTransactionId := some posting.id }
  let payments ← updateRow db.bills.payments (fun p ↦ p.id = payment.id) mark
  let attempts ← updateRow db.bills.attempts
    (fun a ↦ a.billPaymentId = payment.id ∧ a.attemptNumber = 1)
    fun a ↦ { a with
      status := .confirmed
      providerReference := orKeep result.providerReference a.providerReference
      completedAt := some ctx.now }
  let receipts ← insertRow db.bills.receipts
    ⟨ctx.uuid 2, payment.id, "RCP-" ++ payment.internalReference⟩
  pure (mark payment, syncSucceeded ctx
    { db with
      ledger := ledger
      bills := { db.bills with payments := payments, attempts := attempts, receipts := receipts } }
    payment.paymentIntentId)

/-- The transaction of `applyProviderResult` for a definite answer. -/
def concludeBill (ctx : Ctx) (db : Db) (paymentId : Uuid) (result : ProviderBillPayment) :
    Except ServiceError (BillPayment × Db) := do
  let payment ← orThrow (db.bills.payments.find? fun p ↦ p.id = paymentId)
    (notFound "Bill payment was not found")
  if payment.status ≠ .pending ∧ payment.status ≠ .reconciliationRequired then
    pure (payment, db)
  else do
    let accounts ← accounts db payment.walletId payment.currency
    if result.state = .failed then releaseBill ctx db payment accounts result
    else settleBill ctx db payment accounts result

/-- `applyReversal`. -/
def applyReversal (ctx : Ctx) (db : Db) (paymentId actorUserId : Uuid)
    (result : ProviderBillPayment) : Except ServiceError (BillPayment × Db) := do
  let payment ← orThrow (db.bills.payments.find? fun p ↦ p.id = paymentId)
    (notFound "Bill payment was not found")
  if payment.status = .reversed then pure (payment, db)
  else do
    require (payment.status = .successful)
      (conflict "Only a successful Bill Payment can be reversed")
    let accounts ← accounts db payment.walletId payment.currency
    let (posting, ledger) ← db.ledger.postWithin (ctx.uuid 0)
      (reversalPosting payment accounts actorUserId)
    require (answerFits result) (.database .valueTooLong)
    let reversals ← insertRow db.bills.reversals
      ⟨ctx.uuid 2, payment.id, result.providerReference.filter (· ≠ ""), payment.totalDebitMinor,
        payment.currency, "Provider reported payment reversal", billKey "reversal:" payment.id,
        some posting.id, some ctx.now⟩
    let mark (p : BillPayment) : BillPayment :=
      { p with
        status := .reversed
        reconciliationState := .resolved
        providerStatus := some result.providerStatus
        reversalLedgerTransactionId := some posting.id
        reversedAt := some ctx.now }
    let payments ← updateRow db.bills.payments (fun p ↦ p.id = payment.id) mark
    pure (mark payment,
      { db with
        ledger := ledger
        bills := { db.bills with payments := payments, reversals := reversals } })

/-- `markUncertain`; there is no `result` when the provider gave no answer. -/
def markUncertain (ctx : Ctx) (db : Db) (paymentId : Uuid) (result : Option ProviderBillPayment) :
    Except ServiceError (PUnit × Db) := do
  require (result.all answerFits) (.database .valueTooLong)
  let payments ← updateRow db.bills.payments (fun p ↦ p.id = paymentId) fun p ↦
    { p with
      status := .reconciliationRequired
      reconciliationState := .pending
      providerReference := orKeep (result.bind (·.providerReference)) p.providerReference
      providerStatus := (result.map (·.providerStatus)) <|> p.providerStatus }
  let attempts ← updateRow db.bills.attempts
    (fun a ↦ a.billPaymentId = paymentId ∧ a.attemptNumber = 1)
    fun a ↦ { a with
      status := .unknown
      providerReference := orKeep (result.bind (·.providerReference)) a.providerReference
      completedAt := some ctx.now }
  pure ((), { db with bills := { db.bills with payments := payments, attempts := attempts } })

/-- `applyProviderResult`: the database the provider's answer leaves. -/
def applyProviderResult (ctx : Ctx) (db : Db) (paymentId userId : Uuid)
    (result : ProviderBillPayment) : Db :=
  match result.state with
  | .reversed => committed db (applyReversal ctx db paymentId userId result)
  | .pending | .unknown => committed db (markUncertain ctx db paymentId (some result))
  | .successful | .failed => committed db (concludeBill ctx db paymentId result)

/-! ## Bills through payment intents -/

/-- `billDescription`. -/
def billDescription (biller : String) (product : Option String) (masked : String) : String :=
  (match product with
    | some name => if name ≠ "" ∧ name ≠ "Airtime top-up" then biller ++ (" " ++ name) else biller
    | none => biller) ++ (" · " ++ masked)

/-- `quoteForIntent`. -/
def quoteForIntent (config : BillConfig) (ctx : Ctx) (db : Db) (userId : Uuid)
    (validationId : Option Uuid) (requestedAmountMinor : Option Int) :
    Except ServiceError ResolvedTarget := do
  let id ← orThrow validationId (notFound "This payment was not found")
  let validation ← orThrow
    (db.bills.validations.find? fun v ↦ v.id = id ∧ v.userId = userId ∧
      v.provider = config.provider)
    (notFound "This payment was not found")
  require (validation.valid ∧ ctx.now < validation.expiresAt)
    (unprocessable "Check the number again before paying")
  let biller ← orThrow
    (db.bills.billers.find? fun b ↦ b.id = validation.billerId ∧ b.status = .active ∧
      (db.bills.categories.find? fun c ↦ c.id = b.categoryId ∧ c.status = .active).isSome)
    (notFound "This biller is no longer available")
  let product := validation.productId.bind fun id ↦
    db.bills.products.find? fun p ↦ p.id = id ∧ p.status = .active
  require (validation.productId.isSome → product.isSome)
    (notFound "This package is no longer available")
  let currency := (product.map (·.currency)).getD "NGN"
  let amountMinor ← orThrow (requestedAmountMinor <|> product.bind (·.fixedAmountMinor))
    (unprocessable "Choose how much to pay")
  assertAmount amountMinor currency product
  pure ⟨amountMinor, currency, billDescription biller.name (product.map (·.name))
    validation.customerReferenceMasked⟩

/-- `reservedAccountForIntent`. -/
def reservedAccountForIntent (db : Db) (validationId : Option Uuid) (currency : String) :
    Except ServiceError (Uuid × Db) := do
  let id ← orThrow validationId (notFound "This payment was not found")
  let validation ← orThrow (db.bills.validations.find? fun v ↦ v.id = id)
    (notFound "This payment was not found")
  let account ← orThrow
    (db.ledger.accounts.find? fun a ↦ a.purpose = some .walletReserved ∧ a.currency = currency ∧
      a.isActive ∧
      (db.wallets.find? fun w ↦ a.walletId = some w.id ∧ w.userId = validation.userId ∧
        w.currency = currency).isSome)
    (unprocessable "Required financial accounts are not configured")
  pure (account.id, db)

/-- `intentPaymentKey`. -/
def intentPaymentKey (intentId : Uuid) : String := "intent:" ++ intentId.toString

/-- `recordIntentPayment`. -/
def recordIntentPayment (config : BillConfig) (ctx : Ctx) (db : Db) (payment : SettledPayment) :
    Except ServiceError Db := do
  let id ← orThrow payment.targetId (notFound "This payment was not found")
  let validation ← orThrow (db.bills.validations.find? fun v ↦ v.id = id)
    (notFound "This payment was not found")
  let wallet ← orThrow
    (db.wallets.find? fun w ↦ w.userId = payment.userId ∧ w.currency = payment.currency)
    (unprocessable "No wallet is available for this currency")
  recordBill ctx db
    (newBill ctx config validation payment.userId wallet.id (intentPaymentKey payment.intentId)
      (config.digest payment.intentId.toString) payment.amountMinor payment.feeMinor
      payment.currency (some payment.intentId) payment.ledgerTransactionId)
    (activeDefinition db .billPayment ctx.now)

/-- `BillPaymentTarget`: a bill paid through the shared payment flow. -/
def billPaymentTarget (config : BillConfig) : PaymentTarget where
  type := .billPayment
  methods := [.wallet]
  amountRule := .chosen
  feeCode := some .billPayment
  holdsFee := true
  completesLater := true
  resolve := quoteForIntent config
  creditAccount := fun _ db validationId currency ↦
    reservedAccountForIntent db validationId currency
  settle := recordIntentPayment config

end AjoCloud.Bills
