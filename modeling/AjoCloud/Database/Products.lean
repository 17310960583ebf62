import AjoCloud.Common.ServiceError
import AjoCloud.Lib.Table

/-!
# The rows of the other products

Akawo pools, food programmes and bills, with the columns the payment of each reads and writes.
-/

namespace AjoCloud

open Lib

/-! ## Akawo pools -/

/-- `AkawoPoolStatus`. -/
inductive AkawoPoolStatus where
  | draft
  | open
  | closed
  | cancelled
deriving DecidableEq, Repr

/-- A pool an organiser collects into. -/
structure AkawoPool where
  id : Uuid
  organiserUserId : Uuid
  name : String
  purpose : Option String
  amountMinor : Int
  currency : String
  status : AkawoPoolStatus
  joinCodeDigest : String
  referenceLabel : String
  dueAt : Option Timestamp
  closedAt : Option Timestamp
  shortCode : String
  publiclyListed : Bool
deriving DecidableEq

instance : Schema AkawoPool :=
  ((Schema.primary (·.id)).unique fun p ↦ some p.joinCodeDigest).unique fun p ↦ some p.shortCode

/-- `AkawoPoolMemberStatus`. -/
inductive AkawoPoolMemberStatus where
  | active
  | removed
deriving DecidableEq, Repr

/-- Membership of a pool. -/
structure AkawoPoolMember where
  id : Uuid
  poolId : Uuid
  userId : Uuid
  fullName : String
  reference : String
  status : AkawoPoolMemberStatus
  joinedAt : Timestamp
  removedAt : Option Timestamp
deriving DecidableEq

instance : Schema AkawoPoolMember :=
  ((Schema.primary (·.id)).unique fun m ↦ some (m.poolId, m.userId)).unique
    fun m ↦ some (m.poolId, m.reference)

/-- `AkawoDueStatus`. -/
inductive AkawoDueStatus where
  | pending
  | processing
  | paid
  | waived
deriving DecidableEq, Repr

/-- What one member owes in one pool. -/
structure AkawoPoolDue where
  id : Uuid
  poolId : Uuid
  memberId : Uuid
  amountMinor : Int
  currency : String
  status : AkawoDueStatus
  ledgerTransactionId : Option Uuid
  paidAt : Option Timestamp
  waivedReason : Option String
deriving DecidableEq

instance : Schema AkawoPoolDue :=
  ((Schema.primary (·.id)).unique (·.ledgerTransactionId)).unique
    fun d ↦ some (d.poolId, d.memberId)

/-- The tables of the pools. -/
structure AkawoTables where
  pools : Table AkawoPool
  members : Table AkawoPoolMember
  dues : Table AkawoPoolDue

/-! ## Food programmes -/

/-- `FoodAjoStatus`. -/
inductive FoodAjoStatus where
  | draft
  | open
  | active
  | completed
  | suspended
  | cancelled
deriving DecidableEq, Repr

/-- `FoodFulfilmentMethod`. -/
inductive FoodFulfilmentMethod where
  | delivery
  | pickup
  | deliveryOrPickup
deriving DecidableEq, Repr

/-- A food programme. -/
structure FoodAjoGroup where
  id : Uuid
  coordinatorUserId : Uuid
  name : String
  status : FoodAjoStatus
  currency : String
  contributionMinor : Int
  enrolmentCapacity : Int
  fulfilmentMethod : FoodFulfilmentMethod
  activatedAt : Option Timestamp
deriving DecidableEq

instance : Schema FoodAjoGroup := Schema.primary (·.id)

/-- A package of a programme. -/
structure FoodPackage where
  id : Uuid
  groupId : Uuid
  name : String
  priceMinor : Int
  priceLockedAt : Option Timestamp
  currency : String
  isActive : Bool
deriving DecidableEq

instance : Schema FoodPackage := Schema.primary (·.id)

/-- `FoodSubscriptionStatus`. -/
inductive FoodSubscriptionStatus where
  | pending
  | active
  | completed
  | cancelled
  | defaulted
deriving DecidableEq, Repr

/-- A member's enrolment for a package. -/
structure FoodSubscription where
  id : Uuid
  groupId : Uuid
  packageId : Uuid
  userId : Uuid
  status : FoodSubscriptionStatus
  quantity : Int
  fulfilmentMethod : FoodFulfilmentMethod
  amountPaidMinor : Int
  paidAt : Option Timestamp
deriving DecidableEq

instance : Schema FoodSubscription :=
  (Schema.primary (·.id)).unique fun s ↦ some (s.groupId, s.userId, s.packageId)

/-- `PurchaseOrderStatus`. -/
inductive PurchaseOrderStatus where
  | draft
  | submitted
  | confirmed
  | fulfilled
  | cancelled
deriving DecidableEq, Repr

/-- What planning a distribution reads of an order. -/
structure PurchaseOrder where
  id : Uuid
  foodAjoGroupId : Option Uuid
  status : PurchaseOrderStatus
deriving DecidableEq

instance : Schema PurchaseOrder := Schema.primary (·.id)

/-- `FoodDistributionStatus`. -/
inductive FoodDistributionStatus where
  | planned
  | ready
  | distributing
  | completed
  | cancelled
deriving DecidableEq, Repr

/-- A hand-out of a programme's food. -/
structure FoodDistribution where
  id : Uuid
  groupId : Uuid
  status : FoodDistributionStatus
  scheduledAt : Timestamp
  completedAt : Option Timestamp
deriving DecidableEq

instance : Schema FoodDistribution := Schema.primary (·.id)

/-- What a hand-out owes a subscription. -/
structure FoodDistributionItem where
  id : Uuid
  distributionId : Uuid
  subscriptionId : Uuid
  quantity : Int
deriving DecidableEq

instance : Schema FoodDistributionItem :=
  (Schema.primary (·.id)).unique fun i ↦ some (i.distributionId, i.subscriptionId)

/-- The code a member collects an item with, by its digest. -/
structure DistributionConfirmation where
  id : Uuid
  distributionItemId : Uuid
  confirmedByUserId : Uuid
  confirmationHash : String
  expiresAt : Timestamp
  usedAt : Option Timestamp
  evidenceStorageKey : Option String
deriving DecidableEq

instance : Schema DistributionConfirmation :=
  (Schema.primary (·.id)).unique fun c ↦ some c.distributionItemId

/-- The tables of the programmes. -/
structure FoodTables where
  groups : Table FoodAjoGroup
  packages : Table FoodPackage
  subscriptions : Table FoodSubscription
  purchaseOrders : Table PurchaseOrder
  distributions : Table FoodDistribution
  distributionItems : Table FoodDistributionItem
  confirmations : Table DistributionConfirmation

/-! ## Bills -/

/-- `BillCatalogStatus`. -/
inductive BillCatalogStatus where
  | active
  | inactive
deriving DecidableEq, Repr

/-- A category of billers. -/
structure BillCategory where
  id : Uuid
  status : BillCatalogStatus
deriving DecidableEq

instance : Schema BillCategory := Schema.primary (·.id)

/-- A biller. -/
structure BillBiller where
  id : Uuid
  categoryId : Uuid
  providerCode : String
  name : String
  status : BillCatalogStatus
deriving DecidableEq

instance : Schema BillBiller :=
  (Schema.primary (·.id)).unique fun b ↦ some (b.categoryId, b.providerCode)

/-- A package a biller sells. -/
structure BillProduct where
  id : Uuid
  billerId : Uuid
  providerCode : String
  name : String
  status : BillCatalogStatus
  minimumMinor : Option Int
  maximumMinor : Option Int
  fixedAmountMinor : Option Int
  currency : String
deriving DecidableEq

instance : Schema BillProduct :=
  (Schema.primary (·.id)).unique fun p ↦ some (p.billerId, p.providerCode)

/-- A customer's number, as the provider validated it. -/
structure BillCustomerValidation where
  id : Uuid
  userId : Uuid
  billerId : Uuid
  productId : Option Uuid
  provider : String
  customerReferenceDigest : String
  customerReferenceMasked : String
  verifiedCustomerName : Option String
  valid : Bool
  expiresAt : Timestamp
deriving DecidableEq

instance : Schema BillCustomerValidation := Schema.primary (·.id)

/-- `BillPaymentStatus`. -/
inductive BillPaymentStatus where
  | created
  | validating
  | validated
  | pending
  | processing
  | successful
  | failed
  | reversed
  | refundPending
  | refunded
  | reconciliationRequired
deriving DecidableEq, Repr

/-- `ReconciliationState`. -/
inductive ReconciliationState where
  | notRequired
  | pending
  | matched
  | mismatched
  | resolved
deriving DecidableEq, Repr

/-- A bill that is being paid.  `paymentIntentId` is what its `metadata` holds. -/
structure BillPayment where
  id : Uuid
  internalReference : String
  provider : String
  providerReference : Option String
  idempotencyKey : String
  requestHash : String
  userId : Uuid
  walletId : Uuid
  billerId : Uuid
  productId : Option Uuid
  validationId : Option Uuid
  customerReferenceDigest : String
  customerReferenceMasked : String
  verifiedCustomerName : Option String
  amountMinor : Int
  feeMinor : Int
  totalDebitMinor : Int
  currency : String
  status : BillPaymentStatus
  providerStatus : Option String
  reconciliationState : ReconciliationState
  failureCode : Option String
  failureReason : Option String
  paymentIntentId : Option Uuid
  reserveLedgerTransactionId : Option Uuid
  ledgerTransactionId : Option Uuid
  releaseLedgerTransactionId : Option Uuid
  reversalLedgerTransactionId : Option Uuid
  validatedAt : Option Timestamp
  processingAt : Option Timestamp
  completedAt : Option Timestamp
  failedAt : Option Timestamp
  reversedAt : Option Timestamp
deriving DecidableEq

instance : Schema BillPayment :=
  ((Schema.primary (·.id)).unique fun p ↦ some p.internalReference).unique
    fun p ↦ some (p.userId, p.idempotencyKey)

/-- `BillPaymentAttemptStatus`. -/
inductive BillPaymentAttemptStatus where
  | pending
  | sent
  | confirmed
  | failed
  | unknown
deriving DecidableEq, Repr

/-- One attempt to have the provider pay a bill. -/
structure BillPaymentAttempt where
  id : Uuid
  billPaymentId : Uuid
  attemptNumber : Nat
  providerReference : Option String
  status : BillPaymentAttemptStatus
  requestHash : String
  completedAt : Option Timestamp
deriving DecidableEq

instance : Schema BillPaymentAttempt :=
  (Schema.primary (·.id)).unique fun a ↦ some (a.billPaymentId, a.attemptNumber)

/-- A bill that was paid back. -/
structure BillPaymentReversal where
  id : Uuid
  billPaymentId : Uuid
  providerReference : Option String
  amountMinor : Int
  currency : String
  reason : String
  idempotencyKey : String
  ledgerTransactionId : Option Uuid
  completedAt : Option Timestamp
deriving DecidableEq

instance : Schema BillPaymentReversal :=
  ((Schema.primary (·.id)).unique fun r ↦ some r.idempotencyKey).unique (·.ledgerTransactionId)

/-- The receipt of a bill that was paid. -/
structure BillPaymentReceipt where
  id : Uuid
  billPaymentId : Uuid
  receiptNumber : String
deriving DecidableEq

instance : Schema BillPaymentReceipt :=
  ((Schema.primary (·.id)).unique fun r ↦ some r.billPaymentId).unique
    fun r ↦ some r.receiptNumber

/-- The tables of the bills. -/
structure BillTables where
  categories : Table BillCategory
  billers : Table BillBiller
  products : Table BillProduct
  validations : Table BillCustomerValidation
  payments : Table BillPayment
  attempts : Table BillPaymentAttempt
  reversals : Table BillPaymentReversal
  receipts : Table BillPaymentReceipt

end AjoCloud
