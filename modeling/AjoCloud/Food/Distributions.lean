import AjoCloud.Food.Escrow

/-!
# Handing the food out

Of `FoodAjoCoordinatorService`, how a distribution is planned and moved on, and how a member collects:
they are issued a code for their item, and the coordinator confirms the collection against it.  Only a
digest of the code is stored; the digest function is a parameter.
-/

namespace AjoCloud.Food

open Lib ServiceError

/-! ## `food-ajo-policy.ts` -/

/-- `status.toLowerCase()`. -/
def distributionStatusText : FoodDistributionStatus → String
  | .planned => "planned"
  | .ready => "ready"
  | .distributing => "distributing"
  | .completed => "completed"
  | .cancelled => "cancelled"

/-- The transitions of a distribution. -/
def canTransitionDistribution : FoodDistributionStatus → FoodDistributionStatus → Bool
  | .planned, next => next = .ready || next = .cancelled
  | .ready, next => next = .distributing || next = .cancelled
  | .distributing, next => next = .completed
  | .completed, _ => false
  | .cancelled, _ => false

/-- `assertCanPlanDistribution`. -/
def assertCanPlanDistribution (programmeStatus : FoodAjoStatus) (fulfilledOrders : Nat)
    (scheduledAt now : Timestamp) : Except ServiceError Unit := do
  require (programmeStatus = .active)
    (conflict "Only an active programme can schedule a distribution")
  require (¬ fulfilledOrders < 1)
    (unprocessable "No fulfilled purchase order to distribute from")
  require (¬ scheduledAt ≤ now)
    (unprocessable "The distribution must be scheduled in the future")

/-- `assertCanConfirmCollection`. -/
def assertCanConfirmCollection (distributionStatus : FoodDistributionStatus)
    (alreadyConfirmed : Bool) : Except ServiceError Unit := do
  require (distributionStatus = .distributing)
    (conflict "This distribution is not currently handing out")
  require (¬ alreadyConfirmed) (conflict "This collection has already been confirmed")

/-- The characters of a collection code. -/
def COLLECTION_CODE_ALPHABET : List Char := "ABCDEFGHJKMNPQRSTUVWXYZ23456789".toList

/-- How long a code is valid. -/
def COLLECTION_CODE_TTL_MS : Int := 30 * 60 * 1000

/-- `generateCollectionCode`. -/
def generateCollectionCode (randomBytes : List UInt8) : String :=
  String.ofList ((randomBytes.take 6).map fun byte ↦
    COLLECTION_CODE_ALPHABET.getD (byte.toNat % COLLECTION_CODE_ALPHABET.length) 'A')

/-- `normalizeCollectionCode`. -/
def normalizeCollectionCode (code : String) : String :=
  String.ofList ((toUpperCase (trim code)).toList.filter fun c ↦ ¬ (isSpace c ∨ c = '-'))

/-- `isValidCollectionCodeShape`. -/
def isValidCollectionCodeShape (code : String) : Bool :=
  (normalizeCollectionCode code).length = 6 &&
    (normalizeCollectionCode code).toList.all (COLLECTION_CODE_ALPHABET.contains ·)

/-! ## Planning a distribution -/

/-- The items of a new distribution, one for each subscription. -/
def newItems (ctx : Ctx) (distributionId : Uuid) :
    Nat → List FoodSubscription → List FoodDistributionItem
  | _, [] => []
  | n, x :: rest =>
      ⟨ctx.uuid n, distributionId, x.id, x.quantity⟩ :: newItems ctx distributionId (n + 1) rest

/-- The live subscriptions of a programme. -/
def liveSubscriptions (db : Db) (programmeId : Uuid) : List FoodSubscription :=
  db.food.subscriptions.findMany fun x ↦ x.groupId = programmeId && isLive x

/-- The orders of a programme that have been received. -/
def fulfilledOrders (db : Db) (programmeId : Uuid) : Nat :=
  (db.food.purchaseOrders.findMany fun o ↦
    o.foodAjoGroupId = some programmeId ∧ o.status = .fulfilled).length

/-- `createDistribution`. -/
def createDistribution (ctx : Ctx) (db : Db) (userId programmeId : Uuid) (scheduledAt : Timestamp) :
    Except ServiceError (FoodDistribution × Db) := do
  let programme ← ownedProgramme db userId programmeId
  assertCanPlanDistribution programme.status (fulfilledOrders db programmeId) scheduledAt ctx.now
  require (liveSubscriptions db programmeId ≠ [])
    (unprocessable "There are no enrolments to distribute to")
  let distribution : FoodDistribution := ⟨ctx.uuid 0, programmeId, .planned, scheduledAt, none⟩
  let distributions ← insertRow db.food.distributions distribution
  let items ← orThrow (db.food.distributionItems.insertMany
    (newItems ctx distribution.id 1 (liveSubscriptions db programmeId))) (.database .uniqueConstraint)
  pure (distribution,
    { db with food := { db.food with distributions := distributions, distributionItems := items } })

/-! ## Moving a distribution on -/

/-- The distribution, provided it belongs to the programme. -/
def ownedDistribution (db : Db) (programmeId distributionId : Uuid) :
    Except ServiceError FoodDistribution := do
  let distribution ← orThrow (db.food.distributions.find? fun d ↦ d.id = distributionId)
    (notFound "That distribution was not found in this programme")
  require (distribution.groupId = programmeId)
    (notFound "That distribution was not found in this programme")
  pure distribution

/-- The items of a distribution that nobody was issued a code for. -/
def outstandingItems (db : Db) (distributionId : Uuid) : Nat :=
  (db.food.distributionItems.findMany fun i ↦
    i.distributionId = distributionId && !hasConfirmation db i).length

/-- What a transition writes on a distribution. -/
def moveDistribution (now : Timestamp) (status : FoodDistributionStatus) (d : FoodDistribution) :
    FoodDistribution :=
  { d with
    status := status
    completedAt := if status = .completed then some now else d.completedAt }

/-- `transitionDistribution`. -/
def transitionDistribution (ctx : Ctx) (db : Db) (userId programmeId distributionId : Uuid)
    (status : FoodDistributionStatus) : Except ServiceError (FoodDistribution × Db) := do
  let _ ← ownedProgramme db userId programmeId
  let distribution ← ownedDistribution db programmeId distributionId
  require (canTransitionDistribution distribution.status status)
    (conflict ("A " ++ (distributionStatusText distribution.status ++
      (" distribution cannot become " ++ distributionStatusText status))))
  require (status = .completed → ¬ 0 < outstandingItems db distributionId)
    (conflict (toString (outstandingItems db distributionId) ++
      " members have not collected yet; record or cancel their items first"))
  let distributions ← updateRow db.food.distributions (fun d ↦ d.id = distributionId)
    (moveDistribution ctx.now status)
  pure (moveDistribution ctx.now status distribution,
    { db with food := { db.food with distributions := distributions } })

/-! ## Collecting -/

/-- What a member is handed with their code. -/
structure IssuedCode where
  distributionItemId : Uuid
  expiresAt : Timestamp
  code : String
deriving DecidableEq

/-- The subscription the service takes for the member's. -/
def memberSubscription (db : Db) (userId programmeId : Uuid) : Option FoodSubscription :=
  db.food.subscriptions.find? fun x ↦ x.groupId = programmeId && (x.userId = userId && isLive x)

/-- The confirmation of an item. -/
def confirmationOf (db : Db) (itemId : Uuid) : Option DistributionConfirmation :=
  db.food.confirmations.find? fun c ↦ c.distributionItemId = itemId

/-- What issuing a code again writes on the confirmation. -/
def reissue (userId : Uuid) (hash : String) (expiresAt : Timestamp) (c : DistributionConfirmation) :
    DistributionConfirmation :=
  { c with confirmationHash := hash, expiresAt := expiresAt, confirmedByUserId := userId }

/-- The `upsert` of the code for an item. -/
def storeCode (ctx : Ctx) (db : Db) (itemId userId : Uuid) (hash : String) (expiresAt : Timestamp) :
    Except ServiceError (Table DistributionConfirmation) :=
  match confirmationOf db itemId with
  | some _ => updateRow db.food.confirmations (fun c ↦ c.distributionItemId = itemId)
      (reissue userId hash expiresAt)
  | none => insertRow db.food.confirmations ⟨ctx.uuid 0, itemId, userId, hash, expiresAt, none, none⟩

/-- `issueCollectionCode`. -/
def issueCollectionCode (ctx : Ctx) (db : Db) (digest : String → String) (randomBytes : List UInt8)
    (userId distributionId : Uuid) : Except ServiceError (IssuedCode × Db) := do
  let code := generateCollectionCode randomBytes
  let distribution ← orThrow (db.food.distributions.find? fun d ↦ d.id = distributionId)
    (notFound "That distribution was not found")
  let subscription ← orThrow (memberSubscription db userId distribution.groupId)
    (notFound "You are not enrolled in this programme")
  let item ← orThrow (db.food.distributionItems.find? fun i ↦
      i.distributionId = distributionId ∧ i.subscriptionId = subscription.id)
    (notFound "You have no item in this distribution")
  require (¬ (confirmationOf db item.id).any (·.usedAt.isSome))
    (conflict "You have already collected this item")
  require (distribution.status = .ready ∨ distribution.status = .distributing)
    (conflict "This distribution is not ready for collection yet")
  let expiresAt := ctx.now + COLLECTION_CODE_TTL_MS
  let confirmations ← storeCode ctx db item.id userId (digest code) expiresAt
  pure (⟨item.id, expiresAt, code⟩,
    { db with food := { db.food with confirmations := confirmations } })

/-- `ConfirmCollectionDto`. -/
structure ConfirmCollectionDto where
  code : String
  evidenceStorageKey : Option String

/-- The confirmation a presented code is matched with. -/
def presented (db : Db) (digest : String → String) (distributionId : Uuid) (code : String) :
    Option DistributionConfirmation :=
  db.food.confirmations.find? fun c ↦
    c.confirmationHash = digest (normalizeCollectionCode code) &&
      (db.food.distributionItems.find? fun i ↦
        i.id = c.distributionItemId ∧ i.distributionId = distributionId).isSome

/-- What a collection writes on its confirmation. -/
def markUsed (now : Timestamp) (evidenceStorageKey : Option String) (c : DistributionConfirmation) :
    DistributionConfirmation :=
  { c with
    usedAt := some now
    evidenceStorageKey := (evidenceStorageKey.filter (· ≠ "")).orElse fun _ ↦ c.evidenceStorageKey }

/-- `confirmCollection`. -/
def confirmCollection (ctx : Ctx) (db : Db) (digest : String → String)
    (userId programmeId distributionId : Uuid) (dto : ConfirmCollectionDto) :
    Except ServiceError (DistributionConfirmation × Db) := do
  require (isValidCollectionCodeShape dto.code)
    (unprocessable "That collection code is not valid")
  let _ ← ownedProgramme db userId programmeId
  let distribution ← ownedDistribution db programmeId distributionId
  let confirmation ← orThrow (presented db digest distributionId dto.code)
    (unprocessable "That collection code is not valid")
  require (¬ confirmation.expiresAt ≤ ctx.now) (unprocessable "That collection code is not valid")
  assertCanConfirmCollection distribution.status confirmation.usedAt.isSome
  require (∀ key ∈ dto.evidenceStorageKey, fitsVarChar 500 key) (.database .valueTooLong)
  let confirmations ← updateRow db.food.confirmations (fun c ↦ c.id = confirmation.id)
    (markUsed ctx.now dto.evidenceStorageKey)
  pure (markUsed ctx.now dto.evidenceStorageKey confirmation,
    { db with food := { db.food with confirmations := confirmations } })

end AjoCloud.Food
