import AjoCloud.Food.Subscriptions

/-!
# Food programmes

The life of a programme: `FoodAjoProgrammesService.create`, `subscribe` and `cancelSubscription`, and
of `FoodAjoCoordinatorService` the transitions of a programme and the edits of its packages, with the
rules of `food-ajo-policy.ts` they go by.
-/

namespace AjoCloud.Food

open Lib ServiceError

/-! ## `food-ajo-policy.ts` -/

/-- `status.toLowerCase()`. -/
def statusText : FoodAjoStatus → String
  | .draft => "draft"
  | .open => "open"
  | .active => "active"
  | .completed => "completed"
  | .suspended => "suspended"
  | .cancelled => "cancelled"

/-- A package can be sold. -/
def assertPackageActivation (priceMinor capacity enrolled : Int) :
    Except ServiceError PUnit := do
  require (0 < priceMinor) (unprocessable "Package price must be positive")
  require (¬ (capacity < 1 ∨ capacity < enrolled)) (unprocessable "Package capacity is invalid")

/-- A programme takes subscribers only while it is open for enrolment. -/
def acceptsSubscriptions (status : FoodAjoStatus) : Bool := status = .open

/-- What a request to subscribe is checked against. -/
structure SubscribeCheck where
  status : FoodAjoStatus
  capacity : Int
  enrolled : Int
  quantity : Int
  packageBelongsToProgramme : Bool
  packageIsActive : Bool
  alreadySubscribed : Bool

/-- `assertCanSubscribe`. -/
def assertCanSubscribe (input : SubscribeCheck) : Except ServiceError PUnit := do
  require (acceptsSubscriptions input.status)
    (unprocessable "This programme is not open for enrolment")
  require input.packageBelongsToProgramme
    (unprocessable "That package is not part of this programme")
  require input.packageIsActive (unprocessable "That package is no longer available")
  require (¬ input.alreadySubscribed) (conflict "You have already enrolled in this package")
  require (1 ≤ input.quantity) (unprocessable "Quantity must be at least one")
  require (input.enrolled + input.quantity ≤ input.capacity) (conflict "This programme is full")

/-- The transitions a coordinator may make. -/
def canTransitionProgramme : FoodAjoStatus → FoodAjoStatus → Bool
  | .draft, next => next = .open || next = .cancelled
  | .open, next => next = .active || next = .cancelled || next = .suspended
  | .active, next => next = .completed || next = .suspended
  | .suspended, next => next = .open || next = .active || next = .cancelled
  | .completed, _ => false
  | .cancelled, _ => false

/-- `assertCanOpenProgramme`. -/
def assertCanOpenProgramme (status : FoodAjoStatus) (packages : List FoodPackage)
    (enrolmentCapacity : Int) : Except ServiceError PUnit := do
  require (canTransitionProgramme status .open)
    (conflict "This programme cannot be opened from its current state")
  require (packages.filter (·.isActive) ≠ [])
    (unprocessable "A programme needs at least one active package")
  (packages.filter (·.isActive)).forM fun p ↦ assertPackageActivation p.priceMinor enrolmentCapacity 0

/-- A package may change while the programme is a draft and its price is not locked. -/
def assertPackageEditable (programmeStatus : FoodAjoStatus) (priceLockedAt : Option Timestamp) :
    Except ServiceError PUnit := do
  require (priceLockedAt = none)
    (conflict "This package price is locked and cannot be changed")
  require (programmeStatus = .draft)
    (conflict "Packages can only be changed while the programme is a draft")

/-- `assertCanCompleteProgramme`. -/
def assertCanCompleteProgramme (status : FoodAjoStatus) (outstandingCollections : Nat) :
    Except ServiceError PUnit := do
  require (canTransitionProgramme status .completed)
    (conflict "This programme cannot be completed from its current state")
  require (outstandingCollections = 0)
    (conflict (toString outstandingCollections ++ " member collections are still outstanding"))

/-! ## `FoodAjoProgrammesService` -/

/-- A package of a new programme. -/
structure CreateFoodPackageDto where
  name : String
  priceMinor : Int

/-- What a new programme is made of. -/
structure CreateFoodProgrammeDto where
  name : String
  contributionMinor : Int
  enrolmentCapacity : Int
  fulfilmentMethod : FoodFulfilmentMethod
  startsAt : Timestamp
  endsAt : Timestamp
  distributionAt : Option Timestamp
  packages : List CreateFoodPackageDto

/-- The packages of a new programme; their identifiers are the next the context gives out. -/
def newPackages (ctx : Ctx) (groupId : Uuid) : Nat → List CreateFoodPackageDto → List FoodPackage
  | _, [] => []
  | n, dto :: rest =>
      ⟨ctx.uuid n, groupId, dto.name, dto.priceMinor, none, "NGN", true⟩ ::
        newPackages ctx groupId (n + 1) rest

/-- The row of a new programme. -/
def newProgramme (ctx : Ctx) (userId : Uuid) (dto : CreateFoodProgrammeDto) : FoodAjoGroup where
  id := ctx.uuid 0
  coordinatorUserId := userId
  name := dto.name
  status := .draft
  currency := "NGN"
  contributionMinor := dto.contributionMinor
  enrolmentCapacity := dto.enrolmentCapacity
  fulfilmentMethod := dto.fulfilmentMethod
  activatedAt := none

/-- `create`; `approved` says whether an approval of the coordinator in force was found. -/
def createProgramme (ctx : Ctx) (db : Db) (approved : Bool) (userId : Uuid)
    (dto : CreateFoodProgrammeDto) : Except ServiceError (FoodAjoGroup × Db) := do
  require (¬ dto.endsAt ≤ dto.startsAt) (unprocessable "End date must follow start date")
  require (¬ dto.distributionAt.any (· < dto.startsAt))
    (unprocessable "Distribution cannot precede the programme")
  require approved (forbidden "An active coordinator approval is required")
  let group := newProgramme ctx userId dto
  require (fitsBigInt dto.contributionMinor ∧ ∀ p ∈ dto.packages, fitsBigInt p.priceMinor = true)
    (.database .valueTooLong)
  require (0 < dto.enrolmentCapacity ∧ 0 < dto.contributionMinor) (.database .checkConstraint)
  let groups ← insertRow db.food.groups group
  let packages ← orThrow (db.food.packages.insertMany (newPackages ctx group.id 1 dto.packages))
    (.database .uniqueConstraint)
  pure (group, { db with food := { db.food with groups := groups, packages := packages } })

/-- The subscriptions that are a live claim on a programme. -/
def isLive (s : FoodSubscription) : Bool := s.status = .pending || s.status = .active

/-- The portions that are taken of a programme. -/
def enrolledPortions (db : Db) (programmeId : Uuid) : Int :=
  sumWhere db.food.subscriptions.rows (fun s ↦ s.groupId = programmeId && isLive s) (·.quantity)

/-- `SubscribeFoodProgrammeDto`. -/
structure SubscribeFoodProgrammeDto where
  packageId : Uuid
  quantity : Int
  fulfilmentMethod : Option FoodFulfilmentMethod

/-- What a subscription that is taken up again is given. -/
def renewSubscription (quantity : Int) (method : FoodFulfilmentMethod) (s : FoodSubscription) :
    FoodSubscription :=
  { s with status := .pending, quantity := quantity, fulfilmentMethod := method }

/-- The row of a new subscription. -/
def newSubscription (id userId programmeId : Uuid) (dto : SubscribeFoodProgrammeDto)
    (method : FoodFulfilmentMethod) : FoodSubscription :=
  ⟨id, programmeId, dto.packageId, userId, .pending, dto.quantity, method, 0, none⟩

/-- The caller's subscription for a package, live or not. -/
def existingSubscription (db : Db) (userId programmeId packageId : Uuid) :
    Option FoodSubscription :=
  db.food.subscriptions.find? fun s ↦
    s.groupId = programmeId ∧ s.userId = userId ∧ s.packageId = packageId

/-- What `subscribe` checks. -/
def subscribeCheck (db : Db) (userId : Uuid) (programme : FoodAjoGroup)
    (dto : SubscribeFoodProgrammeDto) : SubscribeCheck where
  status := programme.status
  capacity := programme.enrolmentCapacity
  enrolled := enrolledPortions db programme.id
  quantity := dto.quantity
  packageBelongsToProgramme :=
    (db.food.packages.find? fun p ↦ p.id = dto.packageId).any (·.groupId = programme.id)
  packageIsActive := (db.food.packages.find? fun p ↦ p.id = dto.packageId).any (·.isActive)
  alreadySubscribed :=
    (existingSubscription db userId programme.id dto.packageId).any (canCancelSubscription ·.status)

/-- `subscribe`. -/
def subscribe (ctx : Ctx) (db : Db) (userId programmeId : Uuid) (dto : SubscribeFoodProgrammeDto) :
    Except ServiceError (FoodSubscription × Db) := do
  let programme ← orThrow (db.food.groups.find? fun g ↦ g.id = programmeId)
    (notFound "Food Ajo programme was not found")
  assertCanSubscribe (subscribeCheck db userId programme dto)
  let method := dto.fulfilmentMethod.getD programme.fulfilmentMethod
  match existingSubscription db userId programmeId dto.packageId with
  | some existing => do
      let subscriptions ← updateRow db.food.subscriptions (fun s ↦ s.id = existing.id)
        (renewSubscription dto.quantity method)
      pure (renewSubscription dto.quantity method existing,
        { db with food := { db.food with subscriptions := subscriptions } })
  | none => do
      let subscription := newSubscription (ctx.uuid 0) userId programmeId dto method
      let subscriptions ← insertRow db.food.subscriptions subscription
      pure (subscription, { db with food := { db.food with subscriptions := subscriptions } })

/-! ## `FoodAjoCoordinatorService` -/

/-- `ownedProgramme`: the programme, provided the user coordinates it. -/
def ownedProgramme (db : Db) (userId programmeId : Uuid) : Except ServiceError FoodAjoGroup := do
  let programme ← orThrow (db.food.groups.find? fun g ↦ g.id = programmeId)
    (notFound "Food Ajo programme was not found")
  require (programme.coordinatorUserId = userId) (notFound "Food Ajo programme was not found")
  pure programme

/-- The item was handed out, or a code for it was issued. -/
def hasConfirmation (db : Db) (item : FoodDistributionItem) : Bool :=
  (db.food.confirmations.find? fun c ↦ c.distributionItemId = item.id).isSome

/-- The distribution of an item belongs to the programme and was not cancelled. -/
def inLiveDistribution (db : Db) (programmeId : Uuid) (item : FoodDistributionItem) : Bool :=
  (db.food.distributions.find? fun d ↦
    d.id = item.distributionId ∧ d.groupId = programmeId ∧ d.status ≠ .cancelled).isSome

/-- `outstandingCollections`. -/
def outstandingCollections (db : Db) (programmeId : Uuid) : Nat :=
  (db.food.distributionItems.findMany fun i ↦
    inLiveDistribution db programmeId i && !hasConfirmation db i).length

/-- The check that a transition has to pass. -/
def assertCanTransition (db : Db) (programme : FoodAjoGroup) (status : FoodAjoStatus) :
    Except ServiceError PUnit :=
  if status = .open ∧ programme.status = .draft then
    assertCanOpenProgramme programme.status
      (db.food.packages.findMany fun p ↦ p.groupId = programme.id) programme.enrolmentCapacity
  else if status = .completed then
    assertCanCompleteProgramme programme.status (outstandingCollections db programme.id)
  else require (canTransitionProgramme programme.status status)
    (conflict ("A " ++ (statusText programme.status ++ (" programme cannot become " ++
      statusText status))))

/-- What a transition writes on the programme. -/
def moveProgramme (now : Timestamp) (status : FoodAjoStatus) (g : FoodAjoGroup) : FoodAjoGroup :=
  { g with
    status := status
    activatedAt := if status = .active ∧ g.activatedAt = none then some now else g.activatedAt }

/-- What opening a programme writes on its packages. -/
def lockPrice (now : Timestamp) (p : FoodPackage) : FoodPackage :=
  { p with priceLockedAt := some now }

/-- `transitionProgramme`. -/
def transitionProgramme (ctx : Ctx) (db : Db) (userId programmeId : Uuid) (status : FoodAjoStatus) :
    Except ServiceError (FoodAjoGroup × Db) := do
  let programme ← ownedProgramme db userId programmeId
  assertCanTransition db programme status
  let groups ← updateRow db.food.groups (fun g ↦ g.id = programmeId) (moveProgramme ctx.now status)
  let packages := if status = .open then
      db.food.packages.modify (fun p ↦ p.groupId = programmeId ∧ p.priceLockedAt = none)
        (lockPrice ctx.now) fun h ↦ h
    else db.food.packages
  pure (moveProgramme ctx.now status programme,
    { db with food := { db.food with groups := groups, packages := packages } })

/-- `UpdateFoodPackageDto`. -/
structure UpdateFoodPackageDto where
  name : Option String
  priceMinor : Option Int

/-- What an edit writes on a package. -/
def editPackage (dto : UpdateFoodPackageDto) (p : FoodPackage) : FoodPackage :=
  { p with name := dto.name.getD p.name, priceMinor := dto.priceMinor.getD p.priceMinor }

/-- `updatePackage`. -/
def updatePackage (db : Db) (userId programmeId packageId : Uuid) (dto : UpdateFoodPackageDto) :
    Except ServiceError (FoodPackage × Db) := do
  let programme ← ownedProgramme db userId programmeId
  let foodPackage ← orThrow
    (db.food.packages.find? fun p ↦ p.id = packageId)
    (notFound "That package was not found in this programme")
  require (foodPackage.groupId = programmeId)
    (notFound "That package was not found in this programme")
  assertPackageEditable programme.status foodPackage.priceLockedAt
  require (fitsBigInt (dto.priceMinor.getD foodPackage.priceMinor)) (.database .valueTooLong)
  let packages ← updateRow db.food.packages (fun p ↦ p.id = packageId) (editPackage dto)
  pure (editPackage dto foodPackage, { db with food := { db.food with packages := packages } })

end AjoCloud.Food
