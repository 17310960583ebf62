import AjoCloud.Ajo.Invitations
import AjoCloud.Kyc.Facts

/-!
# Collection pools

`pool-policy.ts` and `AkawoPoolsService`.  An organiser collects the same amount from every member of
a pool; members join with a code, of which only the digest is stored.  Joining and editing read the
pool before their write, in a statement of their own.
-/

namespace AjoCloud.Akawo

open Lib ServiceError Ajo

/-! ## `pool-policy.ts` -/

/-- A pool only accepts new members while it is open. -/
def acceptsMembers (status : AkawoPoolStatus) : Bool := status = .open

/-- Payment is allowed while the pool is open. -/
def acceptsPayment (poolStatus : AkawoPoolStatus) (dueStatus : AkawoDueStatus) : Bool :=
  poolStatus = .open && dueStatus = .pending

/-- Which transitions an organiser may make. -/
def canTransition : AkawoPoolStatus → AkawoPoolStatus → Bool
  | .draft, next => next = .open || next = .cancelled
  | .open, next => next = .closed || next = .cancelled
  | .closed, _ => false
  | .cancelled, _ => false

/-- A pool that has taken money is not cancelled. -/
def canCancel (status : AkawoPoolStatus) (paidCount : Nat) : Bool :=
  canTransition status .cancelled && paidCount = 0

/-- A member may only be removed while they owe nothing that has been paid. -/
def canRemoveMember (dueStatus : AkawoDueStatus) : Bool :=
  dueStatus = .pending || dueStatus = .waived

/-- Progress in basis points. -/
def collectionProgressBps (paidMinor expectedMinor : Int) : Int :=
  if expectedMinor ≤ 0 then 0 else min 10000 ((paidMinor * 10000).tdiv expectedMinor)

/-- The characters of a join code. -/
def CODE_ALPHABET : List Char := "ABCDEFGHJKMNPQRSTUVWXYZ23456789".toList

/-- `normalizeJoinCode`. -/
def normalizeJoinCode (codec : Codec) (code : String) : String :=
  String.ofList ((codec.toUpperCase (trim code)).toList.filter fun c ↦ !(isSpace c || c = '-'))

/-- `isValidJoinCodeShape`. -/
def isValidJoinCodeShape (codec : Codec) (code : String) : Bool :=
  (normalizeJoinCode codec code).length = 8 &&
    (normalizeJoinCode codec code).toList.all (CODE_ALPHABET.contains ·)

/-- `generateJoinCode`. -/
def generateJoinCode (randomBytes : List UInt8) : String :=
  String.ofList ((randomBytes.take 8).map fun byte ↦
    CODE_ALPHABET.getD (byte.toNat % CODE_ALPHABET.length) 'A')

/-- `status.toLowerCase()`. -/
def poolStatusText : AkawoPoolStatus → String
  | .draft => "draft"
  | .open => "open"
  | .closed => "closed"
  | .cancelled => "cancelled"

/-! ## Creating and finding a pool -/

/-- What the handling of join codes takes from outside: the codes in links, and the digest of a join
code. -/
structure JoinCodec extends Codec where
  digest : String → String

/-- `CreateAkawoPoolDto`. -/
structure CreateAkawoPoolDto where
  name : String
  purpose : Option String
  amountMinor : Int
  referenceLabel : Option String
  dueAt : Option Timestamp

/-- The row that `create` stores; `shortCode` is the code that the database draws. -/
def newPool (codec : JoinCodec) (ctx : Ctx) (randomBytes : List UInt8) (shortCode : String)
    (organiserUserId : Uuid) (dto : CreateAkawoPoolDto) : AkawoPool where
  id := ctx.uuid 0
  organiserUserId := organiserUserId
  name := dto.name
  purpose := dto.purpose.filter (· ≠ "")
  amountMinor := dto.amountMinor
  currency := "NGN"
  status := .draft
  joinCodeDigest := codec.digest (generateJoinCode randomBytes)
  referenceLabel := (dto.referenceLabel.filter (· ≠ "")).getD "Reference"
  dueAt := dto.dueAt
  closedAt := none
  shortCode := shortCode
  publiclyListed := false

/-- `create`. -/
def createPool (codec : JoinCodec) (ctx : Ctx) (db : Db) (randomBytes : List UInt8)
    (shortCode : String) (organiserUserId : Uuid) (dto : CreateAkawoPoolDto) :
    Except ServiceError (AkawoPool × Db) := do
  require (¬ ∃ dueAt ∈ dto.dueAt, dueAt ≤ ctx.now)
    (unprocessable "The due date must be in the future")
  require (fitsBigInt dto.amountMinor) (.database .valueTooLong)
  let pool := newPool codec ctx randomBytes shortCode organiserUserId dto
  let pools ← insertRow db.akawo.pools pool
  pure (pool, { db with akawo := { db.akawo with pools := pools } })

/-- `findByJoinCode`. -/
def findByJoinCode (codec : JoinCodec) (db : Db) (code : String) :
    Except ServiceError AkawoPool :=
  match normalisePublicCode codec.toCodec code with
  | some publicCode => do
      let pool ← orThrow (db.akawo.pools.find? fun p ↦ p.shortCode = publicCode)
        (notFound "That join code was not recognised")
      require pool.publiclyListed (notFound "That join code was not recognised")
      pure pool
  | none => do
      require (isValidJoinCodeShape codec.toCodec code)
        (notFound "That join code was not recognised")
      orThrow (db.akawo.pools.find? fun p ↦
          p.joinCodeDigest = codec.digest (normalizeJoinCode codec.toCodec code))
        (notFound "That join code was not recognised")

/-- `requireOrganiser`. -/
def requireOrganiser (db : Db) (organiserUserId poolId : Uuid) : Except ServiceError AkawoPool := do
  let pool ← orThrow (db.akawo.pools.find? fun p ↦ p.id = poolId) (notFound "Pool was not found")
  require (pool.organiserUserId = organiserUserId) (forbidden "You do not organise this pool")
  pure pool

/-! ## Joining -/

/-- `JoinAkawoPoolDto`. -/
structure JoinAkawoPoolDto where
  joinCode : String
  fullName : String
  reference : String

/-- The first statement of `join`: the pool of the code, as it is read. -/
def joinLookup (codec : JoinCodec) (db : Db) (dto : JoinAkawoPoolDto) :
    Except ServiceError AkawoPool := do
  let pool ← findByJoinCode codec db dto.joinCode
  require (acceptsMembers pool.status) (conflict "This pool is not accepting members")
  pure pool

/-- The organiser of the pool, if it is still there, is verified. -/
def assertOwnerVerified (db : Db) (poolId : Uuid) : Except ServiceError Unit :=
  match db.akawo.pools.find? fun p ↦ p.id = poolId with
  | some owner => Kyc.assertOrganiserVerified db owner.organiserUserId
  | none => pure ()

/-- The membership that `join` stores, and the due that goes with it. -/
def newMember (ctx : Ctx) (userId : Uuid) (dto : JoinAkawoPoolDto) (pool : AkawoPool) :
    AkawoPoolMember :=
  ⟨ctx.uuid 0, pool.id, userId, dto.fullName, dto.reference, .active, ctx.now, none⟩
def newDue (ctx : Ctx) (pool : AkawoPool) : AkawoPoolDue :=
  ⟨ctx.uuid 1, pool.id, ctx.uuid 0, pool.amountMinor, pool.currency, .pending, none, none, none⟩

/-- The transaction of `join`, for the pool that was read before. -/
def joinWithin (ctx : Ctx) (db : Db) (userId : Uuid) (dto : JoinAkawoPoolDto) (pool : AkawoPool) :
    Except ServiceError ((AkawoPoolMember × AkawoPoolDue) × Db) := do
  assertOwnerVerified db pool.id
  require ((db.akawo.members.find? fun m ↦ m.poolId = pool.id ∧ m.userId = userId) = none)
    (conflict "You have already joined this pool")
  require ((db.akawo.members.find? fun m ↦ m.poolId = pool.id ∧ m.reference = dto.reference) = none)
    (conflict ("That " ++ toLowerCase pool.referenceLabel ++ " is already used in this pool"))
  let members ← insertRow db.akawo.members (newMember ctx userId dto pool)
  let dues ← insertRow db.akawo.dues (newDue ctx pool)
  pure ((newMember ctx userId dto pool, newDue ctx pool),
    { db with akawo := { db.akawo with members := members, dues := dues } })

/-! ## Editing -/

/-- `UpdateAkawoPoolDto`. -/
structure UpdateAkawoPoolDto where
  name : Option String
  purpose : Option String
  dueAt : Option Timestamp
  publiclyListed : Option Bool

/-- The first statement of `update`: the pool, which must not be closed. -/
def updateLookup (db : Db) (organiserUserId poolId : Uuid) : Except ServiceError AkawoPool := do
  let pool ← requireOrganiser db organiserUserId poolId
  require (¬ (pool.status = .closed ∨ pool.status = .cancelled))
    (conflict "A closed pool cannot be edited")
  pure pool

/-- What an edit writes on the pool. -/
def editPool (dto : UpdateAkawoPoolDto) (pool : AkawoPool) : AkawoPool :=
  { pool with
    name := (dto.name.filter (· ≠ "")).getD pool.name
    purpose := dto.purpose.or pool.purpose
    dueAt := dto.dueAt.or pool.dueAt
    publiclyListed := dto.publiclyListed.getD pool.publiclyListed }

/-- The second statement of `update`. -/
def updatePool (db : Db) (poolId : Uuid) (dto : UpdateAkawoPoolDto) :
    Except ServiceError (Unit × Db) := do
  let pools ← updateRow db.akawo.pools (fun p ↦ p.id = poolId) (editPool dto)
  pure ((), { db with akawo := { db.akawo with pools := pools } })

/-! ## Opening, closing and cancelling -/

/-- What a transition writes on the pool. -/
def movePool (now : Timestamp) (status : AkawoPoolStatus) (pool : AkawoPool) : AkawoPool :=
  { pool with
    status := status
    closedAt := if status = .closed ∨ status = .cancelled then some now else pool.closedAt }

/-- `transition`. -/
def transition (ctx : Ctx) (db : Db) (organiserUserId poolId : Uuid) (status : AkawoPoolStatus) :
    Except ServiceError (AkawoPool × Db) := do
  let pool ← requireOrganiser db organiserUserId poolId
  require (canTransition pool.status status)
    (conflict ("A " ++ (poolStatusText pool.status ++
      (" pool cannot become " ++ poolStatusText status))))
  let pools ← updateRow db.akawo.pools (fun p ↦ p.id = poolId) (movePool ctx.now status)
  pure (movePool ctx.now status pool, { db with akawo := { db.akawo with pools := pools } })

/-- `open`. -/
def openPool (ctx : Ctx) (db : Db) (organiserUserId poolId : Uuid) :
    Except ServiceError (AkawoPool × Db) := transition ctx db organiserUserId poolId .open

/-- `close`. -/
def closePool (ctx : Ctx) (db : Db) (organiserUserId poolId : Uuid) :
    Except ServiceError (AkawoPool × Db) := transition ctx db organiserUserId poolId .closed

/-- The paid dues of a pool. -/
def paidDues (db : Db) (poolId : Uuid) : List AkawoPoolDue :=
  db.akawo.dues.findMany fun d ↦ d.poolId = poolId && d.status = .paid

/-- `cancel`. -/
def cancelPool (ctx : Ctx) (db : Db) (organiserUserId poolId : Uuid) :
    Except ServiceError (AkawoPool × Db) := do
  let pool ← requireOrganiser db organiserUserId poolId
  let paidCount := (paidDues db poolId).length
  require (canCancel pool.status paidCount)
    (conflict (if 0 < paidCount then
      "This pool has taken payments and cannot be cancelled; close it instead"
    else "This pool cannot be cancelled in its current state"))
  let pools ← updateRow db.akawo.pools (fun p ↦ p.id = poolId) (movePool ctx.now .cancelled)
  pure (movePool ctx.now .cancelled pool, { db with akawo := { db.akawo with pools := pools } })

/-! ## Removing a member and waiving a due -/

/-- The due of a member in a pool. -/
def dueOf (db : Db) (poolId memberId : Uuid) : Except ServiceError AkawoPoolDue :=
  orThrow (db.akawo.dues.find? fun d ↦ d.poolId = poolId ∧ d.memberId = memberId)
    (notFound "That member was not found in this pool")

/-- What a removal writes on the member. -/
def markRemoved (now : Timestamp) (member : AkawoPoolMember) : AkawoPoolMember :=
  { member with status := .removed, removedAt := some now }

/-- `removeMember`. -/
def removeMember (ctx : Ctx) (db : Db) (organiserUserId poolId memberId : Uuid) :
    Except ServiceError (Unit × Db) := do
  let _ ← requireOrganiser db organiserUserId poolId
  let due ← dueOf db poolId memberId
  require (canRemoveMember due.status) (conflict "A member who has paid cannot be removed")
  let members ← updateRow db.akawo.members (fun m ↦ m.id = memberId) (markRemoved ctx.now)
  pure ((), { db with akawo := { db.akawo with members := members } })

/-- What a waiver writes on the due. -/
def markWaived (reason : String) (due : AkawoPoolDue) : AkawoPoolDue :=
  { due with status := .waived, waivedReason := some reason }

/-- `waiveDue`. -/
def waiveDue (db : Db) (organiserUserId poolId memberId : Uuid) (reason : String) :
    Except ServiceError (AkawoPoolDue × Db) := do
  let _ ← requireOrganiser db organiserUserId poolId
  let due ← dueOf db poolId memberId
  require (due.status = .pending) (conflict "Only an outstanding due can be waived")
  let dues ← updateRow db.akawo.dues (fun d ↦ d.id = due.id) (markWaived reason)
  pure (markWaived reason due, { db with akawo := { db.akawo with dues := dues } })

/-! ## What is reported of a pool -/

/-- How far a collection has got. -/
structure PoolTotals where
  memberCount : Nat
  paidCount : Nat
  collectedMinor : Int
deriving DecidableEq

/-- `totals`. -/
def totals (db : Db) (poolId : Uuid) : PoolTotals where
  memberCount := (db.akawo.members.findMany fun m ↦ m.poolId = poolId && m.status = .active).length
  paidCount := (paidDues db poolId).length
  collectedMinor := ((paidDues db poolId).map (·.amountMinor)).sum

/-- The totals of a pool, with what is expected. -/
structure PoolReport extends PoolTotals where
  expectedMinor : Int
  progressBps : Int
deriving DecidableEq

/-- A report of totals, for an amount each member owes. -/
def reportOf (amountMinor : Int) (t : PoolTotals) : PoolReport where
  toPoolTotals := t
  expectedMinor := amountMinor * t.memberCount
  progressBps := collectionProgressBps t.collectedMinor (amountMinor * t.memberCount)

/-- `withTotals`. -/
def withTotals (db : Db) (pool : AkawoPool) : PoolReport :=
  reportOf pool.amountMinor (totals db pool.id)

/-- A member, with the first due found for them. -/
abbrev OrganiserRow := AkawoPoolMember × Option AkawoPoolDue

/-- The rows of the organiser's view, in the order in which the members joined. -/
def organiserRows (db : Db) (poolId : Uuid) : List OrganiserRow :=
  ((db.akawo.members.findMany fun m ↦ m.poolId = poolId && m.status = .active).insertionSort
    fun a b ↦ a.joinedAt ≤ b.joinedAt).map
      fun m ↦ (m, (db.akawo.dues.findMany fun d ↦ d.memberId = m.id).head?)

/-- The due of a row has been paid. -/
def rowPaid (row : OrganiserRow) : Bool := row.2.any (·.status = .paid)

/-- What a row has brought in. -/
def rowCollected (row : OrganiserRow) : Int :=
  if rowPaid row then (row.2.map (·.amountMinor)).getD 0 else 0

/-- The organiser's view: every member with their due, and the totals over these rows. -/
structure OrganiserView where
  pool : AkawoPool
  members : List OrganiserRow
  report : PoolReport

/-- The totals over the rows of the organiser's view. -/
def rowTotals (rows : List OrganiserRow) : PoolTotals where
  memberCount := rows.length
  paidCount := (rows.filter rowPaid).length
  collectedMinor := (rows.map rowCollected).sum

/-- `getOrganiserView`. -/
def getOrganiserView (db : Db) (organiserUserId poolId : Uuid) :
    Except ServiceError OrganiserView := do
  let pool ← orThrow (db.akawo.pools.find? fun p ↦ p.id = poolId) (notFound "Pool was not found")
  require (pool.organiserUserId = organiserUserId) (forbidden "You do not organise this pool")
  pure ⟨pool, organiserRows db poolId,
    reportOf pool.amountMinor (rowTotals (organiserRows db poolId))⟩

/-- A member's view: the membership, their own due, and the totals. -/
structure MemberView where
  membership : AkawoPoolMember
  due : Option AkawoPoolDue
  totals : PoolTotals

/-- `getMemberView`. -/
def getMemberView (db : Db) (userId poolId : Uuid) : Except ServiceError MemberView := do
  let membership ← orThrow
    (db.akawo.members.find? fun m ↦ m.poolId = poolId ∧ m.userId = userId)
    (notFound "You are not a member of this pool")
  pure ⟨membership, (db.akawo.dues.findMany fun d ↦ d.memberId = membership.id).head?,
    totals db poolId⟩

end AjoCloud.Akawo
