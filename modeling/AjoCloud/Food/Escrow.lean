import AjoCloud.Food.Programmes
import AjoCloud.Ledger.Transfer
import AjoCloud.Lib.Run
import AjoCloud.Payments.Inversion
import Mathlib

/-!
# The money of a programme

A subscription is paid in full, once, into the escrow of its programme, and what was paid goes back to
the member when they withdraw.  What a subscription owes is worked out from its package when it is
paid; the price of the package is locked by then, and it stays what it was.
-/

namespace AjoCloud.Food

open Lib ServiceError Ledger Payments

/-! ## The system -/

/-- A call, with the clock and the identifiers it is answered under. -/
inductive Call where
  | createProgramme (ctx : Ctx) (approved : Bool) (userId : Uuid) (dto : CreateFoodProgrammeDto)
  | transitionProgramme (ctx : Ctx) (userId programmeId : Uuid) (status : FoodAjoStatus)
  | updatePackage (userId programmeId packageId : Uuid) (dto : UpdateFoodPackageDto)
  | subscribe (ctx : Ctx) (userId programmeId : Uuid) (dto : SubscribeFoodProgrammeDto)
  | createIntent (ctx : Ctx) (userId : Uuid) (dto : CreateIntentDto) (idempotencyKey : String)
  | pay (ctx : Ctx) (userId intentId : Uuid) (idempotencyKey : String)
  | cancelSubscription (ctx : Ctx) (userId programmeId : Uuid)
  /-- The rest of the platform leaves the database as it is given here. -/
  | elsewhere (db : Db)

/-- The database, and the times at which payments were made. -/
structure Desk where
  db : Db
  payments : List Timestamp

/-- The database a payment leaves; intents for other products are not this module's. -/
def payIntent (ctx : Ctx) (db : Db) (userId intentId : Uuid) (key : String) : Db :=
  match db.paymentIntents.find? fun i ↦ i.id = intentId with
  | some intent =>
      if intent.targetType = .foodSubscription then
        committed db (settleFromWallet ctx db foodSubscriptionTarget userId intentId key)
      else db
  | none => db

/-- The payment goes through: the intent is for a subscription, and it is settled now. -/
def settles (ctx : Ctx) (db : Db) (userId intentId : Uuid) (key : String) : Bool :=
  match db.paymentIntents.find? fun i ↦ i.id = intentId with
  | some intent =>
      intent.targetType = .foodSubscription && intent.status = .requiresConfirmation &&
        (settleFromWallet ctx db foodSubscriptionTarget userId intentId key).isOk
  | none => false

/-- What a call leaves. -/
def step (s : Desk) : Call → Desk
  | .createProgramme ctx approved userId dto =>
      { s with db := committed s.db (createProgramme ctx s.db approved userId dto) }
  | .transitionProgramme ctx userId programmeId status =>
      { s with db := committed s.db (transitionProgramme ctx s.db userId programmeId status) }
  | .updatePackage userId programmeId packageId dto =>
      { s with db := committed s.db (updatePackage s.db userId programmeId packageId dto) }
  | .subscribe ctx userId programmeId dto =>
      { s with db := committed s.db (subscribe ctx s.db userId programmeId dto) }
  | .createIntent ctx userId dto key =>
      { s with db := committed s.db (create ctx s.db foodSubscriptionTarget userId dto key) }
  | .pay ctx userId intentId key =>
      { db := payIntent ctx s.db userId intentId key
        payments := if settles ctx s.db userId intentId key then s.payments ++ [ctx.now]
          else s.payments }
  | .cancelSubscription ctx userId programmeId =>
      { s with db := committed s.db (cancelSubscription ctx s.db userId programmeId) }
  | .elsewhere db => { s with db := db }

/-- Nothing about the hand-outs changed. -/
structure SameHandOut (db db' : Db) : Prop where
  distributions : db'.food.distributions = db.food.distributions
  items : db'.food.distributionItems = db.food.distributionItems
  confirmations : db'.food.confirmations = db.food.confirmations

/-- What the rest of the platform leaves alone: the programmes with their packages and subscriptions,
the escrows, and the keys of refunds; and it posts for an intent only when it confirms it. -/
structure Aside (db db' : Db) : Prop where
  groups : db'.food.groups = db.food.groups
  packages : db'.food.packages = db.food.packages
  subscriptions : db'.food.subscriptions = db.food.subscriptions
  escrow : ∀ programmeId, db'.ledger.codeBalance (escrowAccountCode programmeId) =
    db.ledger.codeBalance (escrowAccountCode programmeId)
  refunds : ∀ t ∈ db'.ledger.transactions.rows, ∀ id paidAt,
    t.idempotencyKey = refundKey id paidAt →
    ∃ t' ∈ db.ledger.transactions.rows, t'.idempotencyKey = refundKey id paidAt
  intents : IntentsPosted db → IntentsPosted db'

theorem Aside.refl (db : Db) : Aside db db :=
  ⟨rfl, rfl, rfl, fun _ ↦ rfl, fun t ht _ _ hkey ↦ ⟨t, ht, hkey⟩, fun h ↦ h⟩

/-- No two payments are made at the same time. -/
def Admitted (s : Desk) : Call → Prop
  | .pay ctx userId intentId key => settles ctx s.db userId intentId key → ctx.now ∉ s.payments
  | .elsewhere db => Aside s.db db
  | _ => True

/-! ## What each call does -/

variable {ctx : Ctx} {db db' : Db} {userId programmeId : Uuid}

theorem escrowAccountCode_inj {g h : Uuid} (e : escrowAccountCode g = escrowAccountCode h) :
    g = h := by
  unfold escrowAccountCode at e
  exact (uuid_append_inj ((String.append_right_inj _).mp e)).1

theorem refundKey_inj {id id' : Uuid} {t t' : Option Timestamp}
    (h : refundKey id t = refundKey id' t') : id = id' ∧ t.getD 0 = t'.getD 0 := by
  unfold refundKey at h
  obtain ⟨hid, htime⟩ := uuid_append_inj ((String.append_right_inj _).mp h)
  exact ⟨hid, Int.repr_injective ((String.append_right_inj _).mp htime)⟩

/-- A programme was created, with its packages. -/
structure CreatedProgramme (db db' : Db) (g : FoodAjoGroup) (ps : List FoodPackage) : Prop where
  groups : insertRow db.food.groups g = .ok db'.food.groups
  packages : db'.food.packages.rows = db.food.packages.rows ++ ps
  draft : g.status = .draft
  unactivated : g.activatedAt = none
  capacity : 0 < g.enrolmentCapacity
  belongs : ∀ p ∈ ps, p.groupId = g.id
  currency : ∀ p ∈ ps, p.currency = "NGN"
  after : db' = { db with
    food := { db.food with groups := db'.food.groups, packages := db'.food.packages } }

theorem of_mem_newPackages {groupId : Uuid} {n : Nat} {dtos : List CreateFoodPackageDto}
    {p : FoodPackage} (h : p ∈ newPackages ctx groupId n dtos) :
    p.groupId = groupId ∧ p.currency = "NGN" := by
  induction dtos generalizing n with
  | nil => cases h
  | cons dto dtos ih =>
      rcases List.mem_cons.mp h with rfl | h
      · exact ⟨rfl, rfl⟩
      · exact ih h

theorem createProgramme_eq_ok {approved : Bool} {dto : CreateFoodProgrammeDto} {g : FoodAjoGroup}
    (h : createProgramme ctx db approved userId dto = .ok (g, db')) :
    ∃ ps, CreatedProgramme db db' g ps := by
  simp only [createProgramme, bind_eq_ok, require_eq_ok, orThrow_eq_ok, pure_eq_ok, exists_const,
    Prod.mk.injEq] at h
  obtain ⟨-, -, -, -, hcapacity, groups, hgroups, packages, hpackages, rfl, rfl⟩ := h
  exact ⟨_, hgroups, Table.rows_of_insertMany hpackages, rfl, rfl, hcapacity.1,
    fun p hp ↦ (of_mem_newPackages hp).1, fun p hp ↦ (of_mem_newPackages hp).2, rfl⟩

/-- A programme was moved to another status. -/
structure Moved (ctx : Ctx) (db db' : Db) (g : FoodAjoGroup) (status : FoodAjoStatus) : Prop where
  mem : g ∈ db.food.groups.rows
  allowed : canTransitionProgramme g.status status = true
  completed : status = .completed → outstandingCollections db g.id = 0
  groups : db'.food.groups.rows = db.food.groups.rows.map fun x ↦
    if decide (x.id = g.id) = true then moveProgramme ctx.now status x else x
  packages : db'.food.packages.rows = if status = .open then
      db.food.packages.rows.map fun p ↦
        if decide (p.groupId = g.id ∧ p.priceLockedAt = none) = true then lockPrice ctx.now p else p
    else db.food.packages.rows
  after : db' = { db with
    food := { db.food with groups := db'.food.groups, packages := db'.food.packages } }

theorem assertCanTransition_eq_ok {g : FoodAjoGroup} {status : FoodAjoStatus} {u : Unit}
    (h : assertCanTransition db g status = .ok u) :
    canTransitionProgramme g.status status = true ∧
      (status = .completed → outstandingCollections db g.id = 0) := by
  unfold assertCanTransition at h
  split at h
  · next hopen =>
      rw [assertCanOpenProgramme, require_bind_eq_ok] at h
      rw [hopen.1]
      exact ⟨h.1, by simp⟩
  · split at h
    · next hcompleted =>
        rw [assertCanCompleteProgramme, require_bind_eq_ok, require_eq_ok] at h
        rw [hcompleted]
        exact ⟨h.1, fun _ ↦ h.2⟩
    · next hother => exact ⟨require_eq_ok.mp h, fun hcompleted ↦ absurd hcompleted hother⟩

theorem ownedProgramme_eq_ok {g : FoodAjoGroup}
    (h : ownedProgramme db userId programmeId = .ok g) :
    g ∈ db.food.groups.rows ∧ g.id = programmeId ∧ g.coordinatorUserId = userId := by
  simp only [ownedProgramme, bind_eq_ok, orThrow_eq_ok, require_eq_ok, pure_eq_ok,
    exists_const] at h
  obtain ⟨g', hfind, howner, rfl⟩ := h
  exact ⟨Table.mem_of_find? hfind, by simpa using Table.prop_of_find? hfind, howner⟩

theorem transitionProgramme_eq_ok {status : FoodAjoStatus} {r : FoodAjoGroup}
    (h : transitionProgramme ctx db userId programmeId status = .ok (r, db')) :
    ∃ g, g.id = programmeId ∧ Moved ctx db db' g status := by
  simp only [transitionProgramme, bind_eq_ok, pure_eq_ok, Prod.mk.injEq] at h
  obtain ⟨g, howned, u, hchecked, groups, hgroups, -, rfl⟩ := h
  obtain ⟨hmem, rfl, -⟩ := ownedProgramme_eq_ok howned
  obtain ⟨hallowed, hcompleted⟩ := assertCanTransition_eq_ok hchecked
  refine ⟨g, rfl, hmem, hallowed, hcompleted, updateRow_eq_ok hgroups, ?_, rfl⟩
  split
  · rfl
  · rfl

/-- A package was edited. -/
structure Edited (db db' : Db) (p : FoodPackage) (dto : UpdateFoodPackageDto) : Prop where
  mem : p ∈ db.food.packages.rows
  unlocked : p.priceLockedAt = none
  draft : ∃ g ∈ db.food.groups.rows, g.id = p.groupId ∧ g.status = .draft
  packages : db'.food.packages.rows = db.food.packages.rows.map fun x ↦
    if decide (x.id = p.id) = true then editPackage dto x else x
  after : db' = { db with food := { db.food with packages := db'.food.packages } }

theorem updatePackage_eq_ok {packageId : Uuid} {dto : UpdateFoodPackageDto} {r : FoodPackage}
    (h : updatePackage db userId programmeId packageId dto = .ok (r, db')) :
    ∃ p, Edited db db' p dto := by
  simp only [updatePackage, assertPackageEditable, bind_eq_ok, require_eq_ok, orThrow_eq_ok,
    pure_eq_ok, exists_const, Prod.mk.injEq] at h
  obtain ⟨g, howned, p, hfind, hgroup, ⟨hunlocked, hdraft⟩, -, packages, hpackages, -, rfl⟩ := h
  obtain ⟨hmem, hid, -⟩ := ownedProgramme_eq_ok howned
  obtain rfl : p.id = packageId := by simpa using Table.prop_of_find? hfind
  exact ⟨p, Table.mem_of_find? hfind, hunlocked, ⟨g, hmem, hid.trans hgroup.symm, hdraft⟩,
    updateRow_eq_ok hpackages, rfl⟩

/-- What a member who enrols was found to be entitled to. -/
structure MayEnrol (db : Db) (x : FoodSubscription) : Prop where
  room : ∃ g ∈ db.food.groups.rows, g.id = x.groupId ∧ g.status = .open ∧
    enrolledPortions db x.groupId + x.quantity ≤ g.enrolmentCapacity
  package : ∃ p ∈ db.food.packages.rows, p.id = x.packageId ∧ p.groupId = x.groupId
  quantity : 1 ≤ x.quantity
  pending : x.status = .pending

/-- A member enrolled for a package, or took an enrolment up again. -/
inductive Subscribed (db db' : Db) (x : FoodSubscription) : Prop
  | /-- The enrolment is new. -/
    joined (unpaid : x.amountPaidMinor = 0)
      (insert : insertRow db.food.subscriptions x = .ok db'.food.subscriptions)
  | /-- The member had withdrawn it. -/
    rejoined (y : FoodSubscription) (mem : y ∈ db.food.subscriptions.rows)
      (lapsed : isLive y = false)
      (renewed : x = renewSubscription x.quantity x.fulfilmentMethod y)
      (rows : db'.food.subscriptions.rows = db.food.subscriptions.rows.map fun z ↦
        if decide (z.id = y.id) = true then
          renewSubscription x.quantity x.fulfilmentMethod z
        else z)

theorem assertCanSubscribe_eq_ok {c : SubscribeCheck} {u : Unit} :
    assertCanSubscribe c = .ok u ↔
      c.status = .open ∧ c.packageBelongsToProgramme = true ∧ c.packageIsActive = true ∧
        c.alreadySubscribed = false ∧ 1 ≤ c.quantity ∧ c.enrolled + c.quantity ≤ c.capacity := by
  simp only [assertCanSubscribe, acceptsSubscriptions, bind_eq_ok, require_eq_ok, exists_const,
    decide_eq_true_eq, Bool.not_eq_true]

theorem mayEnrol_of_assert {programme : FoodAjoGroup} {dto : SubscribeFoodProgrammeDto}
    {x : FoodSubscription} {u : Unit} (hmem : programme ∈ db.food.groups.rows)
    (hgroup : x.groupId = programme.id) (hpackage : x.packageId = dto.packageId)
    (hquantity : x.quantity = dto.quantity) (hpending : x.status = .pending)
    (h : assertCanSubscribe (subscribeCheck db userId programme dto) = .ok u) :
    MayEnrol db x := by
  obtain ⟨hopen, hbelongs, -, -, hone, hroom⟩ := assertCanSubscribe_eq_ok.mp h
  refine ⟨⟨programme, hmem, hgroup.symm, hopen, ?_⟩, ?_, hquantity ▸ hone, hpending⟩
  · rw [hgroup, hquantity]
    exact hroom
  · obtain ⟨p, hp, hpg⟩ := (Option.any_eq_true _ _).mp hbelongs
    have hid : p.id = dto.packageId := by simpa using Table.prop_of_find? hp
    exact ⟨p, Table.mem_of_find? hp, hid.trans hpackage.symm,
      (of_decide_eq_true hpg).trans hgroup.symm⟩

/-- The enrolment is the one that was asked for. -/
structure AsAsked (userId programmeId : Uuid) (dto : SubscribeFoodProgrammeDto)
    (x : FoodSubscription) : Prop where
  user : x.userId = userId
  group : x.groupId = programmeId
  package : x.packageId = dto.packageId
  quantity : x.quantity = dto.quantity

theorem subscribe_eq_ok {dto : SubscribeFoodProgrammeDto} {x : FoodSubscription}
    (h : subscribe ctx db userId programmeId dto = .ok (x, db')) :
    MayEnrol db x ∧ Subscribed db db' x ∧
      db' = { db with food := { db.food with subscriptions := db'.food.subscriptions } } ∧
      AsAsked userId programmeId dto x := by
  rw [subscribe, orThrow_bind_eq_ok] at h
  obtain ⟨programme, hfind, h⟩ := h
  rw [bind_eq_ok] at h
  obtain ⟨u, hchecked, h⟩ := h
  have hmem := Table.mem_of_find? hfind
  obtain rfl : programme.id = programmeId := by simpa using Table.prop_of_find? hfind
  split at h
  · next y hy =>
      simp only [bind_eq_ok, pure_eq_ok, Prod.mk.injEq] at h
      obtain ⟨subscriptions, hrows, rfl, rfl⟩ := h
      have hprop := Table.prop_of_find? hy
      rw [decide_eq_true_eq] at hprop
      have hlapsed : isLive y = false := by
        have hfree := (assertCanSubscribe_eq_ok.mp hchecked).2.2.2.1
        rw [subscribeCheck, hy] at hfree
        exact hfree
      exact ⟨mayEnrol_of_assert hmem hprop.1 hprop.2.2 rfl rfl hchecked,
        .rejoined y (Table.mem_of_find? hy) hlapsed rfl (updateRow_eq_ok hrows), rfl,
        hprop.2.1, hprop.1, hprop.2.2, rfl⟩
  · simp only [bind_eq_ok, pure_eq_ok, Prod.mk.injEq] at h
    obtain ⟨subscriptions, hinsert, rfl, rfl⟩ := h
    exact ⟨mayEnrol_of_assert hmem rfl rfl rfl rfl hchecked, .joined rfl hinsert, rfl,
      rfl, rfl, rfl, rfl⟩

/-- The rows of an enrolment are stored, and they belong together. -/
structure Enrolment.Stored (db : Db) (e : Enrolment) : Prop where
  subscription : e.subscription ∈ db.food.subscriptions.rows
  group : e.group ∈ db.food.groups.rows
  group_id : e.group.id = e.subscription.groupId
  package : e.package ∈ db.food.packages.rows
  package_id : e.package.id = e.subscription.packageId

/-- What an enrolment costs. -/
def Enrolment.total (e : Enrolment) : Int :=
  subscriptionTotalMinor e.package.priceMinor e.subscription.quantity

theorem owned_eq_ok {targetId : Option Uuid} {e : Enrolment} (h : owned db userId targetId = .ok e) :
    targetId = some e.subscription.id ∧ e.subscription.userId = userId ∧ e.Stored db := by
  simp only [owned, bind_eq_ok, orThrow_eq_ok, require_eq_ok, pure_eq_ok, exists_const] at h
  obtain ⟨id, rfl, x, hx, g, hg, p, hp, huser, rfl⟩ := h
  have hid : x.id = id := by simpa using Table.prop_of_find? hx
  exact ⟨congrArg some hid.symm, huser, Table.mem_of_find? hx, Table.mem_of_find? hg,
    by simpa using Table.prop_of_find? hg, Table.mem_of_find? hp,
    by simpa using Table.prop_of_find? hp⟩

/-- What payment in full writes on a subscription. -/
def markPaid (total : Int) (now : Timestamp) (x : FoodSubscription) : FoodSubscription :=
  { x with amountPaidMinor := total, status := .active, paidAt := some now }

/-- A subscription was paid in full. -/
structure Paid (now : Timestamp) (db db' : Db) (e : Enrolment) : Prop where
  stored : e.Stored db
  pending : e.subscription.status = .pending
  accepts : acceptsPayment e.group.status = true
  owing : e.subscription.amountPaidMinor < e.total
  fits : fitsBigInt e.total = true
  groups : db'.food.groups = db.food.groups
  packages : db'.food.packages = db.food.packages
  subscriptions : db'.food.subscriptions.rows = db.food.subscriptions.rows.map fun x ↦
    if decide (x.id = e.subscription.id) = true then markPaid e.total now x else x
  escrow : ∀ g, db'.ledger.codeBalance (escrowAccountCode g) =
    db.ledger.codeBalance (escrowAccountCode g) +
      if g = e.subscription.groupId then e.total - e.subscription.amountPaidMinor else 0
  posted : ∃ t i key, db'.ledger.transactions.rows = db.ledger.transactions.rows ++ [t] ∧
    t.idempotencyKey = intentKey i key
  intents : IntentsPosted db'
  handOut : SameHandOut db db'

/-- The escrows of the programmes. -/
theorem family_escrow : Family escrowAccountCode .foodProgrammeEscrow :=
  ⟨escrowAccountCode_inj, codePurpose_escrowAccountCode⟩

theorem resolveSubscription_eq_ok {targetId : Option Uuid} {t : ResolvedTarget}
    (h : resolveSubscription db userId targetId = .ok t) :
    ∃ e, owned db userId targetId = .ok e ∧ e.subscription.status = .pending ∧
      acceptsPayment e.group.status = true ∧ e.subscription.amountPaidMinor < e.total ∧
      t = ⟨e.total - e.subscription.amountPaidMinor, e.package.currency, label e⟩ := by
  simp only [resolveSubscription, bind_eq_ok, require_eq_ok, pure_eq_ok, exists_const] at h
  obtain ⟨e, he, -, hpending, haccepts, howing, rfl⟩ := h
  exact ⟨e, he, hpending, haccepts, by rw [Enrolment.total]; omega, rfl⟩

/-- The payment is credited to the escrow of the subscription's programme. -/
theorem creditEscrow_eq_ok {x : FoodSubscription} {currency : String} {escrow : Uuid}
    (hx : x ∈ db.food.subscriptions.rows)
    (h : creditEscrow ctx db (some x.id) currency = .ok (escrow, db')) :
    escrowAccountWithin db (ctx.uuid 1) x.groupId currency = .ok (escrow, db') := by
  simp only [creditEscrow, bind_eq_ok, orThrow_eq_ok, Option.some.injEq, exists_eq_left'] at h
  obtain ⟨x', hfind, h⟩ := h
  have hid : x'.id = x.id := by simpa using Table.prop_of_find? hfind
  rwa [db.food.subscriptions.eq_of_clash (Table.mem_of_find? hfind) hx (.inl hid)] at h

/-- A payment of what is outstanding makes the subscription a paid one. -/
theorem creditSubscription_outstanding (e : Enrolment) (now : Timestamp) (x : FoodSubscription) :
    creditSubscription e (e.total - e.subscription.amountPaidMinor) now x =
      markPaid e.total now x := by
  have hsum : e.subscription.amountPaidMinor + (e.total - e.subscription.amountPaidMinor) =
      e.total := by omega
  rw [creditSubscription, hsum]
  exact if_pos (le_refl e.total)

theorem settleSubscription_eq_ok {payment : SettledPayment}
    (h : settleSubscription ctx db payment = .ok db') :
    ∃ e, owned db payment.userId payment.targetId = .ok e ∧
      fitsBigInt (e.subscription.amountPaidMinor + payment.amountMinor) = true ∧
      db'.food.subscriptions.rows = (db.food.subscriptions.rows.map fun x ↦
        if decide (x.id = e.subscription.id) = true then
          creditSubscription e payment.amountMinor ctx.now x
        else x) ∧
      db' = { db with food := { db.food with subscriptions := db'.food.subscriptions } } := by
  simp only [settleSubscription, bind_eq_ok, require_eq_ok, pure_eq_ok, exists_const] at h
  obtain ⟨e, he, hfits, -, subscriptions, hrows, rfl⟩ := h
  exact ⟨e, he, hfits, updateRow_eq_ok hrows, rfl⟩

/-- A wallet settlement of a subscription's intent that was awaiting confirmation. -/
theorem paid_of_walletSettled {opened settled : Db} {destination : Uuid} {intent : PaymentIntent}
    {key : String} {target : ResolvedTarget} {payer : PayerAccounts} {posting : LedgerReference}
    {ledger : Ledger} (hposted : IntentsPosted db) (hmem : intent ∈ db.paymentIntents.rows)
    (hst : intent.status = .requiresConfirmation)
    (h : WalletSettled ctx db foodSubscriptionTarget userId intent key db' target payer destination
      opened posting ledger settled) : ∃ e, Paid ctx.now db db' e := by
  obtain ⟨e, he, hpending, haccepts, howing, htarget⟩ := resolveSubscription_eq_ok h.resolve
  obtain ⟨hid, -, hstored⟩ := owned_eq_ok he
  have hamount : intent.amountMinor = e.total - e.subscription.amountPaidMinor := by
    rw [← h.amount, htarget]
  have hcredit : creditEscrow ctx db (some e.subscription.id) intent.currency =
      .ok (destination, opened) := hid ▸ h.credit
  obtain ⟨hopenedDb, hopened, a, ha, rfl, hcode⟩ :=
    escrowAccountWithin_opens (creditEscrow_eq_ok hstored.subscription hcredit)
  obtain ⟨e', he', hfits, hrows, hsettled⟩ := settleSubscription_eq_ok h.settle
  -- The settlement reads the programmes as they were before the posting.
  rw [hopenedDb] at he' hrows hsettled
  obtain rfl : e = e' := Except.ok.inj (he.symm.trans he')
  obtain ⟨walletId, hpayer⟩ := h.paidBy
  have hdb' := h.after
  have hsubscriptions : db'.food.subscriptions = settled.food.subscriptions := by rw [h.after]
  rw [← hsubscriptions] at hrows
  simp only [settledPayment, hamount, creditSubscription_outstanding] at hrows
  simp only [settledPayment, hamount, add_sub_cancel] at hfits
  rw [hsettled] at hdb'
  obtain ⟨-, created, htx, hposted'⟩ := h.posted hposted hmem hst hopened (by rw [hsettled])
    (by rw [hsettled])
  refine ⟨e, hstored, hpending, haccepts, howing, hfits, by rw [hdb'], by rw [hdb'], hrows, ?_,
    ⟨_, intent.id, key, htx, rfl⟩, hposted', ⟨by rw [hdb'], by rw [hdb'], by rw [hdb']⟩⟩
  intro g
  have hescrow := codeBalance_walletPosting family_escrow (by simp) (by simp) hpayer hopened
    created ha hcode g
  rw [hdb', hescrow, hopened.codeBalance, hamount]
  rfl

/-- A refund of the payment can still be posted. -/
def Refundable (db : Db) (x : FoodSubscription) : Prop :=
  0 ≤ x.amountPaidMinor ∧ (0 < x.amountPaidMinor →
    ∀ t ∈ db.ledger.transactions.rows, t.idempotencyKey ≠ refundKey x.id x.paidAt)

/-- A member withdrew, and has back what they paid. -/
structure Withdrawn (db db' : Db) (userId programmeId : Uuid) (e : Enrolment) : Prop where
  first : (db.food.subscriptions.find? fun x ↦ x.groupId = programmeId ∧ x.userId = userId) =
    some e.subscription
  stored : e.Stored db
  live : isLive e.subscription = true
  early : 0 < e.subscription.amountPaidMinor → e.group.status = .open
  groups : db'.food.groups = db.food.groups
  packages : db'.food.packages = db.food.packages
  subscriptions : db'.food.subscriptions.rows = db.food.subscriptions.rows.map fun x ↦
    if decide (x.id = e.subscription.id) = true then markCancelled x else x
  escrow : Refundable db e.subscription → ∀ g, db'.ledger.codeBalance (escrowAccountCode g) =
    db.ledger.codeBalance (escrowAccountCode g) -
      if g = e.subscription.groupId then e.subscription.amountPaidMinor else 0
  posted : ∀ t ∈ db'.ledger.transactions.rows, t ∈ db.ledger.transactions.rows ∨
    0 < e.subscription.amountPaidMinor ∧
      t.idempotencyKey = refundKey e.subscription.id e.subscription.paidAt
  intents : db'.paymentIntents = db.paymentIntents
  handOut : SameHandOut db db'

theorem net_refundPosting {x : FoodSubscription} {currency : String} {escrow wallet : Uuid}
    (h : wallet ≠ escrow) :
    Journal.net (refundPosting userId programmeId x currency escrow wallet).legs escrow =
      -x.amountPaidMinor := by
  simp [refundPosting, LedgerPostingCommand.legs, LedgerPostingEntry.leg, Journal.net_cons, h]

/-- The member's account that a refund goes to. -/
def refundAccount (db : Db) (userId : Uuid) (currency : String) : Option FinancialAccount :=
  (db.wallets.find? fun w ↦ w.userId = userId ∧ w.currency = currency).bind fun wallet ↦
    db.ledger.accounts.find? fun a ↦ a.walletId = some wallet.id ∧
      a.purpose = some .walletAvailable ∧ a.currency = currency ∧ a.isActive

/-- The refund of a payment, step by step. -/
structure Repaid (ctx : Ctx) (db db' : Db) (userId programmeId : Uuid) (x : FoodSubscription)
    (currency : String) (wallet : FinancialAccount) (escrow : Uuid) (opened : Db)
    (posting : LedgerReference) : Prop where
  account : refundAccount db userId currency = some wallet
  credit : escrowAccountWithin db (ctx.uuid 1) programmeId currency = .ok (escrow, opened)
  post : opened.ledger.postWithin (ctx.uuid 0)
    (refundPosting userId programmeId x currency escrow wallet.id) = .ok (posting, db'.ledger)
  after : db' = { opened with ledger := db'.ledger }

theorem refundWithin_eq_ok {status : FoodAjoStatus} {x : FoodSubscription} {currency : String} :
    refundWithin ctx db userId programmeId status x currency = .ok db' ↔
      (x.amountPaidMinor ≤ 0 ∧ db' = db) ∨
      (0 < x.amountPaidMinor ∧ status = .open ∧
        ∃ wallet escrow opened posting,
          Repaid ctx db db' userId programmeId x currency wallet escrow opened posting) := by
  unfold refundWithin
  by_cases hpaid : x.amountPaidMinor ≤ 0
  · rw [if_pos hpaid, pure_eq_ok]
    constructor
    · rintro rfl
      exact .inl ⟨hpaid, rfl⟩
    · rintro (⟨-, rfl⟩ | ⟨hpos, -⟩)
      · rfl
      · omega
  · simp only [if_neg hpaid, bind_eq_ok, require_eq_ok, orThrow_eq_ok, pure_eq_ok, exists_const,
      Prod.exists, canRefundSubscription, decide_eq_true_eq]
    constructor
    · rintro ⟨hopen, wallet, hwallet, account, haccount, escrow, opened, hcredit, posting, ledger,
        hpost, rfl⟩
      refine .inr ⟨by omega, hopen, account, escrow, opened, posting, ?_, hcredit, hpost, rfl⟩
      rw [refundAccount, hwallet]
      exact haccount
    · rintro (⟨hle, -⟩ | ⟨-, hopen, account, escrow, opened, posting, h⟩)
      · exact absurd hle hpaid
      · obtain ⟨wallet, hwallet, haccount⟩ := Option.bind_eq_some_iff.mp h.account
        exact ⟨hopen, wallet, hwallet, account, haccount, escrow, opened, h.credit, posting, _,
          h.post, h.after.symm⟩

theorem mem_of_refundAccount {currency : String} {wallet : FinancialAccount}
    (h : refundAccount db userId currency = some wallet) :
    wallet ∈ db.ledger.accounts.rows ∧ wallet.purpose = some .walletAvailable := by
  obtain ⟨w, -, hfind⟩ := Option.bind_eq_some_iff.mp h
  have hprop := Table.prop_of_find? hfind
  rw [decide_eq_true_eq] at hprop
  exact ⟨Table.mem_of_find? hfind, hprop.2.1⟩

/-- What a refund leaves on the escrows and in the ledger. -/
theorem Repaid.effect {x : FoodSubscription} {currency : String} {wallet : FinancialAccount}
    {escrow : Uuid} {opened : Db} {posting : LedgerReference}
    (h : Repaid ctx db db' userId programmeId x currency wallet escrow opened posting) :
    db' = { db with ledger := db'.ledger } ∧
      ((∀ t ∈ db.ledger.transactions.rows, t.idempotencyKey ≠ refundKey x.id x.paidAt) → ∀ g,
        db'.ledger.codeBalance (escrowAccountCode g) =
          db.ledger.codeBalance (escrowAccountCode g) -
            if g = programmeId then x.amountPaidMinor else 0) ∧
      ∀ t ∈ db'.ledger.transactions.rows, t ∈ db.ledger.transactions.rows ∨
        t.idempotencyKey = refundKey x.id x.paidAt := by
  obtain ⟨hopenedDb, hopened, a, ha, rfl, hcode⟩ := escrowAccountWithin_opens h.credit
  obtain ⟨hwallet, hpurpose⟩ := mem_of_refundAccount h.account
  have hmem := hopened.accounts _ hwallet
  have hne : wallet.purpose ≠ some .foodProgrammeEscrow := by simp [hpurpose]
  have hids : wallet.id ≠ a.id :=
    id_ne_of_purpose hmem ha (by rw [purpose_of_escrowAccountCode hcode]; exact hne)
  refine ⟨by rw [h.after, hopenedDb], ?_, ?_⟩
  · intro hunused g
    cases (postWithin_eq_ok h.post).2 with
    | replayed existing hex hk _ _ =>
        rw [hopened.transactions] at hex
        exact absurd hk (hunused existing hex)
    | appended _ created _ =>
        have hothers : ∀ e ∈ (refundPosting userId programmeId x currency a.id wallet.id).entries,
            e.accountId = a.id ∨ ∃ b ∈ opened.ledger.accounts.rows, b.id = e.accountId ∧
              b.purpose ≠ some .foodProgrammeEscrow := by
          intro e he
          simp only [refundPosting, List.mem_cons, List.not_mem_nil, or_false] at he
          rcases he with rfl | rfl
          · exact .inl rfl
          · exact .inr ⟨wallet, hmem, rfl, hne⟩
        rw [family_escrow.codeBalance_posting created ha hcode hothers g, net_refundPosting hids,
          hopened.codeBalance, sub_eq_add_neg]
        split
        · rfl
        · rfl
  · intro t ht
    cases (postWithin_eq_ok h.post).2 with
    | replayed existing _ _ _ hsame =>
        rw [hsame, hopened.transactions] at ht
        exact .inl ht
    | appended _ created _ =>
        rw [(createTransaction_eq_ok created).2.2.2.2, hopened.transactions, List.mem_append,
          List.mem_singleton] at ht
        rcases ht with ht | rfl
        · exact .inl ht
        · exact .inr rfl

theorem cancelSubscription_withdraws {r : FoodSubscription}
    (h : cancelSubscription ctx db userId programmeId = .ok (r, db')) :
    ∃ e, Withdrawn db db' userId programmeId e := by
  simp only [cancelSubscription, bind_eq_ok, require_eq_ok, orThrow_eq_ok, pure_eq_ok, exists_const,
    Prod.mk.injEq] at h
  obtain ⟨x, hx, g, hg, p, hp, hlive, refunded, hrefund, subscriptions, hrows, -, rfl⟩ := h
  have hprop := Table.prop_of_find? hx
  rw [decide_eq_true_eq] at hprop
  have hstored : Enrolment.Stored db ⟨x, g, p⟩ :=
    ⟨Table.mem_of_find? hx, Table.mem_of_find? hg, by simpa using Table.prop_of_find? hg,
      Table.mem_of_find? hp, by simpa using Table.prop_of_find? hp⟩
  refine ⟨⟨x, g, p⟩, ?_⟩
  rcases refundWithin_eq_ok.mp hrefund with ⟨hnothing, rfl⟩ | ⟨hpos, hopen, _, _, _, _, hrefunded⟩
  · refine ⟨hx, hstored, hlive, fun hpos ↦ absurd hnothing (by simpa using hpos), rfl, rfl,
      updateRow_eq_ok hrows, ?_, fun t ht ↦ .inl ht, rfl, ⟨rfl, rfl, rfl⟩⟩
    rintro ⟨hnonneg, -⟩ g
    have hzero : x.amountPaidMinor = 0 := le_antisymm hnothing hnonneg
    simp [hzero]
  · obtain ⟨hdb, hescrow, hkeys⟩ := hrefunded.effect
    have hrows' := updateRow_eq_ok hrows
    rw [hdb] at hrows'
    refine ⟨hx, hstored, hlive, fun _ ↦ hopen, by rw [hdb], by rw [hdb], hrows', ?_, ?_,
      by rw [hdb], ⟨by rw [hdb], by rw [hdb], by rw [hdb]⟩⟩
    · rintro ⟨-, hunused⟩ g
      show refunded.ledger.codeBalance _ = _
      rw [hescrow (hunused hpos) g, hprop.1]
    · intro t ht
      exact (hkeys t ht).imp id fun hkey ↦ ⟨hpos, hkey⟩

theorem refundKey_ne_intentKey (id i : Uuid) (paidAt : Option Timestamp) (key : String) :
    refundKey id paidAt ≠ intentKey i key := by
  intro h
  unfold refundKey intentKey at h
  rw [String.append_assoc] at h
  exact append_ne_append 1 (by simp) (by simp) (by simp) _ _ h

/-! ## What a step does -/

/-- What a call did to the desk. -/
inductive Effect (s : Desk) (call : Call) (s' : Desk) : Prop
  | /-- Nothing that concerns the programmes. -/
    aside (payments : s'.payments = s.payments) (h : Aside s.db s'.db)
      (handOut : (∀ db, call ≠ .elsewhere db) → SameHandOut s.db s'.db)
  | /-- A programme was created. -/
    created (payments : s'.payments = s.payments) (g : FoodAjoGroup) (ps : List FoodPackage)
      (h : CreatedProgramme s.db s'.db g ps)
  | /-- A programme was moved to another status. -/
    moved (payments : s'.payments = s.payments) (ctx : Ctx) (userId : Uuid) (g : FoodAjoGroup)
      (status : FoodAjoStatus) (asked : call = .transitionProgramme ctx userId g.id status)
      (h : Moved ctx s.db s'.db g status)
  | /-- A package was edited. -/
    edited (payments : s'.payments = s.payments) (p : FoodPackage) (dto : UpdateFoodPackageDto)
      (h : Edited s.db s'.db p dto)
  | /-- A member enrolled. -/
    subscribed (payments : s'.payments = s.payments) (x : FoodSubscription)
      (may : MayEnrol s.db x) (h : Subscribed s.db s'.db x)
      (after : s'.db = { s.db with
        food := { s.db.food with subscriptions := s'.db.food.subscriptions } })
      (asked : ∃ ctx userId programmeId dto, call = .subscribe ctx userId programmeId dto ∧
        AsAsked userId programmeId dto x)
  | /-- A member paid. -/
    paid (now : Timestamp) (fresh : now ∉ s.payments) (payments : s'.payments = s.payments ++ [now])
      (e : Enrolment) (h : Paid now s.db s'.db e)
  | /-- A member withdrew. -/
    withdrawn (payments : s'.payments = s.payments) (ctx : Ctx) (userId programmeId : Uuid)
      (asked : call = .cancelSubscription ctx userId programmeId) (e : Enrolment)
      (h : Withdrawn s.db s'.db userId programmeId e)

theorem SameHandOut.refl (db : Db) : SameHandOut db db := ⟨rfl, rfl, rfl⟩

theorem aside_of_create {dto : CreateIntentDto} {key : String} {r : PaymentIntent}
    (h : create ctx db foodSubscriptionTarget userId dto key = .ok (r, db')) :
    Aside db db' ∧ SameHandOut db db' := by
  obtain ⟨xs, hrows, hdb'⟩ := (create_eq_ok h).append
  rw [hdb']
  exact ⟨⟨rfl, rfl, rfl, fun _ ↦ rfl, fun t ht _ _ hkey ↦ ⟨t, ht, hkey⟩,
    fun hposted ↦ hposted.append rfl hrows⟩, ⟨rfl, rfl, rfl⟩⟩

theorem Effect.refl (s : Desk) (call : Call) : Effect s call s :=
  .aside rfl (.refl s.db) fun _ ↦ .refl s.db

theorem pay_effect {s : Desk} {intentId : Uuid} {key : String} (hposted : IntentsPosted s.db)
    (hk : Admitted s (.pay ctx userId intentId key)) :
    Effect s (.pay ctx userId intentId key) (step s (.pay ctx userId intentId key)) := by
  by_cases hsettles : settles ctx s.db userId intentId key = true
  · have hfresh := hk hsettles
    have hpayments : (step s (.pay ctx userId intentId key)).payments = s.payments ++ [ctx.now] :=
      if_pos hsettles
    unfold settles at hsettles
    cases hfind : s.db.paymentIntents.find? fun i ↦ i.id = intentId with
    | none => simp [hfind] at hsettles
    | some intent =>
        simp only [hfind, Bool.and_eq_true, decide_eq_true_eq] at hsettles
        obtain ⟨⟨htype, hst⟩, hok⟩ := hsettles
        obtain ⟨⟨r, db'⟩, hsettled⟩ := exists_eq_ok_iff.mpr hok
        have hdb' : (step s (.pay ctx userId intentId key)).db = db' := by
          simp only [step, payIntent, hfind, htype, if_true, hsettled, committed_ok]
        obtain ⟨i, hi, hid, -, hcase⟩ := settleFromWallet_eq_ok hsettled
        have hintent : intent.id = intentId := by simpa using Table.prop_of_find? hfind
        obtain rfl : i = intent := s.db.paymentIntents.eq_of_clash hi (Table.mem_of_find? hfind)
          (.inl (.inl (.inl (hid.trans hintent.symm))))
        rcases hcase with ⟨hpast, -⟩ | ⟨-, _, _, _, _, _, _, _, hwallet⟩
        · exact absurd hst hpast
        · obtain ⟨e, he⟩ := paid_of_walletSettled hposted hi hst hwallet
          exact .paid ctx.now hfresh hpayments e (hdb' ▸ he)
  · have hpayments : (step s (.pay ctx userId intentId key)).payments = s.payments :=
      if_neg hsettles
    have hdb : (step s (.pay ctx userId intentId key)).db = s.db := by
      show payIntent ctx s.db userId intentId key = s.db
      unfold payIntent
      unfold settles at hsettles
      cases hfind : s.db.paymentIntents.find? fun i ↦ i.id = intentId with
      | none => rfl
      | some intent =>
          simp only [hfind, Bool.and_eq_true, decide_eq_true_eq] at hsettles
          show (if intent.targetType = .foodSubscription then _ else s.db) = s.db
          split
          · next htype =>
              cases hsettled : settleFromWallet ctx s.db foodSubscriptionTarget userId intentId key with
              | error e => rfl
              | ok r =>
                  obtain ⟨i, hi, hid, -, ⟨-, hsame⟩ | ⟨hst, -⟩⟩ := settleFromWallet_eq_ok hsettled
                  · exact hsame
                  · have hintent : intent.id = intentId := by simpa using Table.prop_of_find? hfind
                    obtain rfl : i = intent := s.db.paymentIntents.eq_of_clash hi
                      (Table.mem_of_find? hfind) (.inl (.inl (.inl (hid.trans hintent.symm))))
                    rw [hsettled] at hsettles
                    exact absurd ⟨⟨htype, hst⟩, rfl⟩ hsettles
          · rfl
    exact .aside hpayments (hdb ▸ .refl _) fun _ ↦ hdb ▸ .refl _

/-- Every admitted call does one of these things. -/
theorem step_effect {s : Desk} (hposted : IntentsPosted s.db) {call : Call}
    (hk : Admitted s call) : Effect s call (step s call) := by
  cases call with
  | createProgramme ctx approved userId dto =>
      rcases committed_cases s.db (createProgramme ctx s.db approved userId dto) with
        hsame | ⟨g, db', hok, hdb'⟩
      · rw [step, hsame]
        exact .refl s _
      · obtain ⟨ps, h⟩ := createProgramme_eq_ok hok
        rw [step, hdb']
        exact .created rfl g ps h
  | transitionProgramme ctx userId programmeId status =>
      rcases committed_cases s.db (transitionProgramme ctx s.db userId programmeId status) with
        hsame | ⟨g, db', hok, hdb'⟩
      · rw [step, hsame]
        exact .refl s _
      · obtain ⟨g, rfl, h⟩ := transitionProgramme_eq_ok hok
        rw [step, hdb']
        exact .moved rfl ctx userId g status rfl h
  | updatePackage userId programmeId packageId dto =>
      rcases committed_cases s.db (updatePackage s.db userId programmeId packageId dto) with
        hsame | ⟨p, db', hok, hdb'⟩
      · rw [step, hsame]
        exact .refl s _
      · obtain ⟨p, h⟩ := updatePackage_eq_ok hok
        rw [step, hdb']
        exact .edited rfl p dto h
  | subscribe ctx userId programmeId dto =>
      rcases committed_cases s.db (subscribe ctx s.db userId programmeId dto) with
        hsame | ⟨x, db', hok, hdb'⟩
      · rw [step, hsame]
        exact .refl s _
      · obtain ⟨may, h, after, asked⟩ := subscribe_eq_ok hok
        rw [step, hdb']
        exact .subscribed rfl x may h after ⟨ctx, userId, programmeId, dto, rfl, asked⟩
  | createIntent ctx userId dto key =>
      rcases committed_cases s.db (create ctx s.db foodSubscriptionTarget userId dto key) with
        hsame | ⟨i, db', hok, hdb'⟩
      · rw [step, hsame]
        exact .refl s _
      · rw [step, hdb']
        exact .aside rfl (aside_of_create hok).1 fun _ ↦ (aside_of_create hok).2
  | pay ctx userId intentId key => exact pay_effect hposted hk
  | cancelSubscription ctx userId programmeId =>
      rcases committed_cases s.db (cancelSubscription ctx s.db userId programmeId) with
        hsame | ⟨x, db', hok, hdb'⟩
      · rw [step, hsame]
        exact .refl s _
      · obtain ⟨e, h⟩ := cancelSubscription_withdraws hok
        rw [step, hdb']
        exact .withdrawn rfl ctx userId programmeId rfl e h
  | elsewhere db => exact .aside rfl hk fun hcall ↦ absurd rfl (hcall db)

/-- The calls of the programmes leave the hand-outs alone. -/
theorem Effect.handOut {s s' : Desk} {call : Call} (h : Effect s call s')
    (hcall : ∀ db, call ≠ .elsewhere db) : SameHandOut s.db s'.db := by
  cases h with
  | aside _ _ handOut => exact handOut hcall
  | created _ g ps h => exact ⟨by rw [h.after], by rw [h.after], by rw [h.after]⟩
  | moved _ _ _ g status _ h => exact ⟨by rw [h.after], by rw [h.after], by rw [h.after]⟩
  | edited _ p dto h => exact ⟨by rw [h.after], by rw [h.after], by rw [h.after]⟩
  | subscribed _ x _ _ after => exact ⟨by rw [after], by rw [after], by rw [after]⟩
  | paid _ _ _ e h => exact h.handOut
  | withdrawn _ _ _ _ _ e h => exact h.handOut

end AjoCloud.Food
