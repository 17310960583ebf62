import AjoCloud.Ajo.Paths
import AjoCloud.Lib.Frame
import AjoCloud.Platform.Effects

/-!
# What others settle

A settlement looks at its own intent, at the payer's wallet and accounts, and at the rows of its target.
`Beside own db db'` says of two databases that they differ in nothing that the settlement `own` looks
at, the reference of its posting included.
-/

namespace AjoCloud.Platform

open Lib Ledger Payments

/-! ## Settlements -/

/-- How an intent is settled: confirmed from the wallet under the client's key, or as a deposit. -/
inductive Way where
  | wallet (idempotencyKey : String)
  | deposit

/-- A settlement of an intent, with the clock and the identifiers it is made under. -/
structure Settlement where
  intent : PaymentIntent
  ctx : Ctx
  way : Way

namespace Settlement

/-- Whoever pays. -/
def userId (own : Settlement) : Uuid := own.intent.userId

/-- The key of the posting. -/
def ledgerKey (own : Settlement) : String :=
  match own.way with
  | .wallet key => intentKey own.intent.id key
  | .deposit => depositKey own.intent.id

/-- The reference of the posting. -/
def reference (own : Settlement) : String :=
  match own.way with
  | .wallet _ => "PAY-" ++ own.intent.id.shortCode
  | .deposit => "DEP-" ++ own.intent.id.shortCode

/-- The identifier is drawn for the settlement. -/
def Drawn (own : Settlement) (id : Uuid) : Prop := ∃ k, own.ctx.uuid k = id

/-- The identifier is that of the settlement's transaction, posted already or not. -/
def Mine (own : Settlement) (ledger : Ledger) (id : Uuid) : Prop :=
  own.Drawn id ∨ ∃ t ∈ ledger.transactions.rows, t.id = id ∧ t.idempotencyKey = own.ledgerKey

/-- The settlement goes through. -/
def Succeeds (own : Settlement) (config : Bills.BillConfig) (db : Db) : Prop :=
  match own.way with
  | .wallet key => ∃ r, settleFromWallet own.ctx db (targets config own.intent.targetType) own.userId
      own.intent.id key = .ok r
  | .deposit => ∃ r, settleDeposit own.ctx db own.intent.id = .ok r

end Settlement

/-! ## Rows of others -/

/-- An intent under the same terms, which is the same if it is the payer's; none begins or ceases to name
the settlement's transaction. -/
structure KeepsIntent (own : Settlement) (mine : Uuid → Prop) (i i' : PaymentIntent) : Prop where
  id_eq : i'.id = i.id
  userId_eq : i'.userId = i.userId
  walletId_eq : i'.walletId = i.walletId
  key_eq : i'.idempotencyKey = i.idempotencyKey
  providerReference_eq : i'.providerReference = i.providerReference
  same : i.userId = own.userId → i' = i
  pointing : ∀ id, mine id → (i'.ledgerTransactionId = some id ↔ i.ledgerTransactionId = some id)

/-- What is written on an intent names the transaction and leaves its terms alone. -/
structure MarksPosted (mark : PaymentIntent → PaymentIntent) (id : Uuid) : Prop where
  id_eq : ∀ i, (mark i).id = i.id
  userId_eq : ∀ i, (mark i).userId = i.userId
  walletId_eq : ∀ i, (mark i).walletId = i.walletId
  key_eq : ∀ i, (mark i).idempotencyKey = i.idempotencyKey
  providerReference_eq : ∀ i, (mark i).providerReference = i.providerReference
  posted : ∀ i, (mark i).ledgerTransactionId = some id

theorem marksPosted_markSettled (ctx : Ctx) (handler : PaymentTarget) (posting : LedgerReference) :
    MarksPosted (markSettled ctx handler posting) posting.id where
  id_eq _ := rfl
  userId_eq _ := rfl
  walletId_eq _ := rfl
  key_eq _ := rfl
  providerReference_eq _ := rfl
  posted _ := rfl

theorem marksPosted_markDeposited (ctx : Ctx) (posting : LedgerReference) :
    MarksPosted (markDeposited ctx posting) posting.id where
  id_eq _ := rfl
  userId_eq _ := rfl
  walletId_eq _ := rfl
  key_eq _ := rfl
  providerReference_eq _ := rfl
  posted _ := rfl

/-- A due of the same member. -/
structure KeepsDue (own : Settlement) (mine : Uuid → Prop) (members : Table AkawoPoolMember)
    (d d' : AkawoPoolDue) : Prop where
  id_eq : d'.id = d.id
  poolId_eq : d'.poolId = d.poolId
  memberId_eq : d'.memberId = d.memberId
  same : ∀ m, members.find? (fun m ↦ m.id = d.memberId) = some m → m.userId = own.userId → d' = d
  pending : d'.status = .pending → d' = d
  pointing : ∀ id, mine id → (d'.ledgerTransactionId = some id ↔ d.ledgerTransactionId = some id)

/-- A contribution for the same round and slot. -/
structure KeepsSchedule (own : Settlement) (slots : Table AjoSlot) (members : Table AjoGroupMember)
    (s s' : ContributionSchedule) : Prop where
  id_eq : s'.id = s.id
  groupId_eq : s'.groupId = s.groupId
  cycleId_eq : s'.cycleId = s.cycleId
  slotId_eq : s'.slotId = s.slotId
  same : ∀ slot member, slots.find? (fun x ↦ x.id = s.slotId) = some slot →
    members.find? (fun m ↦ m.groupId = s.groupId ∧ m.userId = own.userId) = some member →
    slot.memberId = member.id → s' = s

/-- A subscription of the same user. -/
structure KeepsSubscription (own : Settlement) (s s' : FoodSubscription) : Prop where
  id_eq : s'.id = s.id
  groupId_eq : s'.groupId = s.groupId
  packageId_eq : s'.packageId = s.packageId
  userId_eq : s'.userId = s.userId
  same : s.userId = own.userId → s' = s

/-- A contribution that was paid by another intent. -/
structure OtherContribution (own : Settlement) (c : Contribution) : Prop where
  undrawn : ¬ own.Drawn c.id
  key : ∀ scheduleId, c.idempotencyKey ≠
    Ajo.contributionIdempotencyKey scheduleId ("intent:" ++ own.intent.id.toString)

/-- A bill of somebody else. -/
structure OtherBill (own : Settlement) (b : BillPayment) : Prop where
  undrawn : ¬ own.Drawn b.id
  reference : b.internalReference ≠ "BILL-" ++ (own.ctx.uuid 3).toString
  userId : b.userId ≠ own.userId

/-- An attempt at a bill of somebody else. -/
structure OtherAttempt (own : Settlement) (a : BillPaymentAttempt) : Prop where
  undrawn : ¬ own.Drawn a.id
  bill : ¬ own.Drawn a.billPaymentId

/-- The rows apart from the ledger's differ in nothing that the settlement looks at. -/
structure RowsBeside (own : Settlement) (mine : Uuid → Prop) (db db' : Db) : Prop where
  after : db' = { db with
    ledger := db'.ledger
    paymentIntents := db'.paymentIntents
    contributions := db'.contributions
    contributionSchedules := db'.contributionSchedules
    feeAssessments := db'.feeAssessments
    akawo := { db.akawo with dues := db'.akawo.dues }
    food := { db.food with subscriptions := db'.food.subscriptions }
    bills := { db.bills with payments := db'.bills.payments, attempts := db'.bills.attempts } }
  intents : Table.Redone (KeepsIntent own mine) db.paymentIntents db'.paymentIntents
  dues : Table.Redone (KeepsDue own mine db.akawo.members) db.akawo.dues db'.akawo.dues
  schedules : Table.Redone (KeepsSchedule own db.ajoSlots db.ajoGroupMembers)
    db.contributionSchedules db'.contributionSchedules
  subscriptions : Table.Redone (KeepsSubscription own) db.food.subscriptions db'.food.subscriptions
  contributions : Table.Grown (OtherContribution own) db.contributions db'.contributions
  bills : Table.Grown (OtherBill own) db.bills.payments db'.bills.payments
  attempts : Table.Grown (OtherAttempt own) db.bills.attempts db'.bills.attempts
  assessments : Table.Grown (fun a ↦ ¬ own.Drawn a.id) db.feeAssessments db'.feeAssessments

/-! ## The ledger -/

/-- An account that a target had opened. -/
structure OpenedOnUse (own : Settlement) (a : FinancialAccount) : Prop where
  undrawn : ¬ own.Drawn a.id
  walletId : a.walletId = none
  active : a.isActive = true
  purpose : a.purpose = some .ajoGroupPool ∨ a.purpose = some .foodProgrammeEscrow

/-- A transaction that is not the settlement's, has another reference and leaves the wallet alone. -/
structure OtherTransaction (own : Settlement) (ledger : Ledger) (t : LedgerTransaction) : Prop where
  undrawn : ¬ own.Drawn t.id
  key : t.idempotencyKey ≠ own.ledgerKey
  reference : t.reference ≠ own.reference
  spares : ∀ a ∈ ledger.accounts.rows, a.walletId = own.intent.walletId →
    a.purpose = some .walletAvailable → t.net a.id = 0

/-- The ledger differs in nothing that the settlement looks at. -/
structure LedgerBeside (own : Settlement) (ledger ledger' : Ledger) : Prop where
  accounts : Table.Grown (OpenedOnUse own) ledger.accounts ledger'.accounts
  transactions : Table.Grown (OtherTransaction own ledger) ledger.transactions ledger'.transactions

/-- The databases differ in nothing that the settlement looks at. -/
structure Beside (own : Settlement) (db db' : Db) : Prop where
  rows : RowsBeside own (own.Mine db.ledger) db db'
  ledger : LedgerBeside own db.ledger db'.ledger

variable {own : Settlement} {mine mine' : Uuid → Prop} {db db' db'' : Db}
  {ledger ledger' ledger'' : Ledger}

theorem KeepsIntent.refl (i : PaymentIntent) : KeepsIntent own mine i i :=
  ⟨rfl, rfl, rfl, rfl, rfl, fun _ ↦ rfl, fun _ _ ↦ Iff.rfl⟩

theorem KeepsIntent.trans {i i' i'' : PaymentIntent} (h : KeepsIntent own mine i i')
    (h' : KeepsIntent own mine i' i'') : KeepsIntent own mine i i'' where
  id_eq := h'.id_eq.trans h.id_eq
  userId_eq := h'.userId_eq.trans h.userId_eq
  walletId_eq := h'.walletId_eq.trans h.walletId_eq
  key_eq := h'.key_eq.trans h.key_eq
  providerReference_eq := h'.providerReference_eq.trans h.providerReference_eq
  same huser := (h'.same (h.userId_eq.trans huser)).trans (h.same huser)
  pointing id hid := (h'.pointing id hid).trans (h.pointing id hid)

theorem KeepsDue.refl (members : Table AkawoPoolMember) (d : AkawoPoolDue) :
    KeepsDue own mine members d d :=
  ⟨rfl, rfl, rfl, fun _ _ _ ↦ rfl, fun _ ↦ rfl, fun _ _ ↦ Iff.rfl⟩

theorem KeepsDue.trans {members : Table AkawoPoolMember} {d d' d'' : AkawoPoolDue}
    (h : KeepsDue own mine members d d') (h' : KeepsDue own mine members d' d'') :
    KeepsDue own mine members d d'' where
  id_eq := h'.id_eq.trans h.id_eq
  poolId_eq := h'.poolId_eq.trans h.poolId_eq
  memberId_eq := h'.memberId_eq.trans h.memberId_eq
  same m hm huser := (h'.same m (h.memberId_eq ▸ hm) huser).trans (h.same m hm huser)
  pending hpending := by
    have heq := h'.pending hpending
    exact heq.trans (h.pending (heq ▸ hpending))
  pointing id hid := (h'.pointing id hid).trans (h.pointing id hid)

theorem KeepsSchedule.refl (slots : Table AjoSlot) (members : Table AjoGroupMember)
    (s : ContributionSchedule) : KeepsSchedule own slots members s s :=
  ⟨rfl, rfl, rfl, rfl, fun _ _ _ _ _ ↦ rfl⟩

theorem KeepsSchedule.trans {slots : Table AjoSlot} {members : Table AjoGroupMember}
    {s s' s'' : ContributionSchedule} (h : KeepsSchedule own slots members s s')
    (h' : KeepsSchedule own slots members s' s'') : KeepsSchedule own slots members s s'' where
  id_eq := h'.id_eq.trans h.id_eq
  groupId_eq := h'.groupId_eq.trans h.groupId_eq
  cycleId_eq := h'.cycleId_eq.trans h.cycleId_eq
  slotId_eq := h'.slotId_eq.trans h.slotId_eq
  same := by
    intro slot member hslot hmember heq
    have hs := h.same slot member hslot hmember heq
    exact (h'.same slot member (h.slotId_eq ▸ hslot) (h.groupId_eq ▸ hmember) heq).trans hs

theorem KeepsSubscription.refl (s : FoodSubscription) : KeepsSubscription own s s :=
  ⟨rfl, rfl, rfl, rfl, fun _ ↦ rfl⟩

theorem KeepsSubscription.trans {s s' s'' : FoodSubscription} (h : KeepsSubscription own s s')
    (h' : KeepsSubscription own s' s'') : KeepsSubscription own s s'' where
  id_eq := h'.id_eq.trans h.id_eq
  groupId_eq := h'.groupId_eq.trans h.groupId_eq
  packageId_eq := h'.packageId_eq.trans h.packageId_eq
  userId_eq := h'.userId_eq.trans h.userId_eq
  same huser := (h'.same (h.userId_eq.trans huser)).trans (h.same huser)

theorem RowsBeside.refl (own : Settlement) (mine : Uuid → Prop) (db : Db) :
    RowsBeside own mine db db where
  after := rfl
  intents := .refl .refl _
  dues := .refl (.refl _) _
  schedules := .refl (.refl _ _) _
  subscriptions := .refl .refl _
  contributions := .refl _
  bills := .refl _
  attempts := .refl _
  assessments := .refl _

/-- Another ledger makes no difference to the other rows. -/
theorem RowsBeside.withLedger (h : RowsBeside own mine db db') (ledger ledger' : Ledger) :
    RowsBeside own mine { db with ledger := ledger } { db' with ledger := ledger' } where
  after := congrArg (fun db ↦ { db with ledger := ledger' }) h.after
  intents := h.intents
  dues := h.dues
  schedules := h.schedules
  subscriptions := h.subscriptions
  contributions := h.contributions
  bills := h.bills
  attempts := h.attempts
  assessments := h.assessments

theorem RowsBeside.mono (h : RowsBeside own mine db db') (hmine : ∀ id, mine' id → mine id) :
    RowsBeside own mine' db db' where
  after := h.after
  intents := h.intents.mono fun _ _ _ hk ↦
    { hk with pointing := fun id hid ↦ hk.pointing id (hmine id hid) }
  dues := h.dues.mono fun _ _ _ hk ↦
    { hk with pointing := fun id hid ↦ hk.pointing id (hmine id hid) }
  schedules := h.schedules
  subscriptions := h.subscriptions
  contributions := h.contributions
  bills := h.bills
  attempts := h.attempts
  assessments := h.assessments

theorem RowsBeside.trans (h : RowsBeside own mine db db') (h' : RowsBeside own mine db' db'') :
    RowsBeside own mine db db'' := by
  have hmembers : db'.akawo.members = db.akawo.members := by rw [h.after]
  have hslots : db'.ajoSlots = db.ajoSlots := by rw [h.after]
  have hgroup : db'.ajoGroupMembers = db.ajoGroupMembers := by rw [h.after]
  have hdues := h'.dues
  have hschedules := h'.schedules
  rw [hmembers] at hdues
  rw [hslots, hgroup] at hschedules
  exact
    { after := by
        rw [h'.after, h.after]
      intents := h.intents.trans (fun _ _ _ ↦ .trans) h'.intents
      dues := h.dues.trans (fun _ _ _ ↦ .trans) hdues
      schedules := h.schedules.trans (fun _ _ _ ↦ .trans) hschedules
      subscriptions := h.subscriptions.trans (fun _ _ _ ↦ .trans) h'.subscriptions
      contributions := h.contributions.trans h'.contributions
      bills := h.bills.trans h'.bills
      attempts := h.attempts.trans h'.attempts
      assessments := h.assessments.trans h'.assessments }

theorem LedgerBeside.refl (own : Settlement) (ledger : Ledger) : LedgerBeside own ledger ledger :=
  ⟨.refl _, .refl _⟩

theorem LedgerBeside.trans (h : LedgerBeside own ledger ledger') (h' : LedgerBeside own ledger' ledger'') :
    LedgerBeside own ledger ledger'' where
  accounts := h.accounts.trans h'.accounts
  transactions := h.transactions.trans (h'.transactions.mono fun _ ht ↦
    { ht with spares := fun a ha ↦ ht.spares a (h.accounts.mem ha) })

/-- What is the settlement's stays its. -/
theorem LedgerBeside.mine_mono (h : LedgerBeside own ledger ledger') {id : Uuid} (hid : own.Mine ledger id) :
    own.Mine ledger' id :=
  hid.imp_right fun ⟨t, ht, hkey⟩ ↦ ⟨t, h.transactions.mem ht, hkey⟩

theorem Beside.refl (own : Settlement) (db : Db) : Beside own db db := ⟨.refl _ _ _, .refl _ _⟩

theorem Beside.trans (h : Beside own db db') (h' : Beside own db' db'') : Beside own db db'' :=
  ⟨h.rows.trans (h'.rows.mono fun _ ↦ h.ledger.mine_mono), h.ledger.trans h'.ledger⟩

/-! ## What a target costs -/

section Rows

variable {targetId : Option Uuid} {requested : Option Int} {target : ResolvedTarget}

/-- A due is paid by its member. -/
theorem member_of_resolveDue {userId : Uuid} (h : resolveDue db userId targetId = .ok target) :
    ∃ id d m, targetId = some id ∧ db.akawo.dues.find? (fun d ↦ d.id = id) = some d ∧
      db.akawo.members.find? (fun m ↦ m.id = d.memberId) = some m ∧ m.userId = userId ∧
      d.status = .pending := by
  simp only [resolveDue, bind_eq_ok, orThrow_eq_ok, require_eq_ok, exists_const, pure_eq_ok] at h
  obtain ⟨id, hid, d, hd, pool, -, m, hm, huser, hpending, -⟩ := h
  exact ⟨id, d, m, hid, hd, hm, huser, hpending⟩

theorem resolveDue_beside (h : RowsBeside own mine db db') :
    resolveDue db' own.userId targetId = .ok target ↔
      resolveDue db own.userId targetId = .ok target := by
  have hpools : db'.akawo.pools = db.akawo.pools := by rw [h.after]
  have hmembers : db'.akawo.members = db.akawo.members := by rw [h.after]
  have hkyc : ∀ u, Kyc.assertOrganiserVerified db' u = Kyc.assertOrganiserVerified db u := by
    intro u
    rw [h.after]
    rfl
  cases targetId with
  | none => exact Iff.rfl
  | some id =>
      have hfind := h.dues.find?_cases (p := fun d ↦ d.id = id) fun d d' hk ↦ by rw [hk.id_eq]
      rcases hfind with ⟨hnone, hnone'⟩ | ⟨d, d', -, hk, hd, hd'⟩
      · simp only [resolveDue, bind_eq_ok, orThrow_eq_ok, Option.some.injEq, exists_eq_left', hnone,
          hnone', reduceCtorEq, false_and, exists_false]
      · by_cases hsame : d' = d
        · rw [hsame] at hd'
          simp only [resolveDue, bind_eq_ok, orThrow_eq_ok, Option.some.injEq, exists_eq_left', hd,
            hd', hpools, hmembers, hkyc]
        · refine iff_of_false (fun hok ↦ hsame ?_) fun hok ↦ hsame ?_
          · obtain ⟨_, e, m, hid, he, hm, huser, -⟩ := member_of_resolveDue hok
            cases hid
            cases hd'.symm.trans he
            rw [hmembers, hk.memberId_eq] at hm
            exact hk.same m hm huser
          · obtain ⟨_, e, m, hid, he, hm, huser, -⟩ := member_of_resolveDue hok
            cases hid
            cases hd.symm.trans he
            exact hk.same m hm huser

/-- A contribution is owed by the member whose slot it is for. -/
theorem member_of_owed {userId : Uuid} {o : Ajo.Owed} (h : Ajo.owed db userId targetId = .ok o) :
    ∃ id slot member, targetId = some id ∧
      db.contributionSchedules.find? (fun s ↦ s.id = id) = some o.schedule ∧
      db.ajoSlots.find? (fun x ↦ x.id = o.schedule.slotId) = some slot ∧
      db.ajoGroupMembers.find? (fun m ↦ m.groupId = o.schedule.groupId ∧ m.userId = userId) =
        some member ∧ slot.memberId = member.id := by
  simp only [Ajo.owed, bind_eq_ok, orThrow_eq_ok, require_eq_ok, exists_const, pure_eq_ok] at h
  obtain ⟨id, hid, s, hs, slot, hslot, _, -, _, -, member, hmember, ⟨-, hheld⟩, rfl⟩ := h
  exact ⟨id, slot, member, hid, hs, hslot, hmember, hheld⟩

theorem owed_beside (h : RowsBeside own mine db db') {o : Ajo.Owed} :
    Ajo.owed db' own.userId targetId = .ok o ↔ Ajo.owed db own.userId targetId = .ok o := by
  have hslots : db'.ajoSlots = db.ajoSlots := by rw [h.after]
  have hgroups : db'.ajoGroups = db.ajoGroups := by rw [h.after]
  have hcycles : db'.ajoCycles = db.ajoCycles := by rw [h.after]
  have hmembers : db'.ajoGroupMembers = db.ajoGroupMembers := by rw [h.after]
  cases targetId with
  | none => exact Iff.rfl
  | some id =>
      have hfind := h.schedules.find?_cases (p := fun s ↦ s.id = id) fun s s' hk ↦ by rw [hk.id_eq]
      rcases hfind with ⟨hnone, hnone'⟩ | ⟨s, s', -, hk, hs, hs'⟩
      · simp only [Ajo.owed, bind_eq_ok, orThrow_eq_ok, Option.some.injEq, exists_eq_left', hnone,
          hnone', reduceCtorEq, false_and, exists_false]
      · by_cases hsame : s' = s
        · rw [hsame] at hs'
          simp only [Ajo.owed, bind_eq_ok, orThrow_eq_ok, Option.some.injEq, exists_eq_left', hs,
            hs', hslots, hgroups, hcycles, hmembers]
        · refine iff_of_false (fun hok ↦ hsame ?_) fun hok ↦ hsame ?_
          · obtain ⟨_, slot, member, hid, he, hslot, hmember, hheld⟩ := member_of_owed hok
            cases hid
            rw [hs', Option.some.injEq] at he
            rw [← he, hslots, hk.slotId_eq] at hslot
            rw [← he, hmembers, hk.groupId_eq] at hmember
            exact hk.same slot member hslot hmember hheld
          · obtain ⟨_, slot, member, hid, he, hslot, hmember, hheld⟩ := member_of_owed hok
            cases hid
            rw [hs, Option.some.injEq] at he
            rw [← he] at hslot hmember
            exact hk.same slot member hslot hmember hheld

/-- A subscription is its user's. -/
theorem user_of_owned {userId : Uuid} {e : Food.Enrolment}
    (h : Food.owned db userId targetId = .ok e) :
    ∃ id, targetId = some id ∧
      db.food.subscriptions.find? (fun s ↦ s.id = id) = some e.subscription ∧
      e.subscription.userId = userId := by
  simp only [Food.owned, bind_eq_ok, orThrow_eq_ok, require_eq_ok, exists_const, pure_eq_ok] at h
  obtain ⟨id, hid, s, hs, _, -, _, -, huser, rfl⟩ := h
  exact ⟨id, hid, hs, huser⟩

theorem owned_beside (h : RowsBeside own mine db db') {e : Food.Enrolment} :
    Food.owned db' own.userId targetId = .ok e ↔ Food.owned db own.userId targetId = .ok e := by
  have hgroups : db'.food.groups = db.food.groups := by rw [h.after]
  have hpackages : db'.food.packages = db.food.packages := by rw [h.after]
  cases targetId with
  | none => exact Iff.rfl
  | some id =>
      have hfind := h.subscriptions.find?_cases (p := fun s ↦ s.id = id) fun s s' hk ↦ by rw [hk.id_eq]
      rcases hfind with ⟨hnone, hnone'⟩ | ⟨s, s', -, hk, hs, hs'⟩
      · simp only [Food.owned, bind_eq_ok, orThrow_eq_ok, Option.some.injEq, exists_eq_left', hnone,
          hnone', reduceCtorEq, false_and, exists_false]
      · by_cases hsame : s' = s
        · rw [hsame] at hs'
          simp only [Food.owned, bind_eq_ok, orThrow_eq_ok, Option.some.injEq, exists_eq_left', hs,
            hs', hgroups, hpackages]
        · refine iff_of_false (fun hok ↦ hsame ?_) fun hok ↦ hsame ?_
          · obtain ⟨_, hid, he, huser⟩ := user_of_owned hok
            cases hid
            rw [hs', Option.some.injEq] at he
            exact hk.same (hk.userId_eq.symm.trans (he ▸ huser))
          · obtain ⟨_, hid, he, huser⟩ := user_of_owned hok
            cases hid
            rw [hs, Option.some.injEq] at he
            exact hk.same (he ▸ huser)

/-- What a target costs does not depend on the ledger. -/
theorem resolve_withLedger (config : Bills.BillConfig) (type : PaymentTargetType) (ctx : Ctx) (db : Db)
    (ledger : Ledger) (userId : Uuid) (targetId : Option Uuid) (requested : Option Int) :
    (targets config type).resolve ctx { db with ledger := ledger } userId targetId requested =
      (targets config type).resolve ctx db userId targetId requested := by
  cases type with
  | akawoPoolDue => rfl
  | ajoContribution => rfl
  | foodSubscription => rfl
  | walletTopup => rfl
  | billPayment => rfl

/-- Every target costs what it cost. -/
theorem resolve_beside (h : RowsBeside own mine db db') (config : Bills.BillConfig)
    (type : PaymentTargetType) (ctx : Ctx) :
    (targets config type).resolve ctx db' own.userId targetId requested = .ok target ↔
      (targets config type).resolve ctx db own.userId targetId requested = .ok target := by
  cases type with
  | akawoPoolDue => exact resolveDue_beside h
  | ajoContribution =>
      change Ajo.resolveContribution db' _ _ _ = _ ↔ Ajo.resolveContribution db _ _ _ = _
      simp only [Ajo.resolveContribution, bind_eq_ok, owed_beside h]
  | foodSubscription =>
      change Food.resolveSubscription db' _ _ = _ ↔ Food.resolveSubscription db _ _ = _
      simp only [Food.resolveSubscription, bind_eq_ok, owned_beside h]
  | walletTopup =>
      have hwallets : db'.wallets = db.wallets := by rw [h.after]
      change resolveTopUp db' _ _ = _ ↔ resolveTopUp db _ _ = _
      rw [resolveTopUp, resolveTopUp, hwallets]
  | billPayment =>
      change Bills.quoteForIntent config ctx db' _ _ _ = _ ↔ Bills.quoteForIntent config ctx db _ _ _ = _
      rw [h.after]
      rfl

end Rows

end AjoCloud.Platform
