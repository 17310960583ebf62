import AjoCloud.Akawo.Pools
import AjoCloud.Ledger.Holdings
import AjoCloud.Lib.Threads
import AjoCloud.Payments.Inversion
import AjoCloud.Payments.Targets
import Mathlib

/-!
# The pools at work

The requests to the pools and the payments of dues, as threads over the database: joining and editing
take two steps, every other request one.  For each step, what it did to pools, members and dues.
-/

namespace AjoCloud.Akawo

open Lib ServiceError Ledger Payments

variable {codec : JoinCodec} {ctx : Ctx} {db db' : Db}

/-! ## The system -/

/-- A request, as far as it has got. -/
inductive Request where
  | create (randomBytes : List UInt8) (shortCode : String) (organiserUserId : Uuid)
      (dto : CreateAkawoPoolDto)
  | join (userId : Uuid) (dto : JoinAkawoPoolDto)
  /-- A join that has read the pool of its code. -/
  | joining (userId : Uuid) (dto : JoinAkawoPoolDto) (pool : AkawoPool)
  | update (organiserUserId poolId : Uuid) (dto : UpdateAkawoPoolDto)
  /-- An edit that has found the pool not closed. -/
  | updating (poolId : Uuid) (dto : UpdateAkawoPoolDto)
  | open (organiserUserId poolId : Uuid)
  | close (organiserUserId poolId : Uuid)
  | cancel (organiserUserId poolId : Uuid)
  | removeMember (organiserUserId poolId memberId : Uuid)
  | waiveDue (organiserUserId poolId memberId : Uuid) (reason : String)
  | createIntent (userId : Uuid) (dto : CreateIntentDto) (idempotencyKey : String)
  | confirm (userId intentId : Uuid) (idempotencyKey : String)
  /-- The rest of the platform leaves the database as it is given here. -/
  | elsewhere (db : Db)

/-- The database a payment leaves; intents for other products are not this module's. -/
def confirmIntent (ctx : Ctx) (db : Db) (userId intentId : Uuid) (key : String) : Db :=
  match db.paymentIntents.find? fun i ↦ i.id = intentId with
  | some intent =>
      if intent.targetType = .akawoPoolDue then
        committed db (settleFromWallet ctx db akawoPoolDueTarget userId intentId key)
      else db
  | none => db

/-- One step of a request. -/
def exec (codec : JoinCodec) (ctx : Ctx) (db : Db) : Request → Db × Option Request
  | .create randomBytes shortCode organiserUserId dto =>
      (committed db (createPool codec ctx db randomBytes shortCode organiserUserId dto), none)
  | .join userId dto => (db, (joinLookup codec db dto).toOption.map (.joining userId dto))
  | .joining userId dto pool => (committed db (joinWithin ctx db userId dto pool), none)
  | .update organiserUserId poolId dto =>
      (db, (updateLookup db organiserUserId poolId).toOption.map fun pool ↦ .updating pool.id dto)
  | .updating poolId dto => (committed db (updatePool db poolId dto), none)
  | .open organiserUserId poolId => (committed db (openPool ctx db organiserUserId poolId), none)
  | .close organiserUserId poolId => (committed db (closePool ctx db organiserUserId poolId), none)
  | .cancel organiserUserId poolId => (committed db (cancelPool ctx db organiserUserId poolId), none)
  | .removeMember organiserUserId poolId memberId =>
      (committed db (removeMember ctx db organiserUserId poolId memberId), none)
  | .waiveDue organiserUserId poolId memberId reason =>
      (committed db (waiveDue db organiserUserId poolId memberId reason), none)
  | .createIntent userId dto key =>
      (committed db (create ctx db akawoPoolDueTarget userId dto key), none)
  | .confirm userId intentId key => (confirmIntent ctx db userId intentId key, none)
  | .elsewhere db => (db, none)

/-- A request that has not taken a step. -/
def Request.isNew : Request → Bool
  | .joining .. => false
  | .updating .. => false
  | _ => true

/-- Accounts stay as they are, and posted transactions stay with their entries. -/
structure Recorded (db db' : Db) : Prop where
  accounts : ∀ a ∈ db.ledger.accounts.rows, a ∈ db'.ledger.accounts.rows
  transactions : ∀ t ∈ db.ledger.transactions.rows, ∃ t' ∈ db'.ledger.transactions.rows,
    t'.id = t.id ∧ t'.entries = t.entries

theorem Recorded.refl (db : Db) : Recorded db db := ⟨fun _ h ↦ h, fun t ht ↦ ⟨t, ht, rfl, rfl⟩⟩

/-- What the rest of the platform leaves alone: the pools, and what is in the books; and it posts for
an intent only when it confirms it. -/
structure Aside (db db' : Db) : Prop where
  akawo : db'.akawo = db.akawo
  recorded : Recorded db db'
  intents : IntentsPosted db → IntentsPosted db'

theorem Aside.refl (db : Db) : Aside db db := ⟨rfl, .refl db, fun h ↦ h⟩

/-- The steps of the rest of the platform are of that kind. -/
def Admitted (_ : Ctx) (db : Db) : Request → Prop
  | .elsewhere db' => Aside db db'
  | _ => True

/-! ## What each step does -/

/-- A member joined. -/
structure Joined (db db' : Db) (pool : AkawoPool) (m : AkawoPoolMember) (d : AkawoPoolDue) :
    Prop where
  member_pool : m.poolId = pool.id
  active : m.status = .active
  due_pool : d.poolId = pool.id
  due_member : d.memberId = m.id
  pending : d.status = .pending
  unlinked : d.ledgerTransactionId = none
  members : insertRow db.akawo.members m = .ok db'.akawo.members
  dues : insertRow db.akawo.dues d = .ok db'.akawo.dues
  after : db' = { db with
    akawo := { db.akawo with members := db'.akawo.members, dues := db'.akawo.dues } }

theorem joinWithin_eq_ok {userId : Uuid} {dto : JoinAkawoPoolDto} {pool : AkawoPool}
    {r : AkawoPoolMember × AkawoPoolDue} (h : joinWithin ctx db userId dto pool = .ok (r, db')) :
    ∃ m d, Joined db db' pool m d := by
  simp only [joinWithin, bind_eq_ok, require_eq_ok, pure_eq_ok, exists_const, Prod.mk.injEq] at h
  obtain ⟨-, -, -, -, members, hmembers, dues, hdues, -, rfl⟩ := h
  exact ⟨_, _, rfl, rfl, rfl, rfl, rfl, rfl, hmembers, hdues, rfl⟩

/-- The pool was found, and is the organiser's. -/
theorem requireOrganiser_eq_ok {organiserUserId poolId : Uuid} {pool : AkawoPool}
    (h : requireOrganiser db organiserUserId poolId = .ok pool) :
    pool ∈ db.akawo.pools.rows ∧ pool.id = poolId ∧ pool.organiserUserId = organiserUserId := by
  simp only [requireOrganiser, bind_eq_ok, orThrow_eq_ok, require_eq_ok, pure_eq_ok,
    exists_const] at h
  obtain ⟨p, hfind, horganiser, rfl⟩ := h
  exact ⟨Table.mem_of_find? hfind, by simpa using Table.prop_of_find? hfind, horganiser⟩

/-- A pool was moved to another status. -/
structure Moved (ctx : Ctx) (db db' : Db) (pool : AkawoPool) (status : AkawoPoolStatus) : Prop where
  mem : pool ∈ db.akawo.pools.rows
  allowed : canTransition pool.status status = true
  unpaid : status = .cancelled → paidDues db pool.id = []
  pools : db'.akawo.pools.rows = db.akawo.pools.rows.map fun p ↦
    if decide (p.id = pool.id) = true then movePool ctx.now status p else p
  after : db' = { db with akawo := { db.akawo with pools := db'.akawo.pools } }

theorem transition_eq_ok {organiserUserId poolId : Uuid} {status : AkawoPoolStatus}
    {r : AkawoPool} (hstatus : status ≠ .cancelled)
    (h : transition ctx db organiserUserId poolId status = .ok (r, db')) :
    ∃ pool, pool.id = poolId ∧ Moved ctx db db' pool status := by
  simp only [transition, bind_eq_ok, require_eq_ok, pure_eq_ok, exists_const, Prod.mk.injEq] at h
  obtain ⟨pool, hpool, hallowed, pools, hpools, -, rfl⟩ := h
  obtain ⟨hmem, rfl, -⟩ := requireOrganiser_eq_ok hpool
  exact ⟨pool, rfl, hmem, hallowed, fun hcancelled ↦ absurd hcancelled hstatus,
    updateRow_eq_ok hpools, rfl⟩

theorem cancelPool_eq_ok {organiserUserId poolId : Uuid} {r : AkawoPool}
    (h : cancelPool ctx db organiserUserId poolId = .ok (r, db')) :
    ∃ pool, pool.id = poolId ∧ Moved ctx db db' pool .cancelled := by
  simp only [cancelPool, canCancel, bind_eq_ok, require_eq_ok, pure_eq_ok, exists_const,
    Prod.mk.injEq, Bool.and_eq_true, decide_eq_true_eq] at h
  obtain ⟨pool, hpool, ⟨hallowed, hunpaid⟩, pools, hpools, -, rfl⟩ := h
  obtain ⟨hmem, rfl, -⟩ := requireOrganiser_eq_ok hpool
  exact ⟨pool, rfl, hmem, hallowed, fun _ ↦ List.length_eq_zero_iff.mp hunpaid,
    updateRow_eq_ok hpools, rfl⟩

/-- A due was found for the member. -/
theorem dueOf_eq_ok {poolId memberId : Uuid} {d : AkawoPoolDue}
    (h : dueOf db poolId memberId = .ok d) :
    d ∈ db.akawo.dues.rows ∧ d.poolId = poolId ∧ d.memberId = memberId := by
  have hfind := orThrow_eq_ok.mp h
  have hprop := Table.prop_of_find? hfind
  rw [decide_eq_true_eq] at hprop
  exact ⟨Table.mem_of_find? hfind, hprop⟩

/-- A member was removed. -/
structure Removed (ctx : Ctx) (db db' : Db) (memberId : Uuid) (d : AkawoPoolDue) : Prop where
  due : d ∈ db.akawo.dues.rows
  due_member : d.memberId = memberId
  unpaid : canRemoveMember d.status = true
  members : db'.akawo.members.rows = db.akawo.members.rows.map fun m ↦
    if decide (m.id = memberId) = true then markRemoved ctx.now m else m
  after : db' = { db with akawo := { db.akawo with members := db'.akawo.members } }

theorem removeMember_eq_ok {organiserUserId poolId memberId : Uuid} {u : Unit}
    (h : removeMember ctx db organiserUserId poolId memberId = .ok (u, db')) :
    ∃ d, d.poolId = poolId ∧ Removed ctx db db' memberId d := by
  simp only [removeMember, bind_eq_ok, require_eq_ok, pure_eq_ok, exists_const,
    Prod.mk.injEq] at h
  obtain ⟨pool, -, d, hd, hunpaid, members, hmembers, -, rfl⟩ := h
  obtain ⟨hmem, hpool, hmember⟩ := dueOf_eq_ok hd
  exact ⟨d, hpool, hmem, hmember, hunpaid, updateRow_eq_ok hmembers, rfl⟩

/-- A due was rewritten: it was waived, or it was paid. -/
structure Rewritten (db db' : Db) (d : AkawoPoolDue) (write : AkawoPoolDue → AkawoPoolDue) :
    Prop where
  mem : d ∈ db.akawo.dues.rows
  pending : d.status = .pending
  dues : db'.akawo.dues.rows = db.akawo.dues.rows.map fun x ↦
    if decide (x.id = d.id) = true then write x else x
  pools : db'.akawo.pools = db.akawo.pools
  members : db'.akawo.members = db.akawo.members

theorem waiveDue_eq_ok {organiserUserId poolId memberId : Uuid} {reason : String} {r : AkawoPoolDue}
    (h : waiveDue db organiserUserId poolId memberId reason = .ok (r, db')) :
    ∃ d, Rewritten db db' d (markWaived reason) ∧
      db' = { db with akawo := { db.akawo with dues := db'.akawo.dues } } := by
  simp only [waiveDue, bind_eq_ok, require_eq_ok, pure_eq_ok, exists_const, Prod.mk.injEq] at h
  obtain ⟨pool, -, d, hd, hpending, dues, hdues, -, rfl⟩ := h
  exact ⟨d, ⟨(dueOf_eq_ok hd).1, hpending, updateRow_eq_ok hdues, rfl, rfl⟩, rfl⟩

/-- The accounts with the provider, where the money of the pools is held. -/
def isProviderPayable (a : FinancialAccount) : Bool := a.purpose = some .providerPayable

/-- What payment writes on a due. -/
def markPaid (ctx : Ctx) (ledgerTransactionId : Uuid) (d : AkawoPoolDue) : AkawoPoolDue :=
  { d with status := .paid, ledgerTransactionId := some ledgerTransactionId, paidAt := some ctx.now }

/-- A due was paid, with a transaction that brings its amount to the provider's account. -/
structure Paid (ctx : Ctx) (db db' : Db) (d : AkawoPoolDue) (t : LedgerTransaction) : Prop where
  rewritten : Rewritten db db' d (markPaid ctx t.id)
  transactions : db'.ledger.transactions.rows = db.ledger.transactions.rows ++ [t]
  accounts : db'.ledger.accounts = db.ledger.accounts
  amount : db'.ledger.netOver isProviderPayable t.legs = d.amountMinor
  intents : IntentsPosted db'

/-- What a wallet settlement brings to the accounts of a kind to which only its destination belongs. -/
theorem netOver_walletPosting {handler : PaymentTarget} {userId : Uuid} {intent : PaymentIntent}
    {key description : String} {payer : PayerAccounts} {a : FinancialAccount} {ledger : Ledger}
    {p : FinancialAccount → Bool} (havailable : payer.available ∈ ledger.accounts.rows)
    (hrevenue : payer.feeRevenue ∈ ledger.accounts.rows) (ha : a ∈ ledger.accounts.rows)
    (hpa : p a = true) (hp : p payer.available = false) (hp' : p payer.feeRevenue = false) :
    ledger.netOver p (walletPosting handler userId intent key description payer a.id).legs =
      if handler.holdsFee then intent.totalMinor else intent.amountMinor := by
  have hextra : ledger.netOver p (List.map (fun e : LedgerPostingEntry ↦ e.leg)
      (if 0 < intent.feeMinor ∧ ¬ handler.holdsFee then
        [⟨payer.feeRevenue.id, .credit, intent.feeMinor⟩] else [])) = 0 := by
    split
    · rw [List.map_cons, List.map_nil, LedgerPostingEntry.leg, netOver_cons hrevenue, hp',
        netOver_nil]
      rfl
    · exact netOver_nil
  rw [LedgerPostingCommand.legs, walletPosting, List.cons_append, List.cons_append, List.map_cons,
    List.map_cons, LedgerPostingEntry.leg, LedgerPostingEntry.leg, netOver_cons havailable,
    netOver_cons ha, hp, hpa, List.nil_append, hextra]
  simp only [Bool.false_eq_true, if_false, if_true, zero_add, add_zero,
    EntryDirection.signed_credit]

/-- The due of a payment that goes through is there, and it is pending. -/
theorem resolveDue_eq_ok {userId : Uuid} {targetId : Option Uuid} {target : ResolvedTarget}
    (h : resolveDue db userId targetId = .ok target) :
    ∃ d ∈ db.akawo.dues.rows, targetId = some d.id ∧ d.status = .pending ∧
      target.amountMinor = d.amountMinor := by
  simp only [resolveDue, bind_eq_ok, orThrow_eq_ok, require_eq_ok, pure_eq_ok, exists_const] at h
  obtain ⟨id, rfl, d, hd, pool, -, member, -, -, hpending, -, -, rfl⟩ := h
  have hid : d.id = id := by simpa using Table.prop_of_find? hd
  exact ⟨d, Table.mem_of_find? hd, congrArg some hid.symm, hpending, rfl⟩

/-- The payment is credited to an account with the provider. -/
theorem providerPayableAccount_found {currency : String} {destination : Uuid}
    (h : providerPayableAccount db currency = .ok (destination, db')) :
    db' = db ∧ ∃ a ∈ db.ledger.accounts.rows, a.id = destination ∧ isProviderPayable a = true := by
  simp only [providerPayableAccount, bind_eq_ok, orThrow_eq_ok, pure_eq_ok, Prod.mk.injEq] at h
  obtain ⟨a, hfind, rfl, rfl⟩ := h
  have hprop := Table.prop_of_find? hfind
  rw [decide_eq_true_eq] at hprop
  exact ⟨rfl, a, Table.mem_of_find? hfind, rfl, decide_eq_true hprop.2.1⟩

/-- A wallet settlement of a due's intent that was awaiting confirmation. -/
theorem paid_of_walletSettled {userId destination : Uuid} {intent : PaymentIntent} {key : String}
    {target : ResolvedTarget} {payer : PayerAccounts} {opened settled : Db}
    {posting : LedgerReference} {ledger : Ledger} (hposted : IntentsPosted db)
    (hmem : intent ∈ db.paymentIntents.rows) (hst : intent.status = .requiresConfirmation)
    (h : WalletSettled ctx db akawoPoolDueTarget userId intent key db' target payer destination
      opened posting ledger settled) : ∃ d t, intent.targetId = some d.id ∧ Paid ctx db db' d t := by
  obtain ⟨d, hd, htarget, hpending, hamount⟩ := resolveDue_eq_ok h.resolve
  obtain ⟨rfl, a, ha, rfl, hprovider⟩ := providerPayableAccount_found h.credit
  obtain ⟨walletId, hpayer⟩ := h.paidBy
  have hsettle : settleDue ctx { opened with ledger := ledger }
      (settledPayment userId intent posting) = .ok settled := h.settle
  unfold settleDue at hsettle
  rw [settledPayment, htarget] at hsettle
  simp only [bind_eq_ok, pure_eq_ok] at hsettle
  obtain ⟨dues, hdues, rfl⟩ := hsettle
  obtain ⟨hid, created, htx, hintents⟩ := h.posted hposted hmem hst (.refl _) rfl rfl
  have haccounts : db'.ledger.accounts = opened.ledger.accounts := by
    rw [h.after]
    exact (createTransaction_eq_ok created).2.2.2.1
  refine ⟨d, _, htarget, ⟨hd, hpending, ?_, by rw [h.after], by rw [h.after]⟩, htx, haccounts, ?_,
    hintents⟩
  · rw [h.after]
    refine (updateRow_eq_ok hdues).trans ?_
    rw [hid]
    rfl
  · rw [legs_postedTransaction, netOver_walletPosting (by rw [haccounts]; exact hpayer.available_mem)
      (by rw [haccounts]; exact hpayer.feeRevenue_mem) (by rw [haccounts]; exact ha) hprovider
      (by simp [isProviderPayable, hpayer.available_purpose])
      (by simp [isProviderPayable, hpayer.feeRevenue_purpose])]
    exact h.amount.symm.trans hamount

/-! ## What a step does -/

/-- What a step did to the pools. -/
inductive Effect (ctx : Ctx) (db : Db) (r : Request) (db' : Db) : Prop
  | /-- Nothing that concerns the pools. -/
    aside (h : Aside db db')
  | /-- A pool was created. -/
    created (pool : AkawoPool) (draft : pool.status = .draft)
      (insert : insertRow db.akawo.pools pool = .ok db'.akawo.pools)
      (after : db' = { db with akawo := { db.akawo with pools := db'.akawo.pools } })
  | /-- A pool was edited. -/
    edited (poolId : Uuid) (dto : UpdateAkawoPoolDto)
      (pools : db'.akawo.pools.rows = db.akawo.pools.rows.map fun p ↦
        if decide (p.id = poolId) = true then editPool dto p else p)
      (after : db' = { db with akawo := { db.akawo with pools := db'.akawo.pools } })
  | /-- A pool was opened. -/
    opened (pool : AkawoPool) (h : Moved ctx db db' pool .open)
  | /-- A pool was closed. -/
    closed (organiserUserId : Uuid) (pool : AkawoPool) (asked : r = .close organiserUserId pool.id)
      (h : Moved ctx db db' pool .closed)
  | /-- A pool was cancelled. -/
    cancelled (organiserUserId : Uuid) (pool : AkawoPool)
      (asked : r = .cancel organiserUserId pool.id) (h : Moved ctx db db' pool .cancelled)
  | /-- A member joined. -/
    joined (userId : Uuid) (dto : JoinAkawoPoolDto) (pool : AkawoPool) (m : AkawoPoolMember)
      (d : AkawoPoolDue) (asked : r = .joining userId dto pool) (h : Joined db db' pool m d)
  | /-- A member was removed. -/
    removed (organiserUserId poolId memberId : Uuid) (d : AkawoPoolDue)
      (asked : r = .removeMember organiserUserId poolId memberId)
      (h : Removed ctx db db' memberId d)
  | /-- A due was waived. -/
    waived (d : AkawoPoolDue) (reason : String) (h : Rewritten db db' d (markWaived reason))
      (after : db' = { db with akawo := { db.akawo with dues := db'.akawo.dues } })
  | /-- A due was paid. -/
    paid (userId : Uuid) (key : String) (intent : PaymentIntent) (d : AkawoPoolDue)
      (t : LedgerTransaction) (asked : r = .confirm userId intent.id key)
      (mem : intent ∈ db.paymentIntents.rows) (target : intent.targetId = some d.id)
      (h : Paid ctx db db' d t)

variable {r : Request}

theorem confirm_effect {userId intentId : Uuid} {key : String} (hposted : IntentsPosted db) :
    Effect ctx db (.confirm userId intentId key) (confirmIntent ctx db userId intentId key) := by
  have haside : Effect ctx db (.confirm userId intentId key) db := .aside (.refl db)
  unfold confirmIntent
  split
  · next intent hfind =>
      split
      · rcases committed_cases db (settleFromWallet ctx db akawoPoolDueTarget userId intentId key)
          with hsame | ⟨x, db', hok, hdb'⟩
        · rw [hsame]
          exact haside
        · rw [hdb']
          obtain ⟨i, hi, rfl, -, hcase⟩ := settleFromWallet_eq_ok hok
          rcases hcase with ⟨-, rfl⟩ | ⟨hst, target, payer, destination, opened, posting, ledger,
            settled, hsettled⟩
          · exact haside
          · obtain ⟨d, t, htarget, hpaid⟩ := paid_of_walletSettled hposted hi hst hsettled
            exact .paid userId key i d t rfl hi htarget hpaid
      · exact haside
  · exact haside

/-- Every step does one of these things. -/
theorem exec_effect (hposted : IntentsPosted db) (hr : Admitted ctx db r) :
    Effect ctx db r (exec codec ctx db r).1 := by
  have hsame {db' : Db} (h : db' = db) : Effect ctx db r db' := by
    rw [h]
    exact .aside (.refl db)
  cases r with
  | create randomBytes shortCode organiserUserId dto =>
      rcases committed_cases db (createPool codec ctx db randomBytes shortCode organiserUserId dto)
        with hrefused | ⟨pool, db', hok, hdb'⟩
      · exact hsame hrefused
      · rw [exec, hdb']
        simp only [createPool, bind_eq_ok, require_eq_ok, pure_eq_ok, exists_const,
          Prod.mk.injEq] at hok
        obtain ⟨-, -, pools, hpools, rfl, rfl⟩ := hok
        exact .created _ rfl hpools rfl
  | join userId dto => exact hsame rfl
  | joining userId dto pool =>
      rcases committed_cases db (joinWithin ctx db userId dto pool) with
        hrefused | ⟨x, db', hok, hdb'⟩
      · exact hsame hrefused
      · rw [exec, hdb']
        obtain ⟨m, d, h⟩ := joinWithin_eq_ok hok
        exact .joined userId dto pool m d rfl h
  | update organiserUserId poolId dto => exact hsame rfl
  | updating poolId dto =>
      rcases committed_cases db (updatePool db poolId dto) with hrefused | ⟨x, db', hok, hdb'⟩
      · exact hsame hrefused
      · rw [exec, hdb']
        simp only [updatePool, bind_eq_ok, pure_eq_ok, Prod.mk.injEq] at hok
        obtain ⟨pools, hpools, -, rfl⟩ := hok
        exact .edited poolId dto (updateRow_eq_ok hpools) rfl
  | «open» organiserUserId poolId =>
      rcases committed_cases db (openPool ctx db organiserUserId poolId) with
        hrefused | ⟨x, db', hok, hdb'⟩
      · exact hsame hrefused
      · rw [exec, hdb']
        obtain ⟨pool, rfl, h⟩ := transition_eq_ok (by decide : AkawoPoolStatus.open ≠ .cancelled) hok
        exact .opened pool h
  | close organiserUserId poolId =>
      rcases committed_cases db (closePool ctx db organiserUserId poolId) with
        hrefused | ⟨x, db', hok, hdb'⟩
      · exact hsame hrefused
      · rw [exec, hdb']
        obtain ⟨pool, rfl, h⟩ := transition_eq_ok (by decide : AkawoPoolStatus.closed ≠ .cancelled) hok
        exact .closed organiserUserId pool rfl h
  | cancel organiserUserId poolId =>
      rcases committed_cases db (cancelPool ctx db organiserUserId poolId) with
        hrefused | ⟨x, db', hok, hdb'⟩
      · exact hsame hrefused
      · rw [exec, hdb']
        obtain ⟨pool, rfl, h⟩ := cancelPool_eq_ok hok
        exact .cancelled organiserUserId pool rfl h
  | removeMember organiserUserId poolId memberId =>
      rcases committed_cases db (removeMember ctx db organiserUserId poolId memberId) with
        hrefused | ⟨x, db', hok, hdb'⟩
      · exact hsame hrefused
      · rw [exec, hdb']
        obtain ⟨d, -, h⟩ := removeMember_eq_ok hok
        exact .removed organiserUserId poolId memberId d rfl h
  | waiveDue organiserUserId poolId memberId reason =>
      rcases committed_cases db (waiveDue db organiserUserId poolId memberId reason) with
        hrefused | ⟨x, db', hok, hdb'⟩
      · exact hsame hrefused
      · rw [exec, hdb']
        obtain ⟨d, h, hafter⟩ := waiveDue_eq_ok hok
        exact .waived d reason h hafter
  | createIntent userId dto key =>
      rcases committed_cases db (create ctx db akawoPoolDueTarget userId dto key) with
        hrefused | ⟨x, db', hok, hdb'⟩
      · exact hsame hrefused
      · rw [exec, hdb']
        obtain ⟨xs, hrows, hafter⟩ := (create_eq_ok hok).append
        refine .aside ⟨by rw [hafter], ⟨?_, ?_⟩, fun h ↦ h.append (by rw [hafter]) hrows⟩
        · rw [hafter]
          exact fun _ h ↦ h
        · rw [hafter]
          exact fun t ht ↦ ⟨t, ht, rfl, rfl⟩
  | confirm userId intentId key => exact confirm_effect hposted
  | elsewhere db' => exact .aside hr

end AjoCloud.Akawo
