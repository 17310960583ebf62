import AjoCloud.Auth.PinGuesses
import AjoCloud.Ledger.Accounts
import AjoCloud.Lib.Purge
import AjoCloud.Wallets.Movements

/-!
# Callers of sending and withdrawing

`send` and `withdraw` verify the PIN, look for a record under the key, settle in one transaction, and look
again when that threw.  Between these steps other calls may run.  A member's calls are shown to come out as
they do without those of another, when the two use different keys and the other does not pay the member.
-/

namespace AjoCloud.Ledger

open Lib

/-! ## The ledger with other postings in between -/

section

variable {P : LedgerTransaction → Prop} {ledger ledger' : Ledger} {id : Uuid} {c : LedgerPostingCommand}

theorem lockstep_createTransaction {t : LedgerTransaction} (haccounts : ledger.accounts = ledger'.accounts)
    (h : Woven P ledger.transactions.rows ledger'.transactions.rows)
    (hclash : ∀ x, P x → ¬ Schema.Clash x t) :
    Lockstep (fun l l' ↦ Woven P l.transactions.rows l'.transactions.rows)
      (ledger.createTransaction t) (ledger'.createTransaction t) := by
  rw [createTransaction, createTransaction]
  by_cases hfits : t.fits
  · rw [dif_pos hfits, dif_pos hfits]
    by_cases hfk : ∀ e ∈ t.entries, ∃ a ∈ ledger.accounts.rows, a.id = e.accountId
    · have hfk' : ∀ e ∈ t.entries, ∃ a ∈ ledger'.accounts.rows, a.id = e.accountId := haccounts ▸ hfk
      rw [dif_pos hfk, dif_pos hfk']
      have hinsert := h.insert hclash (ServiceError.database .uniqueConstraint)
      split
      · next hnone =>
          rw [hnone] at hinsert
          split
          · exact .error _
          · next hsome =>
              rw [hsome] at hinsert
              cases hinsert
      · next hsome =>
          rw [hsome] at hinsert
          split
          · next hnone =>
              rw [hnone] at hinsert
              cases hinsert
          · next hsome' =>
              rw [hsome'] at hinsert
              cases hinsert with
              | ok hrows => exact .ok hrows
    · have hfk' : ¬ ∀ e ∈ t.entries, ∃ a ∈ ledger'.accounts.rows, a.id = e.accountId := haccounts ▸ hfk
      rw [dif_neg hfk, dif_neg hfk']
      exact .error _
  · rw [dif_neg hfits, dif_neg hfits]
    exact .error _

theorem lockstep_postWithin (haccounts : ledger.accounts = ledger'.accounts)
    (h : Woven P ledger.transactions.rows ledger'.transactions.rows)
    (hkey : ∀ t, P t → t.idempotencyKey ≠ c.idempotencyKey)
    (hclash : ∀ t, P t → t.id ≠ id ∧ t.reference ≠ c.reference) :
    Lockstep (fun r r' ↦ r.1 = r'.1 ∧ Woven P r.2.transactions.rows r'.2.transactions.rows)
      (ledger.postWithin id c) (ledger'.postWithin id c) := by
  have hsame : ledger.byKey c.idempotencyKey = ledger'.byKey c.idempotencyKey :=
    h.find?_eq fun t ht ↦ decide_eq_false (hkey t ht)
  have hfresh : ∀ t, P t → ¬ Schema.Clash t (postedTransaction id c) := by
    intro t ht hclashes
    rcases clash_postedTransaction_iff.mp hclashes with (heq | heq) | heq
    · exact (hclash t ht).1 heq
    · exact (hclash t ht).2 heq
    · exact hkey t ht heq
  rw [postWithin, postWithin, hsame]
  refine .bind_same rfl fun _ _ ↦ ?_
  cases ledger'.byKey c.idempotencyKey with
  | some existing => exact .ok ⟨rfl, h⟩
  | none => exact (lockstep_createTransaction haccounts h hfresh).bind fun _ _ _ _ hrows ↦ .ok ⟨rfl, hrows⟩

/-- What a posting leaves of the accounts and of the transactions. -/
theorem rows_of_postWithin {ref : LedgerReference} (h : ledger.postWithin id c = .ok (ref, ledger')) :
    ledger'.accounts = ledger.accounts ∧
      ((ledger'.transactions = ledger.transactions ∧
          ∃ t ∈ ledger.transactions.rows, t.idempotencyKey = c.idempotencyKey ∧ t.id = ref.id) ∨
        ledger'.transactions.rows = ledger.transactions.rows ++ [postedTransaction id c] ∧ ref.id = id) := by
  cases (postWithin_eq_ok h).2 with
  | replayed existing mem key ref_eq same =>
      exact ⟨by rw [same], .inl ⟨by rw [same], existing, mem, key, by rw [ref_eq]⟩⟩
  | appended _ created ref_eq =>
      obtain ⟨-, -, -, haccounts, hrows⟩ := createTransaction_eq_ok created
      exact ⟨haccounts, .inr ⟨hrows, by rw [ref_eq]⟩⟩

end

end AjoCloud.Ledger

namespace AjoCloud.Wallets

open Lib ServiceError Ledger

/-! ## Calls -/

/-- What is asked for. -/
inductive Movement where
  | send (dto : SendToWalletDto)
  | withdraw (dto : WithdrawDto)

/-- A call of the service. -/
structure MovementCall where
  userId : Uuid
  pin : String
  idempotencyKey : String
  movement : Movement

/-- The row that is returned. -/
inductive MovementRecord where
  | transfer (t : Transfer)
  | withdrawal (w : Withdrawal)
deriving DecidableEq

/-- How far a call has come. -/
inductive Progress where
  /-- Nothing is done yet. -/
  | called
  /-- The row of the PIN was read. -/
  | comparePin (existing : TransactionPin) (readAt : Timestamp)
  /-- The PIN was right. -/
  | lookUp
  /-- There was no record under the key. -/
  | settle
  /-- The transaction threw. -/
  | reread (error : ServiceError)
  /-- What the caller observes. -/
  | done (outcome : Except ServiceError MovementRecord)
deriving DecidableEq

namespace MovementCall

/-- `dto.amountMinor`. -/
def amountMinor (call : MovementCall) : Int :=
  match call.movement with
  | .send dto => dto.amountMinor
  | .withdraw dto => dto.amountMinor

/-- The key of the posting. -/
def ledgerKey (call : MovementCall) : String :=
  match call.movement with
  | .send _ => transferKey call.idempotencyKey
  | .withdraw _ => withdrawalKey call.idempotencyKey

/-- `findUnique` by the key, in the table of the call. -/
def findUnique (db : Db) (call : MovementCall) : Option MovementRecord :=
  match call.movement with
  | .send _ => (db.transfers.find? fun t ↦ t.idempotencyKey = call.idempotencyKey).map .transfer
  | .withdraw _ => (db.withdrawals.find? fun w ↦ w.idempotencyKey = call.idempotencyKey).map .withdrawal

/-- The transaction, for a key that has not been used. -/
def settleFresh (ctx : Ctx) (db : Db) (call : MovementCall) : Except ServiceError (MovementRecord × Db) :=
  match call.movement with
  | .send dto => do
      let (transfer, db) ← sendFresh ctx db call.userId dto call.idempotencyKey
      pure (.transfer transfer, db)
  | .withdraw dto => do
      let (withdrawal, db) ← withdrawFresh ctx db call.userId dto call.idempotencyKey
      pure (.withdrawal withdrawal, db)

/-- The transaction. -/
def settle (ctx : Ctx) (db : Db) (call : MovementCall) : Except ServiceError (MovementRecord × Db) :=
  match call.findUnique db with
  | some again => pure (again, db)
  | none => call.settleFresh ctx db

/-- One step of a call. -/
def exec (verify : String → String → Bool) (call : MovementCall) (ctx : Ctx) (db : Db) :
    Progress → Db × Progress
  | .called =>
      match assertPayableAmount call.amountMinor, Auth.readPin ctx.now db call.userId with
      | .error e, _ => (db, .done (.error e))
      | .ok _, .error e => (db, .done (.error e))
      | .ok _, .ok existing => (db, .comparePin existing ctx.now)
  | .comparePin existing readAt =>
      match Auth.concludePin verify readAt db call.userId existing call.pin with
      | (db, .error e) => (db, .done (.error e))
      | (db, .ok _) => (db, .lookUp)
  | .lookUp =>
      match call.findUnique db with
      | some existing => (db, .done (.ok existing))
      | none => (db, .settle)
  | .settle =>
      match call.settle ctx db with
      | .ok (settled, db) => (db, .done (.ok settled))
      | .error e => (db, .reread e)
  | .reread e =>
      match call.findUnique db with
      | some winner => (db, .done (.ok winner))
      | none => (db, .done (.error e))
  | .done outcome => (db, .done outcome)

/-- `send` or `withdraw`, after the PIN. -/
def serve (ctx : Ctx) (db : Db) (call : MovementCall) : Except ServiceError (MovementRecord × Db) :=
  match call.movement with
  | .send dto => do
      let (transfer, db) ← send ctx db call.userId dto call.idempotencyKey
      pure (.transfer transfer, db)
  | .withdraw dto => do
      let (withdrawal, db) ← withdraw ctx db call.userId dto call.idempotencyKey
      pure (.withdrawal withdrawal, db)

theorem serve_eq_settle {ctx : Ctx} {db : Db} {call : MovementCall}
    (hpay : assertPayableAmount call.amountMinor = .ok ()) : call.serve ctx db = call.settle ctx db := by
  rw [serve, settle, settleFresh, findUnique]
  rw [amountMinor] at hpay
  cases hmovement : call.movement with
  | send dto =>
      rw [hmovement] at hpay
      dsimp only at hpay ⊢
      rw [send, hpay]
      cases db.transfers.find? fun t ↦ t.idempotencyKey = call.idempotencyKey <;> rfl
  | withdraw dto =>
      rw [hmovement] at hpay
      dsimp only at hpay ⊢
      rw [withdraw, hpay]
      cases db.withdrawals.find? fun w ↦ w.idempotencyKey = call.idempotencyKey <;> rfl

/-- A call whose PIN is right and which nothing interrupts is `send` or `withdraw`. -/
theorem exec_alone {verify : String → String → Bool} {ctx : Ctx} {db after : Db} {call : MovementCall}
    {existing : TransactionPin} (hpay : assertPayableAmount call.amountMinor = .ok ())
    (hread : Auth.readPin ctx.now db call.userId = .ok existing)
    (hpin : Auth.concludePin verify ctx.now db call.userId existing call.pin = (after, .ok ())) :
    (fun s ↦ call.exec verify ctx s.1 s.2)^[5] (db, .called) =
      match call.serve ctx after with
      | .ok (record, settled) => (settled, .done (.ok record))
      | .error e => (after, .done (.error e)) := by
  rw [serve_eq_settle hpay]
  simp only [Function.iterate_succ_apply, Function.iterate_zero_apply, exec, hpay, hread, hpin]
  cases hfind : call.findUnique after with
  | some existing =>
      simp only [settle, hfind]
      rfl
  | none =>
      cases hsettle : call.settle ctx after with
      | ok r => rfl
      | error e => simp only [hfind]

end MovementCall

/-- The calls of a run over the database, none of which has begun. -/
def opening {ι : Type} (db : Db) : Callers Db ι Progress := ⟨db, fun _ ↦ .called⟩

/-- The calls after some steps, each of them with its clock and its identifiers. -/
def runCalls {ι : Type} [DecidableEq ι] (verify : String → String → Bool) (calls : ι → MovementCall) (db : Db)
    (events : List (ι × Ctx)) : Callers Db ι Progress :=
  events.foldl (Callers.step fun i ↦ (calls i).exec verify) (opening db)

/-! ## What a user's calls look at -/

section Own

variable {ι : Type} (calls : ι → MovementCall) (db : Db) (user : Uuid) (mine : Uuid → Prop)

/-- The key of a posting of one of the user's calls. -/
def OwnKey (key : String) : Prop := ∃ i, (calls i).userId = user ∧ (calls i).ledgerKey = key

/-- The account is one of the user's wallets. -/
def OwnAccount (accountId : Uuid) : Prop :=
  ∃ w ∈ db.wallets.rows, w.userId = user ∧
    ∃ a ∈ db.ledger.accounts.rows, a.walletId = some w.id ∧ a.id = accountId

/-- A posting that the user's calls do not look at. -/
structure OtherTransaction (t : LedgerTransaction) : Prop where
  id : ¬ mine t.id
  reference : ∀ id, mine id → t.reference ≠ "SEND-" ++ id.toString ∧ t.reference ≠ "WDL-" ++ id.toString
  key : ¬ OwnKey calls user t.idempotencyKey
  initiator : t.initiatedByUserId ≠ some user
  spares : ∀ accountId, OwnAccount db user accountId → t.net accountId = 0

/-- A transfer that the user's calls do not look at. -/
structure OtherTransfer (t : Transfer) : Prop where
  id : ¬ mine t.id
  reference : ∀ id, mine id → t.internalReference ≠ "SEND-" ++ id.toString
  key : ¬ OwnKey calls user (transferKey t.idempotencyKey)
  posting : ∀ id, t.ledgerTransactionId = some id → ¬ mine id

/-- A withdrawal that the user's calls do not look at. -/
structure OtherWithdrawal (w : Withdrawal) : Prop where
  id : ¬ mine w.id
  reference : ∀ id, mine id → w.internalReference ≠ "WDL-" ++ id.toString
  key : ¬ OwnKey calls user (withdrawalKey w.idempotencyKey)
  posting : ∀ id, w.ledgerTransactionId = some id → ¬ mine id

/-- The tables that no call writes. -/
structure Untouched (s : Db) : Prop where
  users : s.users = db.users
  wallets : s.wallets = db.wallets
  banks : s.linkedBankAccounts = db.linkedBankAccounts
  accounts : s.ledger.accounts = db.ledger.accounts

/-- The record is the user's own. -/
def MovementRecord.IsOf : MovementRecord → Prop
  | .transfer t => ∃ w ∈ db.wallets.rows, w.id = t.sourceWalletId ∧ w.userId = user
  | .withdrawal w => w.userId = user

/-- What the call has returned is the user's own. -/
def Progress.IsOf : Progress → Prop
  | .done (.ok record) => record.IsOf db user
  | _ => True

/-- Records under the user's keys are the user's own. -/
structure Owns (s : Db) : Prop where
  transfers : ∀ t ∈ s.transfers.rows, OwnKey calls user (transferKey t.idempotencyKey) →
    (MovementRecord.transfer t).IsOf db user
  withdrawals : ∀ w ∈ s.withdrawals.rows, OwnKey calls user (withdrawalKey w.idempotencyKey) →
    (MovementRecord.withdrawal w).IsOf db user

/-- The databases differ in nothing that the user's calls look at. -/
structure Beside (s s' : Db) : Prop where
  untouched : Untouched db s
  untouched' : Untouched db s'
  pin : Auth.pinOf s user = Auth.pinOf s' user
  transactions : Woven (OtherTransaction calls db user mine) s.ledger.transactions.rows
    s'.ledger.transactions.rows
  transfers : Woven (OtherTransfer calls user mine) s.transfers.rows s'.transfers.rows
  withdrawals : Woven (OtherWithdrawal calls user mine) s.withdrawals.rows s'.withdrawals.rows
  known : ∀ t ∈ s'.ledger.transactions.rows, mine t.id ↔ OwnKey calls user t.idempotencyKey
  owns : Owns calls db user s'

end Own

variable {ι : Type} {calls : ι → MovementCall} {db s s' : Db} {user : Uuid} {mine : Uuid → Prop}
  {verify : String → String → Bool} {ctx : Ctx} {call : MovementCall}

theorem send_ne_withdraw (text text' : String) : "SEND-" ++ text ≠ "WDL-" ++ text' :=
  append_ne_append 1 (by decide) (by decide) (by decide) _ _

/-- An account of another's wallet. -/
theorem not_ownAccount {w : Wallet} {a : FinancialAccount} (hw : w ∈ db.wallets.rows) (hne : w.userId ≠ user)
    (ha : a ∈ db.ledger.accounts.rows) (hwallet : a.walletId = some w.id) : ¬ OwnAccount db user a.id := by
  rintro ⟨w', hw', huser, a', ha', hwallet', hid⟩
  rw [account_eq_of_id ha' ha hid, hwallet, Option.some.injEq] at hwallet'
  rw [db.wallets.eq_of_clash hw hw' (.inl hwallet')] at hne
  exact hne huser

theorem Untouched.congr (h : Untouched db s) (husers : s'.users = s.users) (hwallets : s'.wallets = s.wallets)
    (hbanks : s'.linkedBankAccounts = s.linkedBankAccounts)
    (haccounts : s'.ledger.accounts = s.ledger.accounts) : Untouched db s' :=
  ⟨husers.trans h.users, hwallets.trans h.wallets, hbanks.trans h.banks, haccounts.trans h.accounts⟩

/-! ## The steps of the user -/

namespace Beside

theorem findUnique_eq (h : Beside calls db user mine s s') (hkey : OwnKey calls user call.ledgerKey) :
    call.findUnique s = call.findUnique s' := by
  rw [MovementCall.findUnique, MovementCall.findUnique]
  cases hmovement : call.movement with
  | send dto =>
      rw [MovementCall.ledgerKey, hmovement] at hkey
      refine congrArg (Option.map MovementRecord.transfer) (h.transfers.find?_eq fun t ht ↦ ?_)
      refine decide_eq_false fun heq ↦ ht.key ?_
      rwa [heq]
  | withdraw dto =>
      rw [MovementCall.ledgerKey, hmovement] at hkey
      refine congrArg (Option.map MovementRecord.withdrawal) (h.withdrawals.find?_eq fun w hw ↦ ?_)
      refine decide_eq_false fun heq ↦ hw.key ?_
      rwa [heq]

/-- A record that is found is the user's own. -/
theorem isOf_of_findUnique (h : Beside calls db user mine s s') (hkey : OwnKey calls user call.ledgerKey)
    {record : MovementRecord} (hfind : call.findUnique s' = some record) : record.IsOf db user := by
  rw [MovementCall.findUnique] at hfind
  cases hmovement : call.movement with
  | send dto =>
      rw [hmovement] at hfind
      rw [MovementCall.ledgerKey, hmovement] at hkey
      obtain ⟨t, ht, rfl⟩ := Option.map_eq_some_iff.mp hfind
      have heq : t.idempotencyKey = call.idempotencyKey := by simpa using Table.prop_of_find? ht
      exact h.owns.transfers t (Table.mem_of_find? ht) (heq.symm ▸ hkey)
  | withdraw dto =>
      rw [hmovement] at hfind
      rw [MovementCall.ledgerKey, hmovement] at hkey
      obtain ⟨w, hw, rfl⟩ := Option.map_eq_some_iff.mp hfind
      have heq : w.idempotencyKey = call.idempotencyKey := by simpa using Table.prop_of_find? hw
      exact h.owns.withdrawals w (Table.mem_of_find? hw) (heq.symm ▸ hkey)

theorem balance_eq (h : Beside calls db user mine s s') {accountId : Uuid}
    (hown : OwnAccount db user accountId) : s.balance accountId = s'.balance accountId := by
  rw [Db.balance, Db.balance, accountBalanceWithin_eq, accountBalanceWithin_eq]
  exact h.transactions.sumWhere_eq fun t ht ↦ ht.spares accountId hown

theorem account_eq (h : Beside calls db user mine s s') (walletId : Uuid) (currency : String)
    (purpose : FinancialAccountPurpose) :
    account s walletId currency purpose = account s' walletId currency purpose := by
  rw [account, account, h.untouched.accounts, h.untouched'.accounts]

/-- A posting of one of the user's calls. -/
theorem post (h : Beside calls db user mine s s') {c : LedgerPostingCommand} {id draw : Uuid} (hid : mine id)
    (hdraw : mine draw) (hkey : OwnKey calls user c.idempotencyKey)
    (href : c.reference = "SEND-" ++ draw.toString ∨ c.reference = "WDL-" ++ draw.toString) :
    Lockstep (fun r r' ↦ r.1 = r'.1 ∧ mine r'.1.id ∧
        Beside calls db user mine { s with ledger := r.2 } { s' with ledger := r'.2 })
      (s.ledger.postWithin id c) (s'.ledger.postWithin id c) := by
  have haccounts : s.ledger.accounts = s'.ledger.accounts :=
    h.untouched.accounts.trans h.untouched'.accounts.symm
  have hother : ∀ t, OtherTransaction calls db user mine t → t.id ≠ id ∧ t.reference ≠ c.reference := by
    intro t ht
    refine ⟨fun heq ↦ ht.id (heq ▸ hid), fun heq ↦ ?_⟩
    rcases href with href | href
    · exact (ht.reference draw hdraw).1 (heq.trans href)
    · exact (ht.reference draw hdraw).2 (heq.trans href)
  refine (lockstep_postWithin haccounts h.transactions (fun t ht heq ↦ ht.key (heq ▸ hkey)) hother).mono ?_
  rintro ⟨ref, l⟩ ⟨ref', l'⟩ hpost hpost' ⟨hsame, hrows⟩
  obtain ⟨hl, -⟩ := rows_of_postWithin hpost
  obtain ⟨hl', hcases⟩ := rows_of_postWithin hpost'
  have hknown : mine ref'.id ∧ ∀ t ∈ l'.transactions.rows, mine t.id ↔ OwnKey calls user t.idempotencyKey := by
    rcases hcases with ⟨hkept, t, ht, htkey, htid⟩ | ⟨happended, htid⟩
    · rw [hkept]
      exact ⟨htid ▸ (h.known t ht).mpr (htkey.symm ▸ hkey), h.known⟩
    · rw [happended, htid]
      refine ⟨hid, List.forall_mem_append.mpr ⟨h.known, fun t ht ↦ ?_⟩⟩
      rw [List.mem_singleton.mp ht]
      exact iff_of_true hid hkey
  exact ⟨hsame, hknown.1,
    { h with
      untouched := h.untouched.congr rfl rfl rfl hl
      untouched' := h.untouched'.congr rfl rfl rfl hl'
      transactions := hrows
      known := hknown.2
      owns := ⟨h.owns.transfers, h.owns.withdrawals⟩ }⟩

/-- A transfer of one of the user's calls. -/
theorem insertTransfer (h : Beside calls db user mine s s') {t : Transfer} {draw : Uuid} (hid : mine t.id)
    (hdraw : mine draw) (href : t.internalReference = "SEND-" ++ draw.toString)
    (hkey : OwnKey calls user (transferKey t.idempotencyKey))
    (hposting : ∀ id, t.ledgerTransactionId = some id → mine id)
    (hown : (MovementRecord.transfer t).IsOf db user) (e : ServiceError) :
    Lockstep (fun u u' ↦ Beside calls db user mine { s with transfers := u } { s' with transfers := u' })
      (orThrow (s.transfers.insert t) e) (orThrow (s'.transfers.insert t) e) := by
  have hother : ∀ x, OtherTransfer calls user mine x → ¬ Schema.Clash x t := by
    rintro x hx (((heq | ⟨-, heq⟩) | ⟨-, heq⟩) | ⟨hsome, heq⟩)
    · have hsame : x.id = t.id := heq
      exact hx.id (hsame ▸ hid)
    · exact hx.reference draw hdraw ((Option.some.inj heq).trans href)
    · exact hx.key (Option.some.inj heq ▸ hkey)
    · obtain ⟨id, hxid⟩ := Option.isSome_iff_exists.mp hsome
      exact hx.posting id hxid (hposting id (heq.symm.trans hxid))
  refine (h.transfers.insert hother e).mono fun u u' _ hinsert hrows ↦ ?_
  have howns : ∀ x ∈ u'.rows, OwnKey calls user (transferKey x.idempotencyKey) →
      (MovementRecord.transfer x).IsOf db user := by
    rw [Table.rows_of_insert (orThrow_eq_ok.mp hinsert)]
    refine List.forall_mem_append.mpr ⟨h.owns.transfers, fun x hx _ ↦ ?_⟩
    rw [List.mem_singleton.mp hx]
    exact hown
  exact { h with
    untouched := h.untouched.congr rfl rfl rfl rfl
    untouched' := h.untouched'.congr rfl rfl rfl rfl
    transfers := hrows
    owns := ⟨howns, h.owns.withdrawals⟩ }

/-- A withdrawal of one of the user's calls. -/
theorem insertWithdrawal (h : Beside calls db user mine s s') {w : Withdrawal} {draw : Uuid} (hid : mine w.id)
    (hdraw : mine draw) (href : w.internalReference = "WDL-" ++ draw.toString)
    (hkey : OwnKey calls user (withdrawalKey w.idempotencyKey)) (hprovider : w.providerReference = none)
    (hposting : ∀ id, w.ledgerTransactionId = some id → mine id)
    (hown : (MovementRecord.withdrawal w).IsOf db user) (e : ServiceError) :
    Lockstep (fun u u' ↦ Beside calls db user mine { s with withdrawals := u } { s' with withdrawals := u' })
      (orThrow (s.withdrawals.insert w) e) (orThrow (s'.withdrawals.insert w) e) := by
  have hother : ∀ x, OtherWithdrawal calls user mine x → ¬ Schema.Clash x w := by
    rintro x hx ((((heq | ⟨-, heq⟩) | ⟨-, heq⟩) | ⟨hsome, heq⟩) | ⟨hsome, heq⟩)
    · have hsame : x.id = w.id := heq
      exact hx.id (hsame ▸ hid)
    · exact hx.reference draw hdraw ((Option.some.inj heq).trans href)
    · exact hx.key (Option.some.inj heq ▸ hkey)
    · have hpresent : x.providerReference.isSome = true := hsome
      rw [show x.providerReference = none from heq.trans hprovider] at hpresent
      cases hpresent
    · obtain ⟨id, hxid⟩ := Option.isSome_iff_exists.mp hsome
      exact hx.posting id hxid (hposting id (heq.symm.trans hxid))
  refine (h.withdrawals.insert hother e).mono fun u u' _ hinsert hrows ↦ ?_
  have howns : ∀ x ∈ u'.rows, OwnKey calls user (withdrawalKey x.idempotencyKey) →
      (MovementRecord.withdrawal x).IsOf db user := by
    rw [Table.rows_of_insert (orThrow_eq_ok.mp hinsert)]
    refine List.forall_mem_append.mpr ⟨h.owns.withdrawals, fun x hx _ ↦ ?_⟩
    rw [List.mem_singleton.mp hx]
    exact hown
  exact { h with
    untouched := h.untouched.congr rfl rfl rfl rfl
    untouched' := h.untouched'.congr rfl rfl rfl rfl
    withdrawals := hrows
    owns := ⟨h.owns.transfers, howns⟩ }

/-- What the transaction of a user's call returns, and what it leaves. -/
theorem sendFresh (h : Beside calls db user mine s s') {dto : SendToWalletDto} {key : String}
    (hmine : ∀ k, mine (ctx.uuid k)) (hkey : OwnKey calls user (transferKey key)) :
    Lockstep (fun r r' ↦ r.1 = r'.1 ∧ (MovementRecord.transfer r'.1).IsOf db user ∧
        Beside calls db user mine r.2 r'.2)
      (Wallets.sendFresh ctx s user dto key) (Wallets.sendFresh ctx s' user dto key) := by
  have hwallets : s.wallets = s'.wallets := h.untouched.wallets.trans h.untouched'.wallets.symm
  have husers : s.users = s'.users := h.untouched.users.trans h.untouched'.users.symm
  rw [Wallets.sendFresh, Wallets.sendFresh]
  refine .bind_same (by rw [hwallets]) fun source hsource ↦ ?_
  refine .bind_same (by rw [husers]) fun recipient _ ↦ ?_
  refine .bind_same (by rw [hwallets]) fun destination _ ↦ ?_
  refine .bind_same rfl fun _ _ ↦ .bind_same rfl fun _ _ ↦ .bind_same rfl fun _ _ ↦ .bind_same rfl fun _ _ ↦ ?_
  refine .bind_same (h.account_eq ..) fun sender hsender ↦ ?_
  refine .bind_same (h.account_eq ..) fun receiver _ ↦ ?_
  have hfound := orThrow_eq_ok.mp hsource
  have hsourceIs : source.id = dto.sourceWalletId ∧ source.userId = user := by
    simpa using Table.prop_of_find? hfound
  have hmem : source ∈ db.wallets.rows := h.untouched.wallets ▸ Table.mem_of_find? hfound
  have hsender' := orThrow_eq_ok.mp hsender
  have hsenderIs := Table.prop_of_find? hsender'
  simp only [decide_eq_true_eq] at hsenderIs
  have hown : OwnAccount db user sender.id :=
    ⟨source, hmem, hsourceIs.2, sender, h.untouched.accounts ▸ Table.mem_of_find? hsender', hsenderIs.1, rfl⟩
  refine .bind_same (by rw [h.balance_eq hown]) fun _ _ ↦ ?_
  refine (h.post (hmine 0) (hmine 1) hkey (.inl rfl)).bind ?_
  rintro ⟨posting, ledger⟩ ⟨posting', ledger'⟩ - - ⟨rfl, hposting, hbeside⟩
  refine .bind_same rfl fun _ _ ↦ ?_
  have hisOf : (MovementRecord.transfer (newTransfer ctx dto source destination key posting.id)).IsOf db user :=
    ⟨source, hmem, rfl, hsourceIs.2⟩
  refine (hbeside.insertTransfer (hmine 2) (hmine 1) rfl hkey ?_ hisOf _).bind fun u u' _ _ hrows ↦ ?_
  · intro id hid
    exact Option.some.inj hid ▸ hposting
  · exact .ok ⟨rfl, hisOf, hrows⟩

theorem withdrawFresh (h : Beside calls db user mine s s') {dto : WithdrawDto} {key : String}
    (hmine : ∀ k, mine (ctx.uuid k)) (hkey : OwnKey calls user (withdrawalKey key)) :
    Lockstep (fun r r' ↦ r.1 = r'.1 ∧ (MovementRecord.withdrawal r'.1).IsOf db user ∧
        Beside calls db user mine r.2 r'.2)
      (Wallets.withdrawFresh ctx s user dto key) (Wallets.withdrawFresh ctx s' user dto key) := by
  have hwallets : s.wallets = s'.wallets := h.untouched.wallets.trans h.untouched'.wallets.symm
  have hbanks : s.linkedBankAccounts = s'.linkedBankAccounts := h.untouched.banks.trans h.untouched'.banks.symm
  rw [Wallets.withdrawFresh, Wallets.withdrawFresh]
  refine .bind_same (by rw [hwallets]) fun wallet hwallet ↦ ?_
  refine .bind_same rfl fun _ _ ↦ .bind_same (by rw [hbanks]) fun bank _ ↦ ?_
  refine .bind_same (h.account_eq ..) fun available havailable ↦ ?_
  refine .bind_same (h.account_eq ..) fun reserved _ ↦ ?_
  have hfound := orThrow_eq_ok.mp hwallet
  have hwalletIs : wallet.id = dto.walletId ∧ wallet.userId = user := by
    simpa using Table.prop_of_find? hfound
  have hmem : wallet ∈ db.wallets.rows := h.untouched.wallets ▸ Table.mem_of_find? hfound
  have havailable' := orThrow_eq_ok.mp havailable
  have havailableIs := Table.prop_of_find? havailable'
  simp only [decide_eq_true_eq] at havailableIs
  have hown : OwnAccount db user available.id :=
    ⟨wallet, hmem, hwalletIs.2, available, h.untouched.accounts ▸ Table.mem_of_find? havailable',
      havailableIs.1, rfl⟩
  refine .bind_same (by rw [h.balance_eq hown]) fun _ _ ↦ ?_
  refine (h.post (hmine 0) (hmine 1) hkey (.inr rfl)).bind ?_
  rintro ⟨posting, ledger⟩ ⟨posting', ledger'⟩ - - ⟨rfl, hposting, hbeside⟩
  refine .bind_same rfl fun _ _ ↦ ?_
  have hisOf : (MovementRecord.withdrawal (newWithdrawal ctx user dto wallet key posting.id)).IsOf db user := rfl
  refine (hbeside.insertWithdrawal (hmine 2) (hmine 1) rfl hkey rfl ?_ hisOf _).bind fun u u' _ _ hrows ↦ ?_
  · intro id hid
    exact Option.some.inj hid ▸ hposting
  · exact .ok ⟨rfl, hisOf, hrows⟩

theorem settle (h : Beside calls db user mine s s') (huser : call.userId = user)
    (hkey : OwnKey calls user call.ledgerKey) (hmine : ∀ k, mine (ctx.uuid k)) :
    Lockstep (fun r r' ↦ r.1 = r'.1 ∧ r'.1.IsOf db user ∧ Beside calls db user mine r.2 r'.2)
      (call.settle ctx s) (call.settle ctx s') := by
  rw [MovementCall.settle, MovementCall.settle, h.findUnique_eq hkey]
  cases hfind : call.findUnique s' with
  | some again => exact .ok ⟨rfl, h.isOf_of_findUnique hkey hfind, h⟩
  | none =>
      dsimp only
      rw [MovementCall.settleFresh, MovementCall.settleFresh, huser]
      cases hmovement : call.movement with
      | send dto =>
          rw [MovementCall.ledgerKey, hmovement] at hkey
          refine (h.sendFresh hmine hkey).bind ?_
          rintro ⟨t, after⟩ ⟨t', after'⟩ - - ⟨rfl, hisOf, hbeside⟩
          exact .ok ⟨rfl, hisOf, hbeside⟩
      | withdraw dto =>
          rw [MovementCall.ledgerKey, hmovement] at hkey
          refine (h.withdrawFresh hmine hkey).bind ?_
          rintro ⟨w, after⟩ ⟨w', after'⟩ - - ⟨rfl, hisOf, hbeside⟩
          exact .ok ⟨rfl, hisOf, hbeside⟩

/-- The writes of a check of a PIN. -/
theorem pins (h : Beside calls db user mine s s') {after after' : Db} (hs : Auth.PinsOnly s after)
    (hs' : Auth.PinsOnly s' after') (hpin : Auth.pinOf after user = Auth.pinOf after' user) :
    Beside calls db user mine after after' := by
  rw [hs.after, hs'.after] at hpin ⊢
  exact { h with
    untouched := h.untouched.congr rfl rfl rfl rfl
    untouched' := h.untouched'.congr rfl rfl rfl rfl
    pin := hpin
    owns := ⟨h.owns.transfers, h.owns.withdrawals⟩ }

end Beside

/-- Whether a check goes through, and with what it refuses. -/
theorem concludePin_snd (verify : String → String → Bool) (readAt : Timestamp) (db : Db) (userId : Uuid)
    (existing : TransactionPin) (pin : String) :
    (Auth.concludePin verify readAt db userId existing pin).2 =
      match Auth.pinOf db userId with
      | none => .error (.database .recordNotFound)
      | some _ => if verify existing.pinHash pin then .ok () else .error (Auth.wrongPin readAt existing) := by
  have hmissing : ∀ f, Auth.pinOf db userId = none →
      Auth.updatePin db userId f = .error (.database .recordNotFound) := by
    intro f hnone
    rw [Auth.pinOf] at hnone
    rw [Auth.updatePin, updateRow, hnone]
    rfl
  have hupdated : ∀ f : TransactionPin → TransactionPin,
      (∀ {a b}, Schema.Clash (f a) b → Schema.Clash a b) → ∀ p, Auth.pinOf db userId = some p →
        ∃ db', Auth.updatePin db userId f = .ok db' := by
    intro f keep p hp
    obtain ⟨pins, hpins⟩ := exists_updateRow (Table.mem_of_find? hp) (Table.prop_of_find? hp) keep
    rw [Auth.updatePin, hpins]
    exact ⟨_, rfl⟩
  rw [Auth.concludePin]
  cases hpin : Auth.pinOf db userId with
  | none =>
      rw [hmissing _ hpin, hmissing _ hpin]
      split <;> rfl
  | some p =>
      obtain ⟨right, hright⟩ := hupdated _ Auth.clash_of_acceptPin p hpin
      obtain ⟨wrong, hwrong⟩ := hupdated (Auth.rejectPin readAt existing) id p hpin
      rw [hright, hwrong]
      split <;> rfl

namespace Beside

/-- A step of one of the user's calls. -/
theorem exec (h : Beside calls db user mine s s') (huser : call.userId = user)
    (hkey : OwnKey calls user call.ledgerKey) (hmine : ∀ k, mine (ctx.uuid k)) {x : Progress}
    (hx : x.IsOf db user) :
    Beside calls db user mine (call.exec verify ctx s x).1 (call.exec verify ctx s' x).1 ∧
      (call.exec verify ctx s x).2 = (call.exec verify ctx s' x).2 ∧
        (call.exec verify ctx s' x).2.IsOf db user := by
  cases x with
  | called =>
      have hread : Auth.readPin ctx.now s call.userId = Auth.readPin ctx.now s' call.userId := by
        rw [Auth.readPin, Auth.readPin, huser, h.pin]
      rw [MovementCall.exec, MovementCall.exec, hread]
      split
      · exact ⟨h, rfl, trivial⟩
      · exact ⟨h, rfl, trivial⟩
      · exact ⟨h, rfl, trivial⟩
  | comparePin existing readAt =>
      have hsame : (Auth.concludePin verify readAt s call.userId existing call.pin).2 =
          (Auth.concludePin verify readAt s' call.userId existing call.pin).2 := by
        rw [concludePin_snd, concludePin_snd, huser, h.pin]
      have hafter : Beside calls db user mine (Auth.concludePin verify readAt s call.userId existing call.pin).1
          (Auth.concludePin verify readAt s' call.userId existing call.pin).1 :=
        h.pins (Auth.concludePin_pinsOnly ..) (Auth.concludePin_pinsOnly ..)
          (by rw [Auth.pinOf_concludePin, Auth.pinOf_concludePin, h.pin])
      rw [MovementCall.exec, MovementCall.exec]
      generalize Auth.concludePin verify readAt s call.userId existing call.pin = checked at hsame hafter
      generalize Auth.concludePin verify readAt s' call.userId existing call.pin = checked' at hsame hafter
      obtain ⟨after, result⟩ := checked
      obtain ⟨after', result'⟩ := checked'
      cases hsame
      cases result with
      | error e => exact ⟨hafter, rfl, trivial⟩
      | ok _ => exact ⟨hafter, rfl, trivial⟩
  | lookUp =>
      rw [MovementCall.exec, MovementCall.exec, h.findUnique_eq hkey]
      cases hfind : call.findUnique s' with
      | some existing => exact ⟨h, rfl, h.isOf_of_findUnique hkey hfind⟩
      | none => exact ⟨h, rfl, trivial⟩
  | settle =>
      have hsettle := h.settle huser hkey hmine
      rw [MovementCall.exec, MovementCall.exec]
      generalize call.settle ctx s = settled at hsettle
      generalize call.settle ctx s' = settled' at hsettle
      cases hsettle with
      | error e => exact ⟨h, rfl, trivial⟩
      | @ok r r' hr =>
          obtain ⟨record, after⟩ := r
          obtain ⟨record', after'⟩ := r'
          obtain ⟨rfl, hisOf, hafter⟩ := hr
          exact ⟨hafter, rfl, hisOf⟩
  | reread e =>
      rw [MovementCall.exec, MovementCall.exec, h.findUnique_eq hkey]
      cases hfind : call.findUnique s' with
      | some winner => exact ⟨h, rfl, h.isOf_of_findUnique hkey hfind⟩
      | none => exact ⟨h, rfl, trivial⟩
  | done outcome => exact ⟨h, rfl, hx⟩

end Beside

/-! ## The steps of the other -/

namespace Beside

/-- A posting of another's call. -/
theorem postOther (h : Beside calls db user mine s s') {c : LedgerPostingCommand} {id draw : Uuid}
    {ref : LedgerReference} {ledger : Ledger} (hid : ¬ mine id) (hdraw : ¬ mine draw)
    (hkey : ¬ OwnKey calls user c.idempotencyKey) (hinitiator : c.initiatedByUserId ≠ some user)
    (href : c.reference = "SEND-" ++ draw.toString ∨ c.reference = "WDL-" ++ draw.toString)
    (hspares : ∀ e ∈ c.entries, ¬ OwnAccount db user e.accountId)
    (hpost : s.ledger.postWithin id c = .ok (ref, ledger)) :
    ¬ mine ref.id ∧ Beside calls db user mine { s with ledger := ledger } s' := by
  have hother : OtherTransaction calls db user mine (postedTransaction id c) := by
    refine ⟨hid, fun other hmine ↦ ?_, hkey, hinitiator, fun accountId hown ↦ ?_⟩
    · have hne : draw.toString ≠ other.toString := fun heq ↦ hdraw (Uuid.toString_inj heq ▸ hmine)
      rcases href with href | href
      · refine ⟨fun heq ↦ hne ?_, fun heq ↦ send_ne_withdraw _ _ (href.symm.trans heq)⟩
        exact (String.append_right_inj _).mp (href.symm.trans heq)
      · refine ⟨fun heq ↦ send_ne_withdraw _ _ (heq.symm.trans href), fun heq ↦ hne ?_⟩
        exact (String.append_right_inj _).mp (href.symm.trans heq)
    · rw [LedgerTransaction.net, legs_postedTransaction]
      refine Journal.net_eq_zero fun l hl ↦ ?_
      obtain ⟨e, he, rfl⟩ := List.mem_map.mp hl
      rintro rfl
      exact hspares e he hown
  obtain ⟨haccounts, hcases⟩ := rows_of_postWithin hpost
  have hafter : Woven (OtherTransaction calls db user mine) ledger.transactions.rows
      s'.ledger.transactions.rows ∧ ¬ mine ref.id := by
    rcases hcases with ⟨hkept, t, ht, htkey, htid⟩ | ⟨happended, htid⟩
    · rw [hkept, ← htid]
      refine ⟨h.transactions, ?_⟩
      rcases h.transactions.cases_mem ht with ht | ht
      · rw [h.known t ht, htkey]
        exact hkey
      · exact ht.id
    · rw [happended, htid]
      exact ⟨h.transactions.concat_between hother, hid⟩
  exact ⟨hafter.2, { h with
    untouched := h.untouched.congr rfl rfl rfl haccounts
    transactions := hafter.1 }⟩

/-- A wallet of another has no account of the user's. -/
theorem spares_account (h : Beside calls db user mine s s') {w : Wallet} {currency : String}
    {purpose : FinancialAccountPurpose} {a : FinancialAccount} (hw : w ∈ s.wallets.rows) (hne : w.userId ≠ user)
    (ha : account s w.id currency purpose = .ok a) : ¬ OwnAccount db user a.id := by
  have hfound := orThrow_eq_ok.mp ha
  have hwallet := Table.prop_of_find? hfound
  simp only [decide_eq_true_eq] at hwallet
  exact not_ownAccount (h.untouched.wallets ▸ hw) hne (h.untouched.accounts ▸ Table.mem_of_find? hfound)
    hwallet.1

theorem otherSend (h : Beside calls db user mine s s') {caller : Uuid} {dto : SendToWalletDto} {key : String}
    {t : Transfer} {after : Db} (hne : caller ≠ user) (hfresh : ∀ k, ¬ mine (ctx.uuid k))
    (hkey : ¬ OwnKey calls user (transferKey key))
    (helsewhere : ∀ x ∈ db.users.rows, x.email = some dto.recipientEmail → x.id ≠ user)
    (hsent : Wallets.sendFresh ctx s caller dto key = .ok (t, after)) : Beside calls db user mine after s' := by
  simp only [Wallets.sendFresh, assertDifferentWallets, assertWalletActive, assertSameCurrency,
    assertSufficientFunds, bind_eq_ok, require_eq_ok, orThrow_eq_ok, pure_eq_ok, exists_const, Prod.exists,
    Prod.mk.injEq] at hsent
  obtain ⟨source, hsource, recipient, hrecipient, destination, hdestination, -, -, -, -, sender, hsender,
    receiver, hreceiver, -, posting, ledger, hpost, -, transfers, hinsert, rfl, rfl⟩ := hsent
  have hsourceIs : source.id = dto.sourceWalletId ∧ source.userId = caller := by
    simpa using Table.prop_of_find? hsource
  have hrecipientIs : recipient.email = some dto.recipientEmail := by
    simpa using Table.prop_of_find? hrecipient
  have hdestinationIs : destination.userId = recipient.id ∧ destination.currency = source.currency := by
    simpa using Table.prop_of_find? hdestination
  have helse := helsewhere recipient (h.untouched.users ▸ Table.mem_of_find? hrecipient) hrecipientIs
  have hsender' := h.spares_account (Table.mem_of_find? hsource) (hsourceIs.2 ▸ hne) hsender
  have hreceiver' := h.spares_account (Table.mem_of_find? hdestination) (hdestinationIs.1 ▸ helse) hreceiver
  have hspares : ∀ e ∈ (sendPosting ctx caller dto key source.currency sender.id receiver.id).entries,
      ¬ OwnAccount db user e.accountId := by
    simpa [sendPosting] using ⟨hsender', hreceiver'⟩
  obtain ⟨hposting, hbeside⟩ := h.postOther (hfresh 0) (hfresh 1) hkey (fun heq ↦ hne (Option.some.inj heq))
    (.inl rfl) hspares hpost
  have hother : OtherTransfer calls user mine (newTransfer ctx dto source destination key posting.id) := by
    refine ⟨hfresh 2, fun id hmine heq ↦ ?_, hkey, fun id hid ↦ Option.some.inj hid ▸ hposting⟩
    have hsame : (ctx.uuid 1).toString = id.toString := (String.append_right_inj _).mp heq
    exact hfresh 1 (Uuid.toString_inj hsame ▸ hmine)
  have hrows : Woven (OtherTransfer calls user mine) transfers.rows s'.transfers.rows := by
    rw [Table.rows_of_insert hinsert]
    exact hbeside.transfers.concat_between hother
  exact { hbeside with
    untouched := hbeside.untouched.congr rfl rfl rfl rfl
    transfers := hrows }

theorem otherWithdraw (h : Beside calls db user mine s s') {caller : Uuid} {dto : WithdrawDto} {key : String}
    {w : Withdrawal} {after : Db} (hne : caller ≠ user) (hfresh : ∀ k, ¬ mine (ctx.uuid k))
    (hkey : ¬ OwnKey calls user (withdrawalKey key))
    (hwithdrew : Wallets.withdrawFresh ctx s caller dto key = .ok (w, after)) :
    Beside calls db user mine after s' := by
  simp only [Wallets.withdrawFresh, assertWalletActive, assertSufficientFunds, bind_eq_ok, require_eq_ok,
    orThrow_eq_ok, pure_eq_ok, exists_const, Prod.exists, Prod.mk.injEq] at hwithdrew
  obtain ⟨wallet, hwallet, -, bank, -, available, havailable, reserved, hreserved, -, posting, ledger, hpost, -,
    withdrawals, hinsert, rfl, rfl⟩ := hwithdrew
  have hwalletIs : wallet.id = dto.walletId ∧ wallet.userId = caller := by
    simpa using Table.prop_of_find? hwallet
  have havailable' := h.spares_account (Table.mem_of_find? hwallet) (hwalletIs.2 ▸ hne) havailable
  have hreserved' := h.spares_account (Table.mem_of_find? hwallet) (hwalletIs.2 ▸ hne) hreserved
  have hspares : ∀ e ∈ (withdrawPosting ctx caller dto key wallet.currency bank available.id reserved.id).entries,
      ¬ OwnAccount db user e.accountId := by
    simpa [withdrawPosting] using ⟨havailable', hreserved'⟩
  obtain ⟨hposting, hbeside⟩ := h.postOther (hfresh 0) (hfresh 1) hkey (fun heq ↦ hne (Option.some.inj heq))
    (.inr rfl) hspares hpost
  have hother : OtherWithdrawal calls user mine (newWithdrawal ctx caller dto wallet key posting.id) := by
    refine ⟨hfresh 2, fun id hmine heq ↦ ?_, hkey, fun id hid ↦ Option.some.inj hid ▸ hposting⟩
    have hsame : (ctx.uuid 1).toString = id.toString := (String.append_right_inj _).mp heq
    exact hfresh 1 (Uuid.toString_inj hsame ▸ hmine)
  have hrows : Woven (OtherWithdrawal calls user mine) withdrawals.rows s'.withdrawals.rows := by
    rw [Table.rows_of_insert hinsert]
    exact hbeside.withdrawals.concat_between hother
  exact { hbeside with
    untouched := hbeside.untouched.congr rfl rfl rfl rfl
    withdrawals := hrows }

theorem otherSettle (h : Beside calls db user mine s s') (hne : call.userId ≠ user)
    (hkey : ¬ OwnKey calls user call.ledgerKey) (hfresh : ∀ k, ¬ mine (ctx.uuid k))
    (helsewhere : ∀ dto, call.movement = .send dto → ∀ x ∈ db.users.rows,
      x.email = some dto.recipientEmail → x.id ≠ user)
    {record : MovementRecord} {after : Db} (hsettle : call.settle ctx s = .ok (record, after)) :
    Beside calls db user mine after s' := by
  rw [MovementCall.settle] at hsettle
  split at hsettle
  · cases hsettle
    exact h
  · rw [MovementCall.settleFresh] at hsettle
    split at hsettle
    · next dto hmovement =>
        rw [MovementCall.ledgerKey, hmovement] at hkey
        obtain ⟨⟨t, sent⟩, hsent, heq⟩ := bind_eq_ok.mp hsettle
        cases heq
        exact h.otherSend hne hfresh hkey (helsewhere dto hmovement) hsent
    · next dto hmovement =>
        rw [MovementCall.ledgerKey, hmovement] at hkey
        obtain ⟨⟨w, withdrew⟩, hwithdrew, heq⟩ := bind_eq_ok.mp hsettle
        cases heq
        exact h.otherWithdraw hne hfresh hkey hwithdrew

/-- A step of one of another's calls. -/
theorem otherExec (h : Beside calls db user mine s s') (hne : call.userId ≠ user)
    (hkey : ¬ OwnKey calls user call.ledgerKey) (hfresh : ∀ k, ¬ mine (ctx.uuid k))
    (helsewhere : ∀ dto, call.movement = .send dto → ∀ x ∈ db.users.rows,
      x.email = some dto.recipientEmail → x.id ≠ user) (x : Progress) :
    Beside calls db user mine (call.exec verify ctx s x).1 s' := by
  cases x with
  | called =>
      rw [MovementCall.exec]
      split <;> exact h
  | comparePin existing readAt =>
      have hpin : Auth.pinOf (Auth.concludePin verify readAt s call.userId existing call.pin).1 user =
          Auth.pinOf s' user := by
        rw [Auth.pinOf_concludePin, ← h.pin]
        refine (Option.map_congr fun p hp ↦ ?_).trans Option.map_id'
        exact if_neg fun heq ↦ hne (heq.symm.trans (Auth.userId_of_pinOf hp))
      have hafter := h.pins (Auth.concludePin_pinsOnly verify readAt s call.userId existing call.pin)
        (Auth.PinsOnly.refl s') hpin
      rw [MovementCall.exec]
      generalize Auth.concludePin verify readAt s call.userId existing call.pin = checked at hafter
      obtain ⟨after, result⟩ := checked
      cases result <;> exact hafter
  | lookUp =>
      rw [MovementCall.exec]
      split <;> exact h
  | settle =>
      rw [MovementCall.exec]
      cases hsettle : call.settle ctx s with
      | error e => exact h
      | ok r => exact h.otherSettle hne hkey hfresh helsewhere hsettle
  | reread e =>
      rw [MovementCall.exec]
      split <;> exact h
  | done outcome => exact h

end Beside

end AjoCloud.Wallets
