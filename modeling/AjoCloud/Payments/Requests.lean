import AjoCloud.Ledger.Solvency
import AjoCloud.Payments.Inversion
import AjoCloud.Payments.Settlement
import AjoCloud.Payments.Targets

/-!
# Requests

What every request of the platform has in common: it keeps the terms of the intents it finds, it
posts at most one command, the wallets can afford that command, and only the settlement of a
deposit posts under a deposit's key.  The payment service has it for every target that leaves the
ledger and the intents to the service.
-/

namespace AjoCloud.Payments

open Lib Ledger Fees

/-! ## The terms of an intent -/

/-- What an intent is created with and keeps. -/
structure IntentTerms where
  id : Uuid
  userId : Uuid
  targetType : PaymentTargetType
  targetId : Option Uuid
  amountMinor : Int
  feeMinor : Int
  totalMinor : Int
  currency : String

/-- The terms of a stored intent. -/
def terms (x : PaymentIntent) : IntentTerms where
  id := x.id
  userId := x.userId
  targetType := x.targetType
  targetId := x.targetId
  amountMinor := x.amountMinor
  feeMinor := x.feeMinor
  totalMinor := x.totalMinor
  currency := x.currency

/-- Every intent is still there, under the same terms. -/
def KeepsTerms (db db' : Db) : Prop :=
  ∀ x ∈ db.paymentIntents.rows, ∃ x' ∈ db'.paymentIntents.rows, terms x' = terms x

variable {ctx : Ctx} {db db' : Db} {handler : PaymentTarget} {userId : Uuid}

theorem KeepsTerms.of_eq (h : db'.paymentIntents = db.paymentIntents) : KeepsTerms db db' :=
  fun x hx ↦ ⟨x, h ▸ hx, rfl⟩

theorem KeepsTerms.of_append {xs : List PaymentIntent}
    (h : db'.paymentIntents.rows = db.paymentIntents.rows ++ xs) : KeepsTerms db db' :=
  fun x hx ↦ ⟨x, h ▸ List.mem_append_left xs hx, rfl⟩

theorem KeepsTerms.of_map {f : PaymentIntent → PaymentIntent}
    (h : db'.paymentIntents.rows = db.paymentIntents.rows.map f)
    (hf : ∀ x, terms (f x) = terms x) : KeepsTerms db db' :=
  fun x hx ↦ ⟨f x, h ▸ List.mem_map_of_mem hx, hf x⟩

theorem KeepsTerms.trans {db'' : Db} (h : KeepsTerms db db') (h' : KeepsTerms db' db'') :
    KeepsTerms db db'' := by
  intro x hx
  obtain ⟨x', hx', hxx'⟩ := h x hx
  obtain ⟨x'', hx'', hx'x''⟩ := h' x' hx'
  exact ⟨x'', hx'', hx'x''.trans hxx'⟩

/-- Rewriting some of the intents keeps their terms when the rewriting does. -/
theorem terms_ite {p : Prop} [Decidable p] {x y : PaymentIntent} (h : terms y = terms x) :
    terms (if p then y else x) = terms x := by
  split
  · exact h
  · rfl

/-! ## Sound commands -/

/-- The accounts of a deposit have the purposes their names say. -/
structure IsDepositAccounts (ledger : Ledger) (accounts : DepositAccounts) : Prop where
  available : accounts.available ∈ ledger.accounts.rows ∧
    accounts.available.purpose = some .walletAvailable
  providerPayable : accounts.providerPayable ∈ ledger.accounts.rows ∧
    accounts.providerPayable.purpose = some .providerPayable
  feeRevenue : accounts.feeRevenue ∈ ledger.accounts.rows ∧
    accounts.feeRevenue.purpose = some .platformFeeRevenue

theorem accountsFor_eq_ok {currency : String} {accounts : DepositAccounts}
    (h : accountsFor db userId currency = .ok accounts) :
    IsDepositAccounts db.ledger accounts := by
  simp only [accountsFor, bind_eq_ok, orThrow_eq_ok, pure_eq_ok] at h
  obtain ⟨wallet, -, available, ha, provider, hp, fee, hf, rfl⟩ := h
  have hap := Table.prop_of_find? ha
  have hpp := Table.prop_of_find? hp
  have hfp := Table.prop_of_find? hf
  simp only [decide_eq_true_eq] at hap hpp hfp
  exact ⟨⟨Table.mem_of_find? ha, hap.2⟩, ⟨Table.mem_of_find? hp, hpp.1⟩,
    ⟨Table.mem_of_find? hf, hfp.1⟩⟩

/-- All accounts a deposit posts to exist. -/
theorem exists_account_of_depositPosting {ledger : Ledger} {intent : PaymentIntent}
    {accounts : DepositAccounts} (h : IsDepositAccounts ledger accounts) :
    ∀ e ∈ (depositPosting intent accounts).entries, ∃ a ∈ ledger.accounts.rows, a.id = e.accountId := by
  intro e he
  simp only [depositPosting, List.cons_append, List.nil_append, List.mem_cons] at he
  rcases he with rfl | rfl | he
  · exact ⟨_, h.providerPayable.1, rfl⟩
  · exact ⟨_, h.available.1, rfl⟩
  · split at he
    · rw [List.mem_singleton.mp he]
      exact ⟨_, h.feeRevenue.1, rfl⟩
    · cases he

/-- Accounts are found under their purposes in every later ledger. -/
theorem IsDepositAccounts.mono {ledger ledger' : Ledger} {accounts : DepositAccounts}
    (h : IsDepositAccounts ledger accounts)
    (hacc : ∀ a ∈ ledger.accounts.rows, a ∈ ledger'.accounts.rows) :
    IsDepositAccounts ledger' accounts where
  available := ⟨hacc _ h.available.1, h.available.2⟩
  providerPayable := ⟨hacc _ h.providerPayable.1, h.providerPayable.2⟩
  feeRevenue := ⟨hacc _ h.feeRevenue.1, h.feeRevenue.2⟩

/-- The command is the deposit of the intent `i`, which is stored. -/
def IsDepositOf (db : Db) (ledger : Ledger) (command : LedgerPostingCommand) (i : Uuid) : Prop :=
  ∃ x ∈ db.paymentIntents.rows, x.id = i ∧
    ∃ accounts, IsDepositAccounts ledger accounts ∧ command = depositPosting x accounts

/-- A command that a request may post. -/
structure Sound (db : Db) (ledger : Ledger) (command : LedgerPostingCommand) : Prop where
  affords : Affords ledger command
  deposit : ∀ i, command.idempotencyKey = depositKey i → IsDepositOf db ledger command i

/-- A command under a key that does not open like a deposit's. -/
theorem Sound.of_key {ledger : Ledger} {command : LedgerPostingCommand} (ha : Affords ledger command)
    {p r : String} (n : Nat) (hkey : command.idempotencyKey = p ++ r) (hp : n ≤ p.toList.length)
    (hn : n ≤ "payment-settlement:".toList.length)
    (hne : p.toList.take n ≠ "payment-settlement:".toList.take n) : Sound db ledger command where
  affords := ha
  deposit := fun i h ↦ absurd (hkey.symm.trans h) (append_ne_append n hp hn hne r i.toString)

/-- What a request did. -/
structure Request (db db' : Db) : Prop where
  posts : Posts (Sound db) db.ledger db'.ledger
  keeps : KeepsTerms db db'

/-- A request that posts nothing and leaves the intents. -/
theorem Request.idle (hl : Opened db.ledger db'.ledger)
    (hi : db'.paymentIntents = db.paymentIntents) : Request db db' := ⟨.opened hl, .of_eq hi⟩

theorem Request.refl (db : Db) : Request db db := .idle (.refl _) rfl

/-- A transaction that is a request whenever it returns is one when it is committed. -/
theorem Request.committed {α : Type} {result : Except ServiceError (α × Db)}
    (h : ∀ a db', result = .ok (a, db') → Request db db') :
    Request db (committed db result) := by
  rcases result with e | ⟨a, db'⟩
  · exact .refl db
  · exact h a db' rfl

/-! ## Targets -/

/-- A target that leaves the ledger's transactions and the intents to the service. -/
structure LawfulTarget (handler : PaymentTarget) : Prop where
  credit : ∀ {ctx db targetId currency destination db'},
    handler.creditAccount ctx db targetId currency = .ok (destination, db') →
      Opened db.ledger db'.ledger ∧ db'.paymentIntents = db.paymentIntents
  settle : ∀ {ctx db payment db'}, handler.settle ctx db payment = .ok db' →
    db'.ledger = db.ledger ∧ db'.paymentIntents = db.paymentIntents

theorem providerPayableAccount_eq_ok {currency : String} {destination : Uuid}
    (h : providerPayableAccount db currency = .ok (destination, db')) : db' = db := by
  simp only [providerPayableAccount, bind_eq_ok, orThrow_eq_ok, pure_eq_ok, Prod.mk.injEq] at h
  obtain ⟨_, -, -, rfl⟩ := h
  rfl

theorem lawful_akawoPoolDueTarget : LawfulTarget akawoPoolDueTarget where
  credit := by
    intro ctx db targetId currency destination db' h
    rw [providerPayableAccount_eq_ok h]
    exact ⟨.refl _, rfl⟩
  settle := by
    intro ctx db payment db' h
    change settleDue ctx db payment = .ok db' at h
    unfold settleDue at h
    split at h
    · cases h
      exact ⟨rfl, rfl⟩
    · simp only [bind_eq_ok, pure_eq_ok] at h
      obtain ⟨dues, -, rfl⟩ := h
      exact ⟨rfl, rfl⟩

theorem lawful_walletTopUpTarget : LawfulTarget walletTopUpTarget where
  credit := by
    intro ctx db targetId currency destination db' h
    rw [providerPayableAccount_eq_ok h]
    exact ⟨.refl _, rfl⟩
  settle := by
    intro ctx db payment db' h
    cases h
    exact ⟨rfl, rfl⟩

/-! ## The payment service -/

theorem create_request {dto : CreateIntentDto} {key : String} {r : PaymentIntent}
    (h : create ctx db handler userId dto key = .ok (r, db')) : Request db db' := by
  obtain ⟨xs, hrows, hdb'⟩ := (create_eq_ok h).append
  exact ⟨.opened (by rw [hdb']; exact .refl _), .of_append hrows⟩

/-- The payer's debit comes first; everything after it is a credit. -/
theorem entries_walletPosting (handler : PaymentTarget) (userId : Uuid) (intent : PaymentIntent)
    (key description : String) (payer : PayerAccounts) (destination : Uuid) :
    ∃ rest, (walletPosting handler userId intent key description payer destination).entries =
        ⟨payer.available.id, .debit, intent.totalMinor⟩ :: rest ∧
      ∀ e ∈ rest, e.direction = .credit := by
  refine ⟨_, rfl, ?_⟩
  intro e he
  rcases List.mem_cons.mp he with rfl | he
  · rfl
  · split at he
    · rw [List.mem_singleton.mp he]
    · cases he

theorem settleFromWallet_request (hlawful : LawfulTarget handler) {intentId : Uuid} {key : String}
    {r : PaymentIntent} (h : settleFromWallet ctx db handler userId intentId key = .ok (r, db')) :
    Request db db' := by
  obtain ⟨intent, -, -, -, ⟨-, rfl⟩ | ⟨-, target, payer, destination, opened, posting, ledger,
    settled, hs⟩⟩ := settleFromWallet_eq_ok h
  · exact .refl _
  · obtain ⟨hopened, hintents⟩ := hlawful.credit hs.credit
    obtain ⟨hledger, hintents'⟩ := hlawful.settle hs.settle
    refine ⟨?_, ?_⟩
    · have hdb' : db'.ledger = ledger := by rw [hs.after]; exact hledger
      rw [hdb']
      refine .of_postWithin hopened hs.post fun hb ↦ ?_
      obtain ⟨rest, hentries, hrest⟩ := entries_walletPosting handler userId intent key
        target.description payer destination
      refine .of_key (affords_of_payer hb hentries hrest hs.covered) 9 String.append_assoc
        (by simp) (by simp) (by simp)
    · refine .of_map (f := fun i ↦ if i.id = intent.id then markSettled ctx handler posting i else i)
        ?_ fun x ↦ terms_ite rfl
      rw [hs.intents, hintents', ← hintents]

theorem startExternal_eq_ok {provider : PaymentProvider} {intentId : Uuid} {method : PaymentMethod}
    {charge : ChargeRequest}
    (h : startExternal ctx db handler provider userId intentId method = .ok (charge, db')) :
    ∃ intent ∈ db.paymentIntents.rows, intent.id = intentId ∧ charge.amountMinor = intent.totalMinor ∧
      Request db db' := by
  simp only [startExternal, bind_eq_ok, orThrow_eq_ok, pure_eq_ok, Prod.mk.injEq] at h
  obtain ⟨intent, hfind, target, -, answer, -, intents, hupdate, rfl, rfl⟩ := h
  have hp := Table.prop_of_find? hfind
  simp only [decide_eq_true_eq] at hp
  refine ⟨intent, Table.mem_of_find? hfind, hp.1, rfl, .opened (.refl _), ?_⟩
  exact .of_map (Table.rows_of_update hupdate) fun x ↦ terms_ite rfl

/-! ## Deposits -/

/-- The steps of a deposit that was settled. -/
structure Deposited (ctx : Ctx) (db : Db) (intent : PaymentIntent) (db' : Db)
    (accounts : DepositAccounts) (posting : LedgerReference) : Prop where
  mem : intent ∈ db.paymentIntents.rows
  found : IsDepositAccounts db.ledger accounts
  post : db.ledger.postWithin (ctx.uuid 0) (depositPosting intent accounts) =
    .ok (posting, db'.ledger)
  intents : db'.paymentIntents.rows = db.paymentIntents.rows.map fun i ↦
    if i.id = intent.id then markDeposited ctx posting i else i

/-- `settleDeposit` settled the intent, or wrote nothing. -/
theorem settleDeposit_eq_ok {intentId : Uuid} {outcome : SettlementOutcome}
    (h : settleDeposit ctx db intentId = .ok (outcome, db')) :
    (db' = db ∧ ∀ i, outcome ≠ .settled i) ∨
      ∃ intent accounts posting, intent.id = intentId ∧ outcome = .settled intentId ∧
        Deposited ctx db intent db' accounts posting := by
  unfold settleDeposit at h
  split at h
  · cases h
    exact .inl ⟨rfl, nofun⟩
  · next intent hfind =>
      have hid : intent.id = intentId := by simpa using Table.prop_of_find? hfind
      split at h
      · cases h
        exact .inl ⟨rfl, nofun⟩
      · simp only [postDeposit, bind_eq_ok, pure_eq_ok, Prod.exists, Prod.mk.injEq] at h
        obtain ⟨accounts, haccounts, posting, ledger, hpost, intents, hupdate, rfl, rfl⟩ := h
        refine .inr ⟨intent, accounts, posting, hid, by rw [hid], Table.mem_of_find? hfind,
          accountsFor_eq_ok haccounts, hpost, ?_⟩
        simpa only [decide_eq_true_eq] using updateRow_eq_ok hupdate

/-- A deposit debits the provider's account, which is no wallet. -/
theorem Deposited.request {intent : PaymentIntent} {accounts : DepositAccounts}
    {posting : LedgerReference} (h : Deposited ctx db intent db' accounts posting) :
    Request db db' := by
  refine ⟨.of_postWithin (.refl _) h.post fun hb ↦ ⟨affords_of_debits hb ?_, ?_⟩,
    .of_map h.intents fun x ↦ terms_ite rfl⟩
  · intro e he hdir
    simp only [depositPosting, List.cons_append, List.nil_append, List.mem_cons] at he
    rcases he with rfl | rfl | he
    · refine ⟨_, h.found.providerPayable.1, rfl, ?_⟩
      rw [h.found.providerPayable.2]
      exact nofun
    · cases hdir
    · split at he
      · rw [List.mem_singleton.mp he] at hdir
        cases hdir
      · cases he
  · intro i hi
    have hid : intent.id = i := by
      unfold depositPosting depositKey at hi
      have hi' : "payment-settlement:" ++ intent.id.toString ++ "" =
          "payment-settlement:" ++ i.toString ++ "" := by
        rw [String.append_empty, String.append_empty]
        exact hi
      exact (keyed_inj hi').1
    exact ⟨intent, h.mem, hid, accounts, h.found, rfl⟩

theorem settleDeposit_request {intentId : Uuid} {outcome : SettlementOutcome}
    (h : settleDeposit ctx db intentId = .ok (outcome, db')) : Request db db' := by
  obtain ⟨rfl, -⟩ | ⟨_, _, _, -, -, hd⟩ := settleDeposit_eq_ok h
  · exact .refl _
  · exact hd.request

/-- An intent can be pointed to a posting that no intent points to. -/
theorem exists_markDeposited (ctx : Ctx) (current : PaymentIntent) (posting : LedgerReference)
    (hfresh : ∀ i ∈ db.paymentIntents.rows, i.ledgerTransactionId ≠ some posting.id) :
    ∃ intents, db.paymentIntents.update (fun i ↦ i.id = current.id) (markDeposited ctx posting) =
      some intents := by
  refine db.paymentIntents.exists_update_of _ _ fun a ha b hb hab ↦ ?_
  have hone : ∀ {u v : PaymentIntent}, v ∈ db.paymentIntents.rows → ¬ Schema.Clash u v →
      ¬ Schema.Clash (markDeposited ctx posting u) v := by
    rintro u v hv huv (((hid | hkey) | href) | hpoints)
    · exact huv (.inl (.inl (.inl hid)))
    · exact huv (.inl (.inl (.inr hkey)))
    · exact huv (.inl (.inr href))
    · exact hfresh v hv hpoints.2.symm
  simp only [decide_eq_true_eq]
  by_cases haid : a.id = current.id
  · by_cases hbid : b.id = current.id
    · exact absurd (.inl (.inl (.inl (haid.trans hbid.symm)))) hab
    · rw [if_pos haid, if_neg hbid]
      exact hone hb hab
  · by_cases hbid : b.id = current.id
    · rw [if_neg haid, if_pos hbid]
      exact fun h ↦ hone ha (fun h' ↦ hab (Schema.symm h')) (Schema.symm h)
    · rw [if_neg haid, if_neg hbid]
      exact hab

/-- A deposit goes through when its accounts are found, its posting is accepted, and no intent points
to the posting. -/
theorem exists_postDeposit {intent : PaymentIntent} {accounts : DepositAccounts}
    {posting : LedgerReference} {ledger : Ledger} (hmem : intent ∈ db.paymentIntents.rows)
    (haccounts : accountsFor db intent.userId intent.currency = .ok accounts)
    (hpost : db.ledger.postWithin (ctx.uuid 0) (depositPosting intent accounts) =
      .ok (posting, ledger))
    (hfresh : ∀ i ∈ db.paymentIntents.rows, i.ledgerTransactionId ≠ some posting.id) :
    ∃ db', postDeposit ctx db intent = .ok (.settled intent.id, db') := by
  obtain ⟨intents, hupdate⟩ := exists_markDeposited ctx intent posting hfresh
  obtain ⟨found, hfind⟩ : ∃ found, db.paymentIntents.find? (fun i ↦ i.id = intent.id) = some found := by
    rw [← Option.isSome_iff_exists, Table.find?, List.find?_isSome]
    exact ⟨intent, hmem, by simp⟩
  have hwrite : updateRow db.paymentIntents (fun i ↦ i.id = intent.id) (markDeposited ctx posting) =
      .ok intents := by
    rw [updateRow, hfind, hupdate]
    rfl
  refine ⟨{ db with ledger := ledger, paymentIntents := intents }, ?_⟩
  simp only [postDeposit, bind_eq_ok, pure_eq_ok]
  exact ⟨accounts, haccounts, ⟨posting, ledger⟩, hpost, intents, hwrite, rfl⟩

theorem intent_eq_of_id {x y : PaymentIntent} (hx : x ∈ db.paymentIntents.rows)
    (hy : y ∈ db.paymentIntents.rows) (h : x.id = y.id) : x = y :=
  db.paymentIntents.eq_of_clash hx hy (.inl (.inl (.inl h)))

/-- `settleSuccessful` is `settleDeposit` of the intent with the reference, or it wrote nothing. -/
theorem settleSuccessful_cases {reference : String} {outcome : SettlementOutcome}
    (h : settleSuccessful ctx db reference = .ok (outcome, db')) :
    (db' = db ∧ ∀ i, outcome ≠ .settled i) ∨
      ∃ intent ∈ db.paymentIntents.rows, intent.providerReference = some reference ∧
        settleDeposit ctx db intent.id = .ok (outcome, db') := by
  unfold settleSuccessful at h
  split at h
  · cases h
    exact .inl ⟨rfl, nofun⟩
  · next found hfind =>
      have hreference := Table.prop_of_find? hfind
      simp only [decide_eq_true_eq] at hreference
      split at h
      · cases h
        exact .inl ⟨rfl, nofun⟩
      · exact .inr ⟨found, Table.mem_of_find? hfind, hreference, h⟩

/-- A webhook settled the intent with its reference, or it wrote nothing. -/
theorem settleSuccessful_eq_ok {reference : String} {outcome : SettlementOutcome}
    (h : settleSuccessful ctx db reference = .ok (outcome, db')) :
    (db' = db ∧ ∀ i, outcome ≠ .settled i) ∨
      ∃ intent accounts posting, outcome = .settled intent.id ∧
        intent.providerReference = some reference ∧
        Deposited ctx db intent db' accounts posting := by
  obtain hidle | ⟨found, hmem, hreference, hsettle⟩ := settleSuccessful_cases h
  · exact .inl hidle
  · obtain hidle | ⟨intent, accounts, posting, hid, houtcome, hd⟩ := settleDeposit_eq_ok hsettle
    · exact .inl hidle
    · have hfound := intent_eq_of_id hd.mem hmem hid
      exact .inr ⟨intent, accounts, posting, houtcome.trans (congrArg _ hid.symm),
        hfound ▸ hreference, hd⟩

theorem failIntent_request (db : Db) (intentId : Uuid) (reason : String) :
    Request db (failIntent db intentId reason) :=
  ⟨.opened (.refl _), .of_map rfl fun _ ↦ terms_ite rfl⟩

end AjoCloud.Payments
