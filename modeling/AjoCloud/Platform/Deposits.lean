import AjoCloud.Platform.Solvency

/-!
# What a deposit books

A top-up is quoted when its intent is created, collected by the provider, and booked when the
provider's webhook arrives.  The provider is asked for the total, amount and fee; the ledger books
the amount, and takes the fee out of it.
-/

namespace AjoCloud.Platform

open Lib Ledger Payments Fees

/-! ## The legs of a posting -/

/-- The account has the purpose. -/
def hasPurpose (ledger : Ledger) (accountId : Uuid) (purpose : FinancialAccountPurpose) : Bool :=
  ledger.accounts.rows.any fun a ↦ a.id = accountId ∧ a.purpose = some purpose

/-- What a transaction moves in one direction on the accounts with one purpose. -/
def legsOn (ledger : Ledger) (t : LedgerTransaction) (direction : EntryDirection)
    (purpose : FinancialAccountPurpose) : Int :=
  sumWhere t.entries (fun e ↦ e.direction = direction ∧ hasPurpose ledger e.accountId purpose)
    (·.amountMinor)

/-- The deposit matches the charge: the provider owes what it collected, the wallet and the fee
account received it between them, and the fee was taken once. -/
def DepositMatches (ledger : Ledger) (t : LedgerTransaction) (charged feeMinor : Int) : Prop :=
  legsOn ledger t .debit .providerPayable = charged ∧
    legsOn ledger t .credit .walletAvailable + legsOn ledger t .credit .platformFeeRevenue =
      charged ∧
    legsOn ledger t .credit .walletAvailable = charged - feeMinor

instance (ledger : Ledger) (t : LedgerTransaction) (charged feeMinor : Int) :
    Decidable (DepositMatches ledger t charged feeMinor) := by
  unfold DepositMatches
  infer_instance

theorem hasPurpose_eq {ledger : Ledger} {a : FinancialAccount} (ha : a ∈ ledger.accounts.rows)
    (purpose : FinancialAccountPurpose) :
    hasPurpose ledger a.id purpose = decide (a.purpose = some purpose) := by
  rw [Bool.eq_iff_iff, decide_eq_true_eq, hasPurpose, List.any_eq_true]
  constructor
  · rintro ⟨b, hb, hp⟩
    simp only [decide_eq_true_eq] at hp
    rw [← account_eq_of_id hb ha hp.1]
    exact hp.2
  · intro hp
    exact ⟨a, ha, by simp [hp]⟩

/-- A deposit debits the provider by the intent's amount, whatever its fee. -/
theorem legsOn_deposit_provider {ledger : Ledger} {accounts : DepositAccounts} (x : PaymentIntent)
    (id : Uuid) (h : IsDepositAccounts ledger accounts) :
    legsOn ledger (postedTransaction id (depositPosting x accounts)) .debit .providerPayable =
      x.amountMinor := by
  have hp := hasPurpose_eq h.providerPayable.1
  rw [h.providerPayable.2] at hp
  by_cases hpos : 0 < x.feeMinor
  · simp [legsOn, postedTransaction, depositPosting, numberEntries, sumWhere_cons, hp, hpos]
  · simp [legsOn, postedTransaction, depositPosting, numberEntries, sumWhere_cons, hp, hpos]

/-- The credits of a deposit: the amount less the fee to the wallet, and the fee. -/
theorem legsOn_deposit_credit {ledger : Ledger} {accounts : DepositAccounts} {x : PaymentIntent}
    (id : Uuid) (h : IsDepositAccounts ledger accounts) (hfee : 0 ≤ x.feeMinor) :
    legsOn ledger (postedTransaction id (depositPosting x accounts)) .credit .walletAvailable =
        x.amountMinor - x.feeMinor ∧
      legsOn ledger (postedTransaction id (depositPosting x accounts)) .credit
        .platformFeeRevenue = x.feeMinor := by
  have ha := hasPurpose_eq h.available.1
  have hf := hasPurpose_eq h.feeRevenue.1
  rw [h.available.2] at ha
  rw [h.feeRevenue.2] at hf
  -- The fee line is there when there is a fee, and a fee is not negative.
  by_cases hpos : 0 < x.feeMinor
  · simp [legsOn, postedTransaction, depositPosting, numberEntries, sumWhere_cons, ha, hf, hpos]
  · have hzero : x.feeMinor = 0 := by omega
    simp [legsOn, postedTransaction, depositPosting, numberEntries, sumWhere_cons, ha, hzero]

/-! ## Deposits in the ledger -/

theorem depositPosting_congr {x y : PaymentIntent} (h : terms x = terms y) :
    depositPosting x = depositPosting y := by
  have hid : x.id = y.id := congrArg IntentTerms.id h
  have hamount : x.amountMinor = y.amountMinor := congrArg IntentTerms.amountMinor h
  have hfee : x.feeMinor = y.feeMinor := congrArg IntentTerms.feeMinor h
  have hcurrency : x.currency = y.currency := congrArg IntentTerms.currency h
  funext accounts
  simp only [depositPosting, hid, hamount, hfee, hcurrency]

/-- The transaction is the deposit of the intent. -/
def BooksDeposit (ledger : Ledger) (x : PaymentIntent) (t : LedgerTransaction) : Prop :=
  ∃ id accounts, IsDepositAccounts ledger accounts ∧
    t = postedTransaction id (depositPosting x accounts)

/-- Every transaction under a deposit's key is the deposit of a stored intent. -/
def DepositsBooked (db : Db) : Prop :=
  ∀ t ∈ db.ledger.transactions.rows, ∀ i, t.idempotencyKey = depositKey i →
    ∃ x ∈ db.paymentIntents.rows, x.id = i ∧ BooksDeposit db.ledger x t

variable {config : Bills.BillConfig} {db db' : Db}

/-- A stored intent that booked a deposit goes on having booked it. -/
theorem BooksDeposit.keeps {x : PaymentIntent} {t : LedgerTransaction} {i : Uuid}
    (hx : x ∈ db.paymentIntents.rows) (hid : x.id = i) (h : BooksDeposit db'.ledger x t)
    (hkeeps : KeepsTerms db db') :
    ∃ x ∈ db'.paymentIntents.rows, x.id = i ∧ BooksDeposit db'.ledger x t := by
  obtain ⟨x', hx', hterms⟩ := hkeeps x hx
  obtain ⟨id, accounts, hacc, rfl⟩ := h
  refine ⟨x', hx', (congrArg IntentTerms.id hterms).trans hid, id, accounts, hacc, ?_⟩
  rw [depositPosting_congr hterms]

theorem DepositsBooked.request (h : DepositsBooked db) (hr : Request db db') :
    DepositsBooked db' := by
  intro t ht i hkey
  cases hr.posts with
  | opened hopened =>
      rw [hopened.transactions] at ht
      obtain ⟨x, hx, hid, id, accounts, hacc, hbooked⟩ := h t ht i hkey
      exact BooksDeposit.keeps hx hid ⟨id, accounts, hacc.mono hopened.accounts, hbooked⟩ hr.keeps
  | posted mid hopened id command created sound =>
      obtain ⟨-, -, -, haccounts, hrows⟩ := createTransaction_eq_ok created
      have hkept : ∀ a ∈ mid.accounts.rows, a ∈ db'.ledger.accounts.rows :=
        fun a ha ↦ haccounts ▸ ha
      rw [hrows, hopened.transactions, List.mem_append, List.mem_singleton] at ht
      rcases ht with ht | rfl
      · obtain ⟨x, hx, hid, id', accounts, hacc, hbooked⟩ := h t ht i hkey
        exact BooksDeposit.keeps hx hid
          ⟨id', accounts, (hacc.mono hopened.accounts).mono hkept, hbooked⟩ hr.keeps
      · obtain ⟨x, hx, hid, accounts, hacc, rfl⟩ := sound.deposit i hkey
        exact BooksDeposit.keeps hx hid ⟨id, accounts, hacc.mono hkept, rfl⟩ hr.keeps

/-- In every run from an empty ledger, deposits are booked under their own keys only. -/
theorem depositsBooked_of_reaches {start : Db} (h₀ : start.ledger.transactions.rows = [])
    (h : Reaches (step config) anyCall start db) : DepositsBooked db := by
  refine h.invariant (I := DepositsBooked) ?_ fun db call hd _ ↦ hd.request (step_request config db call)
  intro t ht
  rw [h₀] at ht
  cases ht

/-! ## From the quote to the books -/

/-- What a new top-up intent is created with. -/
theorem create_topUp_eq_ok {ctx : Ctx} {userId : Uuid} {targetId : Option Uuid} {requested : Int}
    {key : String} {intent : PaymentIntent}
    (hnew : ∀ x ∈ db.paymentIntents.rows, ¬ (x.userId = userId ∧ x.idempotencyKey = key))
    (h : create ctx db walletTopUpTarget userId ⟨targetId, some requested⟩ key =
      .ok (intent, db')) :
    intent.amountMinor = requested ∧ intent.totalMinor = requested + intent.feeMinor ∧
      assess db .deposit requested ctx.now = .ok intent.feeMinor ∧
      intent ∈ db'.paymentIntents.rows := by
  cases create_eq_ok h with
  | replayed mem used _ => exact absurd used (hnew intent mem)
  | stored target fee intents hresolve hfee hintent hins after =>
      change resolveTopUp db userId (some requested) = .ok target at hresolve
      simp only [resolveTopUp, bind_eq_ok, require_eq_ok, orThrow_eq_ok, pure_eq_ok, exists_const,
        Option.some.injEq, exists_eq_left'] at hresolve
      obtain ⟨-, rfl⟩ := hresolve
      subst hintent
      refine ⟨rfl, rfl, hfee, ?_⟩
      rw [after, Table.rows_of_insert hins]
      exact List.mem_append_right _ (List.mem_singleton_self _)

/-- An intent that was created is found again under its own terms. -/
theorem terms_eq_of_keeps {x y : PaymentIntent} (hkeeps : KeepsTerms db db')
    (hx : x ∈ db.paymentIntents.rows) (hy : y ∈ db'.paymentIntents.rows) (h : y.id = x.id) :
    terms y = terms x := by
  obtain ⟨z, hz, hterms⟩ := hkeeps x hx
  have hyz := intent_eq_of_id hy hz (h.trans (congrArg IntentTerms.id hterms).symm)
  rw [hyz, hterms]

/-- A deposit's legs match a charge of amount and fee exactly when there is no fee. -/
theorem depositMatches_iff {ledger : Ledger} {x : PaymentIntent} {t : LedgerTransaction}
    (h : BooksDeposit ledger x t) (hfee : 0 ≤ x.feeMinor) :
    DepositMatches ledger t (x.amountMinor + x.feeMinor) x.feeMinor ↔ x.feeMinor = 0 := by
  obtain ⟨id, accounts, hacc, rfl⟩ := h
  obtain ⟨hwallet, hrevenue⟩ := legsOn_deposit_credit id hacc hfee
  rw [DepositMatches, legsOn_deposit_provider x id hacc, hwallet, hrevenue]
  omega

/-- **A deposit books what was charged exactly when the deposit fee is zero.**  A top-up intent is
created, the provider is asked for a charge, and a webhook settles the intent, with any calls in
between. -/
theorem deposit_matches_charge_iff {start db₀ db₁ db₂ db₃ db₄ db₅ : Db} {ctx ctx' ctx'' : Ctx}
    {userId : Uuid} {targetId : Option Uuid} {requested : Int} {key reference : String}
    {intent : PaymentIntent} {provider : PaymentProvider} {method : PaymentMethod}
    {charge : ChargeRequest} (hstart : start.ledger.transactions.rows = [])
    (hrun : Reaches (step config) anyCall start db₀)
    (hnew : ∀ x ∈ db₀.paymentIntents.rows, ¬ (x.userId = userId ∧ x.idempotencyKey = key))
    (hcreate : create ctx db₀ walletTopUpTarget userId ⟨targetId, some requested⟩ key =
      .ok (intent, db₁))
    (hrun₁ : Reaches (step config) anyCall db₁ db₂)
    (hcharge : startExternal ctx' db₂ walletTopUpTarget provider userId intent.id method =
      .ok (charge, db₃))
    (hrun₂ : Reaches (step config) anyCall db₃ db₄)
    (hsettle : settleSuccessful ctx'' db₄ reference = .ok (.settled intent.id, db₅)) :
    ∃ t ∈ db₅.ledger.transactions.rows, t.idempotencyKey = depositKey intent.id ∧
      (DepositMatches db₅.ledger t charge.amountMinor intent.feeMinor ↔
        assess db₀ .deposit requested ctx.now = .ok 0) := by
  obtain ⟨hamount, htotal, hfee, hmem⟩ := create_topUp_eq_ok hnew hcreate
  obtain ⟨y, hy, hyid, hcharged, hrequest⟩ := startExternal_eq_ok hcharge
  obtain ⟨-, hne⟩ | ⟨x, accounts, posting, hsettled, -, hd⟩ := settleSuccessful_eq_ok hsettle
  · exact absurd rfl (hne intent.id)
  have hxid : intent.id = x.id := SettlementOutcome.settled.inj hsettled
  -- The terms the intent was created with are those it is charged and settled under.
  have hkeeps₂ := keepsTerms_of_reaches hrun₁
  have hkeeps₄ := (hkeeps₂.trans hrequest.keeps).trans (keepsTerms_of_reaches hrun₂)
  have hyterms := terms_eq_of_keeps hkeeps₂ hmem hy hyid
  have hbooked : DepositsBooked db₅ := by
    have h₁ := (depositsBooked_of_reaches hstart hrun).request (create_request hcreate)
    have h₂ := hrun₁.invariant (I := DepositsBooked) h₁ fun db call h _ ↦
      h.request (step_request config db call)
    have h₄ := hrun₂.invariant (I := DepositsBooked) (h₂.request hrequest) fun db call h _ ↦
      h.request (step_request config db call)
    exact h₄.request hd.request
  obtain ⟨t, ht, -, htkey⟩ := exists_key_of_postWithin hd.post
  have htkey' : t.idempotencyKey = depositKey intent.id := htkey.trans (congrArg depositKey hxid.symm)
  refine ⟨t, ht, htkey', ?_⟩
  obtain ⟨z, hz, hzid, hbooks⟩ := hbooked t ht intent.id htkey'
  have hzterms := terms_eq_of_keeps (hkeeps₄.trans hd.request.keeps) hmem hz hzid
  have hzfee : z.feeMinor = intent.feeMinor := congrArg IntentTerms.feeMinor hzterms
  have hzamount : z.amountMinor = intent.amountMinor := congrArg IntentTerms.amountMinor hzterms
  have hytotal : y.totalMinor = intent.totalMinor := congrArg IntentTerms.totalMinor hyterms
  have hiff := depositMatches_iff hbooks (hzfee ▸ assess_nonneg hfee)
  rw [hzfee, hzamount, hamount, ← htotal, ← hytotal, ← hcharged] at hiff
  rw [hiff, hfee, Except.ok.injEq]

/-! ### A top-up of the sample, without a fee and with one -/

section Sample

/-- The first member asks to add 100000. -/
def sampleCreated (db : Db) : Except ServiceError (PaymentIntent × Db) :=
  create (sampleCtx 1) db walletTopUpTarget (.ofNat 1) ⟨none, some 100000⟩ "top-up"

/-- The intent that is created, with the fee that is assessed. -/
def sampleIntent (db : Db) (feeMinor : Int) : PaymentIntent :=
  newIntent (sampleCtx 1) db walletTopUpTarget (.ofNat 1) none "top-up"
    ⟨100000, "NGN", "Wallet top-up"⟩ feeMinor

/-- The identifier it is created under. -/
def sampleIntentId : Uuid := (sampleCtx 1).uuid 0

/-- The provider is asked for a transfer. -/
def sampleCharged (db : Db) : Except ServiceError (ChargeRequest × Db) :=
  startExternal (sampleCtx 2) (committed db (sampleCreated db)) walletTopUpTarget sampleProvider
    (.ofNat 1) sampleIntentId .transfer

/-- The charge that is asked for. -/
def sampleCharge (db : Db) (feeMinor : Int) : ChargeRequest :=
  chargeRequest (sampleCtx 2) (committed db (sampleCreated db)) (sampleIntent db feeMinor)
    "Wallet top-up"

/-- The database when the transfer is awaited. -/
def sampleAwaiting (db : Db) : Db := committed (committed db (sampleCreated db)) (sampleCharged db)

/-- The webhook settles the intent. -/
def sampleSettled (db : Db) : Except ServiceError (SettlementOutcome × Db) :=
  settleSuccessful (sampleCtx 3) (sampleAwaiting db) "REF-1"

/-- The sample with a deposit fee of 1000. -/
def samplePlatformWithFee : Db :=
  { samplePlatform with
    feeDefinitions := ⟨[⟨.ofNat 41, "DEPOSIT", 1, .fixed, some 1000, none, none, none, none, none, 0,
      none, true⟩], by simp⟩ }

end Sample

/-- Without a fee the deposit books the charge. -/
theorem deposit_matches_charge_sample :
    ∃ t ∈ (committed (sampleAwaiting samplePlatform)
        (sampleSettled samplePlatform)).ledger.transactions.rows,
      t.idempotencyKey = depositKey (sampleIntent samplePlatform 0).id ∧
        (DepositMatches (committed (sampleAwaiting samplePlatform)
            (sampleSettled samplePlatform)).ledger t (sampleCharge samplePlatform 0).amountMinor
            (sampleIntent samplePlatform 0).feeMinor ↔
          assess samplePlatform .deposit 100000 (sampleCtx 1).now = .ok 0) := by
  have hcreate : create (sampleCtx 1) samplePlatform walletTopUpTarget (.ofNat 1)
      ⟨none, some 100000⟩ "top-up" = .ok (sampleIntent samplePlatform 0,
        committed samplePlatform (sampleCreated samplePlatform)) :=
    eq_ok_committed _ (by decide +kernel)
  have hcharge : startExternal (sampleCtx 2)
      (committed samplePlatform (sampleCreated samplePlatform)) walletTopUpTarget sampleProvider
      (.ofNat 1) (sampleIntent samplePlatform 0).id .transfer =
        .ok (sampleCharge samplePlatform 0, sampleAwaiting samplePlatform) :=
    eq_ok_committed _ (by decide +kernel)
  have hsettle : settleSuccessful (sampleCtx 3) (sampleAwaiting samplePlatform) "REF-1" =
      .ok (.settled (sampleIntent samplePlatform 0).id,
        committed (sampleAwaiting samplePlatform) (sampleSettled samplePlatform)) :=
    eq_ok_committed _ (by decide +kernel)
  have hrun : Reaches (step sampleConfig) anyCall samplePlatform samplePlatform := .refl _
  have hempty : samplePlatform.ledger.transactions.rows = [] := rfl
  have hnew : ∀ x ∈ samplePlatform.paymentIntents.rows,
      ¬ (x.userId = .ofNat 1 ∧ x.idempotencyKey = "top-up") := by
    intro x hx
    cases hx
  exact deposit_matches_charge_iff hempty hrun hnew hcreate (.refl _) hcharge (.refl _) hsettle

/-- With a fee of 1000 the provider is asked for 101000, and 100000 is booked. -/
theorem deposit_books_less_than_charged :
    ((sampleCreated samplePlatformWithFee).map (·.1) =
        .ok (sampleIntent samplePlatformWithFee 1000) ∧
      (sampleCharged samplePlatformWithFee).map (·.1.amountMinor) = .ok 101000 ∧
      (sampleSettled samplePlatformWithFee).map (·.1) = .ok (.settled sampleIntentId)) ∧
    ∃ t ∈ (committed (sampleAwaiting samplePlatformWithFee)
        (sampleSettled samplePlatformWithFee)).ledger.transactions.rows,
      t.idempotencyKey = depositKey sampleIntentId ∧
        legsOn (committed (sampleAwaiting samplePlatformWithFee)
          (sampleSettled samplePlatformWithFee)).ledger t .debit .providerPayable = 100000 ∧
        ¬ DepositMatches (committed (sampleAwaiting samplePlatformWithFee)
          (sampleSettled samplePlatformWithFee)).ledger t 101000 1000 := by
  decide +kernel

end AjoCloud.Platform
