import AjoCloud.Fees.Bounds
import AjoCloud.Ledger.Transfer
import AjoCloud.Platform.Deposits

/-!
# Deposits that can be credited

The fee of a top-up is quoted when the intent is created, and taken out of the credit when the provider
has collected the money.  Here is when something is left to credit, and so when the collected deposit
can be settled.
-/

namespace AjoCloud.Platform

open Lib Ledger Payments Fees

variable {config : Bills.BillConfig} {db db' : Db} {ctx : Ctx} {x : PaymentIntent}
  {accounts : DepositAccounts}

/-! ## The posting of a deposit -/

/-- A deposit is accepted when its currency is a code and the fee leaves something to credit. -/
theorem assertBalancedPosting_deposit (hfee : 0 ≤ x.feeMinor) :
    assertBalancedPosting (depositPosting x accounts) = .ok () ↔
      isCurrencyCode x.currency = true ∧ 0 < x.amountMinor - x.feeMinor := by
  constructor
  · intro hassert
    have hbalanced := balanced_of_assertBalancedPosting hassert
    refine ⟨hbalanced.currency,
      hbalanced.pos ⟨accounts.available.id, .credit, x.amountMinor - x.feeMinor⟩ ?_⟩
    simp [depositPosting]
  · rintro ⟨hcurrency, hleft⟩
    simp only [assertBalancedPosting, bind_eq_ok, require_eq_ok, exists_const]
    have hamount : ¬ x.amountMinor ≤ 0 := by omega
    refine ⟨?_, hcurrency, (x.amountMinor, x.amountMinor), ?_, rfl⟩
    · simp [depositPosting]
    · rcases hfee.lt_or_eq with hpos | hzero
      · simp [depositPosting, sumEntries, hpos, hamount, not_le.mpr hleft, not_le.mpr hpos]
      · simp [depositPosting, sumEntries, ← hzero, hamount]

/-- What is there when a collected deposit can be settled, its posting apart: the intent under the
reference of the charge, the accounts, and an identifier, a key and a reference that are not taken. -/
structure Collected (ctx : Ctx) (db : Db) (reference : String) (x : PaymentIntent)
    (accounts : DepositAccounts) : Prop where
  mem : x ∈ db.paymentIntents.rows
  charged : x.providerReference = some reference
  unsettled : x.status ≠ .succeeded
  found : accountsFor db x.userId x.currency = .ok accounts
  fresh : ∀ t ∈ db.ledger.transactions.rows,
    ¬ Schema.Clash t (postedTransaction (ctx.uuid 0) (depositPosting x accounts))
  unpointed : ∀ i ∈ db.paymentIntents.rows, i.ledgerTransactionId ≠ some (ctx.uuid 0)

theorem fitsColumns_depositPosting : (depositPosting x accounts).FitsColumns := by
  refine ⟨fitsVarChar_append_shortCode (by decide +kernel) x.id, ?_, fun c hc ↦ ?_⟩
  · have hfits : fitsVarChar 500 "Wallet deposit" := by decide +kernel
    exact hfits
  · obtain rfl : x.id.toString = c := Option.some.inj hc
    rw [fitsVarChar, Uuid.length_toString]
    decide

/-- The amounts of a deposit that leaves something to credit fit when the intent's amount does. -/
theorem fits_of_mem_depositPosting (hfee : 0 ≤ x.feeMinor) (hamount : fitsBigInt x.amountMinor = true)
    (hleft : 0 < x.amountMinor - x.feeMinor) :
    ∀ e ∈ (depositPosting x accounts).entries, fitsBigInt e.amountMinor = true := by
  rw [fitsBigInt_iff (by omega)] at hamount
  intro e he
  have hbounds : 0 ≤ e.amountMinor ∧ e.amountMinor < 2 ^ 63 := by
    simp only [depositPosting, List.cons_append, List.nil_append, List.mem_cons] at he
    rcases he with rfl | rfl | he
    · dsimp only
      omega
    · dsimp only
      omega
    · split at he
      · rw [List.mem_singleton.mp he]
        dsimp only
        omega
      · cases he
  exact (fitsBigInt_iff hbounds.1).mpr hbounds.2

/-- A collected deposit is settled exactly when its posting is accepted. -/
theorem Collected.settles_iff {reference : String} (h : Collected ctx db reference x accounts)
    (hfee : 0 ≤ x.feeMinor) (hamount : fitsBigInt x.amountMinor = true) :
    (∃ db', settleSuccessful ctx db reference = .ok (.settled x.id, db')) ↔
      assertBalancedPosting (depositPosting x accounts) = .ok () := by
  constructor
  · rintro ⟨db', hsettle⟩
    obtain ⟨-, hne⟩ | ⟨y, accounts', posting, houtcome, -, hd⟩ := settleSuccessful_eq_ok hsettle
    · exact absurd rfl (hne x.id)
    · obtain rfl : x = y := intent_eq_of_id h.mem hd.mem (SettlementOutcome.settled.inj houtcome)
      have haccepted := (exists_postWithin_iff.mp ⟨_, hd.post⟩).1
      rwa [assertBalancedPosting_deposit hfee] at haccepted ⊢
  · intro haccepted
    obtain ⟨hcurrency, hleft⟩ := (assertBalancedPosting_deposit hfee).mp haccepted
    have hnone : db.ledger.byKey (depositPosting x accounts).idempotencyKey = none := by
      rw [byKey, Table.find?, List.find?_eq_none]
      intro t ht hkey
      exact h.fresh t ht (clash_postedTransaction_iff.mpr (.inr (of_decide_eq_true hkey)))
    have hcreated : ∃ ledger, db.ledger.createTransaction
        (postedTransaction (ctx.uuid 0) (depositPosting x accounts)) = .ok ledger := by
      refine exists_createTransaction_iff.mpr ⟨fits_postedTransaction fitsColumns_depositPosting
        (fitsVarChar_append_uuid (by decide +kernel) x.id) hcurrency
        (fits_of_mem_depositPosting hfee hamount hleft), ?_, h.fresh⟩
      intro e he
      exact exists_account_of_depositPosting (accountsFor_eq_ok h.found) e.line
        (line_mem_of_mem_numberEntries he)
    obtain ⟨⟨posting, ledger⟩, hpost⟩ := exists_postWithin_iff.mpr ⟨haccepted, .inr ⟨hnone, hcreated⟩⟩
    have hid : posting.id = ctx.uuid 0 := by
      rw [id_of_postWithin hpost, hnone]
      rfl
    obtain ⟨db', hdeposit⟩ := exists_postDeposit h.mem h.found hpost
      (fun i hi ↦ hid ▸ h.unpointed i hi)
    have hcharged : db.paymentIntents.find? (fun i ↦ i.providerReference = some reference) = some x :=
      db.paymentIntents.find?_eq_some_of_mem h.mem (by simp [h.charged]) fun y _ hy ↦
        .inl (.inr ⟨Option.isSome_of_eq_some (of_decide_eq_true hy),
          (of_decide_eq_true hy).trans h.charged.symm⟩)
    have hfound : db.paymentIntents.find? (fun i ↦ i.id = x.id) = some x :=
      db.paymentIntents.find?_eq_some_of_mem h.mem (by simp) fun y _ hy ↦
        .inl (.inl (.inl (of_decide_eq_true hy)))
    refine ⟨db', ?_⟩
    simp only [settleSuccessful, hcharged, settleDeposit, hfound, if_neg h.unsettled, hdeposit]

/-! ## From the quote to the credit -/

/-- The payer's wallet has a currency code. -/
def WalletCoded (db : Db) (userId : Uuid) : Prop :=
  ∀ w, db.wallets.find? (fun w ↦ w.userId = userId) = some w → isCurrencyCode w.currency = true

/-- What a new top-up intent asks for. -/
theorem create_topUp_currency {userId : Uuid} {targetId : Option Uuid} {requested : Int}
    {key : String} (hnew : ∀ x ∈ db.paymentIntents.rows, ¬ (x.userId = userId ∧ x.idempotencyKey = key))
    (h : create ctx db walletTopUpTarget userId ⟨targetId, some requested⟩ key = .ok (x, db')) :
    0 < requested ∧ fitsBigInt x.amountMinor = true ∧
      (isCurrencyCode x.currency = true ↔ WalletCoded db userId) := by
  have hnone : db.paymentIntents.find? (fun i ↦ i.userId = userId ∧ i.idempotencyKey = key) = none := by
    rw [Table.find?, List.find?_eq_none]
    intro i hi
    simpa using hnew i hi
  simp only [create, hnone, createFresh, bind_eq_ok, require_eq_ok, orThrow_eq_ok, pure_eq_ok,
    exists_const, Prod.mk.injEq] at h
  obtain ⟨-, target, hresolve, hpayable, fee, -, hfits, intents, -, rfl, -⟩ := h
  change resolveTopUp db userId (some requested) = .ok target at hresolve
  simp only [resolveTopUp, bind_eq_ok, require_eq_ok, orThrow_eq_ok, pure_eq_ok, exists_const,
    Option.some.injEq, exists_eq_left'] at hresolve
  obtain ⟨-, rfl⟩ := hresolve
  simp only [intentFits, Bool.and_eq_true] at hfits
  refine ⟨of_decide_eq_true hpayable, hfits.1.1.2, ?_⟩
  unfold WalletCoded newIntent
  dsimp only
  cases db.wallets.find? (fun w ↦ w.userId = userId) with
  | none => simpa using (by decide +kernel : isCurrencyCode "NGN" = true)
  | some w => simp

/-- **A charged deposit can be credited exactly when its rule stays below the amount.**  A top-up intent
is created; its net credit is positive, its posting is accepted at whatever later time it is built, and
when it has been collected it is settled, if and only if the deposit fee in force stays below the
amount (the wallet's currency being a code). -/
theorem deposit_creditable_iff {userId : Uuid} {targetId : Option Uuid} {requested : Int}
    {key : String} {intent : PaymentIntent}
    (hnew : ∀ x ∈ db.paymentIntents.rows, ¬ (x.userId = userId ∧ x.idempotencyKey = key))
    (hcreate : create ctx db walletTopUpTarget userId ⟨targetId, some requested⟩ key =
      .ok (intent, db')) :
    (0 < intent.amountMinor - intent.feeMinor ↔
      DefinitionStaysBelow db .deposit requested ctx.now) ∧
    ∀ later, Reaches (step config) anyCall db' later →
      ∀ x ∈ later.paymentIntents.rows, x.id = intent.id → ∀ accounts,
        (assertBalancedPosting (depositPosting x accounts) = .ok () ↔
          WalletCoded db userId ∧ DefinitionStaysBelow db .deposit requested ctx.now) ∧
        ∀ ctx' reference, Collected ctx' later reference x accounts →
          ((∃ settled, settleSuccessful ctx' later reference = .ok (.settled intent.id, settled)) ↔
            WalletCoded db userId ∧ DefinitionStaysBelow db .deposit requested ctx.now) := by
  obtain ⟨hamount, -, hfee, hmem⟩ := create_topUp_eq_ok hnew hcreate
  obtain ⟨hpos, hfits, hcoded⟩ := create_topUp_currency hnew hcreate
  have hleft : 0 < intent.amountMinor - intent.feeMinor ↔
      DefinitionStaysBelow db .deposit requested ctx.now := by
    rw [← assess_lt_iff hpos hfee, hamount, sub_pos]
  refine ⟨hleft, fun later hrun x hx hid accounts ↦ ?_⟩
  -- The intent keeps the terms it was created with.
  have hterms := terms_eq_of_keeps (keepsTerms_of_reaches hrun) hmem hx hid
  have hxamount : x.amountMinor = intent.amountMinor := congrArg IntentTerms.amountMinor hterms
  have hxfee : x.feeMinor = intent.feeMinor := congrArg IntentTerms.feeMinor hterms
  have hxcurrency : x.currency = intent.currency := congrArg IntentTerms.currency hterms
  have hnonneg : 0 ≤ x.feeMinor := hxfee ▸ assess_nonneg hfee
  have haccepted : assertBalancedPosting (depositPosting x accounts) = .ok () ↔
      WalletCoded db userId ∧ DefinitionStaysBelow db .deposit requested ctx.now := by
    rw [assertBalancedPosting_deposit hnonneg, hxamount, hxfee, hxcurrency, hcoded, hleft]
  refine ⟨haccepted, fun ctx' reference hcollected ↦ ?_⟩
  rw [← haccepted, ← hid]
  exact hcollected.settles_iff hnonneg (hxamount ▸ hfits)

section Sample

/-- The sample with a deposit fee of as much as the smallest deposit. -/
def samplePlatformWithLargeFee : Db :=
  { samplePlatform with
    feeDefinitions := ⟨[⟨.ofNat 41, "DEPOSIT", 1, .fixed, some 50000, none, none, none, none, none, 0,
      none, true⟩], by simp⟩ }

/-- The first member asks to add the least there is to add. -/
def sampleLeast : Except ServiceError (PaymentIntent × Db) :=
  create (sampleCtx 1) samplePlatformWithLargeFee walletTopUpTarget (.ofNat 1) ⟨none, some 50000⟩
    "top-up"

/-- The provider is asked for a transfer. -/
def sampleLeastCharged : Except ServiceError (ChargeRequest × Db) :=
  startExternal (sampleCtx 2) (committed samplePlatformWithLargeFee sampleLeast) walletTopUpTarget
    sampleProvider (.ofNat 1) sampleIntentId .transfer

/-- The webhook reports the money. -/
def sampleLeastSettled : Except ServiceError (SettlementOutcome × Db) :=
  settleSuccessful (sampleCtx 3)
    (committed (committed samplePlatformWithLargeFee sampleLeast) sampleLeastCharged) "REF-1"

end Sample

/-- A fee of 1000 on 100000 stays below it, and the deposit is accepted. -/
theorem deposit_creditable_sample :
    DefinitionStaysBelow samplePlatformWithFee .deposit 100000 (sampleCtx 1).now ∧
      ∀ accounts, assertBalancedPosting
        (depositPosting (sampleIntent samplePlatformWithFee 1000) accounts) = .ok () := by
  have hcreate : create (sampleCtx 1) samplePlatformWithFee walletTopUpTarget (.ofNat 1)
      ⟨none, some 100000⟩ "top-up" = .ok (sampleIntent samplePlatformWithFee 1000,
        committed samplePlatformWithFee (sampleCreated samplePlatformWithFee)) :=
    eq_ok_committed _ (by decide +kernel)
  have hnew : ∀ x ∈ samplePlatformWithFee.paymentIntents.rows,
      ¬ (x.userId = .ofNat 1 ∧ x.idempotencyKey = "top-up") := by
    intro x hx
    cases hx
  have hcoded : WalletCoded samplePlatformWithFee (.ofNat 1) := by
    intro w hw
    cases hw
    decide +kernel
  have hmem := (create_topUp_eq_ok hnew hcreate).2.2.2
  obtain ⟨hleft, hlater⟩ := @deposit_creditable_iff sampleConfig _ _ _ _ _ _ _ _ hnew hcreate
  have hbelow := hleft.mp (by decide +kernel)
  exact ⟨hbelow, fun accounts ↦
    (hlater _ (.refl _) _ hmem rfl accounts).1.mpr ⟨hcoded, hbelow⟩⟩

/-- With a fee of 50000 the least deposit is charged 100000 and can never be credited. -/
theorem deposit_uncreditable :
    sampleLeast.map (fun created ↦ (created.1.amountMinor, created.1.feeMinor)) = .ok (50000, 50000) ∧
      sampleLeastCharged.map (·.1.amountMinor) = .ok 100000 ∧
      sampleLeastSettled.map (·.1) =
        .error (ServiceError.unprocessable "Ledger entry amounts must be positive") := by
  decide +kernel

end AjoCloud.Platform
