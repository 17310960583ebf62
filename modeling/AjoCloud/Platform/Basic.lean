import AjoCloud.Platform.Requests

/-!
# The platform

All requests that move money, in any order.  Each call is one transaction: what a request read
before its transaction opened is an argument of the call, and so is what a provider answered, so
that a run is any interleaving of the transactions of any requests.
-/

namespace AjoCloud.Platform

open Lib Ledger Payments

/-- The registry of payment targets. -/
def targets (config : Bills.BillConfig) : PaymentTargetType → PaymentTarget
  | .akawoPoolDue => akawoPoolDueTarget
  | .ajoContribution => Ajo.ajoContributionTarget
  | .foodSubscription => Food.foodSubscriptionTarget
  | .walletTopup => walletTopUpTarget
  | .billPayment => Bills.billPaymentTarget config

theorem lawful_targets (config : Bills.BillConfig) (type : PaymentTargetType) :
    LawfulTarget (targets config type) := by
  cases type with
  | akawoPoolDue => exact lawful_akawoPoolDueTarget
  | ajoContribution => exact Ajo.lawful_ajoContributionTarget
  | foodSubscription => exact Food.lawful_foodSubscriptionTarget
  | walletTopup => exact lawful_walletTopUpTarget
  | billPayment => exact Bills.lawful_billPaymentTarget config

/-- What the rest of the platform does: it may open accounts and write any other table, but it
posts nothing and leaves the intents to the payment service. -/
structure Elsewhere where
  update : Db → Db
  opens : ∀ db, Opened db.ledger (update db).ledger
  intents : ∀ db, (update db).paymentIntents = db.paymentIntents

/-- A call, with the clock and the identifiers it is answered under. -/
inductive Call where
  | send (ctx : Ctx) (userId : Uuid) (dto : Wallets.SendToWalletDto) (idempotencyKey : String)
  | withdraw (ctx : Ctx) (userId : Uuid) (dto : Wallets.WithdrawDto) (idempotencyKey : String)
  | ajo (call : Ajo.Call)
  | createIntent (ctx : Ctx) (type : PaymentTargetType) (userId : Uuid) (dto : CreateIntentDto)
      (idempotencyKey : String)
  | settleFromWallet (ctx : Ctx) (userId intentId : Uuid) (idempotencyKey : String)
  | startExternal (ctx : Ctx) (provider : PaymentProvider) (userId intentId : Uuid)
      (method : PaymentMethod)
  | settleDeposit (ctx : Ctx) (intentId : Uuid)
  | failIntent (intentId : Uuid) (reason : String)
  | reserveBill (ctx : Ctx) (validation : BillCustomerValidation) (userId : Uuid)
      (idempotencyKey requestHash : String) (dto : Bills.CreateBillPaymentDto)
  | applyProviderResult (ctx : Ctx) (paymentId userId : Uuid) (result : Bills.ProviderBillPayment)
  | markUncertain (ctx : Ctx) (paymentId : Uuid)
  | cancelSubscription (ctx : Ctx) (userId programmeId : Uuid)
  | award (ctx : Ctx) (input : Referrals.DepositSettled) (referral : Referral)
      (campaign : Referrals.CampaignTerms)
  | elsewhere (change : Elsewhere)

/-- The target of a stored intent. -/
def targetOf (config : Bills.BillConfig) (db : Db) (intentId : Uuid) : Option PaymentTarget :=
  (db.paymentIntents.find? fun i ↦ i.id = intentId).map fun i ↦ targets config i.targetType

/-- The database a call leaves. -/
def step (config : Bills.BillConfig) (db : Db) : Call → Db
  | .send ctx userId dto key => committed db (Wallets.send ctx db userId dto key)
  | .withdraw ctx userId dto key => committed db (Wallets.withdraw ctx db userId dto key)
  | .ajo call => Ajo.step db call
  | .createIntent ctx type userId dto key =>
      committed db (create ctx db (targets config type) userId dto key)
  | .settleFromWallet ctx userId intentId key =>
      match targetOf config db intentId with
      | some target => committed db (settleFromWallet ctx db target userId intentId key)
      | none => db
  | .startExternal ctx provider userId intentId method =>
      match targetOf config db intentId with
      | some target => committed db (startExternal ctx db target provider userId intentId method)
      | none => db
  | .settleDeposit ctx intentId => committed db (settleDeposit ctx db intentId)
  | .failIntent intentId reason => failIntent db intentId reason
  | .reserveBill ctx validation userId key hash dto =>
      committed db (Bills.reserve ctx db config validation userId key hash dto)
  | .applyProviderResult ctx paymentId userId result =>
      Bills.applyProviderResult ctx db paymentId userId result
  | .markUncertain ctx paymentId => committed db (Bills.markUncertain ctx db paymentId none)
  | .cancelSubscription ctx userId programmeId =>
      committed db (Food.cancelSubscription ctx db userId programmeId)
  | .award ctx input referral campaign =>
      committed db (Referrals.awardWithin ctx db input referral campaign)
  | .elsewhere change => change.update db

/-- Every call is a request. -/
theorem step_request (config : Bills.BillConfig) (db : Db) (call : Call) :
    Request db (step config db call) := by
  cases call with
  | send ctx userId dto key => exact .committed fun _ _ h ↦ Wallets.send_request h
  | withdraw ctx userId dto key => exact .committed fun _ _ h ↦ Wallets.withdraw_request h
  | ajo call => exact Ajo.step_request db call
  | createIntent ctx type userId dto key => exact .committed fun _ _ h ↦ create_request h
  | settleFromWallet ctx userId intentId key =>
      rw [step]
      split
      · next target htarget =>
          obtain ⟨i, -, rfl⟩ := Option.map_eq_some_iff.mp htarget
          exact .committed fun _ _ h ↦ settleFromWallet_request (lawful_targets config _) h
      · exact .refl db
  | startExternal ctx provider userId intentId method =>
      rw [step]
      split
      · refine .committed fun _ _ h ↦ ?_
        obtain ⟨_, -, -, -, hr⟩ := startExternal_eq_ok h
        exact hr
      · exact .refl db
  | settleDeposit ctx intentId => exact .committed fun _ _ h ↦ settleDeposit_request h
  | failIntent intentId reason => exact failIntent_request db intentId reason
  | reserveBill ctx validation userId key hash dto =>
      exact .committed fun _ _ h ↦ Bills.reserve_request h
  | applyProviderResult ctx paymentId userId result =>
      exact Bills.applyProviderResult_request ctx db paymentId userId result
  | markUncertain ctx paymentId => exact .committed fun _ _ h ↦ Bills.markUncertain_request h
  | cancelSubscription ctx userId programmeId =>
      exact .committed fun _ _ h ↦ Food.cancelSubscription_request h
  | award ctx input referral campaign =>
      exact .committed fun _ _ h ↦ Referrals.awardWithin_request h
  | elsewhere change => exact .idle (change.opens db) (change.intents db)

variable {config : Bills.BillConfig} {db db' : Db}

/-- Every intent keeps its terms in every run. -/
theorem keepsTerms_of_reaches (h : Reaches (step config) anyCall db db') : KeepsTerms db db' :=
  h.invariant (I := KeepsTerms db) (.of_eq rfl) fun db call hk _ ↦
    hk.trans (step_request config db call).keeps

/-- A solvent ledger stays solvent in every run. -/
theorem solvent_of_reaches (h : Reaches (step config) anyCall db db') (h₀ : Solvent db.ledger) :
    Solvent db'.ledger :=
  h.invariant (I := fun db ↦ Solvent db.ledger) h₀ fun db call hs _ ↦
    (step_request config db call).posts.solvent (fun _ _ hsound ↦ hsound.affords) hs

end AjoCloud.Platform
