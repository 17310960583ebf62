import AjoCloud.Database.Basic
import AjoCloud.Ledger.Accounts

/-!
# Referral rewards

`referral-reward-policy.ts` and the award of `ReferralsService`: when a settled deposit earns the
referrer a reward, and the posting that releases it.
-/

namespace AjoCloud.Referrals

open Lib ServiceError Ledger

/-! ## `referral-reward-policy.ts` -/

/-- `TIER_RANK`. -/
def tierRank : KycTier → Nat
  | .tier1 => 1
  | .tier2 => 2
  | .tier3 => 3

/-- `CampaignTerms`. -/
structure CampaignTerms where
  id : Uuid
  version : Nat
  status : ReferralCampaignStatus
  rewardAmountMinor : Int
  rewardCurrency : String
  maximumRewards : Option Nat
  requiredKycTier : Nat
  minimumAmountMinor : Option Int
  effectiveAt : Timestamp
  expiresAt : Option Timestamp

/-- Why a campaign cannot pay for an event at this moment. -/
def campaignIneligibleReason (terms : CampaignTerms) (occurredAt : Timestamp) : Option String :=
  if terms.status ≠ .active then some "campaign is not active"
  else if occurredAt < terms.effectiveAt then some "campaign had not started"
  else if terms.expiresAt.any (· < occurredAt) then some "campaign had ended"
  else if terms.rewardAmountMinor ≤ 0 then some "campaign has no reward amount"
  else none

/-- `AwardContext`. -/
structure AwardContext where
  selfReferral : Bool
  duplicateIdentity : Bool
  referredUserKycTier : Nat
  depositAmountMinor : Int
  depositCurrency : String
  referrerRewardCount : Nat
  occurredAt : Timestamp

/-- Why a referral must not be rewarded. -/
def awardRefusalReason (terms : CampaignTerms) (context : AwardContext) : Option String :=
  match campaignIneligibleReason terms context.occurredAt with
  | some reason => some reason
  | none =>
      if context.selfReferral then some "self-referral"
      else if context.duplicateIdentity then some "duplicate identity"
      else if context.referredUserKycTier < terms.requiredKycTier then
        some "referred user has not verified identity to the required tier"
      else if context.depositCurrency ≠ terms.rewardCurrency then
        some "deposit currency does not match the campaign"
      else if terms.minimumAmountMinor.any (context.depositAmountMinor < ·) then
        some "deposit is below the campaign minimum"
      else if terms.maximumRewards.any (· ≤ context.referrerRewardCount) then
        some "referrer has reached the campaign reward cap"
      else none

/-- The key that makes an award happen at most once. -/
def rewardIdempotencyKey (referralId : Uuid) (campaignVersion : Nat) : String :=
  "referral-reward:" ++ (referralId.toString ++ (":v" ++ toString campaignVersion))

/-! ## `ReferralsService` -/

/-- A settled deposit. -/
structure DepositSettled where
  userId : Uuid
  amountMinor : Int
  currency : String
  paymentIntentId : Uuid
  occurredAt : Timestamp

/-- The campaign a referral names, or the latest one in force. -/
def campaignRow (db : Db) (occurredAt : Timestamp) : Option Uuid → Option ReferralCampaign
  | some id => db.referrals.campaigns.find? fun c ↦ c.id = id
  | none =>
      ((db.referrals.campaigns.findMany fun c ↦ c.status = .active ∧ c.effectiveAt ≤ occurredAt ∧
        c.expiresAt.all (occurredAt ≤ ·)).insertionSort
          fun a b ↦ b.effectiveAt ≤ a.effectiveAt).head?

/-- `eligibleCampaign`: the terms a referral would be rewarded under. -/
def eligibleCampaign (db : Db) (campaignId : Option Uuid) (occurredAt : Timestamp) :
    Option CampaignTerms :=
  (campaignRow db occurredAt campaignId).map fun c ↦
    { id := c.id
      version := c.version
      status := c.status
      rewardAmountMinor := c.rewardAmountMinor
      rewardCurrency := c.rewardCurrency
      maximumRewards := c.maximumRewards
      requiredKycTier := tierRank c.requiredKycTier
      minimumAmountMinor := c.minimumAmountMinor
      effectiveAt := c.effectiveAt
      expiresAt := c.expiresAt }

/-- `releasedRewardCount`. -/
def releasedRewardCount (db : Db) (referrerUserId campaignId : Uuid) : Nat :=
  (db.referrals.rewards.findMany fun r ↦ r.status = .released ∧
    (db.referrals.referrals.find? fun f ↦ f.id = r.referralId ∧
      f.referrerUserId = referrerUserId ∧ f.campaignId = some campaignId).isSome).length

/-- The user a check belongs to. -/
def checkOwner (db : Db) (check : KycCheck) : Option Uuid :=
  (db.kyc.profiles.find? fun p ↦ p.id = check.kycProfileId).map (·.userId)

/-- `hasDuplicateIdentity`. -/
def hasDuplicateIdentity (db : Db) (userId : Uuid) : Bool :=
  let checks := db.kyc.checks.findMany fun c ↦ checkOwner db c = some userId ∧
    c.status = .passed ∧ c.maskedIdentifier ≠ none
  (db.kyc.checks.find? fun other ↦ checkOwner db other ≠ some userId ∧ other.status = .passed ∧
    checks.any fun c ↦ other.type = c.type ∧ other.maskedIdentifier = c.maskedIdentifier).isSome

/-- `kycTierOf`. -/
def kycTierOf (db : Db) (userId : Uuid) : Nat :=
  match db.kyc.profiles.find? fun p ↦ p.userId = userId with
  | some profile => tierRank profile.tier
  | none => 1

/-- The code of the account rewards are paid from. -/
def expenseAccountCode (currency : String) : String :=
  "PLATFORM:REFERRAL_REWARD_EXPENSE:" ++ currency

theorem codePurpose_expenseAccountCode (currency : String) :
    codePurpose (expenseAccountCode currency) = some .referralRewardExpense := by
  unfold expenseAccountCode
  rw [codePurpose, if_neg (not_isPrefixOf_append 1 (by simp) (by simp) (by simp) _),
    if_neg (not_isPrefixOf_append 1 (by simp) (by simp) (by simp) _),
    if_pos (isPrefixOf_append _ _)]

/-- The account rewards are paid from, as it is created on first use. -/
def newExpenseAccount (id : Uuid) (currency : String) : FinancialAccount where
  id := id
  code := expenseAccountCode currency
  name := "Referral reward expense"
  type := .expense
  purpose := some .referralRewardExpense
  currency := currency
  walletId := none
  isActive := true
  purpose_eq := .inr (codePurpose_expenseAccountCode currency)

/-- `rewardAccounts`: the account a reward is paid from, and the referrer's; `id` is the
identifier a new account gets. -/
def rewardAccounts (db : Db) (id referrerUserId : Uuid) (campaign : CampaignTerms) :
    Except ServiceError (Uuid × FinancialAccount × Db) := do
  let wallet ← orThrow
    (db.wallets.find? fun w ↦ w.userId = referrerUserId ∧ w.currency = campaign.rewardCurrency)
    (.plain "The referring user has no wallet in the reward currency")
  let referrerAvailable ← orThrow
    (db.ledger.accounts.find? fun a ↦ a.walletId = some wallet.id ∧
      a.purpose = some .walletAvailable)
    (.database .recordNotFound)
  match db.ledger.accounts.find? fun a ↦ a.code = expenseAccountCode campaign.rewardCurrency with
  | some existing => pure (existing.id, referrerAvailable, db)
  | none => do
      let ledger ← db.ledger.createAccount (newExpenseAccount id campaign.rewardCurrency)
      pure (id, referrerAvailable, { db with ledger := ledger })

/-- `rewardAccounts` opens the expense account if it has to, and hands it back. -/
theorem rewardAccounts_eq_ok {db db' : Db} {id referrerUserId expense : Uuid}
    {campaign : CampaignTerms} {referrer : FinancialAccount}
    (h : rewardAccounts db id referrerUserId campaign = .ok (expense, referrer, db')) :
    db' = { db with ledger := db'.ledger } ∧ Opened db.ledger db'.ledger ∧
      ∃ a ∈ db'.ledger.accounts.rows, a.id = expense ∧ a.purpose = some .referralRewardExpense := by
  simp only [rewardAccounts, bind_eq_ok, orThrow_eq_ok] at h
  obtain ⟨wallet, -, available, -, h⟩ := h
  split at h
  · next a ha =>
      cases h
      have hcode : a.code = expenseAccountCode campaign.rewardCurrency := by
        simpa using Table.prop_of_find? ha
      exact ⟨rfl, .refl _, a, Table.mem_of_find? ha, rfl,
        purpose_of_codePurpose (hcode ▸ codePurpose_expenseAccountCode campaign.rewardCurrency)⟩
  · simp only [bind_eq_ok, pure_eq_ok, Prod.mk.injEq] at h
    obtain ⟨ledger, hcreate, rfl, -, rfl⟩ := h
    refine ⟨rfl, opened_of_createAccount hcreate, newExpenseAccount id campaign.rewardCurrency, ?_,
      rfl, rfl⟩
    rw [(createAccount_eq_ok hcreate).2.1]
    exact List.mem_append_right _ (List.mem_singleton_self _)

/-- The posting of a reward. -/
def rewardPosting (ctx : Ctx) (referral : Referral) (campaign : CampaignTerms)
    (expense referrer : Uuid) : LedgerPostingCommand where
  idempotencyKey := rewardIdempotencyKey referral.id campaign.version
  reference := "REFREWARD-" ++ (ctx.uuid 3).toString
  description := "Referral reward"
  currency := campaign.rewardCurrency
  initiatedByUserId := some referral.referrerUserId
  correlationId := none
  entries := [⟨expense, .debit, campaign.rewardAmountMinor⟩,
    ⟨referrer, .credit, campaign.rewardAmountMinor⟩]

/-- What the policy is asked about a referral. -/
def awardContext (db : Db) (input : DepositSettled) (referral : Referral)
    (campaign : CampaignTerms) : AwardContext where
  selfReferral := referral.referrerUserId = input.userId
  duplicateIdentity := hasDuplicateIdentity db input.userId
  referredUserKycTier := kycTierOf db input.userId
  depositAmountMinor := input.amountMinor
  depositCurrency := input.currency
  referrerRewardCount := releasedRewardCount db referral.referrerUserId campaign.id
  occurredAt := input.occurredAt

/-- The part of `awardWithin` that releases the reward. -/
def releaseReward (ctx : Ctx) (db : Db) (input : DepositSettled) (referral : Referral)
    (campaign : CampaignTerms) : Except ServiceError (Bool × Db) := do
  let qualifications ← insertRow db.referrals.qualifications
    ⟨ctx.uuid 2, referral.id, input.paymentIntentId, "WALLET", "deposit.settled",
      input.amountMinor, input.currency, input.occurredAt, none⟩
  let (expense, referrer, db) ← rewardAccounts db (ctx.uuid 1) referral.referrerUserId campaign
  let (posting, ledger) ← db.ledger.postWithin (ctx.uuid 0)
    (rewardPosting ctx referral campaign expense referrer.id)
  let rewards ← insertRow db.referrals.rewards
    ⟨ctx.uuid 4, referral.id, campaign.rewardAmountMinor, campaign.rewardCurrency, .released,
      rewardIdempotencyKey referral.id campaign.version, some posting.id, some input.occurredAt⟩
  let referrals ← updateRow db.referrals.referrals (fun r ↦ r.id = referral.id) fun r ↦
    { r with status := .rewarded, qualifiedAt := some input.occurredAt }
  pure (true,
    { db with
      ledger := ledger
      referrals := { db.referrals with
        qualifications := qualifications, rewards := rewards, referrals := referrals } })

/-- `awardWithin`: whether the reward was awarded.  The referral and the campaign were read before
the transaction opened. -/
def awardWithin (ctx : Ctx) (db : Db) (input : DepositSettled) (referral : Referral)
    (campaign : CampaignTerms) : Except ServiceError (Bool × Db) :=
  match db.referrals.rewards.find? fun r ↦
      r.idempotencyKey = rewardIdempotencyKey referral.id campaign.version with
  | some _ => pure (false, db)
  | none =>
      match awardRefusalReason campaign (awardContext db input referral campaign) with
      | some _ => do
          let referrals ← updateRow db.referrals.referrals (fun r ↦ r.id = referral.id) fun r ↦
            { r with status := .rejected }
          pure (false, { db with referrals := { db.referrals with referrals := referrals } })
      | none => releaseReward ctx db input referral campaign

/-- `onDepositSettled`: the database it leaves; what the award throws is dropped. -/
def onDepositSettled (ctx : Ctx) (db : Db) (input : DepositSettled) : Db :=
  match db.referrals.referrals.find? fun r ↦ r.referredUserId = input.userId with
  | none => db
  | some referral =>
      if referral.status = .rewarded ∨ referral.status = .rejected then db
      else match eligibleCampaign db referral.campaignId input.occurredAt with
        | none => db
        | some campaign => committed db (awardWithin ctx db input referral campaign)

end AjoCloud.Referrals
