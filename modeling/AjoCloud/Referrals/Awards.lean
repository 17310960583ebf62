import AjoCloud.Auth.Register
import AjoCloud.Lib.Threads
import AjoCloud.Referrals.Basic

/-!
# Awards

`onDepositSettled` reads the referral, then the campaign, and only then opens the transaction that
awards the reward.  Each of the three is a step of its own here: between two of them other deposits
are considered, accounts are registered, and campaigns are activated, versioned and ended.

Two things are kept beside the database, which no row holds: the campaign that a reward was released
under, and the referrals with a deposit that met the terms of a campaign, its cap apart.
-/

namespace AjoCloud.Referrals

open Lib ServiceError Ledger Auth

variable {ctx : Ctx} {db db' : Db} {input : DepositSettled} {referral : Referral}
  {campaign : CampaignTerms} {awarded : Bool}

/-! ## One award -/

/-- The key of an award belongs to one referral. -/
theorem rewardIdempotencyKey_inj {id id' : Uuid} {version version' : Nat}
    (h : rewardIdempotencyKey id version = rewardIdempotencyKey id' version') : id = id' := by
  unfold rewardIdempotencyKey at h
  exact (uuid_append_inj ((String.append_right_inj _).mp h)).1

/-- A referral the policy accepts is accepted when the cap is dropped, and the cap is not reached. -/
theorem awardRefusalReason_eq_none {context : AwardContext}
    (h : awardRefusalReason campaign context = none) :
    awardRefusalReason { campaign with maximumRewards := none } context = none ∧
      campaign.maximumRewards.any (· ≤ context.referrerRewardCount) = false := by
  unfold awardRefusalReason at h ⊢
  have hterms : campaignIneligibleReason { campaign with maximumRewards := none }
      context.occurredAt = campaignIneligibleReason campaign context.occurredAt := rfl
  rw [hterms]
  split at h
  · cases h
  · simp only [Option.any_none, Bool.false_eq_true, if_false]
    repeat' split at h
    all_goals simp_all

/-- The reward of an award. -/
def newReward (ctx : Ctx) (input : DepositSettled) (referral : Referral) (campaign : CampaignTerms)
    (ledgerTransactionId : Uuid) : ReferralReward :=
  ⟨ctx.uuid 4, referral.id, campaign.rewardAmountMinor, campaign.rewardCurrency, .released,
    rewardIdempotencyKey referral.id campaign.version, some ledgerTransactionId,
    some input.occurredAt⟩

/-- The rows of the referrals with another status for one of them. -/
def withStatus (rows : List Referral) (id : Uuid) (status : ReferralStatus)
    (qualifiedAt : Option Timestamp) : List Referral :=
  rows.map fun r ↦ if decide (r.id = id) = true then
    { r with status := status, qualifiedAt := qualifiedAt <|> r.qualifiedAt } else r

/-- What an award transaction did to the tables of the referrals. -/
inductive Awarding (ctx : Ctx) (db : Db) (input : DepositSettled) (referral : Referral)
    (campaign : CampaignTerms) (db' : Db) : Bool → Prop
  | /-- The key was there already. -/
    repeated (reward : ReferralReward) (mem : reward ∈ db.referrals.rewards.rows)
      (key : reward.idempotencyKey = rewardIdempotencyKey referral.id campaign.version)
      (same : db' = db) : Awarding ctx db input referral campaign db' false
  | /-- The policy refused. -/
    refused (unused : ∀ r ∈ db.referrals.rewards.rows,
        r.idempotencyKey ≠ rewardIdempotencyKey referral.id campaign.version)
      (campaigns : db'.referrals.campaigns = db.referrals.campaigns)
      (rewards : db'.referrals.rewards = db.referrals.rewards)
      (referrals : db'.referrals.referrals.rows =
        withStatus db.referrals.referrals.rows referral.id .rejected none) :
      Awarding ctx db input referral campaign db' false
  | /-- The reward was released. -/
    released (unused : ∀ r ∈ db.referrals.rewards.rows,
        r.idempotencyKey ≠ rewardIdempotencyKey referral.id campaign.version)
      (accepted : awardRefusalReason campaign (awardContext db input referral campaign) = none)
      (campaigns : db'.referrals.campaigns = db.referrals.campaigns)
      (ledgerTransactionId : Uuid)
      (rewards : db'.referrals.rewards.rows = db.referrals.rewards.rows ++
        [newReward ctx input referral campaign ledgerTransactionId])
      (known : ∃ f ∈ db.referrals.referrals.rows, f.id = referral.id)
      (referrals : db'.referrals.referrals.rows =
        withStatus db.referrals.referrals.rows referral.id .rewarded (some input.occurredAt)) :
      Awarding ctx db input referral campaign db' true

theorem awardWithin_cases (h : awardWithin ctx db input referral campaign = .ok (awarded, db')) :
    Awarding ctx db input referral campaign db' awarded := by
  unfold awardWithin at h
  split at h
  · next reward hfind =>
      cases h
      exact .repeated reward (Table.mem_of_find? hfind) (by simpa using Table.prop_of_find? hfind)
        rfl
  · next hfind =>
      have hunused : ∀ r ∈ db.referrals.rewards.rows,
          r.idempotencyKey ≠ rewardIdempotencyKey referral.id campaign.version := by
        intro r hr
        simpa using Table.not_of_find?_eq_none hfind hr
      split at h
      · simp only [bind_eq_ok, pure_eq_ok, Prod.mk.injEq] at h
        obtain ⟨referrals, href, rfl, rfl⟩ := h
        exact .refused hunused rfl rfl (updateRow_eq_ok href)
      · next haccepted =>
          simp only [releaseReward, bind_eq_ok, pure_eq_ok, Prod.exists, Prod.mk.injEq] at h
          obtain ⟨qualifications, -, expense, referrer, db₁, haccounts, posting, ledger, -, rewards,
            hrewards, referrals, href, rfl, rfl⟩ := h
          obtain ⟨hopened, -, -⟩ := rewardAccounts_eq_ok haccounts
          obtain ⟨f, hf, hid⟩ := exists_of_updateRow href
          rw [hopened] at href hrewards hf ⊢
          exact .released hunused haccepted rfl posting.id (insertRow_eq_ok hrewards)
            ⟨f, hf, of_decide_eq_true hid⟩ (updateRow_eq_ok href)

/-! ## The system -/

/-- Something that happened under a campaign. -/
structure Under where
  /-- The reward that was released, or the referral that qualified. -/
  id : Uuid
  campaignId : Uuid
deriving DecidableEq

/-- The database, and what it does not record. -/
structure Office where
  db : Db
  /-- The rewards that were released, with the campaign of each. -/
  awards : List Under
  /-- The referrals with a deposit that met the terms of a campaign, its cap apart. -/
  qualified : List Under

/-- A request, up to its next access to the database. -/
inductive Errand where
  /-- A registration; `code` is the referral code drawn for the new account. -/
  | register (code : String) (dto : RegisterDto)
  /-- A deposit was settled; the referral is read next. -/
  | settled (input : DepositSettled)
  /-- The referral was read; the campaign is read next. -/
  | found (input : DepositSettled) (referral : Referral)
  /-- The campaign was read; the award transaction is next. -/
  | award (input : DepositSettled) (referral : Referral) (campaign : CampaignTerms)
  /-- Another part of the platform leaves the database as it is given here. -/
  | elsewhere (db : Db)

/-- The deposit meets the terms of the campaign, its cap apart. -/
def Qualifies (db : Db) (input : DepositSettled) (referral : Referral) (campaign : CampaignTerms) :
    Prop :=
  awardRefusalReason { campaign with maximumRewards := none }
    (awardContext db input referral campaign) = none

instance (db : Db) (input : DepositSettled) (referral : Referral) (campaign : CampaignTerms) :
    Decidable (Qualifies db input referral campaign) :=
  inferInstanceAs (Decidable (_ = none))

/-- What is noted of an award transaction before it opens. -/
def noteQualified (s : Office) (input : DepositSettled) (referral : Referral)
    (campaign : CampaignTerms) : List Under :=
  if Qualifies s.db input referral campaign then s.qualified ++ [⟨referral.id, campaign.id⟩]
  else s.qualified

/-- One step of a request. -/
def exec (ctx : Ctx) (s : Office) : Errand → Office × Option Errand
  | .register code dto => ({ s with db := committed s.db (register ctx code s.db dto) }, none)
  | .settled input =>
      match s.db.referrals.referrals.find? fun r ↦ r.referredUserId = input.userId with
      | none => (s, none)
      | some referral =>
          if referral.status = .rewarded ∨ referral.status = .rejected then (s, none)
          else (s, some (.found input referral))
  | .found input referral =>
      (s, (eligibleCampaign s.db referral.campaignId input.occurredAt).map (.award input referral))
  | .award input referral campaign =>
      match awardWithin ctx s.db input referral campaign with
      | .error _ => ({ s with qualified := noteQualified s input referral campaign }, none)
      | .ok (awarded, db) =>
          (⟨db, if awarded then s.awards ++ [⟨ctx.uuid 4, campaign.id⟩] else s.awards,
            noteQualified s input referral campaign⟩, none)
  | .elsewhere db => ({ s with db := db }, none)

/-- The steps of a request with nothing in between, at most three of them. -/
def uninterrupted (ctx : Ctx) (s : Office) (errand : Errand) : Office :=
  match exec ctx s errand with
  | (s, none) => s
  | (s, some errand) =>
      match exec ctx s errand with
      | (s, none) => s
      | (s, some errand) => (exec ctx s errand).1

/-- Without anything in between, the three steps of a deposit are `onDepositSettled`. -/
theorem db_uninterrupted (ctx : Ctx) (s : Office) (input : DepositSettled) :
    (uninterrupted ctx s (.settled input)).db = onDepositSettled ctx s.db input := by
  unfold uninterrupted onDepositSettled
  rw [exec]
  cases s.db.referrals.referrals.find? fun r ↦ r.referredUserId = input.userId with
  | none => rfl
  | some referral =>
      by_cases hdone : referral.status = .rewarded ∨ referral.status = .rejected
      · simp only [if_pos hdone]
      · simp only [if_neg hdone, exec]
        cases eligibleCampaign s.db referral.campaignId input.occurredAt with
        | none => rfl
        | some campaign =>
            simp only [Option.map_some]
            cases awardWithin ctx s.db input referral campaign with
            | error e => rfl
            | ok result => rfl

/-- A request comes in at its start. -/
def Starts (_ : Office) : Errand → Prop
  | .register _ _ => True
  | .settled _ => True
  | .found _ _ => False
  | .award _ _ _ => False
  | .elsewhere _ => True

instance (s : Office) (errand : Errand) : Decidable (Starts s errand) :=
  match errand with
  | .register _ _ => inferInstanceAs (Decidable True)
  | .settled _ => inferInstanceAs (Decidable True)
  | .found _ _ => inferInstanceAs (Decidable False)
  | .award _ _ _ => inferInstanceAs (Decidable False)
  | .elsewhere _ => inferInstanceAs (Decidable True)

/-- The rest of the platform touches neither referrals nor rewards. -/
structure Elsewhere (before after : ReferralTables) : Prop where
  referrals : after.referrals = before.referrals
  rewards : after.rewards = before.rewards

/-- Terms are changed by a new version: a campaign keeps its version and its cap. -/
structure KeepsTerms (before after : ReferralTables) : Prop extends Elsewhere before after where
  campaigns : ∀ c ∈ before.campaigns.rows, ∃ c' ∈ after.campaigns.rows, c'.id = c.id ∧
    c'.version = c.version ∧ c'.maximumRewards = c.maximumRewards

instance (before after : ReferralTables) : Decidable (Elsewhere before after) :=
  decidable_of_iff (after.referrals = before.referrals ∧ after.rewards = before.rewards)
    ⟨fun h ↦ ⟨h.1, h.2⟩, fun h ↦ ⟨h.referrals, h.rewards⟩⟩

instance (before after : ReferralTables) : Decidable (KeepsTerms before after) :=
  decidable_of_iff (Elsewhere before after ∧
      ∀ c ∈ before.campaigns.rows, ∃ c' ∈ after.campaigns.rows, c'.id = c.id ∧
        c'.version = c.version ∧ c'.maximumRewards = c.maximumRewards)
    ⟨fun h ↦ ⟨h.1, h.2⟩, fun h ↦ ⟨h.toElsewhere, h.campaigns⟩⟩

/-! ## What a step can do -/

variable {s : Office}

/-- A registration awards nothing; it may add one referral. -/
theorem exec_register (ctx : Ctx) (s : Office) (code : String) (dto : RegisterDto) :
    (exec ctx s (.register code dto)).1 = s ∨ ∃ createdId db',
      Enlisted createdId s.db.referrals db'.referrals ∧
        (exec ctx s (.register code dto)).1 = { s with db := db' } := by
  rw [exec]
  rcases committed_cases s.db (register ctx code s.db dto) with hsame | ⟨createdId, db', hok, hdb⟩
  · rw [hsame]
    exact .inl rfl
  · rw [hdb]
    exact .inr ⟨createdId, db', register_eq_ok hok, rfl⟩

/-- The two reading steps leave everything as it is. -/
theorem exec_settled (ctx : Ctx) (s : Office) (input : DepositSettled) :
    (exec ctx s (.settled input)).1 = s := by
  rw [exec]
  split
  · rfl
  · split
    · rfl
    · rfl

/-- An award transaction that throws leaves the database as it was. -/
theorem exec_award (ctx : Ctx) (s : Office) (input : DepositSettled) (referral : Referral)
    (campaign : CampaignTerms) :
    (exec ctx s (.award input referral campaign)).1 =
        { s with qualified := noteQualified s input referral campaign } ∨
      ∃ awarded db', Awarding ctx s.db input referral campaign db' awarded ∧
        (exec ctx s (.award input referral campaign)).1 =
          ⟨db', if awarded then s.awards ++ [⟨ctx.uuid 4, campaign.id⟩] else s.awards,
            noteQualified s input referral campaign⟩ := by
  rw [exec]
  cases hres : awardWithin ctx s.db input referral campaign with
  | error e => exact .inl rfl
  | ok result => exact .inr ⟨result.1, result.2, awardWithin_cases hres, rfl⟩

theorem mem_noteQualified {u : Under} (h : u ∈ s.qualified) :
    u ∈ noteQualified s input referral campaign := by
  unfold noteQualified
  split
  · exact List.mem_append_left _ h
  · exact h

theorem noteQualified_of_accepted
    (h : awardRefusalReason campaign (awardContext s.db input referral campaign) = none) :
    ⟨referral.id, campaign.id⟩ ∈ noteQualified s input referral campaign := by
  have hqualifies : Qualifies s.db input referral campaign := (awardRefusalReason_eq_none h).1
  rw [noteQualified, if_pos hqualifies]
  exact List.mem_append_right _ (List.mem_singleton_self _)

/-- Only the status of referrals changes in an award. -/
theorem mem_withStatus {rows : List Referral} {id : Uuid} {status : ReferralStatus}
    {qualifiedAt : Option Timestamp} {f : Referral}
    (h : f ∈ withStatus rows id status qualifiedAt) :
    ∃ f₀ ∈ rows, f.id = f₀.id ∧ f.referrerUserId = f₀.referrerUserId ∧
      f.campaignId = f₀.campaignId ∧ (f₀.id = id → f.status = status) ∧ (f₀.id ≠ id → f = f₀) := by
  obtain ⟨f₀, hf₀, rfl⟩ := List.mem_map.mp h
  refine ⟨f₀, hf₀, ?_⟩
  by_cases hid : f₀.id = id
  · simp [hid]
  · simp [hid]

theorem exists_mem_withStatus {rows : List Referral} (id : Uuid) (status : ReferralStatus)
    (qualifiedAt : Option Timestamp) {f₀ : Referral} (h : f₀ ∈ rows) :
    ∃ f ∈ withStatus rows id status qualifiedAt, f.id = f₀.id ∧ (f₀.id = id → f.status = status) := by
  refine ⟨_, List.mem_map_of_mem h, ?_⟩
  by_cases hid : f₀.id = id
  · simp [hid]
  · simp [hid]

/-! ## A referrer -/

/-- A wallet in naira. -/
def sampleReferrerWallet : Wallet := ⟨.ofNat 21, .ofNat 1, "NGN", .active⟩

/-- One member with a wallet and a code to share, and no campaign yet. -/
def sampleReferrer : Db :=
  { Db.empty with
    ledger := ⟨⟨[availableAccount (.ofNat 31) sampleReferrerWallet,
      reservedAccount (.ofNat 32) sampleReferrerWallet], by decide⟩, .empty, by simp⟩
    users := ⟨[⟨.ofNat 1, some "a@example.com", none, .active, some "AJO-ACDEFG"⟩], by decide⟩
    wallets := ⟨[sampleReferrerWallet], by decide⟩ }

/-- A version of a campaign that pays once, from the given moment on. -/
def sampleVersion (version : Nat) (effectiveAt : Timestamp) : ReferralCampaign :=
  ⟨.ofNat (40 + version), "LAUNCH", version, .active, 50000, "NGN", some 1, .tier1, none, effectiveAt,
    none⟩

/-- The identifiers from a number on. -/
def sampleDraws (n : Nat) : Ctx := ⟨0, fun k ↦ .ofNat (n + k)⟩

/-- A deposit of a member. -/
def sampleDeposit (userId intentId : Nat) : DepositSettled :=
  ⟨.ofNat userId, 100000, "NGN", .ofNat intentId, 10⟩

/-- The office with nothing awarded. -/
def Office.opening (db : Db) : Office := ⟨db, [], []⟩

/-- The three steps of a deposit, by the only request under way. -/
def sampleConsidered (input : DepositSettled) (n : Nat) : List (Move Errand Ctx) :=
  [.spawn (.settled input), .run 0 (sampleDraws n), .run 0 (sampleDraws n), .run 0 (sampleDraws n)]

/-- Where moves lead from an office with nothing under way. -/
def sampleAwards (db : Db) (moves : List (Move Errand Ctx)) : Pool Office Errand :=
  moves.foldl (Pool.advance exec) ⟨.opening db, []⟩

end AjoCloud.Referrals
