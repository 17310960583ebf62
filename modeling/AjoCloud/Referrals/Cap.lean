import AjoCloud.Referrals.Awards

/-!
# The cap of a campaign

A referrer is to earn at most `maximumRewards` under one campaign.  The award transaction counts the
rewards of referrals that name the campaign; a registration never writes that column, so the count is
always zero and only a cap of zero is ever reached.  What does limit the rewards of a referrer is the
number of referrals that qualify: each of them earns at most one reward under a campaign.
-/

namespace AjoCloud.Referrals

open Lib Auth

variable {ctx : Ctx} {s : Office} {db db' : Db} {input : DepositSettled} {referral : Referral}
  {campaign : CampaignTerms} {tables tables' : ReferralTables}

/-! ## What is counted -/

/-- The rewards of one referrer that are released under a campaign. -/
def releasedUnder (s : Office) (referrerUserId campaignId : Uuid) : List ReferralReward :=
  s.db.referrals.rewards.findMany fun r ↦ r.status = .released ∧ ⟨r.id, campaignId⟩ ∈ s.awards ∧
    (s.db.referrals.referrals.find? fun f ↦
      f.id = r.referralId ∧ f.referrerUserId = referrerUserId).isSome

/-- The referrals of one referrer with a deposit that met the terms of a campaign, its cap apart. -/
def qualifiedUnder (s : Office) (referrerUserId campaignId : Uuid) : List Referral :=
  s.db.referrals.referrals.findMany fun f ↦
    f.referrerUserId = referrerUserId ∧ ⟨f.id, campaignId⟩ ∈ s.qualified

/-! ## The invariant -/

/-- A campaign with these terms exists. -/
def Offered (tables : ReferralTables) (id : Uuid) (version : Nat) (maximumRewards : Option Nat) :
    Prop :=
  ∃ c ∈ tables.campaigns.rows, c.id = id ∧ c.version = version ∧ c.maximumRewards = maximumRewards

theorem Offered.keepsTerms {id : Uuid} {version : Nat} {maximumRewards : Option Nat}
    (h : Offered tables id version maximumRewards) (hkeep : KeepsTerms tables tables') :
    Offered tables' id version maximumRewards := by
  obtain ⟨c, hc, rfl, rfl, rfl⟩ := h
  exact hkeep.campaigns c hc

/-- The terms that are read are those of a campaign. -/
theorem offered_of_eligibleCampaign {campaignId : Option Uuid} {occurredAt : Timestamp}
    (h : eligibleCampaign db campaignId occurredAt = some campaign) :
    Offered db.referrals campaign.id campaign.version campaign.maximumRewards := by
  rw [eligibleCampaign, Option.map_eq_some_iff] at h
  obtain ⟨c, hrow, rfl⟩ := h
  refine ⟨c, ?_, rfl, rfl, rfl⟩
  cases campaignId with
  | some id => exact Table.mem_of_find? hrow
  | none =>
      have hmem := List.mem_of_mem_head? (Option.mem_def.mpr hrow)
      exact (Table.mem_findMany.mp ((List.mem_insertionSort _).mp hmem)).1

/-- A released reward and the campaign it was released under: the campaign has a cap above zero, if
any, the reward's key is that of its referral and the campaign's version, and the referral
qualified. -/
def Accounted (s : Office) (a : Under) : Prop :=
  ∃ version maximumRewards, Offered s.db.referrals a.campaignId version maximumRewards ∧
    maximumRewards ≠ some 0 ∧ ∃ r ∈ s.db.referrals.rewards.rows, r.id = a.id ∧
      r.idempotencyKey = rewardIdempotencyKey r.referralId version ∧
      ⟨r.referralId, a.campaignId⟩ ∈ s.qualified

/-- No referral names a campaign, and every award is accounted for. -/
structure Tally (s : Office) : Prop where
  unlinked : ∀ f ∈ s.db.referrals.referrals.rows, f.campaignId = none
  awards : ∀ a ∈ s.awards, Accounted s a

/-- The terms that a request has read are still those of a campaign. -/
def Informed (s : Office) : Errand → Prop
  | .award _ _ campaign =>
      Offered s.db.referrals campaign.id campaign.version campaign.maximumRewards
  | _ => True

/-- What the rest of the platform keeps: the terms of campaigns. -/
def KeepsCaps (_ : Ctx) (s : Office) : Errand → Prop
  | .elsewhere db => KeepsTerms s.db.referrals db.referrals
  | _ => True

instance (ctx : Ctx) (s : Office) (errand : Errand) : Decidable (KeepsCaps ctx s errand) :=
  match errand with
  | .register _ _ => inferInstanceAs (Decidable True)
  | .settled _ => inferInstanceAs (Decidable True)
  | .found _ _ => inferInstanceAs (Decidable True)
  | .award _ _ _ => inferInstanceAs (Decidable True)
  | .elsewhere db => inferInstanceAs (Decidable (KeepsTerms s.db.referrals db.referrals))

/-- While no referral names a campaign, the count behind the cap is zero. -/
theorem Tally.releasedRewardCount_eq_zero (h : Tally s) (referrerUserId campaignId : Uuid) :
    releasedRewardCount s.db referrerUserId campaignId = 0 := by
  rw [releasedRewardCount, List.length_eq_zero_iff, Table.findMany, List.filter_eq_nil_iff]
  intro r _ hr
  simp only [decide_eq_true_eq] at hr
  obtain ⟨f, hf⟩ := Option.isSome_iff_exists.mp hr.2
  have hprop := Table.prop_of_find? hf
  simp only [decide_eq_true_eq, h.unlinked f (Table.mem_of_find? hf), reduceCtorEq, and_false] at hprop

/-- What no step takes away: campaigns keep their terms, rewards and qualified referrals stay. -/
structure Grows (s s' : Office) : Prop where
  offered : ∀ {id version maximumRewards}, Offered s.db.referrals id version maximumRewards →
    Offered s'.db.referrals id version maximumRewards
  rewards : ∀ r ∈ s.db.referrals.rewards.rows, r ∈ s'.db.referrals.rewards.rows
  qualified : ∀ u ∈ s.qualified, u ∈ s'.qualified

variable {s' : Office}

theorem Accounted.grows {a : Under} (h : Accounted s a) (hgrows : Grows s s') : Accounted s' a := by
  obtain ⟨version, cap, hoffered, hcap, r, hr, hid, hkey, hqualified⟩ := h
  exact ⟨version, cap, hgrows.offered hoffered, hcap, r, hgrows.rewards r hr, hid, hkey,
    hgrows.qualified _ hqualified⟩

theorem Informed.grows {errand : Errand} (h : Informed s errand) (hgrows : Grows s s') :
    Informed s' errand := by
  cases errand with
  | award input referral campaign => exact hgrows.offered h
  | register code dto => trivial
  | settled input => trivial
  | found input referral => trivial
  | elsewhere db => trivial

/-! ## One step -/

theorem Tally.register {createdId : Uuid} (h : Tally s)
    (henlisted : Enlisted createdId s.db.referrals db'.referrals) :
    Tally { s with db := db' } ∧ Grows s { s with db := db' } := by
  have hgrows : Grows s { s with db := db' } := by
    constructor
    · rintro id version cap ⟨c, hc, hterms⟩
      exact ⟨c, henlisted.campaigns ▸ hc, hterms⟩
    · intro r hr
      exact henlisted.rewards ▸ hr
    · intro u hu
      exact hu
  refine ⟨⟨fun f hf ↦ ?_, fun a ha ↦ (h.awards a ha).grows hgrows⟩, hgrows⟩
  rcases henlisted.referrals with hsame | ⟨new, -, -, hnone, -, hinsert⟩
  · exact h.unlinked f (hsame ▸ hf)
  · have hrows : f ∈ s.db.referrals.referrals.rows ++ [new] := insertRow_eq_ok hinsert ▸ hf
    rcases List.mem_append.mp hrows with hf | hf
    · exact h.unlinked f hf
    · rw [List.mem_singleton.mp hf]
      exact hnone

theorem Tally.elsewhere (h : Tally s) (hkeep : KeepsTerms s.db.referrals db.referrals) :
    Tally { s with db := db } ∧ Grows s { s with db := db } := by
  have hgrows : Grows s { s with db := db } := by
    constructor
    · intro id version cap hoffered
      exact hoffered.keepsTerms hkeep
    · intro r hr
      exact hkeep.rewards ▸ hr
    · intro u hu
      exact hu
  refine ⟨⟨fun f hf ↦ ?_, fun a ha ↦ (h.awards a ha).grows hgrows⟩, hgrows⟩
  exact h.unlinked f (hkeep.referrals ▸ hf)

/-- An award leaves the referrals without a campaign, and is accounted for. -/
theorem Tally.award {awarded : Bool} (h : Tally s)
    (hinformed : Offered s.db.referrals campaign.id campaign.version campaign.maximumRewards)
    (hawarding : Awarding ctx s.db input referral campaign db' awarded)
    (hs' : s' = ⟨db', if awarded then s.awards ++ [⟨ctx.uuid 4, campaign.id⟩] else s.awards,
      noteQualified s input referral campaign⟩) : Tally s' ∧ Grows s s' := by
  subst hs'
  cases hawarding with
  | repeated reward hmem hkey hsame =>
      subst hsame
      have hgrows : Grows s ⟨s.db, s.awards, noteQualified s input referral campaign⟩ :=
        ⟨fun hoffered ↦ hoffered, fun _ hr ↦ hr, fun _ hu ↦ mem_noteQualified hu⟩
      exact ⟨⟨h.unlinked, fun a ha ↦ (h.awards a ha).grows hgrows⟩, hgrows⟩
  | refused hunused hcampaigns hrewards hreferrals =>
      have hgrows : Grows s ⟨db', s.awards, noteQualified s input referral campaign⟩ := by
        constructor
        · rintro id version cap ⟨c, hc, hterms⟩
          exact ⟨c, hcampaigns ▸ hc, hterms⟩
        · intro r hr
          exact hrewards ▸ hr
        · intro u hu
          exact mem_noteQualified hu
      refine ⟨⟨fun f hf ↦ ?_, fun a ha ↦ (h.awards a ha).grows hgrows⟩, hgrows⟩
      obtain ⟨f₀, hf₀, -, -, hcampaign, -⟩ := mem_withStatus (hreferrals ▸ hf)
      rw [hcampaign]
      exact h.unlinked f₀ hf₀
  | released hunused haccepted hcampaigns posting hrewards hknown hreferrals =>
      have hgrows : Grows s ⟨db', s.awards ++ [⟨ctx.uuid 4, campaign.id⟩],
          noteQualified s input referral campaign⟩ := by
        constructor
        · rintro id version cap ⟨c, hc, hterms⟩
          exact ⟨c, hcampaigns ▸ hc, hterms⟩
        · intro r hr
          exact hrewards ▸ List.mem_append_left _ hr
        · intro u hu
          exact mem_noteQualified hu
      refine ⟨⟨fun f hf ↦ ?_, fun a ha ↦ ?_⟩, hgrows⟩
      · obtain ⟨f₀, hf₀, -, -, hcampaign, -⟩ := mem_withStatus (hreferrals ▸ hf)
        rw [hcampaign]
        exact h.unlinked f₀ hf₀
      · rcases List.mem_append.mp ha with hold | hnew
        · exact (h.awards a hold).grows hgrows
        · rw [List.mem_singleton.mp hnew]
          -- the count is zero, so a cap that was not reached is not zero
          have hcap := (awardRefusalReason_eq_none haccepted).2
          have hcount : (awardContext s.db input referral campaign).referrerRewardCount = 0 :=
            h.releasedRewardCount_eq_zero _ _
          rw [hcount] at hcap
          refine ⟨campaign.version, campaign.maximumRewards, hgrows.offered hinformed, ?_,
            newReward ctx input referral campaign posting, ?_, rfl, rfl,
            noteQualified_of_accepted haccepted⟩
          · intro hzero
            rw [hzero] at hcap
            cases hcap
          · rw [hrewards]
            exact List.mem_append_right _ (List.mem_singleton_self _)

theorem Grows.refl (s : Office) : Grows s s := ⟨fun h ↦ h, fun _ h ↦ h, fun _ h ↦ h⟩

/-- How a request goes on, it has read the terms of a campaign that exists. -/
theorem informed_next {errand next : Errand} (h : (exec ctx s errand).2 = some next) :
    Informed (exec ctx s errand).1 next := by
  cases errand with
  | register code dto => cases h
  | elsewhere db => cases h
  | settled input =>
      rw [exec] at h
      split at h
      · cases h
      · split at h
        · cases h
        · cases h
          trivial
  | found input referral =>
      rw [exec, Option.map_eq_some_iff] at h
      obtain ⟨campaign, hread, rfl⟩ := h
      exact offered_of_eligibleCampaign hread
  | award input referral campaign =>
      rw [exec] at h
      split at h
      · cases h
      · cases h

/-- One step of a request keeps the tally, and takes nothing away. -/
theorem Tally.exec {errand : Errand} (h : Tally s) (hinformed : Informed s errand)
    (hkeeps : KeepsCaps ctx s errand) :
    Tally (exec ctx s errand).1 ∧ Grows s (exec ctx s errand).1 := by
  cases errand with
  | register code dto =>
      rcases exec_register ctx s code dto with heq | ⟨createdId, db', henlisted, heq⟩
      · rw [heq]
        exact ⟨h, .refl s⟩
      · rw [heq]
        exact h.register henlisted
  | settled input =>
      rw [exec_settled]
      exact ⟨h, .refl s⟩
  | found input referral => exact ⟨h, .refl s⟩
  | award input referral campaign =>
      rcases exec_award ctx s input referral campaign with heq | ⟨awarded, db', hawarding, heq⟩
      · have hgrows : Grows s { s with qualified := noteQualified s input referral campaign } :=
          ⟨fun hoffered ↦ hoffered, fun _ hr ↦ hr, fun _ hu ↦ mem_noteQualified hu⟩
        rw [heq]
        exact ⟨⟨h.unlinked, fun a ha ↦ (h.awards a ha).grows hgrows⟩, hgrows⟩
      · exact h.award hinformed hawarding heq
  | elsewhere db => exact h.elsewhere hkeeps

/-! ## Every run -/

/-- A platform on which nobody was referred yet. -/
structure Unreferred (start : Office) : Prop where
  referrals : start.db.referrals.referrals.rows = []
  awards : start.awards = []

theorem Unreferred.tally {start : Office} (h : Unreferred start) : Tally start := by
  constructor
  · rw [h.referrals]
    exact List.forall_mem_nil _
  · rw [h.awards]
    exact List.forall_mem_nil _

/-- The office after some requests, interleaved in any way. -/
def Reached (start : Office) (p : Pool Office Errand) : Prop :=
  Reaches (Pool.advance exec) (Pool.Admitted Starts KeepsCaps) ⟨start, []⟩ p

variable {start : Office} {p : Pool Office Errand}

theorem tally_of_reached (h : Reached start p) (hstart : Unreferred start) : Tally p.shared := by
  refine (Pool.invariant_of_guarantees (T := Informed) h ⟨hstart.tally, List.forall_mem_nil _⟩
    ?_ ?_).shared
  · intro s errand _ hstarts
    cases errand with
    | award input referral campaign => exact hstarts.elim
    | register code dto => trivial
    | settled input => trivial
    | found input referral => trivial
    | elsewhere db => trivial
  · intro ctx s errand htally hinformed hkeeps
    obtain ⟨htally', hgrows⟩ := htally.exec hinformed hkeeps
    exact ⟨htally', fun next hnext ↦ informed_next hnext, fun other hother ↦ hother.grows hgrows⟩

/-- Behind a reward that is released under a campaign stands a referral that qualified, and the
reward's key is made of the two. -/
theorem Tally.of_mem_releasedUnder (h : Tally s) {c : ReferralCampaign}
    (hc : c ∈ s.db.referrals.campaigns.rows) {referrerUserId : Uuid} {r : ReferralReward}
    (hr : r ∈ releasedUnder s referrerUserId c.id) :
    c.maximumRewards ≠ some 0 ∧ r ∈ s.db.referrals.rewards.rows ∧
      r.idempotencyKey = rewardIdempotencyKey r.referralId c.version ∧
      ∃ f ∈ qualifiedUnder s referrerUserId c.id, f.id = r.referralId := by
  rw [releasedUnder, Table.mem_findMany, decide_eq_true_eq] at hr
  obtain ⟨hmem, -, haward, hfind⟩ := hr
  obtain ⟨version, cap, ⟨c', hc', hid, rfl, rfl⟩, hcap, r', hr', hrid, hkey, hqualified⟩ :=
    h.awards _ haward
  obtain rfl : c' = c := s.db.referrals.campaigns.eq_of_clash hc' hc (.inl hid)
  obtain rfl : r' = r := s.db.referrals.rewards.eq_of_clash hr' hmem (.inl (.inl hrid))
  obtain ⟨f, hf⟩ := Option.isSome_iff_exists.mp hfind
  have hprop := Table.prop_of_find? hf
  rw [decide_eq_true_eq] at hprop
  refine ⟨hcap, hmem, hkey, f, ?_, hprop.1⟩
  rw [qualifiedUnder, Table.mem_findMany, decide_eq_true_eq, hprop.1]
  exact ⟨Table.mem_of_find? hf, hprop.2, hqualified⟩

/-- Each referral earns at most one reward under a campaign. -/
theorem Tally.length_releasedUnder_le (h : Tally s) {c : ReferralCampaign}
    (hc : c ∈ s.db.referrals.campaigns.rows) (referrerUserId : Uuid) :
    (releasedUnder s referrerUserId c.id).length ≤ (qualifiedUnder s referrerUserId c.id).length := by
  have hnodup : ((releasedUnder s referrerUserId c.id).map (·.referralId)).Nodup := by
    refine List.Nodup.map_on ?_ (s.db.referrals.rewards.nodup.filter _)
    intro r hr r' hr' heq
    obtain ⟨-, hmem, hkey, -⟩ := h.of_mem_releasedUnder hc hr
    obtain ⟨-, hmem', hkey', -⟩ := h.of_mem_releasedUnder hc hr'
    refine s.db.referrals.rewards.eq_of_clash hmem hmem' (.inl (.inr ⟨rfl, ?_⟩))
    show some r.idempotencyKey = some r'.idempotencyKey
    rw [hkey, hkey', heq]
  have hsub : (releasedUnder s referrerUserId c.id).map (·.referralId) ⊆
      (qualifiedUnder s referrerUserId c.id).map (·.id) := by
    intro id hid
    obtain ⟨r, hr, rfl⟩ := List.mem_map.mp hid
    obtain ⟨-, -, -, f, hf, hfid⟩ := h.of_mem_releasedUnder hc hr
    exact List.mem_map.mpr ⟨f, hf, hfid⟩
  simpa using (List.subperm_of_subset hnodup hsub).length_le

/-- **The cap of a campaign holds** for a referrer in every state of every run in which no more of
their referrals qualify than the cap allows, and always when the cap is zero. -/
theorem released_within_cap (h : Reached start p) (hstart : Unreferred start)
    {c : ReferralCampaign} (hc : c ∈ p.shared.db.referrals.campaigns.rows) {m : Nat}
    (hcap : c.maximumRewards = some m) (referrerUserId : Uuid)
    (hqualified : m = 0 ∨ (qualifiedUnder p.shared referrerUserId c.id).length ≤ m) :
    (releasedUnder p.shared referrerUserId c.id).length ≤ m := by
  have htally := tally_of_reached h hstart
  rcases hqualified with rfl | hle
  · cases hreleased : releasedUnder p.shared referrerUserId c.id with
    | nil => exact le_refl _
    | cons r rest =>
        have hr : r ∈ releasedUnder p.shared referrerUserId c.id := hreleased ▸ List.mem_cons_self
        exact absurd hcap (htally.of_mem_releasedUnder hc hr).1
  · exact le_trans (htally.length_releasedUnder_le hc referrerUserId) hle

/-! ### Two friends -/

/-- The referrer, and a campaign that pays each referrer once. -/
def sampleCapped : Db :=
  { sampleReferrer with
    referrals := { sampleReferrer.referrals with campaigns := ⟨[sampleVersion 1 0], by simp⟩ } }

/-- Two friends register with the referrer's code. -/
def sampleRegistrations : List (Move Errand Ctx) :=
  [.spawn (.register "AJO-222222" ⟨"b@example.com", "+2348000000002", "Bola", "Ade",
      some "ajo-acdefg"⟩),
    .run 0 (sampleDraws 100),
    .spawn (.register "AJO-333333" ⟨"c@example.com", "+2348000000003", "Chidi", "Eze",
      some "ACDEFG"⟩),
    .run 0 (sampleDraws 200)]

/-- The first friend deposits. -/
def sampleFirstDeposit : List (Move Errand Ctx) :=
  sampleRegistrations ++ sampleConsidered (sampleDeposit 100 301) 400

/-- Then the second does. -/
def sampleBothDeposits : List (Move Errand Ctx) :=
  sampleFirstDeposit ++ sampleConsidered (sampleDeposit 200 302) 500

theorem unreferred_sampleCapped : Unreferred (.opening sampleCapped) := ⟨rfl, rfl⟩

theorem released_within_cap_sample :
    (releasedUnder (sampleAwards sampleCapped sampleFirstDeposit).shared (.ofNat 1)
        (.ofNat 41)).length ≤ 1 ∧
      (sampleAwards sampleCapped sampleFirstDeposit).shared.db.referrals.rewards.rows.length = 1 := by
  have hrun : Reached (.opening sampleCapped) (sampleAwards sampleCapped sampleFirstDeposit) :=
    reaches_of_allAdmitted (by decide +kernel)
  have hmem : sampleVersion 1 0 ∈
      (sampleAwards sampleCapped sampleFirstDeposit).shared.db.referrals.campaigns.rows := by
    decide +kernel
  have hqualified : (qualifiedUnder (sampleAwards sampleCapped sampleFirstDeposit).shared (.ofNat 1)
      (sampleVersion 1 0).id).length ≤ 1 := by decide +kernel
  exact ⟨released_within_cap hrun unreferred_sampleCapped hmem rfl (.ofNat 1) (.inr hqualified),
    by decide +kernel⟩

/-- Both friends of one referrer are paid for under a campaign that pays each referrer once. -/
theorem cap_exceeded :
    ¬ ∀ (start : Office) (p : Pool Office Errand), Unreferred start → Reached start p →
      ∀ c ∈ p.shared.db.referrals.campaigns.rows, ∀ m, c.maximumRewards = some m →
        ∀ referrerUserId, (releasedUnder p.shared referrerUserId c.id).length ≤ m := by
  intro h
  have hrun : Reached (.opening sampleCapped) (sampleAwards sampleCapped sampleBothDeposits) :=
    reaches_of_allAdmitted (by decide +kernel)
  have hmem : sampleVersion 1 0 ∈
      (sampleAwards sampleCapped sampleBothDeposits).shared.db.referrals.campaigns.rows := by
    decide +kernel
  have hpaid : (releasedUnder (sampleAwards sampleCapped sampleBothDeposits).shared (.ofNat 1)
      (sampleVersion 1 0).id).length = 2 := by decide +kernel
  have hle := h _ _ unreferred_sampleCapped hrun _ hmem 1 rfl (.ofNat 1)
  rw [hpaid] at hle
  exact absurd hle (by decide)

end AjoCloud.Referrals
