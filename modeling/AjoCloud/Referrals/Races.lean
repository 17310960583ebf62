import AjoCloud.Referrals.Awards

/-!
# Deposits that race for one reward

A referral earns one reward.  The key of an award is made of the referral and of the version of the
campaign that the call has read, and the status of the referral is read before the transaction and
not again inside it.  So two calls that have read the same version collapse into one award, and a call
that has read another version than the one the referral was meanwhile rewarded under either pays a
second time or marks the rewarded referral as rejected.
-/

namespace AjoCloud.Referrals

open Lib Auth

variable {ctx : Ctx} {s : Office} {db db' : Db} {input : DepositSettled} {referral : Referral}
  {campaign : CampaignTerms} {awarded : Bool}

/-! ## The property -/

/-- At most one reward of each referral is released, and a referral with a released reward is
rewarded. -/
structure OneReward (tables : ReferralTables) : Prop where
  unique : ∀ r ∈ tables.rewards.rows, ∀ r' ∈ tables.rewards.rows, r.status = .released →
    r'.status = .released → r.referralId = r'.referralId → r = r'
  rewarded : ∀ r ∈ tables.rewards.rows, r.status = .released → ∀ f ∈ tables.referrals.rows,
    f.id = r.referralId → f.status = .rewarded

/-- If the referral was rewarded meanwhile, then under the version that the call has read. -/
def Current (tables : ReferralTables) (referral : Referral) (campaign : CampaignTerms) : Prop :=
  ∀ r ∈ tables.rewards.rows, r.status = .released → r.referralId = referral.id →
    r.idempotencyKey = rewardIdempotencyKey referral.id campaign.version

instance (tables : ReferralTables) (referral : Referral) (campaign : CampaignTerms) :
    Decidable (Current tables referral campaign) :=
  inferInstanceAs (Decidable (∀ r ∈ tables.rewards.rows, r.status = .released →
    r.referralId = referral.id → _ = _))

/-- What the rest of the platform keeps: referrals and rewards. -/
def KeepsRewards (_ : Ctx) (s : Office) : Errand → Prop
  | .elsewhere db => Elsewhere s.db.referrals db.referrals
  | _ => True

/-- The award transactions that are opened are current. -/
def StaysCurrent (_ : Ctx) (s : Office) : Errand → Prop
  | .elsewhere db => Elsewhere s.db.referrals db.referrals
  | .award _ referral campaign => Current s.db.referrals referral campaign
  | _ => True

instance (ctx : Ctx) (s : Office) (errand : Errand) : Decidable (KeepsRewards ctx s errand) :=
  match errand with
  | .register _ _ => inferInstanceAs (Decidable True)
  | .settled _ => inferInstanceAs (Decidable True)
  | .found _ _ => inferInstanceAs (Decidable True)
  | .award _ _ _ => inferInstanceAs (Decidable True)
  | .elsewhere db => inferInstanceAs (Decidable (Elsewhere s.db.referrals db.referrals))

instance (ctx : Ctx) (s : Office) (errand : Errand) : Decidable (StaysCurrent ctx s errand) :=
  match errand with
  | .register _ _ => inferInstanceAs (Decidable True)
  | .settled _ => inferInstanceAs (Decidable True)
  | .found _ _ => inferInstanceAs (Decidable True)
  | .award _ referral campaign =>
      inferInstanceAs (Decidable (Current s.db.referrals referral campaign))
  | .elsewhere db => inferInstanceAs (Decidable (Elsewhere s.db.referrals db.referrals))

/-! ## The invariant -/

/-- Rewards are those of awards: released, with the key of their referral, which exists. -/
structure Awarded (tables : ReferralTables) : Prop extends OneReward tables where
  released : ∀ r ∈ tables.rewards.rows, r.status = .released
  keyed : ∀ r ∈ tables.rewards.rows, ∃ version,
    r.idempotencyKey = rewardIdempotencyKey r.referralId version
  known : ∀ r ∈ tables.rewards.rows, ∃ f ∈ tables.referrals.rows, f.id = r.referralId

variable {tables tables' : ReferralTables}

theorem Awarded.of_eq (h : Awarded tables) (hreferrals : tables'.referrals = tables.referrals)
    (hrewards : tables'.rewards = tables.rewards) : Awarded tables' where
  unique := by
    rw [hrewards]
    exact h.unique
  rewarded := by
    rw [hrewards, hreferrals]
    exact h.rewarded
  released := by
    rw [hrewards]
    exact h.released
  keyed := by
    rw [hrewards]
    exact h.keyed
  known := by
    rw [hrewards, hreferrals]
    exact h.known

theorem Awarded.register {createdId : Uuid} (h : Awarded tables)
    (henlisted : Enlisted createdId tables tables') : Awarded tables' := by
  rcases henlisted.referrals with hsame | ⟨new, -, -, -, -, hinsert⟩
  · exact h.of_eq hsame henlisted.rewards
  · have hrows := insertRow_eq_ok hinsert
    refine ⟨⟨?_, ?_⟩, ?_, ?_, ?_⟩
    · rw [henlisted.rewards]
      exact h.unique
    · rw [henlisted.rewards, hrows]
      intro r hr hreleased f hf hid
      rcases List.mem_append.mp hf with hf | hf
      · exact h.rewarded r hr hreleased f hf hid
      · -- the referral of a reward is there, so the new row has another identifier
        obtain ⟨f₀, hf₀, hid₀⟩ := h.known r hr
        rw [List.mem_singleton.mp hf] at hid
        exact absurd (.inl (hid₀.trans hid.symm)) (not_clash_of_insertRow hinsert f₀ hf₀)
    · rw [henlisted.rewards]
      exact h.released
    · rw [henlisted.rewards]
      exact h.keyed
    · rw [henlisted.rewards, hrows]
      intro r hr
      obtain ⟨f, hf, hid⟩ := h.known r hr
      exact ⟨f, List.mem_append_left _ hf, hid⟩

/-- A referral whose award is current and whose key is unused holds no released reward. -/
theorem Current.unrewarded (h : Current tables referral campaign)
    (hunused : ∀ r ∈ tables.rewards.rows,
      r.idempotencyKey ≠ rewardIdempotencyKey referral.id campaign.version)
    {r : ReferralReward} (hr : r ∈ tables.rewards.rows) (hreleased : r.status = .released) :
    r.referralId ≠ referral.id :=
  fun hid ↦ hunused r hr (h r hr hreleased hid)

theorem known_withStatus {rows : List Referral} {id : Uuid} {status : ReferralStatus}
    {qualifiedAt : Option Timestamp} {referralId : Uuid} (h : ∃ f ∈ rows, f.id = referralId) :
    ∃ f ∈ withStatus rows id status qualifiedAt, f.id = referralId := by
  obtain ⟨f₀, hf₀, rfl⟩ := h
  obtain ⟨f, hf, hid, -⟩ := exists_mem_withStatus id status qualifiedAt hf₀
  exact ⟨f, hf, hid⟩

/-- An award that is current keeps one reward to a referral. -/
theorem Awarded.award (h : Awarded db.referrals)
    (hawarding : Awarding ctx db input referral campaign db' awarded)
    (hcurrent : Current db.referrals referral campaign) : Awarded db'.referrals := by
  cases hawarding with
  | repeated reward hmem hkey hsame => rwa [hsame]
  | refused hunused hcampaigns hrewards hreferrals =>
      refine ⟨⟨?_, ?_⟩, ?_, ?_, ?_⟩
      · rw [hrewards]
        exact h.unique
      · rw [hrewards, hreferrals]
        intro r hr hreleased f hf hid
        obtain ⟨f₀, hf₀, hid₀, -, -, -, hother⟩ := mem_withStatus hf
        have hne : f₀.id ≠ referral.id := by
          rw [← hid₀, hid]
          exact hcurrent.unrewarded hunused hr hreleased
        rw [hother hne]
        exact h.rewarded r hr hreleased f₀ hf₀ (hid₀ ▸ hid)
      · rw [hrewards]
        exact h.released
      · rw [hrewards]
        exact h.keyed
      · rw [hrewards, hreferrals]
        intro r hr
        exact known_withStatus (h.known r hr)
  | released hunused haccepted hcampaigns posting hrewards hknown hreferrals =>
      refine ⟨⟨?_, ?_⟩, ?_, ?_, ?_⟩
      · rw [hrewards]
        intro r hr r' hr' hreleased hreleased' heq
        rcases List.mem_append.mp hr with hr | hr
        · rcases List.mem_append.mp hr' with hr' | hr'
          · exact h.unique r hr r' hr' hreleased hreleased' heq
          · rw [List.mem_singleton.mp hr'] at heq
            exact absurd heq (hcurrent.unrewarded hunused hr hreleased)
        · rcases List.mem_append.mp hr' with hr' | hr'
          · rw [List.mem_singleton.mp hr] at heq
            exact absurd heq.symm (hcurrent.unrewarded hunused hr' hreleased')
          · rw [List.mem_singleton.mp hr, List.mem_singleton.mp hr']
      · rw [hrewards, hreferrals]
        intro r hr hreleased f hf hid
        obtain ⟨f₀, hf₀, hid₀, -, -, hstatus, hother⟩ := mem_withStatus hf
        by_cases hreferral : f₀.id = referral.id
        · exact hstatus hreferral
        · rcases List.mem_append.mp hr with hr | hr
          · rw [hother hreferral]
            exact h.rewarded r hr hreleased f₀ hf₀ (hid₀ ▸ hid)
          · rw [List.mem_singleton.mp hr] at hid
            exact absurd (hid₀.symm.trans hid) hreferral
      · rw [hrewards]
        intro r hr
        rcases List.mem_append.mp hr with hr | hr
        · exact h.released r hr
        · rw [List.mem_singleton.mp hr]
          rfl
      · rw [hrewards]
        intro r hr
        rcases List.mem_append.mp hr with hr | hr
        · exact h.keyed r hr
        · rw [List.mem_singleton.mp hr]
          exact ⟨campaign.version, rfl⟩
      · rw [hrewards, hreferrals]
        intro r hr
        rcases List.mem_append.mp hr with hr | hr
        · exact known_withStatus (h.known r hr)
        · rw [List.mem_singleton.mp hr]
          exact known_withStatus hknown

/-- An award that goes through keeps one reward to a referral only when it is current. -/
theorem Awarded.current_of_award (h : Awarded db.referrals)
    (hawarding : Awarding ctx db input referral campaign db' awarded)
    (hone : OneReward db'.referrals) : Current db.referrals referral campaign := by
  intro r hr hreleased hid
  cases hawarding with
  | repeated reward hmem hkey hsame =>
      obtain ⟨version, hversion⟩ := h.keyed reward hmem
      have hsameReferral := rewardIdempotencyKey_inj (hversion.symm.trans hkey)
      rw [h.unique r hr reward hmem hreleased (h.released reward hmem) (hid.trans hsameReferral.symm)]
      exact hkey
  | refused hunused hcampaigns hrewards hreferrals =>
      -- the referral is marked as rejected, though it holds the reward
      obtain ⟨f₀, hf₀, hid₀⟩ := h.known r hr
      obtain ⟨f, hf, hfid, hstatus⟩ := exists_mem_withStatus referral.id .rejected none hf₀
      have hrewarded := hone.rewarded r (hrewards ▸ hr) hreleased f (hreferrals ▸ hf)
        (hfid.trans hid₀)
      rw [hstatus (hid₀.trans hid)] at hrewarded
      cases hrewarded
  | released hunused haccepted hcampaigns posting hrewards hknown hreferrals =>
      have hold : r ∈ db'.referrals.rewards.rows := by
        rw [hrewards]
        exact List.mem_append_left _ hr
      have hnew : newReward ctx input referral campaign posting ∈ db'.referrals.rewards.rows := by
        rw [hrewards]
        exact List.mem_append_right _ (List.mem_singleton_self _)
      rw [hone.unique r hold _ hnew hreleased rfl hid]
      rfl

/-! ## Every run -/

/-- One step of a request. -/
theorem Awarded.exec {errand : Errand} (h : Awarded s.db.referrals)
    (hstays : StaysCurrent ctx s errand) : Awarded (exec ctx s errand).1.db.referrals := by
  cases errand with
  | register code dto =>
      rcases exec_register ctx s code dto with heq | ⟨createdId, db', henlisted, heq⟩
      · rw [heq]
        exact h
      · rw [heq]
        exact h.register henlisted
  | settled input =>
      rw [exec_settled]
      exact h
  | found input referral => exact h
  | award input referral campaign =>
      rcases exec_award ctx s input referral campaign with heq | ⟨awarded, db', hawarding, heq⟩
      · rw [heq]
        exact h
      · rw [heq]
        exact h.award hawarding hstays
  | elsewhere db => exact h.of_eq hstays.referrals hstays.rewards

/-- **One reward per referral** in every state of every run whose award transactions are current;
and an award transaction that goes through in such a state leaves one reward per referral exactly
when it is current. -/
theorem one_reward_per_referral {start : Office} {p : Pool Office Errand}
    (h : Reaches (Pool.advance exec) (Pool.Admitted Starts StaysCurrent) ⟨start, []⟩ p)
    (hstart : start.db.referrals.rewards.rows = []) :
    OneReward p.shared.db.referrals ∧
      ∀ ctx input referral campaign awarded db',
        awardWithin ctx p.shared.db input referral campaign = .ok (awarded, db') →
        (OneReward db'.referrals ↔ Current p.shared.db.referrals referral campaign) := by
  have hawarded : Awarded p.shared.db.referrals := by
    refine Pool.invariant_of_steps (S := fun s ↦ Awarded s.db.referrals) h ?_
      fun ctx s errand hs htakes ↦ hs.exec htakes
    refine ⟨⟨?_, ?_⟩, ?_, ?_, ?_⟩
    all_goals
      rw [hstart]
      exact List.forall_mem_nil _
  refine ⟨hawarded.toOneReward, fun ctx input referral campaign awarded db' hok ↦ ?_⟩
  constructor
  · intro hone
    exact hawarded.current_of_award (awardWithin_cases hok) hone
  · intro hcurrent
    exact (hawarded.award (awardWithin_cases hok) hcurrent).toOneReward

/-! ### Two deposits -/

/-- A member was referred, and some versions of a campaign are active. -/
def sampleReferred (versions : Table ReferralCampaign) : Db :=
  { sampleReferrer with
    referrals := { sampleReferrer.referrals with
      campaigns := versions
      referrals := ⟨[⟨.ofNat 51, .ofNat 1, .ofNat 2, none, .pending, none⟩], by simp⟩ } }

def sampleFirstVersions : List ReferralCampaign := [sampleVersion 1 0]

/-- The first version is active. -/
def sampleFirstVersion : Db := sampleReferred ⟨sampleFirstVersions, by decide⟩

/-- The second version was activated beside it. -/
def sampleSecondVersion : Db := sampleReferred ⟨[sampleVersion 1 0, sampleVersion 2 5], by decide⟩

/-- Two deposits of the member are considered at once; the first one has read the campaign. -/
def sampleRacing : List (Move Errand Ctx) :=
  [.spawn (.settled (sampleDeposit 2 301)), .spawn (.settled (sampleDeposit 2 302)),
    .run 0 (sampleDraws 100), .run 1 (sampleDraws 100)]

/-- The second one reads the campaign, and both go on to the award. -/
def sampleAwarding : List (Move Errand Ctx) :=
  [.run 0 (sampleDraws 200), .run 1 (sampleDraws 200), .run 0 (sampleDraws 300),
    .run 0 (sampleDraws 400)]

theorem one_reward_per_referral_sample :
    OneReward (sampleAwards sampleFirstVersion
        (sampleRacing ++ sampleAwarding)).shared.db.referrals ∧
      (sampleAwards sampleFirstVersion
        (sampleRacing ++ sampleAwarding)).shared.db.referrals.rewards.rows.length = 1 := by
  have hrun : Reaches (Pool.advance exec) (Pool.Admitted Starts StaysCurrent)
      ⟨.opening sampleFirstVersion, []⟩
      (sampleAwards sampleFirstVersion (sampleRacing ++ sampleAwarding)) :=
    reaches_of_allAdmitted (by decide +kernel)
  exact ⟨(one_reward_per_referral hrun rfl).1, by decide +kernel⟩

/-- The same two deposits with the second version activated in between: both awards are released. -/
def sampleVersioned : List (Move Errand Ctx) :=
  sampleRacing ++ [.spawn (.elsewhere sampleSecondVersion), .run 2 (sampleDraws 150)] ++
    sampleAwarding

theorem referral_rewarded_twice :
    ¬ ∀ (start : Office) (p : Pool Office Errand), start.db.referrals.rewards.rows = [] →
      Reaches (Pool.advance exec) (Pool.Admitted Starts KeepsRewards) ⟨start, []⟩ p →
      OneReward p.shared.db.referrals := by
  intro h
  have hrun : Reaches (Pool.advance exec) (Pool.Admitted Starts KeepsRewards)
      ⟨.opening sampleFirstVersion, []⟩ (sampleAwards sampleFirstVersion sampleVersioned) :=
    reaches_of_allAdmitted (by decide +kernel)
  have htwice : ∃ r ∈ (sampleAwards sampleFirstVersion
        sampleVersioned).shared.db.referrals.rewards.rows,
      ∃ r' ∈ (sampleAwards sampleFirstVersion sampleVersioned).shared.db.referrals.rewards.rows,
        r.status = .released ∧ r'.status = .released ∧ r.referralId = r'.referralId ∧ r ≠ r' := by
    decide +kernel
  obtain ⟨r, hr, r', hr', hreleased, hreleased', heq, hne⟩ := htwice
  exact hne ((h _ _ rfl hrun).unique r hr r' hr' hreleased hreleased' heq)

end AjoCloud.Referrals
