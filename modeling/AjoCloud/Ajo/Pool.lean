import AjoCloud.Ajo.Payouts

/-!
# What is collected and what is paid out

Three views of a group's money: what its schedules say has been paid, the contribution and payout
rows, and the balance of its pool.  They agree in every run.  What a cycle pays out is another
matter: a schedule that has been waived counts as settled, and the pool that covers the payout is
the whole group's.
-/

namespace AjoCloud.Ajo

open Lib ServiceError Ledger Payments

variable {db db' : Db} {call : Call} {g : Uuid}

/-! ## Collections -/

/-- What has been collected on a schedule. -/
def collectedOn (db : Db) (scheduleId : Uuid) : Int :=
  sumWhere db.contributions.rows (fun c ↦ c.scheduleId = scheduleId ∧ c.status = .succeeded)
    (·.amountMinor)

/-- The status a schedule has by what has been paid on it. -/
def reckonedStatus (s : ContributionSchedule) : ContributionScheduleStatus :=
  if s.amountPaidMinor = s.amountDueMinor then .paid
  else if 0 < s.amountPaidMinor then .partiallyPaid
  else .pending

/-- A schedule agrees with the contributions made on it. -/
structure Reckoned (db : Db) (s : ContributionSchedule) : Prop where
  due : 0 < s.amountDueMinor
  nonneg : 0 ≤ s.amountPaidMinor
  le : s.amountPaidMinor ≤ s.amountDueMinor
  paid : s.amountPaidMinor = collectedOn db s.id
  status : s.status = .waived ∨ s.status = .cancelled ∨ s.status = reckonedStatus s

/-- All schedules of the group do. -/
def Reckons (db : Db) (g : Uuid) : Prop :=
  ∀ s ∈ db.contributionSchedules.rows, s.groupId = g → Reckoned db s

/-- What a call did to the schedules and the contributions. -/
inductive CollectionEffect (call : Call) (db db' : Db) : Prop
  | /-- Nothing. -/
    kept (schedules : db'.contributionSchedules = db.contributionSchedules)
      (contributions : db'.contributions = db.contributions)
  | /-- It recorded a contribution. -/
    contributed (s : ContributionSchedule) (amount : Int) (c : Contribution) (now : Timestamp)
      (h : Contributed db db' s amount c now)
  | /-- It wrote a schedule off. -/
    assigned (id : Uuid) (writeOff : WriteOff) (h : db' = assignStatus db id writeOff)
      (decided : call.isWriteOff = true)

theorem Effect.collections (h : Effect call db db') : CollectionEffect call db db' := by
  cases h with
  | idle hbooks _ =>
      exact .kept (congrArg Books.contributionSchedules hbooks)
        (congrArg Books.contributions hbooks)
  | contributed s amount c now h => exact .contributed s amount c now h
  | paidOut r p h _ =>
      exact .kept (congrArg Books.contributionSchedules h.books)
        (congrArg Books.contributions h.books)
  | held id h _ =>
      subst h
      exact .kept rfl rfl
  | swapped w ctx h _ =>
      exact .kept (congrArg Books.contributionSchedules h.books)
        (congrArg Books.contributions h.books)
  | assigned id writeOff h decided => exact .assigned id writeOff h decided

/-- The schedules after a contribution. -/
theorem Contributed.mem_schedules {s : ContributionSchedule} {amount : Int} {c : Contribution}
    {now : Timestamp} (h : Contributed db db' s amount c now) {x' : ContributionSchedule}
    (hx' : x' ∈ db'.contributionSchedules.rows) :
    (x' ∈ db.contributionSchedules.rows ∧ x'.id ≠ s.id) ∨ x' = creditSchedule s amount now s := by
  have hrows : db'.contributionSchedules = db.contributionSchedules.modify (fun x ↦ x.id = s.id)
      (creditSchedule s amount now) fun h ↦ h := congrArg Books.contributionSchedules h.books
  rw [hrows] at hx'
  rcases Table.mem_modify.mp hx' with ⟨hx, hne⟩ | ⟨x, hx, hid, rfl⟩
  · exact .inl ⟨hx, of_decide_eq_false hne⟩
  · rw [schedule_eq_of_id hx h.mem (of_decide_eq_true hid)]
    exact .inr rfl

/-- The schedules after one is written off. -/
theorem mem_assignStatus {id : Uuid} {writeOff : WriteOff} {x' : ContributionSchedule} :
    x' ∈ (assignStatus db id writeOff).contributionSchedules.rows ↔
      (x' ∈ db.contributionSchedules.rows ∧ x'.id ≠ id) ∨
      ∃ x ∈ db.contributionSchedules.rows, x.id = id ∧
        x' = { x with status := writeOff.status } := by
  simp only [assignStatus, Table.mem_modify, decide_eq_true_eq, decide_eq_false_iff_not, ne_eq]

/-- What is collected on a schedule grows by the contributions made on it. -/
theorem Contributed.collectedOn {s : ContributionSchedule} {amount : Int} {c : Contribution}
    {now : Timestamp} (h : Contributed db db' s amount c now) (id : Uuid) :
    collectedOn db' id = Ajo.collectedOn db id + if s.id = id then amount else 0 := by
  obtain ⟨-, hschedule, hamount, hstatus⟩ := h.row
  rw [Ajo.collectedOn, h.contributions, sumWhere_concat, hschedule, hamount, hstatus]
  simp [Ajo.collectedOn]

/-- A schedule that is still being collected takes the status that its new amount gives it. -/
theorem reckonedStatus_creditSchedule {s : ContributionSchedule} {amount : Int} {now : Timestamp}
    (hnonneg : 0 ≤ s.amountPaidMinor) (hpos : 0 < amount)
    (hle : s.amountPaidMinor + amount ≤ s.amountDueMinor) :
    (creditSchedule s amount now s).status = reckonedStatus (creditSchedule s amount now s) := by
  have hpaid : 0 < s.amountPaidMinor + amount := by omega
  simp only [creditSchedule, reckonedStatus, contributionScheduleStatusFor, hpaid, if_true,
    ge_iff_le]
  by_cases hfull : s.amountDueMinor ≤ s.amountPaidMinor + amount
  · rw [if_pos hfull, if_pos (le_antisymm hle hfull)]
  · rw [if_neg hfull, if_neg (by omega)]

theorem Reckons.step (h : Reckons db g) (he : CollectionEffect call db db') : Reckons db' g := by
  cases he with
  | kept schedules contributions =>
      intro s hs hg
      obtain ⟨hdue, hnonneg, hle, hpaid, hstatus⟩ := h s (schedules ▸ hs) hg
      refine ⟨hdue, hnonneg, hle, ?_, hstatus⟩
      rw [collectedOn, contributions]
      exact hpaid
  | contributed s amount c now hc =>
      intro x hx hg
      rcases hc.mem_schedules hx with ⟨hx, hne⟩ | rfl
      · obtain ⟨hdue, hnonneg, hle, hpaid, hstatus⟩ := h x hx hg
        refine ⟨hdue, hnonneg, hle, ?_, hstatus⟩
        rw [hc.collectedOn, if_neg (Ne.symm hne), add_zero]
        exact hpaid
      · obtain ⟨hdue, hnonneg, -, hpaid, -⟩ := h s hc.mem hg
        have hpos := hc.pos
        refine ⟨hdue, ?_, hc.le, ?_, .inr (.inr ?_)⟩
        · show 0 ≤ s.amountPaidMinor + amount
          omega
        · show s.amountPaidMinor + amount = collectedOn db' s.id
          rw [hc.collectedOn, if_pos rfl, hpaid]
        · exact reckonedStatus_creditSchedule hnonneg hpos hc.le
  | assigned id writeOff hassigned _ =>
      subst hassigned
      intro x hx hg
      rcases mem_assignStatus.mp hx with ⟨hx, -⟩ | ⟨s, hs, -, rfl⟩
      · obtain ⟨hdue, hnonneg, hle, hpaid, hstatus⟩ := h x hx hg
        exact ⟨hdue, hnonneg, hle, hpaid, hstatus⟩
      · obtain ⟨hdue, hnonneg, hle, hpaid, -⟩ := h s hs hg
        refine ⟨hdue, hnonneg, hle, hpaid, ?_⟩
        cases writeOff with
        | waived => exact .inl rfl
        | cancelled => exact .inr (.inl rfl)

theorem LockedGroup.reckons (h : LockedGroup db g) : Reckons db g := by
  intro s hs hg
  obtain ⟨hdue, hpaid, hstatus⟩ := h.contributionSchedules s hs hg
  refine ⟨hdue, by omega, by omega, ?_, .inr (.inr ?_)⟩
  · rw [hpaid, collectedOn, sumWhere_eq_zero]
    intro c hc hmine
    rw [decide_eq_true_eq] at hmine
    exact (h.contributions c hc).2 s hs hg hmine.1
  · rw [hstatus, reckonedStatus, hpaid, if_neg (by omega), if_neg (by omega)]

/-! ## The pool -/

/-- All that has been collected by the group. -/
def collected (db : Db) (g : Uuid) : Int :=
  sumWhere db.contributions.rows (fun c ↦ c.groupId = g ∧ c.status = .succeeded) (·.amountMinor)

/-- All that has been paid out by the group. -/
def paidOut (db : Db) (g : Uuid) : Int :=
  sumWhere db.payouts.rows (fun p ↦ p.groupId = g ∧ p.status = .succeeded) (·.amountMinor)

/-- The pool holds what has been collected and not paid out. -/
structure PoolConserved (db : Db) (g : Uuid) : Prop where
  balance : poolBalance db g = collected db g - paidOut db g
  nonneg : 0 ≤ poolBalance db g

theorem PoolConserved.congr (h : PoolConserved db g) (hpool : poolBalance db' g = poolBalance db g)
    (hcontributions : db'.contributions = db.contributions) (hpayouts : db'.payouts = db.payouts) :
    PoolConserved db' g := by
  refine ⟨?_, hpool ▸ h.nonneg⟩
  rw [hpool, collected, paidOut, hcontributions, hpayouts]
  exact h.balance

theorem PoolConserved.step (h : PoolConserved db g) (he : Effect call db db') :
    PoolConserved db' g := by
  cases he with
  | idle hbooks hpools =>
      exact h.congr (hpools g) (congrArg Books.contributions hbooks) (congrArg Books.payouts hbooks)
  | contributed s amount c now hc =>
      obtain ⟨hgroup, -, hamount, hstatus⟩ := hc.row
      have hpayouts : db'.payouts = db.payouts := congrArg Books.payouts hc.books
      have hcollected : collected db' g = collected db g + if g = s.groupId then amount else 0 := by
        rw [collected, hc.contributions, sumWhere_concat, hgroup, hamount, hstatus]
        simp [collected, eq_comm]
      have hpool := hc.pools g
      have hnonneg : 0 ≤ if g = s.groupId then amount else 0 := by
        split
        · exact le_of_lt hc.pos
        · exact le_refl _
      refine ⟨?_, ?_⟩
      · rw [hpool, hcollected, h.balance, paidOut, paidOut, hpayouts]
        ring
      · rw [hpool]
        exact add_nonneg h.nonneg hnonneg
  | paidOut r p hp _ =>
      obtain ⟨hgroup, -, -, hamount, hstatus, -⟩ := hp.row
      have hcontributions : db'.contributions = db.contributions :=
        congrArg Books.contributions hp.books
      have hpaidOut : Ajo.paidOut db' g =
          Ajo.paidOut db g + if g = r.groupId then r.amountDueMinor else 0 := by
        rw [Ajo.paidOut, hp.payouts, sumWhere_concat, hgroup, hamount, hstatus]
        simp [Ajo.paidOut, eq_comm]
      have hpool := hp.pools g
      refine ⟨?_, ?_⟩
      · rw [hpool, hpaidOut, h.balance, collected, collected, hcontributions]
        ring
      · rw [hpool]
        split
        · next hg =>
            have hcovered := hp.covered
            rw [← hg] at hcovered
            omega
        · rw [sub_zero]
          exact h.nonneg
  | held id hold _ =>
      subst hold
      exact h.congr rfl rfl rfl
  | swapped w ctx hs _ =>
      refine h.congr ?_ (congrArg Books.contributions hs.books) (congrArg Books.payouts hs.books)
      rw [poolBalance, poolBalance, hs.ledger]
  | assigned id writeOff hassigned _ =>
      subst hassigned
      exact h.congr rfl rfl rfl

theorem LockedGroup.poolConserved (h : LockedGroup db g) : PoolConserved db g := by
  have hcollected : collected db g = 0 := by
    refine sumWhere_eq_zero fun c hc hmine ↦ ?_
    rw [decide_eq_true_eq] at hmine
    exact (h.contributions c hc).1 hmine.1
  have hpaidOut : paidOut db g = 0 := by
    refine sumWhere_eq_zero fun p hp hmine ↦ ?_
    rw [decide_eq_true_eq] at hmine
    exact h.payouts p hp hmine.1
  refine ⟨?_, le_of_eq h.pool.symm⟩
  rw [h.pool, hcollected, hpaidOut]
  rfl

/-- What holds of the money of a locked group, whatever the calls. -/
structure Balanced (db : Db) (g : Uuid) : Prop where
  keyed : WellKeyed db
  reckons : Reckons db g
  pool : PoolConserved db g

theorem LockedGroup.balanced (h : LockedGroup db g) : Balanced db g :=
  ⟨h.keyed, h.reckons, h.poolConserved⟩

theorem Balanced.step (h : Balanced db g) (call : Call) : Balanced (step db call) g := by
  have heffect := (step_outcome h.keyed call).effect
  exact ⟨wellKeyed_step h.keyed call, h.reckons.step heffect.collections, h.pool.step heffect⟩

/-- No schedule of the group is written off. -/
def Collectable (db : Db) (g : Uuid) : Prop :=
  ∀ s ∈ db.contributionSchedules.rows, s.groupId = g → s.status ≠ .waived ∧ s.status ≠ .cancelled

theorem Collectable.step (h : Collectable db g) (he : CollectionEffect call db db')
    (hcall : call.isWriteOff = false) : Collectable db' g := by
  cases he with
  | kept schedules _ =>
      intro s hs hg
      exact h s (schedules ▸ hs) hg
  | contributed s amount c now hc =>
      intro x hx hg
      rcases hc.mem_schedules hx with ⟨hx, -⟩ | rfl
      · exact h x hx hg
      · simp only [creditSchedule, contributionScheduleStatusFor]
        split
        · exact ⟨nofun, nofun⟩
        · split
          · exact ⟨nofun, nofun⟩
          · split
            · exact ⟨nofun, nofun⟩
            · exact ⟨nofun, nofun⟩
  | assigned _ _ _ decided =>
      rw [hcall] at decided
      cases decided

/-- The status of a schedule that is not written off says how much of it has been paid. -/
theorem Reckoned.status_iff {s : ContributionSchedule} (h : Reckoned db s)
    (hs : s.status ≠ .waived ∧ s.status ≠ .cancelled) :
    (s.status = .paid ↔ s.amountPaidMinor = s.amountDueMinor) ∧
      (s.status = .partiallyPaid ↔
        0 < s.amountPaidMinor ∧ s.amountPaidMinor < s.amountDueMinor) := by
  have hstatus := (h.status.resolve_left hs.1).resolve_left hs.2
  have hle := h.le
  have hdue := h.due
  rw [hstatus, reckonedStatus]
  split
  · next hfull =>
      refine ⟨⟨fun _ ↦ hfull, fun _ ↦ rfl⟩, nofun, fun hpart ↦ ?_⟩
      omega
  · next hfull =>
      split
      · next hpart => exact ⟨⟨nofun, fun e ↦ absurd e hfull⟩, fun _ ↦ ⟨hpart, by omega⟩, fun _ ↦ rfl⟩
      · next hnone => exact ⟨⟨nofun, fun e ↦ absurd e hfull⟩, nofun, fun hpart ↦ absurd hpart.1 hnone⟩

/-- Schedules, contributions and pool agree in every run in which no schedule is written off. -/
theorem pool_conserved {db₀ : Db} (h₀ : LockedGroup db₀ g)
    (h : Reaches step (fun _ call ↦ call.isWriteOff = false) db₀ db) :
    (∀ s ∈ db.contributionSchedules.rows, s.groupId = g →
      s.amountPaidMinor = collectedOn db s.id ∧ s.amountPaidMinor ≤ s.amountDueMinor ∧
      (s.status = .paid ↔ s.amountPaidMinor = s.amountDueMinor) ∧
      (s.status = .partiallyPaid ↔
        0 < s.amountPaidMinor ∧ s.amountPaidMinor < s.amountDueMinor)) ∧
    poolBalance db g = collected db g - paidOut db g ∧ 0 ≤ poolBalance db g := by
  have hcollectable₀ : Collectable db₀ g := by
    intro s hs hg
    rw [(h₀.contributionSchedules s hs hg).2.2]
    exact ⟨nofun, nofun⟩
  obtain ⟨hbalanced, hcollectable⟩ : Balanced db g ∧ Collectable db g := by
    refine h.invariant (I := fun db ↦ Balanced db g ∧ Collectable db g)
      ⟨h₀.balanced, hcollectable₀⟩ ?_
    rintro s call ⟨hbalanced, hcollectable⟩ hcall
    have heffect := (step_outcome hbalanced.keyed call).effect
    exact ⟨hbalanced.step call, hcollectable.step heffect.collections hcall⟩
  refine ⟨?_, hbalanced.pool.balance, hbalanced.pool.nonneg⟩
  intro s hs hg
  have hreckoned := hbalanced.reckons s hs hg
  exact ⟨hreckoned.paid, hreckoned.le, hreckoned.status_iff (hcollectable s hs hg)⟩

/-- One member pays directly, the other through an intent, and the round is paid out. -/
def sampleRound : List Call :=
  [samplePay 1 1 1,
    .createIntent (sampleCtx 2) (.ofNat 2) ⟨some (.ofNat 64), none⟩ "intent-key",
    .settleIntent (sampleCtx 3) (.ofNat 2) (.ofNat 2000) "confirm-key", samplePayOut 4 71]

theorem pool_conserved_sample :
    poolBalance (sampleRound.foldl step sampleGroup) (.ofNat 30) =
        collected (sampleRound.foldl step sampleGroup) (.ofNat 30) -
          paidOut (sampleRound.foldl step sampleGroup) (.ofNat 30) ∧
      paidOut (sampleRound.foldl step sampleGroup) (.ofNat 30) = 200 := by
  have hrun : Reaches step (fun _ call ↦ call.isWriteOff = false) sampleGroup
      (sampleRound.foldl step sampleGroup) := by
    refine reaches_foldl_of sampleGroup fun k hk _ ↦ ?_
    have hall : ∀ k ∈ sampleRound, k.isWriteOff = false := by
      simp [sampleRound, samplePay, samplePayOut, Call.isWriteOff]
    exact hall k hk
  exact ⟨(pool_conserved sampleGroup_locked hrun).2.1, by decide +kernel⟩

/-! ## What a cycle collects and pays out -/

/-- The cycle a contribution was made for. -/
def contributionCycle (db : Db) (c : Contribution) : Option Uuid :=
  (db.contributionSchedules.find? fun s ↦ s.id = c.scheduleId).map (·.cycleId)

/-- What has been collected for a cycle. -/
def collectedFor (db : Db) (g cycleId : Uuid) : Int :=
  sumWhere db.contributions.rows
    (fun c ↦ c.groupId = g ∧ c.status = .succeeded ∧ contributionCycle db c = some cycleId)
    (·.amountMinor)

/-- What has been paid out for a cycle. -/
def paidFor (db : Db) (g cycleId : Uuid) : Int :=
  sumWhere db.payouts.rows
    (fun p ↦ p.groupId = g ∧ p.status = .succeeded ∧ payoutCycle db p = some cycleId)
    (·.amountMinor)

/-- What is due, or has been paid, on the schedules of a cycle. -/
def scheduledFor (db : Db) (cycleId : Uuid) (amount : ContributionSchedule → Int) : Int :=
  sumWhere db.contributionSchedules.rows (fun s ↦ s.cycleId = cycleId) amount

/-- The group has one row per cycle, which is to pay out what the cycle's schedules, all of them
the group's, are due; and what was collected for the cycle is what was paid on them. -/
structure OneVersion (db : Db) (g : Uuid) : Prop where
  turns : ∀ r ∈ db.payoutSchedules.rows, ∀ r' ∈ db.payoutSchedules.rows, r.groupId = g →
    r'.groupId = g → r.cycleId = r'.cycleId → r = r'
  due : ∀ r ∈ db.payoutSchedules.rows, r.groupId = g →
    r.amountDueMinor = scheduledFor db r.cycleId (·.amountDueMinor)
  owner : ∀ r ∈ db.payoutSchedules.rows, r.groupId = g →
    ∀ s ∈ db.contributionSchedules.rows, s.cycleId = r.cycleId → s.groupId = g
  paid : ∀ r ∈ db.payoutSchedules.rows, r.groupId = g →
    collectedFor db g r.cycleId = scheduledFor db r.cycleId (·.amountPaidMinor)

theorem LockedGroup.oneVersion (h : LockedGroup db g) : OneVersion db g where
  turns := h.turns
  due := fun r hr hg ↦ (h.payoutSchedules r hr hg).2.2
  owner := h.cycles
  paid := by
    intro r hr hg
    have hcollected : collectedFor db g r.cycleId = 0 := by
      refine sumWhere_eq_zero fun c hc hmine ↦ ?_
      rw [decide_eq_true_eq] at hmine
      exact (h.contributions c hc).1 hmine.1
    have hpaid : scheduledFor db r.cycleId (·.amountPaidMinor) =
        scheduledFor db r.cycleId fun _ ↦ 0 := by
      refine sumWhere_congr fun s hs ↦ ?_
      split
      · next hcycle =>
          exact (h.contributionSchedules s hs (h.cycles r hr hg s hs (of_decide_eq_true hcycle))).2.1
      · rfl
    rw [hcollected, hpaid, scheduledFor, sumWhere]
    simp

/-- Only what has been paid on the schedules, and their status, was rewritten. -/
structure Rewrites (db db' : Db) (f : ContributionSchedule → ContributionSchedule) : Prop where
  rows : db'.contributionSchedules.rows = db.contributionSchedules.rows.map f
  id : ∀ s, (f s).id = s.id
  groupId : ∀ s, (f s).groupId = s.groupId
  cycleId : ∀ s, (f s).cycleId = s.cycleId
  amountDueMinor : ∀ s, (f s).amountDueMinor = s.amountDueMinor

variable {f : ContributionSchedule → ContributionSchedule}

theorem rewrites_of_eq (h : db'.contributionSchedules = db.contributionSchedules) :
    Rewrites db db' fun s ↦ s :=
  ⟨by rw [h, List.map_id'], fun _ ↦ rfl, fun _ ↦ rfl, fun _ ↦ rfl, fun _ ↦ rfl⟩

theorem Contributed.rewrites {s : ContributionSchedule} {amount : Int} {c : Contribution}
    {now : Timestamp} (h : Contributed db db' s amount c now) :
    Rewrites db db' fun x ↦ if x.id = s.id then creditSchedule s amount now x else x := by
  have hrows : db'.contributionSchedules.rows = db.contributionSchedules.rows.map fun x ↦
      if decide (x.id = s.id) = true then creditSchedule s amount now x else x :=
    congrArg (fun b ↦ b.contributionSchedules.rows) h.books
  refine ⟨by simpa using hrows, ?_, ?_, ?_, ?_⟩
  all_goals
    intro x
    split
    · rfl
    · rfl

theorem rewrites_assignStatus (db : Db) (id : Uuid) (writeOff : WriteOff) :
    Rewrites db (assignStatus db id writeOff)
      fun x ↦ if x.id = id then { x with status := writeOff.status } else x := by
  refine ⟨by simp [assignStatus], ?_, ?_, ?_, ?_⟩
  all_goals
    intro x
    split
    · rfl
    · rfl

theorem Rewrites.contributionCycle (h : Rewrites db db' f) (c : Contribution) :
    contributionCycle db' c = Ajo.contributionCycle db c := by
  rw [Ajo.contributionCycle, Ajo.contributionCycle, Table.find?, Table.find?, h.rows,
    List.find?_map, Option.map_map]
  congr 1
  · funext s
    exact h.cycleId s
  · congr 1
    funext s
    simp [h.id s]

theorem Rewrites.scheduledFor_due (h : Rewrites db db' f) (cycleId : Uuid) :
    scheduledFor db' cycleId (·.amountDueMinor) = scheduledFor db cycleId (·.amountDueMinor) := by
  rw [scheduledFor, h.rows, sumWhere_map]
  exact sumWhere_congr fun s _ ↦ by rw [h.cycleId, h.amountDueMinor]

/-- Schedules that were paid no more bring their cycle no more. -/
theorem Rewrites.scheduledFor_paid (h : Rewrites db db' f)
    (hpaid : ∀ s, (f s).amountPaidMinor = s.amountPaidMinor) (cycleId : Uuid) :
    scheduledFor db' cycleId (·.amountPaidMinor) = scheduledFor db cycleId (·.amountPaidMinor) := by
  rw [scheduledFor, h.rows, sumWhere_map]
  exact sumWhere_congr fun s _ ↦ by rw [h.cycleId, hpaid]

theorem Rewrites.collectedFor (h : Rewrites db db' f)
    (hcontributions : db'.contributions = db.contributions) (cycleId : Uuid) :
    collectedFor db' g cycleId = Ajo.collectedFor db g cycleId := by
  rw [Ajo.collectedFor, hcontributions]
  exact sumWhere_congr fun c _ ↦ by rw [h.contributionCycle]

/-- A contribution adds to its own cycle what it adds to its schedule. -/
theorem Contributed.scheduledFor_paid {s : ContributionSchedule} {amount : Int} {c : Contribution}
    {now : Timestamp} (h : Contributed db db' s amount c now) (cycleId : Uuid) :
    scheduledFor db' cycleId (·.amountPaidMinor) =
      scheduledFor db cycleId (·.amountPaidMinor) + if s.cycleId = cycleId then amount else 0 := by
  rw [scheduledFor, h.rewrites.rows, sumWhere_map]
  rw [sumWhere_change db.contributionSchedules.nodup h.mem (p := fun s ↦ s.cycleId = cycleId)
    (f := (·.amountPaidMinor))]
  · simp only [if_true, creditSchedule, decide_eq_true_eq]
    rw [scheduledFor]
    split
    · ring
    · ring
  · intro x hx hne
    have hid : x.id ≠ s.id := fun e ↦ hne (schedule_eq_of_id hx h.mem e)
    simp [hid]

theorem Contributed.collectedFor {s : ContributionSchedule} {amount : Int} {c : Contribution}
    {now : Timestamp} (h : Contributed db db' s amount c now) (cycleId : Uuid) :
    collectedFor db' g cycleId = Ajo.collectedFor db g cycleId +
      if s.groupId = g ∧ s.cycleId = cycleId then amount else 0 := by
  obtain ⟨hgroup, hschedule, hamount, hstatus⟩ := h.row
  have hcycle : contributionCycle db c = some s.cycleId := by
    rw [contributionCycle, db.contributionSchedules.find?_eq_some_of_mem h.mem
      (decide_eq_true hschedule.symm)
      fun x _ hx ↦ .inl ((of_decide_eq_true hx).trans hschedule)]
    rfl
  rw [Ajo.collectedFor, h.contributions, sumWhere_concat, h.rewrites.contributionCycle, hcycle,
    hgroup, hamount, hstatus]
  have hold : sumWhere db.contributions.rows (fun c ↦ c.groupId = g ∧ c.status = .succeeded ∧
      contributionCycle db' c = some cycleId) (·.amountMinor) = Ajo.collectedFor db g cycleId :=
    sumWhere_congr fun c _ ↦ by rw [h.rewrites.contributionCycle]
  rw [hold]
  simp

/-- Turns and dues stay as they are while no swap is executed; what remains is what was paid. -/
theorem OneVersion.of_rewrites (h : OneVersion db g) (hturns : KeepsTurns db db')
    (hf : Rewrites db db' f)
    (hpaid : ∀ r ∈ db.payoutSchedules.rows, r.groupId = g →
      collectedFor db' g r.cycleId = scheduledFor db' r.cycleId (·.amountPaidMinor)) :
    OneVersion db' g where
  turns := by
    intro r' hr' q' hq' hrg hqg hcycle
    obtain ⟨r, hr, hsr⟩ := hturns r' hr'
    obtain ⟨q, hq, hsq⟩ := hturns q' hq'
    have heq := h.turns r hr q hq (hsr.groupId ▸ hrg) (hsq.groupId ▸ hqg)
      (by rw [← hsr.cycleId, ← hsq.cycleId, hcycle])
    exact row_eq_of_id hr' hq' (by rw [hsr.id, hsq.id, heq])
  due := by
    intro r' hr' hg
    obtain ⟨r, hr, hs⟩ := hturns r' hr'
    rw [hs.amountDueMinor, hs.cycleId, hf.scheduledFor_due]
    exact h.due r hr (hs.groupId ▸ hg)
  owner := by
    intro r' hr' hg s' hs' hcycle
    obtain ⟨r, hr, hs⟩ := hturns r' hr'
    rw [hf.rows, List.mem_map] at hs'
    obtain ⟨x, hx, rfl⟩ := hs'
    rw [hf.groupId]
    refine h.owner r hr (hs.groupId ▸ hg) x hx ?_
    rw [← hf.cycleId, hcycle, hs.cycleId]
  paid := by
    intro r' hr' hg
    obtain ⟨r, hr, hs⟩ := hturns r' hr'
    rw [hs.cycleId]
    exact hpaid r hr (hs.groupId ▸ hg)

theorem OneVersion.step (h : OneVersion db g) (he : Effect call db db')
    (hcall : call.isSwap = false) : OneVersion db' g := by
  have hturns : KeepsTurns db db' := by
    cases he.turns with
    | kept _ _ turns => exact turns
    | swapped _ _ _ swap =>
        rw [hcall] at swap
        cases swap
  cases he.collections with
  | kept schedules contributions =>
      have hf := rewrites_of_eq schedules
      refine h.of_rewrites hturns hf fun r hr hg ↦ ?_
      rw [hf.collectedFor contributions, hf.scheduledFor_paid fun _ ↦ rfl]
      exact h.paid r hr hg
  | contributed s amount c now hc =>
      refine h.of_rewrites hturns hc.rewrites fun r hr hg ↦ ?_
      rw [hc.collectedFor, hc.scheduledFor_paid, h.paid r hr hg]
      -- A schedule of the cycle is one of the group.
      have hown : s.groupId = g ∧ s.cycleId = r.cycleId ↔ s.cycleId = r.cycleId :=
        and_iff_right_of_imp (h.owner r hr hg s hc.mem)
      simp only [hown]
  | assigned id writeOff hassigned _ =>
      subst hassigned
      have hf := rewrites_assignStatus db id writeOff
      refine h.of_rewrites hturns hf fun r hr hg ↦ ?_
      rw [hf.collectedFor rfl, hf.scheduledFor_paid]
      · exact h.paid r hr hg
      · intro s
        split
        · rfl
        · rfl

/-- The payout of a row is the only one of its cycle. -/
theorem PaidOut.paidFor {r : PayoutSchedule} {p : Payout} (hout : PaidOut db db' r p)
    (hg : r.groupId = g) (hrows : PaidRows db' g) (hone : OneVersion db' g) :
    paidFor db' g r.cycleId = r.amountDueMinor := by
  obtain ⟨hgroup, hschedule, hslot, hamount, hstatus, hkey⟩ := hout.row
  have hrow : markPaid r r ∈ db'.payoutSchedules.rows :=
    hout.mem_rows.mpr (.inr ⟨r, hout.mem, rfl, rfl⟩)
  have hmade : MadeFor (markPaid r r) p := ⟨hschedule, hgroup, hslot, hamount, hkey⟩
  have hcycle : payoutCycle db' p = some r.cycleId := hmade.payoutCycle hrow
  have hearlier : sumWhere db.payouts.rows (fun p ↦ p.groupId = g ∧ p.status = .succeeded ∧
      payoutCycle db' p = some r.cycleId) (·.amountMinor) = 0 := by
    refine sumWhere_eq_zero fun q hq hmine ↦ ?_
    obtain ⟨hqg, -, hqcycle⟩ := of_decide_eq_true hmine
    have hq' : q ∈ db'.payouts.rows := by
      rw [hout.payouts]
      exact List.mem_append_left _ hq
    -- The earlier payout would be for the same row, and have its key.
    obtain ⟨x, hx, -, hxq⟩ := hrows q hq' hqg
    rw [hxq.payoutCycle hx, Option.some.injEq] at hqcycle
    have heq := hone.turns x hx (markPaid r r) hrow (hxq.groupId.symm.trans hqg) hg hqcycle
    subst heq
    exact hout.fresh q hq (.inr ⟨rfl, congrArg some (hxq.idempotencyKey.trans hkey.symm)⟩)
  rw [Ajo.paidFor, hout.payouts, sumWhere_concat, hearlier, hcycle, hgroup, hg, hamount, hstatus]
  simp

/-- What holds of a group in a run without swaps. -/
structure Unswapped (db : Db) (g : Uuid) : Prop where
  balanced : Balanced db g
  paidRows : PaidRows db g
  oneVersion : OneVersion db g

theorem Unswapped.step (h : Unswapped db g) (call : Call) (hcall : call.isSwap = false) :
    Unswapped (step db call) g := by
  have heffect := (step_outcome h.balanced.keyed call).effect
  exact ⟨h.balanced.step call, h.paidRows.step heffect, h.oneVersion.step heffect hcall⟩

theorem LockedGroup.unswapped_of_reaches {db₀ : Db} (h₀ : LockedGroup db₀ g)
    (h : Reaches step (fun _ call ↦ call.isSwap = false) db₀ db) : Unswapped db g :=
  h.invariant (I := fun db ↦ Unswapped db g) ⟨h₀.balanced, h₀.followed.paidRows, h₀.oneVersion⟩
    fun _ call hunswapped hcall ↦ hunswapped.step call hcall

/-- A settled schedule that was not written off has been paid in full. -/
theorem Reckoned.paid_of_settled {s : ContributionSchedule} (h : Reckoned db s)
    (hsettled : isOutstanding s.status = false) :
    s.status = .waived ∨ s.status = .cancelled ∨ s.amountPaidMinor = s.amountDueMinor := by
  rcases h.status with hst | hst | hst
  · exact .inl hst
  · exact .inr (.inl hst)
  · refine .inr (.inr ?_)
    by_contra hne
    rw [hst, reckonedStatus, if_neg hne] at hsettled
    split at hsettled
    · cases hsettled
    · cases hsettled

/-- What a payout takes, against what the schedules of its cycle brought. -/
theorem PaidOut.paidFor_le_iff {r : PayoutSchedule} {p : Payout} (hout : PaidOut db db' r p)
    (hg : r.groupId = g) (h : Unswapped db g) (h' : Unswapped db' g) :
    Ajo.paidFor db' g r.cycleId ≤ collectedFor db' g r.cycleId ↔
      ∀ s ∈ db.contributionSchedules.rows, s.cycleId = r.cycleId →
        s.status = .waived ∨ s.status = .cancelled → s.amountPaidMinor = s.amountDueMinor := by
  have hreckoned : ∀ s ∈ db.contributionSchedules.rows, s.cycleId = r.cycleId → Reckoned db s :=
    fun s hs hcycle ↦ h.balanced.reckons s hs (h.oneVersion.owner r hout.mem hg s hs hcycle)
  have hcollected : collectedFor db' g r.cycleId = scheduledFor db r.cycleId (·.amountPaidMinor) := by
    have hf := rewrites_of_eq (congrArg Books.contributionSchedules hout.books)
    rw [hf.collectedFor (congrArg Books.contributions hout.books)]
    exact h.oneVersion.paid r hout.mem hg
  rw [hout.paidFor hg h'.paidRows h'.oneVersion, hcollected, h.oneVersion.due r hout.mem hg,
    scheduledFor, scheduledFor,
    sumWhere_le_iff fun s hs hcycle ↦ (hreckoned s hs (of_decide_eq_true hcycle)).le]
  constructor
  · intro hall s hs hcycle _
    exact hall s hs (decide_eq_true hcycle)
  · intro hall s hs hcycle
    have hcycle := of_decide_eq_true hcycle
    have hsettled := List.all_eq_true.mp hout.collected s
      (Table.mem_findMany.mpr ⟨hs, decide_eq_true hcycle⟩)
    rcases (hreckoned s hs hcycle).paid_of_settled (by simpa using hsettled) with hst | hst | hfull
    · exact hall s hs hcycle (.inl hst)
    · exact hall s hs hcycle (.inr hst)
    · exact hfull

/-- A payout is covered by what its own cycle collected exactly when every schedule of the cycle
that was waived or cancelled had been paid in full. -/
theorem cycle_funds_payout_iff {db₀ : Db} (h₀ : LockedGroup db₀ g)
    (h : Reaches step (fun _ call ↦ call.isSwap = false) db₀ db) {ctx : Ctx} {userId : Uuid}
    {r : PayoutSchedule} (hr : r ∈ db.payoutSchedules.rows) {p : Payout}
    (hposted : (step db (.executePayout ctx userId g r.id)).payouts.rows =
      db.payouts.rows ++ [p]) :
    paidFor (step db (.executePayout ctx userId g r.id)) g r.cycleId ≤
        collectedFor (step db (.executePayout ctx userId g r.id)) g r.cycleId ↔
      ∀ s ∈ db.contributionSchedules.rows, s.cycleId = r.cycleId →
        s.status = .waived ∨ s.status = .cancelled → s.amountPaidMinor = s.amountDueMinor := by
  have hun := h₀.unswapped_of_reaches h
  have hun' := hun.step (.executePayout ctx userId g r.id) rfl
  cases executePayout_cases ctx db userId g r.id with
  | nothing same =>
      rw [step, same] at hposted
      simp at hposted
  | held hold _ =>
      rw [step, hold] at hposted
      simp [holdPayout] at hposted
  | paid r' slot p hr' hrid hrg hslot hunused hpay =>
      have hrr := row_eq_of_id hr' hr hrid
      subst hrr
      obtain ⟨_, _, _, _, _, _, hsettled⟩ := payOut_eq_ok hpay
      have hout := (hsettled.outcome hun.balanced.keyed hr hunused).1
      exact hout.paidFor_le_iff hrg hun hun'

/-- Both rounds are paid for in full, one of the schedules having been waived after it was paid. -/
def sampleWaivedLate : Db :=
  (samplePayments ++ [Call.assignStatus (.ofNat 64) .waived]).foldl step sampleGroup

theorem reaches_without_swaps {calls : List Call} (h : calls.all fun call ↦ !call.isSwap)
    (s : Db) : Reaches step (fun _ call ↦ call.isSwap = false) s (calls.foldl step s) := by
  refine reaches_foldl_of s fun k hk _ ↦ ?_
  simpa using List.all_eq_true.mp h k hk

theorem cycle_funds_payout_sample :
    paidFor (step sampleWaivedLate (samplePayOut 9 71)) (.ofNat 30) (.ofNat 51) ≤
      collectedFor (step sampleWaivedLate (samplePayOut 9 71)) (.ofNat 30) (.ofNat 51) :=
  (cycle_funds_payout_iff (r := samplePayout 1) (p := newPayout (.ofNat 9002) (.ofNat 30)
      (.ofNat 31) (samplePayout 1) (.ofNat 9000)) sampleGroup_locked
    (reaches_without_swaps (by decide +kernel) sampleGroup) (by decide +kernel) (by decide +kernel)).mpr
    (by decide +kernel)

/-- The second member is let off the first round, and the members pay for the second one ahead. -/
def sampleWaived : Db :=
  [.assignStatus (.ofNat 64) .waived, samplePay 1 1 1, samplePay 3 2 1, samplePay 4 2 2].foldl step
    sampleGroup

/-- The first round pays out 200 having collected 100; the rest was paid for the second round. -/
theorem payout_funded_by_other_cycle :
    ¬ ∀ (db₀ : Db) (g : Uuid), LockedGroup db₀ g →
      ∀ db, Reaches step (fun _ call ↦ call.isSwap = false) db₀ db →
      ∀ (ctx : Ctx) (userId : Uuid) (p : Payout), ∀ r ∈ db.payoutSchedules.rows,
      (step db (.executePayout ctx userId g r.id)).payouts.rows = db.payouts.rows ++ [p] →
      paidFor (step db (.executePayout ctx userId g r.id)) g r.cycleId ≤
        collectedFor (step db (.executePayout ctx userId g r.id)) g r.cycleId := by
  intro h
  have hle := h sampleGroup (.ofNat 30) sampleGroup_locked sampleWaived
    (reaches_without_swaps (by decide +kernel) sampleGroup) (sampleCtx 9) (.ofNat 1)
    (newPayout (.ofNat 9002) (.ofNat 30) (.ofNat 31) (samplePayout 1) (.ofNat 9000))
    (samplePayout 1) (by decide +kernel) (by decide +kernel)
  exact absurd hle (by decide +kernel)

end AjoCloud.Ajo
