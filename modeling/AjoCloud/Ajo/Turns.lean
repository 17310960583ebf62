import AjoCloud.Ajo.Steps

/-!
# Turns and versions of the schedule

A locked group starts with one payout row per cycle.  Every executed swap copies the rows of the
version in force into the next one and leaves the old rows where they are.  This module follows the
rows through a run: which versions there are, which rows are paid, and what a swap copies.
-/

namespace AjoCloud.Ajo

open Lib ServiceError Ledger Payments

variable {db db' : Db} {call : Call} {g : Uuid}

/-! ## Locked groups -/

/-- The state in which `lock` leaves a group: the schedules are drawn up under one version, with
one payout row per cycle for all that the cycle is to collect, and no money has moved yet. -/
structure LockedGroup (db : Db) (g : Uuid) : Prop where
  keyed : WellKeyed db
  group : ∃ row ∈ db.ajoGroups.rows, row.id = g ∧ row.status = .locked ∧
    ∀ r ∈ db.payoutSchedules.rows, r.groupId = g → r.scheduleVersion = row.scheduleVersion
  payoutSchedules : ∀ r ∈ db.payoutSchedules.rows, r.groupId = g →
    r.status = .pending ∧ r.amountPaidMinor = 0 ∧
      r.amountDueMinor = sumWhere db.contributionSchedules.rows (fun s ↦ s.cycleId = r.cycleId)
        (·.amountDueMinor)
  turns : ∀ r ∈ db.payoutSchedules.rows, ∀ r' ∈ db.payoutSchedules.rows, r.groupId = g →
    r'.groupId = g → r.cycleId = r'.cycleId → r = r'
  contributionSchedules : ∀ s ∈ db.contributionSchedules.rows, s.groupId = g →
    0 < s.amountDueMinor ∧ s.amountPaidMinor = 0 ∧ s.status = .pending
  cycles : ∀ r ∈ db.payoutSchedules.rows, r.groupId = g →
    ∀ s ∈ db.contributionSchedules.rows, s.cycleId = r.cycleId → s.groupId = g
  contributions : ∀ c ∈ db.contributions.rows, c.groupId ≠ g ∧
    ∀ s ∈ db.contributionSchedules.rows, s.groupId = g → c.scheduleId ≠ s.id
  payouts : ∀ p ∈ db.payouts.rows, p.groupId ≠ g
  swaps : ∀ w ∈ db.swapRequests.rows, w.groupId ≠ g
  pool : poolBalance db g = 0

/-! ## What can happen to the payout rows -/

/-- The rows assign the same turn. -/
structure SameTurn (r r' : PayoutSchedule) : Prop where
  id : r'.id = r.id
  groupId : r'.groupId = r.groupId
  cycleId : r'.cycleId = r.cycleId
  slotId : r'.slotId = r.slotId
  scheduleVersion : r'.scheduleVersion = r.scheduleVersion
  amountDueMinor : r'.amountDueMinor = r.amountDueMinor

theorem SameTurn.refl (r : PayoutSchedule) : SameTurn r r := ⟨rfl, rfl, rfl, rfl, rfl, rfl⟩

/-- Every turn is one that was there before. -/
def KeepsTurns (db db' : Db) : Prop :=
  ∀ r' ∈ db'.payoutSchedules.rows, ∃ r ∈ db.payoutSchedules.rows, SameTurn r r'

/-- The rows after a payout. -/
theorem PaidOut.mem_rows {r : PayoutSchedule} {p : Payout} (h : PaidOut db db' r p)
    {r' : PayoutSchedule} :
    r' ∈ db'.payoutSchedules.rows ↔ (r' ∈ db.payoutSchedules.rows ∧ r'.id ≠ r.id) ∨
      ∃ r₀ ∈ db.payoutSchedules.rows, r₀.id = r.id ∧ r' = markPaid r r₀ := by
  have hrows : db'.payoutSchedules =
      db.payoutSchedules.modify (fun x ↦ x.id = r.id) (markPaid r) fun h ↦ h :=
    congrArg Books.payoutSchedules h.books
  rw [hrows]
  refine Table.mem_modify.trans ?_
  simp only [decide_eq_true_eq, decide_eq_false_iff_not, ne_eq]

/-- The rows after a hold. -/
theorem mem_holdPayout {id : Uuid} {r' : PayoutSchedule} :
    r' ∈ (holdPayout db id).payoutSchedules.rows ↔
      (r' ∈ db.payoutSchedules.rows ∧ r'.id ≠ id) ∨
      ∃ r ∈ db.payoutSchedules.rows, r.id = id ∧ r' = { r with status := .held } := by
  simp only [holdPayout, Table.mem_modify, decide_eq_true_eq, decide_eq_false_iff_not, ne_eq]

theorem row_eq_of_id {r r' : PayoutSchedule} (hr : r ∈ db.payoutSchedules.rows)
    (hr' : r' ∈ db.payoutSchedules.rows) (h : r.id = r'.id) : r = r' :=
  db.payoutSchedules.eq_of_clash hr hr' (.inl (.inl h))

/-- A version pays a slot once for a cycle. -/
theorem row_eq_of_turn {r r' : PayoutSchedule} (hr : r ∈ db.payoutSchedules.rows)
    (hr' : r' ∈ db.payoutSchedules.rows) (hcycle : r.cycleId = r'.cycleId)
    (hslot : r.slotId = r'.slotId) (hversion : r.scheduleVersion = r'.scheduleVersion) :
    r = r' := by
  refine db.payoutSchedules.eq_of_clash hr hr' (.inl (.inr ⟨rfl, ?_⟩))
  show some (r.cycleId, r.slotId, r.scheduleVersion) = _
  rw [hcycle, hslot, hversion]

/-- A call either keeps the turns, the versions and the executed swaps, or executes a swap. -/
inductive TurnEffect (call : Call) (db db' : Db) : Prop
  | /-- The turns are those that were there. -/
    kept (groups : db'.ajoGroups = db.ajoGroups) (executed : executedSwaps db' = executedSwaps db)
      (turns : KeepsTurns db db')
  | /-- A swap was executed. -/
    swapped (w : SwapRequest) (ctx : Ctx) (h : Swapped db db' w ctx) (swap : call.isSwap = true)

theorem Effect.turns (h : Effect call db db') : TurnEffect call db db' := by
  cases h with
  | idle hbooks _ =>
      have hrows : db'.payoutSchedules = db.payoutSchedules := congrArg Books.payoutSchedules hbooks
      refine .kept (congrArg Books.ajoGroups hbooks) (congrArg Books.executedSwaps hbooks) ?_
      exact fun r hr ↦ ⟨r, hrows ▸ hr, .refl r⟩
  | contributed s amount c now h =>
      have hrows : db'.payoutSchedules = db.payoutSchedules :=
        congrArg Books.payoutSchedules h.books
      refine .kept (congrArg Books.ajoGroups h.books) (congrArg Books.executedSwaps h.books) ?_
      exact fun r hr ↦ ⟨r, hrows ▸ hr, .refl r⟩
  | paidOut r p h _ =>
      refine .kept (congrArg Books.ajoGroups h.books) (congrArg Books.executedSwaps h.books) ?_
      intro r' hr'
      rcases h.mem_rows.mp hr' with ⟨hr, -⟩ | ⟨r₀, hr, -, rfl⟩
      · exact ⟨r', hr, .refl r'⟩
      · exact ⟨r₀, hr, rfl, rfl, rfl, rfl, rfl, rfl⟩
  | held id h _ =>
      subst h
      refine .kept rfl rfl fun r' hr' ↦ ?_
      rcases mem_holdPayout.mp hr' with ⟨hr, -⟩ | ⟨r, hr, -, rfl⟩
      · exact ⟨r', hr, .refl r'⟩
      · exact ⟨r, hr, rfl, rfl, rfl, rfl, rfl, rfl⟩
  | swapped w ctx h swap => exact .swapped w ctx h swap
  | assigned id writeOff h _ =>
      subst h
      exact .kept rfl rfl fun r hr ↦ ⟨r, hr, .refl r⟩

/-! ## What a swap copies -/

/-- The row `r'` is the copy of `r` that the swap puts into the next version. -/
structure Copies (w : SwapRequest) (r r' : PayoutSchedule) : Prop where
  groupId : r'.groupId = r.groupId
  cycleId : r'.cycleId = r.cycleId
  slotId : r'.slotId = exchange w.fromSlotId w.toSlotId r.slotId
  amountDueMinor : r'.amountDueMinor = r.amountDueMinor
  amountPaidMinor : r'.amountPaidMinor = 0
  dueAt : r'.dueAt = r.dueAt
  status : r'.status = .pending
  scheduleVersion : r'.scheduleVersion = w.previousScheduleVersion + 1

theorem copies_of_mem_nextRows {ctx : Ctx} {w : SwapRequest} {n : Nat}
    {entries : List PayoutSchedule} {r' : PayoutSchedule} (h : r' ∈ nextRows ctx w n entries) :
    ∃ r ∈ entries, Copies w r r' := by
  induction entries generalizing n with
  | nil => cases h
  | cons e entries ih =>
      rw [nextRows, List.mem_cons] at h
      rcases h with rfl | h
      · exact ⟨e, List.mem_cons_self .., rfl, rfl, rfl, rfl, rfl, rfl, rfl, rfl⟩
      · obtain ⟨r, hr, hcopy⟩ := ih h
        exact ⟨r, List.mem_cons_of_mem e hr, hcopy⟩

theorem mem_nextRows_of_mem (ctx : Ctx) (w : SwapRequest) (n : Nat)
    {entries : List PayoutSchedule} {r : PayoutSchedule} (h : r ∈ entries) :
    ∃ r' ∈ nextRows ctx w n entries, Copies w r r' := by
  induction entries generalizing n with
  | nil => cases h
  | cons e entries ih =>
      rcases List.mem_cons.mp h with rfl | h
      · exact ⟨_, List.mem_cons_self .., rfl, rfl, rfl, rfl, rfl, rfl, rfl, rfl⟩
      · obtain ⟨r', hr', hcopy⟩ := ih (n + 1) h
        exact ⟨r', List.mem_cons_of_mem _ hr', hcopy⟩

theorem mem_versionRows {v : Nat} {r : PayoutSchedule} :
    r ∈ versionRows db g v ↔ r ∈ db.payoutSchedules.rows ∧ r.groupId = g ∧
      r.scheduleVersion = v := by
  simp [versionRows]

/-- The rows after a swap: the old ones, and a copy of each row of the version it replaces. -/
theorem Swapped.mem_rows {w : SwapRequest} {ctx : Ctx} (h : Swapped db db' w ctx)
    {r' : PayoutSchedule} (hr' : r' ∈ db'.payoutSchedules.rows) :
    r' ∈ db.payoutSchedules.rows ∨
      ∃ r ∈ versionRows db w.groupId w.previousScheduleVersion, Copies w r r' := by
  rw [h.payoutSchedules, List.mem_append] at hr'
  rcases hr' with hr' | hr'
  · exact .inl hr'
  · obtain ⟨r, hr, hcopy⟩ := copies_of_mem_nextRows hr'
    exact .inr ⟨r, (List.mem_insertionSort _).mp hr, hcopy⟩

theorem Swapped.exists_copy {w : SwapRequest} {ctx : Ctx} (h : Swapped db db' w ctx)
    {r : PayoutSchedule} (hr : r ∈ versionRows db w.groupId w.previousScheduleVersion) :
    ∃ r' ∈ db'.payoutSchedules.rows, Copies w r r' := by
  obtain ⟨r', hr', hcopy⟩ := mem_nextRows_of_mem ctx w 0 ((List.mem_insertionSort
    fun a b : PayoutSchedule ↦ a.dueAt ≤ b.dueAt).mpr hr)
  refine ⟨r', ?_, hcopy⟩
  rw [h.payoutSchedules]
  exact List.mem_append_right _ hr'

theorem Swapped.ajoGroups {w : SwapRequest} {ctx : Ctx} (h : Swapped db db' w ctx) :
    db'.ajoGroups = db.ajoGroups.modify (fun g ↦ g.id = w.groupId)
      (fun g ↦ { g with scheduleVersion := w.previousScheduleVersion + 1 }) fun h ↦ h :=
  congrArg Books.ajoGroups h.books

theorem Swapped.keeps_row {w : SwapRequest} {ctx : Ctx} (h : Swapped db db' w ctx)
    {r : PayoutSchedule} (hr : r ∈ db.payoutSchedules.rows) : r ∈ db'.payoutSchedules.rows := by
  rw [h.payoutSchedules]
  exact List.mem_append_left _ hr

/-! ## Versions -/

/-- The versions of a group's schedule: they run from the first to the one in force, each but the
last was replaced by a swap, and each has at most one row per cycle. -/
structure Versioned (db : Db) (g : Uuid) (first current : Nat) : Prop where
  group : ∃ row ∈ db.ajoGroups.rows, row.id = g ∧ row.scheduleVersion = current
  first_le : first ≤ current
  rows : ∀ r ∈ db.payoutSchedules.rows, r.groupId = g →
    first ≤ r.scheduleVersion ∧ r.scheduleVersion ≤ current
  executed : ∀ v, (g, v) ∈ executedSwaps db ↔ first ≤ v ∧ v < current
  turns : ∀ r ∈ db.payoutSchedules.rows, ∀ r' ∈ db.payoutSchedules.rows, r.groupId = g →
    r'.groupId = g → r.scheduleVersion = r'.scheduleVersion → r.cycleId = r'.cycleId → r = r'

theorem LockedGroup.versioned (h : LockedGroup db g) : ∃ first, Versioned db g first first := by
  obtain ⟨row, hrow, hid, -, hversion⟩ := h.group
  refine ⟨row.scheduleVersion, ⟨row, hrow, hid, rfl⟩, le_refl _, ?_, ?_, ?_⟩
  · intro r hr hg
    rw [hversion r hr hg]
    exact ⟨le_refl _, le_refl _⟩
  · intro v
    constructor
    · rintro ⟨w, hw, -, heq⟩
      rw [Prod.mk.injEq] at heq
      exact absurd heq.1 (h.swaps w hw)
    · rintro ⟨hle, hlt⟩
      omega
  · intro r hr r' hr' hg hg' _ hcycle
    exact h.turns r hr r' hr' hg hg' hcycle

variable {first current : Nat}

theorem Versioned.of_kept (h : Versioned db g first current)
    (hgroups : db'.ajoGroups = db.ajoGroups) (hexecuted : executedSwaps db' = executedSwaps db)
    (hturns : KeepsTurns db db') : Versioned db' g first current where
  group := by
    rw [hgroups]
    exact h.group
  first_le := h.first_le
  rows := by
    intro r' hr' hg
    obtain ⟨r, hr, hsame⟩ := hturns r' hr'
    rw [hsame.scheduleVersion]
    exact h.rows r hr (hsame.groupId ▸ hg)
  executed := by
    rw [hexecuted]
    exact h.executed
  turns := by
    intro r' hr' q' hq' hrg hqg hversion hcycle
    obtain ⟨r, hr, hsr⟩ := hturns r' hr'
    obtain ⟨q, hq, hsq⟩ := hturns q' hq'
    have heq := h.turns r hr q hq (hsr.groupId ▸ hrg) (hsq.groupId ▸ hqg)
      (by rw [← hsr.scheduleVersion, ← hsq.scheduleVersion, hversion])
      (by rw [← hsr.cycleId, ← hsq.cycleId, hcycle])
    exact row_eq_of_id hr' hq' (by rw [hsr.id, hsq.id, heq])

/-- A swap of the group itself was asked for on the version in force. -/
theorem Versioned.current_eq {w : SwapRequest} {ctx : Ctx} (h : Versioned db g first current)
    (hs : Swapped db db' w ctx) (hw : w.groupId = g) : w.previousScheduleVersion = current := by
  obtain ⟨row, hrow, hid, hcurrent⟩ := h.group
  obtain ⟨row', hrow', hid', hversion⟩ := hs.group
  have heq := db.ajoGroups.eq_of_clash hrow hrow' (.inl (hid.trans (hw ▸ hid').symm))
  rw [← hversion, ← heq, hcurrent]

theorem Versioned.of_swapped_self {w : SwapRequest} {ctx : Ctx}
    (h : Versioned db g first current) (hs : Swapped db db' w ctx) (hw : w.groupId = g) :
    Versioned db' g first (current + 1) := by
  have hprev := h.current_eq hs hw
  have hexecuted : executedSwaps db' = insert (g, current) (executedSwaps db) := by
    rw [← hw, ← hprev]
    exact congrArg Books.executedSwaps hs.books
  -- A row is one of the old versions, or a copy into the new one.
  have hmem : ∀ r' ∈ db'.payoutSchedules.rows, r' ∈ db.payoutSchedules.rows ∨
      ∃ r ∈ versionRows db g current, Copies w r r' := by
    intro r' hr'
    rw [← hw, ← hprev]
    exact hs.mem_rows hr'
  refine ⟨?_, ?_, ?_, ?_, ?_⟩
  · obtain ⟨row, hrow, hid, -⟩ := h.group
    refine ⟨{ row with scheduleVersion := w.previousScheduleVersion + 1 }, ?_, hid, ?_⟩
    · rw [hs.ajoGroups]
      exact Table.mem_modify.mpr (.inr ⟨row, hrow, by simp [hid, hw], rfl⟩)
    · exact congrArg (· + 1) hprev
  · exact Nat.le_succ_of_le h.first_le
  · intro r' hr' hg
    rcases hmem r' hr' with hr | ⟨r, -, hcopy⟩
    · obtain ⟨hle, hle'⟩ := h.rows r' hr hg
      exact ⟨hle, Nat.le_succ_of_le hle'⟩
    · rw [hcopy.scheduleVersion, hprev]
      exact ⟨Nat.le_succ_of_le h.first_le, le_refl _⟩
  · intro v
    rw [hexecuted, Set.mem_insert_iff, h.executed, Prod.mk.injEq]
    have := h.first_le
    constructor
    · rintro (⟨-, rfl⟩ | ⟨hle, hlt⟩)
      · exact ⟨this, Nat.lt_succ_self _⟩
      · exact ⟨hle, Nat.lt_succ_of_lt hlt⟩
    · rintro ⟨hle, hlt⟩
      rcases Nat.lt_succ_iff_lt_or_eq.mp hlt with hlt | rfl
      · exact .inr ⟨hle, hlt⟩
      · exact .inl ⟨rfl, rfl⟩
  · intro r' hr' q' hq' hrg hqg hversion hcycle
    rcases hmem r' hr' with hr | ⟨r, hr, hcr⟩
    · rcases hmem q' hq' with hq | ⟨q, hq, hcq⟩
      · exact h.turns r' hr q' hq hrg hqg hversion hcycle
      · have hle := (h.rows r' hr hrg).2
        rw [hversion, hcq.scheduleVersion, hprev] at hle
        omega
    · rcases hmem q' hq' with hq | ⟨q, hq, hcq⟩
      · have hle := (h.rows q' hq hqg).2
        rw [← hversion, hcr.scheduleVersion, hprev] at hle
        omega
      · -- Copies of one row agree on cycle, slot and version.
        obtain ⟨hr, hrg, hrv⟩ := mem_versionRows.mp hr
        obtain ⟨hq, hqg, hqv⟩ := mem_versionRows.mp hq
        have heq := h.turns r hr q hq hrg hqg (hrv.trans hqv.symm)
          (by rw [← hcr.cycleId, ← hcq.cycleId, hcycle])
        have hslot : r'.slotId = q'.slotId := by rw [hcr.slotId, hcq.slotId, heq]
        exact row_eq_of_turn hr' hq' hcycle hslot hversion

theorem Versioned.of_swapped_other {w : SwapRequest} {ctx : Ctx}
    (h : Versioned db g first current) (hs : Swapped db db' w ctx) (hw : w.groupId ≠ g) :
    Versioned db' g first current := by
  have hexecuted : executedSwaps db' = insert (w.groupId, w.previousScheduleVersion)
    (executedSwaps db) := congrArg Books.executedSwaps hs.books
  -- The copies are rows of the other group.
  have hmem : ∀ r' ∈ db'.payoutSchedules.rows, r'.groupId = g → r' ∈ db.payoutSchedules.rows := by
    intro r' hr' hg
    rcases hs.mem_rows hr' with hr | ⟨r, hr, hcopy⟩
    · exact hr
    · obtain ⟨-, hrg, -⟩ := mem_versionRows.mp hr
      exact absurd (hrg.symm.trans (hcopy.groupId.symm.trans hg)) hw
  refine ⟨?_, h.first_le, fun r hr hg ↦ h.rows r (hmem r hr hg) hg, ?_, ?_⟩
  · obtain ⟨row, hrow, hid, hcurrent⟩ := h.group
    refine ⟨row, ?_, hid, hcurrent⟩
    rw [hs.ajoGroups]
    exact Table.mem_modify.mpr (.inl ⟨hrow, decide_eq_false fun e ↦ hw (e.symm.trans hid)⟩)
  · intro v
    rw [hexecuted, Set.mem_insert_iff, h.executed, Prod.mk.injEq]
    exact or_iff_right fun e ↦ hw e.1.symm
  · intro r hr q hq hrg hqg
    exact h.turns r (hmem r hr hrg) q (hmem q hq hqg) hrg hqg

/-- A call keeps the group versioned; an executed swap of the group moves it on by one. -/
theorem Versioned.step (h : Versioned db g first current) (he : TurnEffect call db db') :
    ∃ current', Versioned db' g first current' := by
  cases he with
  | kept groups executed turns => exact ⟨current, h.of_kept groups executed turns⟩
  | swapped w ctx hs _ =>
      by_cases hw : w.groupId = g
      · exact ⟨current + 1, h.of_swapped_self hs hw⟩
      · exact ⟨current, h.of_swapped_other hs hw⟩


/-! ## A group of two

Two members with 500 each, one slot each and two rounds of 100. -/

section Sample

/-- The time and the identifiers of the `n`th call. -/
def sampleCtx (n : Nat) : Ctx := ⟨1000 * n, fun k ↦ .ofNat (1000 * n + k)⟩

/-- The wallet account of the member `n`. -/
def sampleWalletAccount (n : Nat) (code : String) (h : codePurpose code = none) :
    FinancialAccount where
  id := .ofNat (10 + n)
  code := code
  name := "wallet"
  type := .liability
  purpose := some .walletAvailable
  currency := "NGN"
  walletId := some (.ofNat (20 + n))
  isActive := true
  purpose_eq := .inl h

/-- The account the members were funded from. -/
def sampleProviderAccount : FinancialAccount where
  id := .ofNat 10
  code := "PROVIDER_PAYABLE:NGN"
  name := "provider"
  type := .asset
  purpose := some .providerPayable
  currency := "NGN"
  walletId := none
  isActive := true
  purpose_eq := .inl (by decide)

/-- The account that fees go to. -/
def sampleFeeAccount : FinancialAccount where
  id := .ofNat 13
  code := "FEE_REVENUE:NGN"
  name := "fees"
  type := .revenue
  purpose := some .platformFeeRevenue
  currency := "NGN"
  walletId := none
  isActive := true
  purpose_eq := .inl (by decide)

/-- The deposits of both members, in one transaction. -/
def sampleFunding : LedgerTransaction :=
  postedTransaction (.ofNat 15)
    { idempotencyKey := "opening"
      reference := "OPENING"
      description := "opening"
      currency := "NGN"
      initiatedByUserId := none
      correlationId := none
      entries := [⟨.ofNat 10, .debit, 1000⟩, ⟨.ofNat 11, .credit, 500⟩, ⟨.ofNat 12, .credit, 500⟩] }

/-- What the slot `slot` owes in the cycle `cycle`. -/
def sampleContribution (cycle slot : Nat) : ContributionSchedule where
  id := .ofNat (60 + 2 * cycle + slot)
  groupId := .ofNat 30
  cycleId := .ofNat (50 + cycle)
  slotId := .ofNat (40 + slot)
  amountDueMinor := 100
  amountPaidMinor := 0
  currency := "NGN"
  dueAt := 1000000 * cycle
  status := .pending

/-- The payout of the cycle `n` to the slot `n`. -/
def samplePayout (n : Nat) : PayoutSchedule where
  id := .ofNat (70 + n)
  groupId := .ofNat 30
  cycleId := .ofNat (50 + n)
  slotId := .ofNat (40 + n)
  amountDueMinor := 200
  amountPaidMinor := 0
  currency := "NGN"
  dueAt := 1000000 * n
  status := .pending
  scheduleVersion := 1

/-- The group's own row. -/
def sampleFriends : AjoGroup where
  id := .ofNat 30
  name := "Friends"
  status := .locked
  contributionFrequency := .daily
  baseContributionMinor := 100
  maxSlots := 2
  maxSlotsPerMember := 2
  startDate := 1000000
  endDate := 2000000
  createdByUserId := .ofNat 1
  scheduleVersion := 1
  shortCode := "7KQ3MZP"

/-- The group, just locked. -/
def sampleGroup : Db :=
  { Db.empty with
    ledger :=
      { accounts := ⟨[sampleProviderAccount, sampleWalletAccount 1 "WALLET:1" (by decide),
          sampleWalletAccount 2 "WALLET:2" (by decide), sampleFeeAccount], by decide⟩
        transactions := ⟨[sampleFunding], by simp⟩
        foreignKey := by decide }
    wallets := ⟨[⟨.ofNat 21, .ofNat 1, "NGN", .active⟩, ⟨.ofNat 22, .ofNat 2, "NGN", .active⟩],
      by decide⟩
    ajoGroups := ⟨[sampleFriends], by decide⟩
    ajoGroupMembers := ⟨[⟨.ofNat 31, .ofNat 30, .ofNat 1, .groupAdmin, .active⟩,
      ⟨.ofNat 32, .ofNat 30, .ofNat 2, .member, .active⟩], by decide⟩
    ajoSlots := ⟨[⟨.ofNat 41, .ofNat 30, .ofNat 31, 1⟩, ⟨.ofNat 42, .ofNat 30, .ofNat 32, 2⟩],
      by decide⟩
    ajoCycles := ⟨[⟨.ofNat 51, .ofNat 30, 1, .pending, 1000000, 1000000⟩,
      ⟨.ofNat 52, .ofNat 30, 2, .pending, 2000000, 2000000⟩], by decide⟩
    contributionSchedules := ⟨[sampleContribution 1 1, sampleContribution 1 2,
      sampleContribution 2 1, sampleContribution 2 2], by decide⟩
    payoutSchedules := ⟨[samplePayout 1, samplePayout 2], by decide⟩ }

/-- No key of the group's tables is used yet. -/
theorem sampleGroup_keyed : WellKeyed sampleGroup := by
  intro t ht
  have hkey : t.idempotencyKey = "opening" ++ "" := by
    rw [List.mem_singleton.mp (show t ∈ [sampleFunding] from ht)]
    rfl
  rw [hkey]
  refine ⟨fun s k e ↦ ?_, fun p e ↦ ?_, fun i k e ↦ ?_⟩
  · exact absurd (e.trans String.append_assoc)
      (append_ne_append 5 (by simp) (by simp) (by simp) _ _)
  · exact absurd e (append_ne_append 5 (by simp) (by simp) (by simp) _ _)
  · exact absurd (e.trans String.append_assoc)
      (append_ne_append 5 (by simp) (by simp) (by simp) _ _)

theorem sampleGroup_locked : LockedGroup sampleGroup (.ofNat 30) where
  keyed := sampleGroup_keyed
  group := ⟨sampleFriends, List.mem_singleton_self _, rfl, rfl,
    by decide⟩
  payoutSchedules := by decide +kernel
  turns := by decide +kernel
  contributionSchedules := by decide +kernel
  cycles := by decide +kernel
  contributions := nofun
  payouts := nofun
  swaps := nofun
  pool := by decide +kernel

/-- The member `user` pays for the slot `slot` in the cycle `cycle`. -/
def samplePay (n cycle slot : Nat) : Call :=
  .payContribution (sampleCtx n) (.ofNat slot) (.ofNat 30) (.ofNat (60 + 2 * cycle + slot))
    ⟨100, "key"⟩

/-- Everyone pays for both rounds. -/
def samplePayments : List Call := [samplePay 1 1 1, samplePay 2 1 2, samplePay 3 2 1, samplePay 4 2 2]

/-- The administrator pays out a row. -/
def samplePayOut (n row : Nat) : Call :=
  .executePayout (sampleCtx n) (.ofNat 1) (.ofNat 30) (.ofNat row)

/-- The administrator asks to exchange the two slots. -/
def sampleSwap : Call :=
  .createSwap (sampleCtx 5) (.ofNat 1) (.ofNat 30) ⟨.ofNat 41, .ofNat 42, none⟩

/-- The member `user` approves the swap. -/
def sampleApproval (n user : Nat) : Call :=
  .approveSwap (sampleCtx n) (.ofNat user) (.ofNat 30) (.ofNat 5000) none

end Sample

end AjoCloud.Ajo
