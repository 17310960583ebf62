import AjoCloud.Ajo.Locking
import AjoCloud.Ajo.Turns

/-!
# Contribution plans and contributions

A member's contribution plan is a second account of what the schedules and the contributions record:
what is expected in all, what has been paid and what is outstanding.  `lock` writes its totals;
recording a contribution does not touch it.
-/

namespace AjoCloud.Ajo

open Lib Payments

variable {db db' : Db} {g : AjoGroup}

/-! ## The account -/

/-- The slot is one of the member's. -/
def holdsSlot (db : Db) (memberId slotId : Uuid) : Bool :=
  (db.ajoSlots.findMany (·.memberId = memberId)).any (·.id = slotId)

/-- All that the schedules of the member's slots ask for. -/
def dueFrom (db : Db) (memberId : Uuid) : Int :=
  sumWhere db.contributionSchedules.rows (fun s ↦ holdsSlot db memberId s.slotId) (·.amountDueMinor)

/-- All that the member has contributed. -/
def contributedBy (db : Db) (memberId : Uuid) : Int :=
  sumWhere db.contributions.rows (fun c ↦ c.memberId = memberId ∧ c.status = .succeeded)
    (·.amountMinor)

/-- The plan says what the schedules and the contributions say. -/
structure TracksPayments (db : Db) (p : AjoContributionPlan) : Prop where
  paid : p.actualPaidMinor = contributedBy db p.memberId
  outstanding : p.outstandingMinor = p.totalExpectedMinor - p.actualPaidMinor
  expected : p.totalExpectedMinor = dueFrom db p.memberId

/-! ## Paying -/

/-- The schedule asks for the same. -/
structure SameDue (s s' : ContributionSchedule) : Prop where
  slotId : s'.slotId = s.slotId
  amountDueMinor : s'.amountDueMinor = s.amountDueMinor

/-- A call that pays writes contributions and schedules, and none of the tables of the roll. -/
structure Pays (db db' : Db) (paid : List Contribution)
    (f : ContributionSchedule → ContributionSchedule) : Prop where
  groups : db'.ajoGroups = db.ajoGroups
  members : db'.ajoGroupMembers = db.ajoGroupMembers
  slots : db'.ajoSlots = db.ajoSlots
  plans : db'.ajoContributionPlans = db.ajoContributionPlans
  contributions : db'.contributions.rows = db.contributions.rows ++ paid
  positive : ∀ c ∈ paid, 0 < c.amountMinor
  schedules : db'.contributionSchedules.rows = db.contributionSchedules.rows.map f
  same : ∀ s, SameDue s (f s)

/-- A call that writes none of these tables pays nothing. -/
theorem Pays.of_eq (hgroups : db'.ajoGroups = db.ajoGroups)
    (hmembers : db'.ajoGroupMembers = db.ajoGroupMembers) (hslots : db'.ajoSlots = db.ajoSlots)
    (hplans : db'.ajoContributionPlans = db.ajoContributionPlans)
    (hcontributions : db'.contributions = db.contributions)
    (hschedules : db'.contributionSchedules = db.contributionSchedules) : Pays db db' [] id where
  groups := hgroups
  members := hmembers
  slots := hslots
  plans := hplans
  contributions := by rw [hcontributions, List.append_nil]
  positive := List.forall_mem_nil _
  schedules := by rw [hschedules, List.map_id]
  same := fun _ ↦ ⟨rfl, rfl⟩

/-- Recording a contribution adds its row and credits its schedule. -/
theorem recordContributionWithin_pays {ctx : Ctx} {memberId ledgerId : Uuid}
    {s : ContributionSchedule} {amount : Int} {key : String} {c : Contribution}
    (hpos : 0 < amount)
    (h : recordContributionWithin ctx db memberId s amount key ledgerId = .ok (c, db')) :
    ∃ f, Pays db db' [c] f := by
  obtain ⟨rfl, -, hrows, hafter⟩ := recordContributionWithin_eq_ok h
  refine ⟨fun x ↦ if decide (x.id = s.id) = true then creditSchedule s amount ctx.now x else x, ?_⟩
  constructor
  · rw [hafter]
  · rw [hafter]
  · rw [hafter]
  · rw [hafter]
  · exact hrows
  · intro c hc
    rw [List.mem_singleton.mp hc]
    exact hpos
  · rw [hafter]
    rfl
  · intro x
    split
    · exact ⟨rfl, rfl⟩
    · exact ⟨rfl, rfl⟩

/-- What a payment does before it is recorded leaves all tables but the ledger alone. -/
theorem Pays.of_ledger {paid : List Contribution}
    {f : ContributionSchedule → ContributionSchedule} {ledger : Ledger}
    (h : Pays { db with ledger := ledger } db' paid f) : Pays db db' paid f :=
  ⟨h.groups, h.members, h.slots, h.plans, h.contributions, h.positive, h.schedules, h.same⟩

theorem payContribution_pays {ctx : Ctx} {userId groupId scheduleId : Uuid}
    {dto : PayContributionDto} {c : Contribution}
    (h : payContribution ctx db userId groupId scheduleId dto = .ok (c, db')) :
    ∃ paid f, Pays db db' paid f := by
  simp only [payContribution, bind_eq_ok, require_eq_ok, orThrow_eq_ok, exists_const] at h
  obtain ⟨s, -, -, slot, -, member, -, -, -, h⟩ := h
  split at h
  · rw [pure_eq_ok, Prod.mk.injEq] at h
    exact ⟨[], id, h.2 ▸ .of_eq rfl rfl rfl rfl rfl rfl⟩
  · simp only [payFresh, bind_eq_ok, require_eq_ok, mapError_eq_ok, exists_const, Prod.exists] at h
    obtain ⟨-, _, hamount, wallet, -, pool, db₁, hpool, -, ref, ledger, -, hrec⟩ := h
    obtain ⟨hdb₁, -⟩ := poolAccountWithin_eq_ok hpool
    obtain ⟨f, hpays⟩ :=
      recordContributionWithin_pays (assertContributionAmount_eq_ok hamount).1 hrec
    rw [hdb₁] at hpays
    exact ⟨[c], f, hpays.of_ledger.of_ledger⟩

theorem settleIntent_pays {ctx : Ctx} {userId intentId : Uuid} {key : String} {r : PaymentIntent}
    (h : settleIntent ctx db userId intentId key = .ok (r, db')) : ∃ paid f, Pays db db' paid f := by
  simp only [settleIntent, bind_eq_ok, require_eq_ok, exists_const] at h
  obtain ⟨_, -, -, h⟩ := h
  obtain ⟨intent, -, -, -, ⟨-, rfl⟩ | ⟨-, target, _, _, opened, _, ledger, settled, hsettled⟩⟩ :=
    settleFromWallet_eq_ok h
  · exact ⟨[], id, .of_eq rfl rfl rfl rfl rfl rfl⟩
  · obtain ⟨o, ho, -, hpos, -⟩ := resolveContribution_eq_ok hsettled.resolve
    obtain ⟨htarget, hs⟩ := owed_eq_ok ho
    have hcredit : creditPool ctx db (some o.schedule.id) intent.currency = .ok (_, opened) :=
      htarget ▸ hsettled.credit
    obtain ⟨hopened, -⟩ := poolAccountWithin_eq_ok (creditPool_eq_ok hs hcredit)
    obtain ⟨memberId, c, hrec⟩ := settleContribution_eq_ok hsettled.settle (hopened ▸ hs) htarget
    have hamount : 0 < intent.amountMinor := hsettled.amount ▸ hpos
    obtain ⟨f, hpays⟩ := recordContributionWithin_pays hamount hrec
    rw [hopened] at hpays
    have hafter := hsettled.after
    refine ⟨[c], f, ?_⟩
    obtain ⟨hgroups, hmembers, hslots, hplans, hcontributions, hpositive, hschedules, hsame⟩ :=
      hpays.of_ledger.of_ledger
    rw [hafter]
    exact ⟨hgroups, hmembers, hslots, hplans, hcontributions, hpositive, hschedules, hsame⟩

theorem create_pays {ctx : Ctx} {handler : PaymentTarget} {userId : Uuid} {dto : CreateIntentDto}
    {key : String} {r : PaymentIntent} (h : create ctx db handler userId dto key = .ok (r, db')) :
    Pays db db' [] id := by
  obtain ⟨_, -, hdb'⟩ := (create_eq_ok h).append
  rw [hdb']
  exact .of_eq rfl rfl rfl rfl rfl rfl

/-! ## Whose a slot is -/

theorem holdsSlot_iff {slot : AjoSlot} (hslot : slot ∈ db.ajoSlots.rows) {memberId : Uuid} :
    holdsSlot db memberId slot.id = true ↔ slot.memberId = memberId := by
  rw [holdsSlot, List.any_eq_true]
  constructor
  · rintro ⟨s, hs, hid⟩
    rw [Table.mem_findMany, decide_eq_true_eq] at hs
    have heq : s = slot := db.ajoSlots.eq_of_clash hs.1 hslot (.inl (of_decide_eq_true hid))
    exact heq ▸ hs.2
  · intro hmember
    refine ⟨slot, ?_, decide_eq_true rfl⟩
    rw [Table.mem_findMany, decide_eq_true_eq]
    exact ⟨hslot, hmember⟩

/-- A member's slots are in its group. -/
theorem Roll.groupId_eq (h : Roll db) {p : AjoContributionPlan} {slot : AjoSlot}
    (hp : p ∈ db.ajoContributionPlans.rows) (hslot : slot ∈ db.ajoSlots.rows)
    (hmember : slot.memberId = p.memberId) : slot.groupId = p.groupId := by
  obtain ⟨m, hm, hid, hgroup⟩ := h.plans p hp
  obtain ⟨m', hm', hid', hgroup'⟩ := h.slots slot hslot
  have heq : m = m' :=
    db.ajoGroupMembers.eq_of_clash hm hm' (.inl (hid.trans (hmember.symm.trans hid'.symm)))
  rw [← hgroup, ← hgroup', heq]

/-- Counting a member's slots among those of its group counts all of them. -/
theorem Roll.countP_holdsSlot (h : Roll db) {p : AjoContributionPlan}
    (hp : p ∈ db.ajoContributionPlans.rows) :
    ((slotsOf db p.groupId).countP fun s ↦ holdsSlot db p.memberId s.id) = p.unitQuantity := by
  rw [h.quantity p hp, heldBy, slotsOf, Table.findMany, Table.findMany, List.countP_filter,
    ← List.countP_eq_length_filter]
  refine List.countP_congr fun s hs ↦ ?_
  rw [Bool.and_eq_true, holdsSlot_iff hs, decide_eq_true_eq, decide_eq_true_eq]
  exact ⟨And.left, fun hmember ↦ ⟨hmember, h.groupId_eq hp hs hmember⟩⟩

/-- A member has no slot in another group. -/
theorem Roll.countP_holdsSlot_other (h : Roll db) {p : AjoContributionPlan}
    (hp : p ∈ db.ajoContributionPlans.rows) {groupId : Uuid} (hother : p.groupId ≠ groupId) :
    ((slotsOf db groupId).countP fun s ↦ holdsSlot db p.memberId s.id) = 0 := by
  rw [List.countP_eq_zero]
  intro s hs hholds
  rw [slotsOf, Table.mem_findMany, decide_eq_true_eq] at hs
  have hgroup := h.groupId_eq hp hs.1 ((holdsSlot_iff hs.1).mp hholds)
  exact hother (hgroup.symm.trans hs.2)

/-! ## The invariant -/

/-- Where the plans of every group stand. -/
structure PlansFit (db : Db) : Prop where
  roll : Roll db
  unit : ∀ g ∈ db.ajoGroups.rows,
    g.contributionUnitMinor.getD g.baseContributionMinor = g.baseContributionMinor
  perCycle : ∀ p ∈ db.ajoContributionPlans.rows, ∀ g ∈ db.ajoGroups.rows, g.id = p.groupId →
    p.expectedPerCycleMinor = g.baseContributionMinor * p.unitQuantity
  unpaid : ∀ p ∈ db.ajoContributionPlans.rows, p.actualPaidMinor = 0
  positive : ∀ c ∈ db.contributions.rows, 0 < c.amountMinor
  drawn : ∀ s ∈ db.contributionSchedules.rows, ∃ slot ∈ db.ajoSlots.rows, slot.id = s.slotId ∧
    ∃ g ∈ db.ajoGroups.rows, g.id = slot.groupId ∧ ¬ AcceptsMembers g
  totals : ∀ p ∈ db.ajoContributionPlans.rows, ∀ g ∈ db.ajoGroups.rows, g.id = p.groupId →
    ¬ AcceptsMembers g →
      p.outstandingMinor = p.totalExpectedMinor ∧ p.totalExpectedMinor = dueFrom db p.memberId

/-- The group has the same price and is as open as it was. -/
structure SamePrice (g g' : AjoGroup) : Prop where
  id : g'.id = g.id
  baseContributionMinor : g'.baseContributionMinor = g.baseContributionMinor
  contributionUnitMinor : g'.contributionUnitMinor = g.contributionUnitMinor
  accepts : AcceptsMembers g' ↔ AcceptsMembers g

theorem dueFrom_of_map {f : ContributionSchedule → ContributionSchedule}
    (hslots : db'.ajoSlots = db.ajoSlots)
    (hschedules : db'.contributionSchedules.rows = db.contributionSchedules.rows.map f)
    (hf : ∀ s, SameDue s (f s)) (memberId : Uuid) : dueFrom db' memberId = dueFrom db memberId := by
  rw [dueFrom, dueFrom, hschedules, sumWhere_map]
  refine sumWhere_congr fun s _ ↦ ?_
  rw [(hf s).slotId, (hf s).amountDueMinor, holdsSlot, holdsSlot, hslots]

/-- Rewriting groups and schedules in place, without touching what they ask for, changes nothing
for the plans. -/
theorem PlansFit.of_map (h : PlansFit db) {groups : AjoGroup → AjoGroup}
    {schedules : ContributionSchedule → ContributionSchedule} (hroll : Roll db')
    (hgroups : db'.ajoGroups.rows = db.ajoGroups.rows.map groups)
    (hprices : ∀ g, SamePrice g (groups g)) (hslots : db'.ajoSlots = db.ajoSlots)
    (hplans : db'.ajoContributionPlans = db.ajoContributionPlans)
    (hpositive : ∀ c ∈ db'.contributions.rows, 0 < c.amountMinor)
    (hschedules : db'.contributionSchedules.rows = db.contributionSchedules.rows.map schedules)
    (hdue : ∀ s, SameDue s (schedules s)) : PlansFit db' := by
  have hgroup : ∀ {x}, x ∈ db'.ajoGroups.rows → ∃ g ∈ db.ajoGroups.rows, groups g = x :=
    fun hx ↦ List.mem_map.mp (hgroups ▸ hx)
  refine ⟨hroll, ?_, ?_, ?_, hpositive, ?_, ?_⟩
  · intro x hx
    obtain ⟨g, hg, rfl⟩ := hgroup hx
    rw [(hprices g).contributionUnitMinor, (hprices g).baseContributionMinor]
    exact h.unit g hg
  · intro p hp x hx hid
    obtain ⟨g, hg, rfl⟩ := hgroup hx
    rw [(hprices g).baseContributionMinor]
    exact h.perCycle p (hplans ▸ hp) g hg ((hprices g).id.symm.trans hid)
  · rw [hplans]
    exact h.unpaid
  · intro s hs
    rw [hschedules, List.mem_map] at hs
    obtain ⟨s, hs, rfl⟩ := hs
    obtain ⟨slot, hslot, hid, g, hg, hgid, hlocked⟩ := h.drawn s hs
    refine ⟨slot, hslots ▸ hslot, hid.trans (hdue s).slotId.symm, groups g, ?_, ?_, ?_⟩
    · rw [hgroups]
      exact List.mem_map_of_mem hg
    · exact (hprices g).id.trans hgid
    · exact fun haccepts ↦ hlocked ((hprices g).accepts.mp haccepts)
  · intro p hp x hx hid hlocked
    obtain ⟨g, hg, rfl⟩ := hgroup hx
    rw [dueFrom_of_map hslots hschedules hdue]
    exact h.totals p (hplans ▸ hp) g hg ((hprices g).id.symm.trans hid)
      fun haccepts ↦ hlocked ((hprices g).accepts.mpr haccepts)

theorem SamePrice.refl (g : AjoGroup) : SamePrice g g := ⟨rfl, rfl, rfl, Iff.rfl⟩

theorem PlansFit.pays (h : PlansFit db) {paid : List Contribution}
    {f : ContributionSchedule → ContributionSchedule} (hp : Pays db db' paid f) : PlansFit db' := by
  refine h.of_map (h.roll.of_eq hp.groups hp.members hp.slots hp.plans)
    (hp.groups ▸ (List.map_id _).symm) .refl hp.slots hp.plans ?_ hp.schedules hp.same
  intro c hc
  rw [hp.contributions, List.mem_append] at hc
  rcases hc with hc | hc
  · exact h.positive c hc
  · exact hp.positive c hc

/-! ### Opening and joining -/

/-- A group that was just opened has no plans and no schedules. -/
theorem PlansFit.addGroup (h : PlansFit db) {ajoGroups : Table AjoGroup}
    (hins : insertRow db.ajoGroups g = .ok ajoGroups)
    (hunit : g.contributionUnitMinor.getD g.baseContributionMinor = g.baseContributionMinor) :
    PlansFit { db with ajoGroups := ajoGroups } := by
  have hrows := insertRow_eq_ok hins
  have hnone : ∀ p ∈ db.ajoContributionPlans.rows, g.id ≠ p.groupId := by
    intro p hp heq
    obtain ⟨x, hx, hid⟩ := h.roll.exists_group_of_plan hp
    exact not_clash_of_insertRow hins x hx (.inl (hid.trans heq.symm))
  have hgroup : ∀ {x}, x ∈ ajoGroups.rows → x ∈ db.ajoGroups.rows ∨ x = g := by
    intro x hx
    rwa [hrows, List.mem_append, List.mem_singleton] at hx
  refine ⟨h.roll.addGroup hins, ?_, ?_, h.unpaid, h.positive, ?_, ?_⟩
  · intro x hx
    rcases hgroup hx with hx | rfl
    · exact h.unit x hx
    · exact hunit
  · intro p hp x hx hid
    rcases hgroup hx with hx | rfl
    · exact h.perCycle p hp x hx hid
    · exact absurd hid (hnone p hp)
  · intro s hs
    obtain ⟨slot, hslot, hid, x, hx, hrest⟩ := h.drawn s hs
    exact ⟨slot, hslot, hid, x, hrows ▸ List.mem_append_left _ hx, hrest⟩
  · intro p hp x hx hid
    rcases hgroup hx with hx | rfl
    · exact h.totals p hp x hx hid
    · exact absurd hid (hnone p hp)

/-- What the members before owed they owe still. -/
theorem Enrols.dueFrom_other {ctx : Ctx} {e : Enrolment} (h : Enrols ctx e db db') {memberId : Uuid}
    (hother : memberId ≠ e.member.id) : dueFrom db' memberId = dueFrom db memberId := by
  have hschedules : db'.contributionSchedules = db.contributionSchedules := by rw [h.after]
  have hslots : db'.ajoSlots.findMany (·.memberId = memberId) =
      db.ajoSlots.findMany (·.memberId = memberId) := by
    rw [Table.findMany, h.slots]
    refine filter_concat_of_not fun s hs heq ↦ hother ?_
    exact (of_decide_eq_true heq).symm.trans (mem_newSlots hs).2
  rw [dueFrom, dueFrom, hschedules]
  refine sumWhere_congr fun s _ ↦ ?_
  rw [holdsSlot, holdsSlot, hslots]

/-- A new member's plan is for the price of the group, which still accepts members. -/
theorem PlansFit.enrol (h : PlansFit db) {ctx : Ctx} {e : Enrolment} (hg : g ∈ db.ajoGroups.rows)
    (haccepts : AcceptsMembers g) (he : Enrols ctx e db db') (hroom : HasRoom db g e)
    (hunit : e.unitMinor = g.baseContributionMinor) : PlansFit db' := by
  have hgroups : db'.ajoGroups = db.ajoGroups := by rw [he.after]
  have hself : ∀ x ∈ db.ajoGroups.rows, x.id = (newPlan ctx e).groupId → x = g := fun x hx hid ↦
    db.ajoGroups.eq_of_clash hx hg (.inl (hid.trans hroom.group))
  have hplan : ∀ {p}, p ∈ db'.ajoContributionPlans.rows →
      p ∈ db.ajoContributionPlans.rows ∨ p = newPlan ctx e := by
    intro p hp
    rwa [he.plans, List.mem_append, List.mem_singleton] at hp
  refine ⟨h.roll.enrol hg he hroom, ?_, ?_, ?_, ?_, ?_, ?_⟩
  · rw [hgroups]
    exact h.unit
  · intro p hp x hx hid
    rw [hgroups] at hx
    rcases hplan hp with hp | rfl
    · exact h.perCycle p hp x hx hid
    · rw [hself x hx hid, ← hunit]
      rfl
  · intro p hp
    rcases hplan hp with hp | rfl
    · exact h.unpaid p hp
    · rfl
  · rw [he.after]
    exact h.positive
  · intro s hs
    rw [he.after] at hs
    obtain ⟨slot, hslot, hid, x, hx, hrest⟩ := h.drawn s hs
    exact ⟨slot, he.slots ▸ List.mem_append_left _ hslot, hid, x, hgroups ▸ hx, hrest⟩
  · intro p hp x hx hid hlocked
    rw [hgroups] at hx
    rcases hplan hp with hp | rfl
    · obtain ⟨m, hm, hmember, -⟩ := h.roll.plans p hp
      rw [he.dueFrom_other (hmember ▸ he.fresh m hm)]
      exact h.totals p hp x hx hid hlocked
    · exact absurd (hself x hx hid ▸ haccepts) hlocked

/-! ### Locking -/

section Locking

variable {ctx : Ctx} {slots : List AjoSlot} {cycles : List RotationCycle}
  {p : AjoContributionPlan}

theorem Locks.planned (hl : Locks ctx db db' g slots cycles) (h : Roll db) :
    slots = slotsOf db g.id ∧ Planned g slots.length slots cycles := by
  have hpositions := (h.agrees g hl.mem).positions
  have hslots : slots = slotsOf db g.id := by
    rw [hl.slots_eq, insertionSort_of_positions hpositions]
  subst hslots
  exact ⟨rfl, (generateRotationSchedule_eq_ok hl.cycles_eq hpositions).2.2⟩

/-- What a member owes after its group, or another, was locked. -/
theorem Locks.dueFrom_eq (hl : Locks ctx db db' g slots cycles) (h : Roll db) (memberId : Uuid) :
    dueFrom db' memberId = dueFrom db memberId + g.baseContributionMinor *
      ((slotsOf db g.id).countP fun s ↦ holdsSlot db memberId s.id) * cycles.length := by
  obtain ⟨hslots, hplanned⟩ := hl.planned h
  have hholds : ∀ slotId, holdsSlot db' memberId slotId = holdsSlot db memberId slotId := by
    intro slotId
    rw [hl.after]
    rfl
  rw [dueFrom, hl.draws.contributionSchedules, sumWhere_append]
  simp only [hholds]
  rw [sumWhere_drawnContributions (holdsSlot db memberId) hplanned.contributions, ← hslots]
  rfl

/-- Before a group is locked its members owe nothing. -/
theorem PlansFit.dueFrom_open (h : PlansFit db) (hp : p ∈ db.ajoContributionPlans.rows)
    (hg : g ∈ db.ajoGroups.rows) (hid : g.id = p.groupId) (haccepts : AcceptsMembers g) :
    dueFrom db p.memberId = 0 := by
  refine sumWhere_eq_zero fun s hs hholds ↦ ?_
  obtain ⟨slot, hslot, hslotId, x, hx, hxid, hlocked⟩ := h.drawn s hs
  have hmember : slot.memberId = p.memberId := by
    rw [← hslotId] at hholds
    exact (holdsSlot_iff hslot).mp hholds
  have hgroup : x.id = g.id := by rw [hxid, hid, h.roll.groupId_eq hp hslot hmember]
  have heq : x = g := db.ajoGroups.eq_of_clash hx hg (.inl hgroup)
  exact hlocked (heq ▸ haccepts)

/-- `lock` writes into the plans what its schedules ask for. -/
theorem PlansFit.totals_of_lock (h : PlansFit db) (hl : Locks ctx db db' g slots cycles)
    (hp : p ∈ db.ajoContributionPlans.rows) (hid : g.id = p.groupId) :
    p.expectedPerCycleMinor * cycles.length = dueFrom db' p.memberId := by
  rw [hl.dueFrom_eq h.roll, h.dueFrom_open hp hl.mem hid hl.accepts, zero_add, hid,
    h.roll.countP_holdsSlot hp, h.perCycle p hp g hl.mem hid]

theorem PlansFit.lock (h : PlansFit db) (hl : Locks ctx db db' g slots cycles) : PlansFit db' := by
  have hrollAfter := hl.roll h.roll
  have hgroups := congrArg Table.rows hl.groups
  have hplans : db'.ajoContributionPlans.rows = db.ajoContributionPlans.rows.map fun p ↦
      if decide (p.groupId = g.id) = true then lockedPlan g slots.length cycles.length p else p :=
    congrArg Table.rows hl.plans
  have hgroup : ∀ {x}, x ∈ db'.ajoGroups.rows → ∃ y ∈ db.ajoGroups.rows, y.id = x.id ∧
      y.baseContributionMinor = x.baseContributionMinor ∧
      y.contributionUnitMinor = x.contributionUnitMinor ∧ (y.id ≠ g.id → y = x) := by
    intro x hx
    rw [hgroups, Table.rows_modify, List.mem_map] at hx
    obtain ⟨y, hy, rfl⟩ := hx
    refine ⟨y, hy, ?_⟩
    split
    · next heq => exact ⟨rfl, rfl, rfl, fun hne ↦ absurd (of_decide_eq_true heq) hne⟩
    · exact ⟨rfl, rfl, rfl, fun _ ↦ rfl⟩
  have hkeep : ∀ {y}, y ∈ db.ajoGroups.rows → ¬ AcceptsMembers y →
      ∃ x ∈ db'.ajoGroups.rows, x.id = y.id ∧ ¬ AcceptsMembers x := by
    intro y hy hlocked
    refine ⟨y, ?_, rfl, hlocked⟩
    rw [hgroups, Table.rows_modify, List.mem_map]
    refine ⟨y, hy, if_neg fun heq ↦ hlocked ?_⟩
    have hyg : y = g := db.ajoGroups.eq_of_clash hy hl.mem (.inl (of_decide_eq_true heq))
    exact hyg ▸ hl.accepts
  have hplan : ∀ {q}, q ∈ db'.ajoContributionPlans.rows → ∃ p ∈ db.ajoContributionPlans.rows,
      q = if decide (p.groupId = g.id) = true then lockedPlan g slots.length cycles.length p
        else p := by
    intro q hq
    rw [hplans, List.mem_map] at hq
    obtain ⟨p, hp, rfl⟩ := hq
    exact ⟨p, hp, rfl⟩
  refine ⟨hrollAfter, ?_, ?_, ?_, ?_, ?_, ?_⟩
  · intro x hx
    obtain ⟨y, hy, -, hbase, hunit, -⟩ := hgroup hx
    rw [← hbase, ← hunit]
    exact h.unit y hy
  · intro q hq x hx hid
    obtain ⟨y, hy, hyid, hbase, -⟩ := hgroup hx
    obtain ⟨p, hp, rfl⟩ := hplan hq
    rw [← hbase]
    split at hid
    · rw [if_pos ‹_›]
      exact h.perCycle p hp y hy (hyid.trans hid)
    · rw [if_neg ‹_›]
      exact h.perCycle p hp y hy (hyid.trans hid)
  · intro q hq
    obtain ⟨p, hp, rfl⟩ := hplan hq
    split
    · exact h.unpaid p hp
    · exact h.unpaid p hp
  · rw [hl.after]
    exact h.positive
  · intro s hs
    have hslots : db'.ajoSlots = db.ajoSlots := by rw [hl.after]
    rw [hl.draws.contributionSchedules, List.mem_append] at hs
    rw [hslots]
    rcases hs with hs | hs
    · obtain ⟨slot, hslot, hslotId, y, hy, hyid, hlocked⟩ := h.drawn s hs
      obtain ⟨x, hx, hxid, hxlocked⟩ := hkeep hy hlocked
      exact ⟨slot, hslot, hslotId, x, hx, hxid.trans hyid, hxlocked⟩
    · obtain ⟨slot, hslot, hslotId⟩ := slotId_of_mem_drawnContributions hs
      rw [(hl.planned h.roll).1, slotsOf, Table.mem_findMany, decide_eq_true_eq] at hslot
      refine ⟨slot, hslot.1, hslotId,
        { g with status := .locked, scheduleVersion := g.scheduleVersion + 1 }, ?_, hslot.2.symm,
        by rintro (h | h) <;> cases h⟩
      rw [hgroups, Table.rows_modify, List.mem_map]
      exact ⟨g, hl.mem, if_pos (decide_eq_true rfl)⟩
  · intro q hq x hx hid hlocked
    obtain ⟨y, hy, hyid, -, -, hsame⟩ := hgroup hx
    obtain ⟨p, hp, rfl⟩ := hplan hq
    by_cases hmine : p.groupId = g.id
    · rw [if_pos (decide_eq_true hmine)]
      exact ⟨rfl, h.totals_of_lock hl hp hmine.symm⟩
    · rw [if_neg (by simpa using hmine)] at hid ⊢
      have hyx : y = x := hsame fun heq ↦ hmine (hid.symm.trans (hyid.symm.trans heq))
      rw [hl.dueFrom_eq h.roll, h.roll.countP_holdsSlot_other hp hmine]
      have htotals := h.totals p hp y hy (hyx ▸ hid) (hyx ▸ hlocked)
      refine ⟨htotals.1, htotals.2.trans ?_⟩
      push_cast
      ring

end Locking

/-! ## Runs -/

theorem GroupEffect.plansFit (he : GroupEffect db db') (h : PlansFit db) : PlansFit db' := by
  cases he with
  | same heq => exact heq ▸ h
  | created ctx g hc =>
      obtain ⟨groups, hins, e, enrolled, henrol, hroom, hunit, i, -, -, hafter⟩ := hc.opened
      have hmem : g ∈ groups.rows := by
        rw [insertRow_eq_ok hins]
        exact List.mem_append_right _ (List.mem_singleton_self _)
      have hroom' : HasRoom { db with ajoGroups := groups } g e :=
        ⟨hroom.group, hroom.active, hroom.taken, hroom.slots, hroom.members, hroom.least,
          hroom.most⟩
      have hfit := (h.addGroup hins hc.unit).enrol hmem hc.accepts henrol hroom' hunit
      rw [hafter]
      exact hfit.pays (.of_eq rfl rfl rfl rfl rfl rfl)
  | joined ctx g hj =>
      obtain ⟨e, enrolled, henrol, hroom, hunit, spent, -, rfl⟩ := hj.enrolled
      have hfit := h.enrol hj.mem hj.accepts henrol hroom (hunit.trans (h.unit g hj.mem))
      cases spent with
      | none => exact hfit
      | some i =>
          exact hfit.pays (.of_eq rfl rfl rfl rfl rfl rfl)
  | listed groupId listed hl =>
      have hroll := hl.roll h.roll
      rw [hl] at hroll ⊢
      refine h.of_map hroll rfl (fun x ↦ ?_) rfl rfl h.positive (List.map_id _).symm
        fun _ ↦ ⟨rfl, rfl⟩
      split
      · exact ⟨rfl, rfl, rfl, Iff.rfl⟩
      · exact .refl x
  | invited hi =>
      rw [hi.after]
      exact h.pays (.of_eq rfl rfl rfl rfl rfl rfl)
  | locked ctx g slots cycles hl => exact h.lock hl

/-- A call of the group services, a payment, or anything that happens elsewhere on the platform in
between. -/
inductive PlanCall where
  | group (call : GroupCall)
  | pay (call : Call)
  | elsewhere (after : Db)

/-- The tables that only groups and contributions write are taken from `db`, all others from
`after`. -/
def withPlans (db after : Db) : Db :=
  { after with
    ajoGroups := db.ajoGroups
    ajoGroupMembers := db.ajoGroupMembers
    ajoSlots := db.ajoSlots
    ajoContributionPlans := db.ajoContributionPlans
    contributionSchedules := db.contributionSchedules
    contributions := db.contributions }

/-- The database a call leaves. -/
def planStep (db : Db) : PlanCall → Db
  | .group call => groupStep db call
  | .pay call => step db call
  | .elsewhere after => withPlans db after

/-- The call pays a contribution, directly or by an intent. -/
def Call.isPayment : Call → Bool
  | .payContribution .. | .createIntent .. | .settleIntent .. => true
  | _ => false

/-- The payments are those of contributions. -/
def IsPlanCall (_ : Db) : PlanCall → Prop
  | .pay call => call.isPayment = true
  | .group _ | .elsewhere _ => True

instance (db : Db) (call : PlanCall) : Decidable (IsPlanCall db call) :=
  match call with
  | .pay call => inferInstanceAs (Decidable (call.isPayment = true))
  | .group _ | .elsewhere _ => isTrue trivial

/-- A transaction whose every success pays, pays when it is committed. -/
theorem pays_committed {α : Type} {result : Except ServiceError (α × Db)}
    (hok : ∀ a db', result = .ok (a, db') → ∃ paid f, Pays db db' paid f) :
    ∃ paid f, Pays db (committed db result) paid f := by
  rcases result with e | ⟨a, db'⟩
  · exact ⟨[], id, .of_eq rfl rfl rfl rfl rfl rfl⟩
  · exact hok a db' rfl

theorem pays_step {call : Call} (hpayment : call.isPayment = true) :
    ∃ paid f, Pays db (step db call) paid f := by
  cases call with
  | payContribution ctx userId groupId scheduleId dto =>
      exact pays_committed fun _ _ hok ↦ payContribution_pays hok
  | createIntent ctx userId dto key =>
      exact pays_committed fun _ _ hok ↦ ⟨[], id, create_pays hok⟩
  | settleIntent ctx userId intentId key =>
      exact pays_committed fun _ _ hok ↦ settleIntent_pays hok
  | executePayout | createSwap | approveSwap | rejectSwap | assignStatus => cases hpayment

theorem plansFit_planStep (h : PlansFit db) {call : PlanCall} (hcall : IsPlanCall db call) :
    PlansFit (planStep db call) := by
  cases call with
  | group call => exact (groupStep_effect h.roll call).plansFit h
  | pay call =>
      obtain ⟨paid, f, hpays⟩ := pays_step hcall
      exact h.pays hpays
  | elsewhere after =>
      exact h.pays (.of_eq rfl rfl rfl rfl rfl rfl)

/-- There are no groups, contributions and schedules yet; the rest of the platform may be in any
state. -/
structure NoPlans (db : Db) : Prop where
  groups : NoGroups db
  contributions : db.contributions.rows = []
  schedules : db.contributionSchedules.rows = []

theorem NoPlans.plansFit (h : NoPlans db) : PlansFit db := by
  have hplans := h.groups.plans
  refine ⟨h.groups.roll, ?_, ?_, ?_, ?_, ?_, ?_⟩
  · rw [h.groups.groups]
    exact List.forall_mem_nil _
  · rw [hplans]
    exact List.forall_mem_nil _
  · rw [hplans]
    exact List.forall_mem_nil _
  · rw [h.contributions]
    exact List.forall_mem_nil _
  · rw [h.schedules]
    exact List.forall_mem_nil _
  · rw [hplans]
    exact List.forall_mem_nil _

/-- A member has contributed nothing when no contribution of theirs has succeeded, and only then. -/
theorem PlansFit.contributedBy_eq_zero_iff (h : PlansFit db) {memberId : Uuid} :
    contributedBy db memberId = 0 ↔
      ∀ c ∈ db.contributions.rows, c.memberId = memberId → c.status ≠ .succeeded := by
  have hzero : contributedBy db memberId = 0 ↔ contributedBy db memberId ≤ sumWhere
      db.contributions.rows (fun c ↦ c.memberId = memberId ∧ c.status = .succeeded) fun _ ↦ 0 := by
    have hnonneg : 0 ≤ contributedBy db memberId := by
      refine List.sum_nonneg fun x hx ↦ ?_
      obtain ⟨c, hc, rfl⟩ := List.mem_map.mp hx
      exact le_of_lt (h.positive c (List.mem_filter.mp hc).1)
    have hconst : sumWhere db.contributions.rows
        (fun c ↦ c.memberId = memberId ∧ c.status = .succeeded) (fun _ ↦ 0) = 0 := by
      simp [sumWhere]
    omega
  rw [hzero, contributedBy, sumWhere_le_iff fun c hc _ ↦ le_of_lt (h.positive c hc)]
  refine forall₂_congr fun c hc ↦ ?_
  have hne : (0 : Int) ≠ c.amountMinor := ne_of_lt (h.positive c hc)
  rw [decide_eq_true_eq]
  constructor
  · intro himp hmember hsucceeded
    exact hne (himp ⟨hmember, hsucceeded⟩)
  · rintro himp ⟨hmember, hsucceeded⟩
    exact absurd hsucceeded (himp hmember)

/-- Of a locked group's plans the totals are right, for every run of contributions.  What was paid
is right for as long as nothing has been: a plan tracks its member's payments until the first of them
succeeds, and no longer. -/
theorem plan_tracks_payments_iff {start : Db} (hstart : NoPlans start)
    (hrun : Reaches planStep IsPlanCall start db) {p : AjoContributionPlan}
    (hp : p ∈ db.ajoContributionPlans.rows) (hg : g ∈ db.ajoGroups.rows) (hid : g.id = p.groupId)
    (hlocked : ¬ AcceptsMembers g) :
    (p.outstandingMinor = p.totalExpectedMinor - p.actualPaidMinor ∧
        p.totalExpectedMinor = dueFrom db p.memberId) ∧
      (TracksPayments db p ↔
        ∀ c ∈ db.contributions.rows, c.memberId = p.memberId → c.status ≠ .succeeded) := by
  have hfit : PlansFit db := hrun.invariant hstart.plansFit fun _ _ h hcall ↦ plansFit_planStep h hcall
  obtain ⟨houtstanding, hexpected⟩ := hfit.totals p hp g hg hid hlocked
  have hunpaid := hfit.unpaid p hp
  have houtstanding' : p.outstandingMinor = p.totalExpectedMinor - p.actualPaidMinor := by
    rw [hunpaid, sub_zero, houtstanding]
  refine ⟨⟨houtstanding', hexpected⟩, ?_⟩
  rw [← hfit.contributedBy_eq_zero_iff]
  constructor
  · intro htracks
    rw [← htracks.paid, hunpaid]
  · intro hzero
    exact ⟨hunpaid.trans hzero.symm, houtstanding', hexpected⟩

section Sample

/-- The organiser is verified and has 500 in the wallet. -/
def sampleSaver : Db :=
  { verifiedOrganiser with ledger := sampleGroup.ledger, wallets := sampleGroup.wallets }

/-- The group of two is opened and locked. -/
def sampleLocking : List PlanCall :=
  sampleOpening.map .group ++
    [.group (.lock ⟨2000, fun k ↦ .ofNat (3000 + k)⟩ (.ofNat 1) (.ofNat 1000))]

/-- The organiser pays the first contribution. -/
def sampleFirstPayment : PlanCall :=
  .pay (.payContribution ⟨3000, fun k ↦ .ofNat (4000 + k)⟩ (.ofNat 1) (.ofNat 1000) (.ofNat 3003)
    ⟨100, "first"⟩)

/-- The group, just locked. -/
def samplePlanned : Db := sampleLocking.foldl planStep sampleSaver

/-- The group after the first payment. -/
def samplePaid : Db := planStep samplePlanned sampleFirstPayment

theorem sampleSaver_noPlans : NoPlans sampleSaver := ⟨⟨rfl, rfl, rfl, rfl, rfl⟩, rfl, rfl⟩

theorem samplePlanned_reached : Reaches planStep IsPlanCall sampleSaver samplePlanned :=
  reaches_of_allAdmitted (by decide +kernel)

theorem plan_tracks_payments_sample :
    samplePlanned.ajoContributionPlans.rows.length = 2 ∧
      ∀ p ∈ samplePlanned.ajoContributionPlans.rows, p.totalExpectedMinor = 200 ∧
        TracksPayments samplePlanned p := by
  have hfacts : ∀ p ∈ samplePlanned.ajoContributionPlans.rows, p.totalExpectedMinor = 200 ∧
      ∃ g ∈ samplePlanned.ajoGroups.rows, g.id = p.groupId ∧ ¬ AcceptsMembers g := by
    decide +kernel
  have hnone : samplePlanned.contributions.rows = [] := by decide +kernel
  refine ⟨by decide +kernel, fun p hp ↦ ?_⟩
  obtain ⟨htotal, g, hg, hid, hlocked⟩ := hfacts p hp
  have htracks :=
    plan_tracks_payments_iff sampleSaver_noPlans samplePlanned_reached hp hg hid hlocked
  refine ⟨htotal, htracks.2.mpr ?_⟩
  rw [hnone]
  exact List.forall_mem_nil _

/-- The organiser has paid 100, and the plan says that nothing was paid and all is outstanding. -/
theorem payment_leaves_plan :
    ¬ ∀ start : Db, NoPlans start → ∀ db, Reaches planStep IsPlanCall start db →
      ∀ p ∈ db.ajoContributionPlans.rows, ∀ g ∈ db.ajoGroups.rows, g.id = p.groupId →
        ¬ AcceptsMembers g → TracksPayments db p := by
  intro h
  have hrun : Reaches planStep IsPlanCall sampleSaver samplePaid :=
    samplePlanned_reached.call sampleFirstPayment rfl
  have hfails : ¬ ∀ p ∈ samplePaid.ajoContributionPlans.rows,
      p.actualPaidMinor = contributedBy samplePaid p.memberId := by
    decide +kernel
  have hlocked : ∀ p ∈ samplePaid.ajoContributionPlans.rows,
      ∃ g ∈ samplePaid.ajoGroups.rows, g.id = p.groupId ∧ ¬ AcceptsMembers g := by
    decide +kernel
  apply hfails
  intro p hp
  obtain ⟨g, hg, hid, hopen⟩ := hlocked p hp
  exact (h sampleSaver sampleSaver_noPlans _ hrun p hp g hg hid hopen).paid

end Sample

end AjoCloud.Ajo
