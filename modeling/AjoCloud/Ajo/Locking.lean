import AjoCloud.Ajo.Lockable

/-!
# What locking draws up

The rows that `lock` writes, as lists: one cycle and one payout for each slot, and a contribution of
every slot in every cycle.
-/

namespace AjoCloud.Ajo

open Lib

variable {ctx : Ctx} {db db' : Db} {g : AjoGroup} {slots : List AjoSlot}
  {cycles : List RotationCycle} {first stride n : Nat}

/-! ## The plan -/

/-- The cycles that are planned: one for each slot, in their order, of equal amounts. -/
structure Planned (g : AjoGroup) (n : Nat) (slots : List AjoSlot) (cycles : List RotationCycle) :
    Prop where
  slots : cycles.map (·.payoutSlotId) = slots.map (·.id)
  contributions : ∀ c ∈ cycles, c.contributionAmountMinor = g.baseContributionMinor
  payouts : ∀ c ∈ cycles, c.payoutAmountMinor = g.baseContributionMinor * n

theorem Planned.length (h : Planned g n slots cycles) : cycles.length = slots.length := by
  rw [← List.length_map (·.payoutSlotId), h.slots, List.length_map]

theorem rotationFrom_eq_ok (hok : rotationFrom g n first slots = .ok cycles) :
    Planned g n slots cycles := by
  induction slots generalizing first cycles with
  | nil =>
      cases hok
      exact ⟨rfl, List.forall_mem_nil _, List.forall_mem_nil _⟩
  | cons slot rest ih =>
      simp only [rotationFrom, bind_eq_ok, require_eq_ok, pure_eq_ok, exists_const] at hok
      obtain ⟨-, later, hlater, rfl⟩ := hok
      obtain ⟨hslots, hcontributions, hpayouts⟩ := ih hlater
      refine ⟨?_, ?_, ?_⟩
      · rw [List.map_cons, List.map_cons, hslots]
        rfl
      · exact List.forall_mem_cons.mpr ⟨rfl, hcontributions⟩
      · exact List.forall_mem_cons.mpr ⟨rfl, hpayouts⟩

theorem generateRotationSchedule_eq_ok (hok : generateRotationSchedule g slots = .ok cycles)
    (h : slots.map (·.position) = List.range' 1 slots.length) :
    2 ≤ slots.length ∧ 0 < g.baseContributionMinor ∧ Planned g slots.length slots cycles := by
  simp only [generateRotationSchedule, bind_eq_ok, require_eq_ok, exists_const,
    insertionSort_of_positions h] at hok
  obtain ⟨hlength, hpositive, -, hrotation⟩ := hok
  exact ⟨hlength.1, hpositive, rotationFrom_eq_ok hrotation⟩

/-! ## The rows -/

/-- The rows of the cycles. -/
def drawnCycles (ctx : Ctx) (g : AjoGroup) (stride : Nat) :
    Nat → List RotationCycle → List AjoCycle
  | _, [] => []
  | first, cycle :: rest =>
      cycleRow g cycle (ctx.uuid first) :: drawnCycles ctx g stride (first + stride) rest

/-- The rows of the payouts. -/
def drawnPayouts (ctx : Ctx) (g : AjoGroup) (stride : Nat) :
    Nat → List RotationCycle → List PayoutSchedule
  | _, [] => []
  | first, cycle :: rest =>
      cyclePayout (ctx.uuid (first + 1)) g cycle (ctx.uuid first) ::
        drawnPayouts ctx g stride (first + stride) rest

/-- The rows of the contributions. -/
def drawnContributions (ctx : Ctx) (g : AjoGroup) (slots : List AjoSlot) (stride : Nat) :
    Nat → List RotationCycle → List ContributionSchedule
  | _, [] => []
  | first, cycle :: rest =>
      cycleContributions ctx g cycle (ctx.uuid first) (first + 2) slots ++
        drawnContributions ctx g slots stride (first + stride) rest

/-- Locking adds the rows that were drawn up and changes no other. -/
structure Draws (ctx : Ctx) (g : AjoGroup) (slots : List AjoSlot) (first : Nat)
    (cycles : List RotationCycle) (db db' : Db) : Prop where
  ajoCycles : db'.ajoCycles.rows =
    db.ajoCycles.rows ++ drawnCycles ctx g (slots.length + 2) first cycles
  payoutSchedules : db'.payoutSchedules.rows =
    db.payoutSchedules.rows ++ drawnPayouts ctx g (slots.length + 2) first cycles
  contributionSchedules : db'.contributionSchedules.rows =
    db.contributionSchedules.rows ++ drawnContributions ctx g slots (slots.length + 2) first cycles

theorem lockCycles_eq_ok (hok : lockCycles ctx g slots first cycles db = .ok db') :
    Draws ctx g slots first cycles db db' := by
  induction cycles generalizing first db with
  | nil =>
      cases hok
      exact ⟨(List.append_nil _).symm, (List.append_nil _).symm, (List.append_nil _).symm⟩
  | cons cycle rest ih =>
      rw [lockCycles, bind_eq_ok] at hok
      obtain ⟨db₁, hcycle, hrest⟩ := hok
      simp only [lockCycle, bind_eq_ok, require_eq_ok, orThrow_eq_ok, pure_eq_ok,
        exists_const] at hcycle
      obtain ⟨cycleRows, hcycleRows, contributions, hcontributions, -, payouts, hpayouts, rfl⟩ :=
        hcycle
      obtain ⟨hc, hp, hs⟩ := ih hrest
      rw [Nat.add_assoc] at hc hp hs
      refine ⟨?_, ?_, ?_⟩
      · rw [hc, drawnCycles]
        change cycleRows.rows ++ _ = _
        rw [insertRow_eq_ok hcycleRows, List.append_assoc]
        rfl
      · rw [hp, drawnPayouts]
        change payouts.rows ++ _ = _
        rw [insertRow_eq_ok hpayouts, List.append_assoc]
        rfl
      · rw [hs, drawnContributions]
        change contributions.rows ++ _ = _
        rw [Table.rows_of_insertMany hcontributions, List.append_assoc]

theorem Locks.draws (h : Locks ctx db db' g slots cycles) : Draws ctx g slots 1 cycles db db' := by
  obtain ⟨hc, hp, hs⟩ := lockCycles_eq_ok h.drawn
  exact ⟨hc, hp, hs⟩

/-! ### Reading them -/

theorem length_drawnCycles : (drawnCycles ctx g stride first cycles).length = cycles.length := by
  induction cycles generalizing first with
  | nil => rfl
  | cons cycle rest ih => rw [drawnCycles, List.length_cons, List.length_cons, ih]

theorem length_drawnPayouts : (drawnPayouts ctx g stride first cycles).length = cycles.length := by
  induction cycles generalizing first with
  | nil => rfl
  | cons cycle rest ih => rw [drawnPayouts, List.length_cons, List.length_cons, ih]

theorem groupId_of_mem_drawnCycles {c : AjoCycle}
    (hc : c ∈ drawnCycles ctx g stride first cycles) : c.groupId = g.id := by
  induction cycles generalizing first with
  | nil => exact absurd hc List.not_mem_nil
  | cons cycle rest ih =>
      rw [drawnCycles, List.mem_cons] at hc
      rcases hc with rfl | hc
      · rfl
      · exact ih hc

/-- Each payout is that of its cycle. -/
theorem cycleIds_drawnPayouts :
    (drawnPayouts ctx g stride first cycles).map (·.cycleId) =
      (drawnCycles ctx g stride first cycles).map (·.id) := by
  induction cycles generalizing first with
  | nil => rfl
  | cons cycle rest ih =>
      rw [drawnPayouts, drawnCycles, List.map_cons, List.map_cons, ih]
      rfl

theorem slotIds_drawnPayouts :
    (drawnPayouts ctx g stride first cycles).map (·.slotId) =
      cycles.map (·.payoutSlotId) := by
  induction cycles generalizing first with
  | nil => rfl
  | cons cycle rest ih =>
      rw [drawnPayouts, List.map_cons, List.map_cons, ih]
      rfl

theorem mem_drawnPayouts {r : PayoutSchedule} (hr : r ∈ drawnPayouts ctx g stride first cycles) :
    r.groupId = g.id ∧ r.scheduleVersion = g.scheduleVersion + 1 ∧
      ∃ cycle ∈ cycles, r.amountDueMinor = cycle.payoutAmountMinor := by
  induction cycles generalizing first with
  | nil => exact absurd hr List.not_mem_nil
  | cons cycle rest ih =>
      rw [drawnPayouts, List.mem_cons] at hr
      rcases hr with rfl | hr
      · exact ⟨rfl, rfl, cycle, List.mem_cons_self .., rfl⟩
      · obtain ⟨hgroup, hversion, c, hc, hamount⟩ := ih hr
        exact ⟨hgroup, hversion, c, List.mem_cons_of_mem _ hc, hamount⟩

/-- What a choice of slots owes in one cycle. -/
theorem sumWhere_cycleContributions {cycle : RotationCycle} {cycleId : Uuid} (q : Uuid → Bool) :
    sumWhere (cycleContributions ctx g cycle cycleId first slots) (fun s ↦ q s.slotId)
        (·.amountDueMinor) =
      cycle.contributionAmountMinor * (slots.countP fun s ↦ q s.id) := by
  induction slots generalizing first with
  | nil => simp [cycleContributions]
  | cons slot rest ih =>
      rw [cycleContributions, sumWhere_cons, ih, List.countP_cons]
      split
      · push_cast
        ring
      · push_cast
        ring

/-- What a choice of slots owes over all cycles. -/
theorem sumWhere_drawnContributions (q : Uuid → Bool)
    (h : ∀ c ∈ cycles, c.contributionAmountMinor = g.baseContributionMinor) :
    sumWhere (drawnContributions ctx g slots stride first cycles) (fun s ↦ q s.slotId)
        (·.amountDueMinor) =
      g.baseContributionMinor * (slots.countP fun s ↦ q s.id) * cycles.length := by
  induction cycles generalizing first with
  | nil => simp [drawnContributions]
  | cons cycle rest ih =>
      rw [List.forall_mem_cons] at h
      rw [drawnContributions, sumWhere_append, sumWhere_cycleContributions, ih h.2, h.1,
        List.length_cons]
      push_cast
      ring

theorem slotId_of_mem_cycleContributions {cycle : RotationCycle} {cycleId : Uuid}
    {s : ContributionSchedule} (hs : s ∈ cycleContributions ctx g cycle cycleId first slots) :
    ∃ slot ∈ slots, slot.id = s.slotId := by
  induction slots generalizing first with
  | nil => exact absurd hs List.not_mem_nil
  | cons slot rest ih =>
      rw [cycleContributions, List.mem_cons] at hs
      rcases hs with rfl | hs
      · exact ⟨slot, List.mem_cons_self .., rfl⟩
      · obtain ⟨x, hx, hid⟩ := ih hs
        exact ⟨x, List.mem_cons_of_mem _ hx, hid⟩

theorem slotId_of_mem_drawnContributions {s : ContributionSchedule}
    (hs : s ∈ drawnContributions ctx g slots stride first cycles) :
    ∃ slot ∈ slots, slot.id = s.slotId := by
  induction cycles generalizing first with
  | nil => exact absurd hs List.not_mem_nil
  | cons cycle rest ih =>
      rw [drawnContributions, List.mem_append] at hs
      rcases hs with hs | hs
      · exact slotId_of_mem_cycleContributions hs
      · exact ih hs

end AjoCloud.Ajo
