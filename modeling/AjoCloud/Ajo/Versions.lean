import AjoCloud.Ajo.Locking
import AjoCloud.Ajo.Turns

/-!
# Schedule versions are permutations

`lock` draws up the first version of a group's payouts, and every swap that is executed copies the
version in force into the next one with two slots exchanged.  Here both services run together, from
a platform without groups on: in every version of every locked group the payouts go through the
group's cycles and through its slots, each once.
-/

namespace AjoCloud.Ajo

open Lib

variable {db db' : Db} {g : AjoGroup}

/-! ## What a group's schedule is -/

/-- The cycles of a group. -/
def cyclesOf (db : Db) (groupId : Uuid) : List AjoCycle := db.ajoCycles.findMany (·.groupId = groupId)

/-- How many swaps of a group have been executed. -/
def executedCount (db : Db) (groupId : Uuid) : Nat :=
  db.swapRequests.rows.countP fun w ↦ w.groupId = groupId ∧ w.status = .executed

/-- Nothing has been drawn up for the group yet. -/
structure Unscheduled (db : Db) (g : AjoGroup) : Prop where
  version : g.scheduleVersion = 0
  cycles : cyclesOf db g.id = []
  rows : ∀ v, versionRows db g.id v = []
  swaps : ∀ w ∈ db.swapRequests.rows, w.groupId ≠ g.id

/-- The versions of a locked group's schedule: they are numbered from one to the version in force,
which has gone up by one with every swap, and each pairs the group's cycles with its slots for the
contributions of all slots. -/
structure Rotates (db : Db) (g : AjoGroup) : Prop where
  current : g.scheduleVersion = executedCount db g.id + 1
  length : (cyclesOf db g.id).length = (slotsOf db g.id).length
  present : ∀ v, versionRows db g.id v ≠ [] ↔ 1 ≤ v ∧ v ≤ g.scheduleVersion
  slots : ∀ v, 1 ≤ v → v ≤ g.scheduleVersion →
    ((versionRows db g.id v).map (·.slotId)).Perm ((slotsOf db g.id).map (·.id))
  cycles : ∀ v, 1 ≤ v → v ≤ g.scheduleVersion →
    ((versionRows db g.id v).map (·.cycleId)).Perm ((cyclesOf db g.id).map (·.id))
  amounts : ∀ v, ∀ r ∈ versionRows db g.id v,
    r.amountDueMinor = (slotsOf db g.id).length * g.baseContributionMinor

/-- A group goes from the one to the other when it is locked. -/
structure Stage (db : Db) (g : AjoGroup) : Prop where
  unscheduled : AcceptsMembers g → Unscheduled db g
  rotates : ¬ AcceptsMembers g → Rotates db g

/-- A swap is between two slots of its group. -/
def OnSlots (db : Db) (w : SwapRequest) : Prop :=
  (∃ s ∈ slotsOf db w.groupId, s.id = w.fromSlotId) ∧ ∃ s ∈ slotsOf db w.groupId, s.id = w.toSlotId

/-- Every schedule belongs to a group, and every group is at its stage. -/
structure Rotation (db : Db) : Prop where
  roll : Roll db
  cycles : ∀ c ∈ db.ajoCycles.rows, ∃ g ∈ db.ajoGroups.rows, g.id = c.groupId
  rows : ∀ r ∈ db.payoutSchedules.rows, ∃ g ∈ db.ajoGroups.rows, g.id = r.groupId
  swaps : ∀ w ∈ db.swapRequests.rows, OnSlots db w
  stage : ∀ g ∈ db.ajoGroups.rows, Stage db g

/-! ## Calls that leave a schedule alone -/

/-- The schedule of a group is as it was; one that takes members is not asked for swaps. -/
structure SameSchedule (db db' : Db) (g : AjoGroup) : Prop where
  cycles : cyclesOf db' g.id = cyclesOf db g.id
  rows : ∀ v, versionRows db' g.id v = versionRows db g.id v
  executed : executedCount db' g.id = executedCount db g.id
  swaps : AcceptsMembers g → (∀ w ∈ db.swapRequests.rows, w.groupId ≠ g.id) →
    ∀ w ∈ db'.swapRequests.rows, w.groupId ≠ g.id

theorem SameSchedule.of_eq (hcycles : db'.ajoCycles = db.ajoCycles)
    (hrows : db'.payoutSchedules = db.payoutSchedules)
    (hswaps : db'.swapRequests = db.swapRequests) : SameSchedule db db' g where
  cycles := by rw [cyclesOf, cyclesOf, hcycles]
  rows := fun v ↦ by rw [versionRows, versionRows, hrows]
  executed := by rw [executedCount, executedCount, hswaps]
  swaps := by
    rw [hswaps]
    exact fun _ h ↦ h

/-- The group's row says the same about its schedule. -/
structure SamePlan (g g' : AjoGroup) : Prop where
  id : g'.id = g.id
  status : g'.status = g.status
  scheduleVersion : g'.scheduleVersion = g.scheduleVersion
  baseContributionMinor : g'.baseContributionMinor = g.baseContributionMinor

theorem SamePlan.refl (g : AjoGroup) : SamePlan g g := ⟨rfl, rfl, rfl, rfl⟩

theorem SamePlan.acceptsMembers_iff {g' : AjoGroup} (h : SamePlan g g') :
    AcceptsMembers g' ↔ AcceptsMembers g := by rw [AcceptsMembers, AcceptsMembers, h.status]

/-- A group stays at its stage while its schedule is left alone; while it takes members, its slots
may change. -/
theorem Stage.of_same {g' : AjoGroup} (h : Stage db g) (hplan : SamePlan g g')
    (hsame : SameSchedule db db' g)
    (hslots : ¬ AcceptsMembers g → slotsOf db' g.id = slotsOf db g.id) : Stage db' g' := by
  constructor
  · intro haccepts
    obtain ⟨hversion, hcycles, hrows, hswaps⟩ := h.unscheduled (hplan.acceptsMembers_iff.mp haccepts)
    refine ⟨hplan.scheduleVersion.trans hversion, ?_, ?_, ?_⟩
    · rw [hplan.id, hsame.cycles, hcycles]
    · intro v
      rw [hplan.id, hsame.rows, hrows]
    · rw [hplan.id]
      exact hsame.swaps (hplan.acceptsMembers_iff.mp haccepts) hswaps
  · intro hlocked
    have hlocked' : ¬ AcceptsMembers g := fun h ↦ hlocked (hplan.acceptsMembers_iff.mpr h)
    obtain ⟨hcurrent, hlength, hpresent, hslot, hcycle, hamounts⟩ := h.rotates hlocked'
    have hs := hslots hlocked'
    constructor
    · rw [hplan.scheduleVersion, hplan.id, hsame.executed, hcurrent]
    · rw [hplan.id, hsame.cycles, hs, hlength]
    · rw [hplan.scheduleVersion, hplan.id]
      intro v
      rw [hsame.rows, hpresent]
    · rw [hplan.scheduleVersion, hplan.id, hs]
      intro v hle hle'
      rw [hsame.rows]
      exact hslot v hle hle'
    · rw [hplan.scheduleVersion, hplan.id, hsame.cycles]
      intro v hle hle'
      rw [hsame.rows]
      exact hcycle v hle hle'
    · rw [hplan.id, hplan.baseContributionMinor, hs]
      intro v r hr
      rw [hsame.rows] at hr
      exact hamounts v r hr

theorem OnSlots.mono {w : SwapRequest} (h : OnSlots db w)
    (hslots : ∀ s ∈ db.ajoSlots.rows, s ∈ db'.ajoSlots.rows) : OnSlots db' w := by
  have hof : ∀ s ∈ slotsOf db w.groupId, s ∈ slotsOf db' w.groupId := by
    intro s hs
    obtain ⟨hs, hgroup⟩ := Table.mem_findMany.mp hs
    exact Table.mem_findMany.mpr ⟨hslots s hs, hgroup⟩
  obtain ⟨⟨s, hs, hfrom⟩, t, ht, hto⟩ := h
  exact ⟨⟨s, hof s hs, hfrom⟩, t, hof t ht, hto⟩

theorem OnSlots.exists_group {w : SwapRequest} (h : OnSlots db w) (hroll : Roll db) :
    ∃ g ∈ db.ajoGroups.rows, g.id = w.groupId := by
  obtain ⟨⟨s, hs, -⟩, -⟩ := h
  obtain ⟨hs, hgroup⟩ := Table.mem_findMany.mp hs
  obtain ⟨g, hg, hid⟩ := hroll.exists_group_of_slot hs
  exact ⟨g, hg, hid.trans (of_decide_eq_true hgroup)⟩

/-- A group that does not exist yet has no schedule. -/
theorem Rotation.unscheduled (h : Rotation db) (hversion : g.scheduleVersion = 0)
    (hnone : ∀ x ∈ db.ajoGroups.rows, x.id ≠ g.id) : Unscheduled db g where
  version := hversion
  cycles := by
    rw [cyclesOf, Table.findMany, List.filter_eq_nil_iff]
    intro c hc heq
    obtain ⟨x, hx, hid⟩ := h.cycles c hc
    exact hnone x hx (hid.trans (of_decide_eq_true heq))
  rows := by
    intro v
    rw [versionRows, Table.findMany, List.filter_eq_nil_iff]
    intro r hr heq
    obtain ⟨x, hx, hid⟩ := h.rows r hr
    exact hnone x hx (hid.trans (of_decide_eq_true heq).1)
  swaps := by
    intro w hw heq
    obtain ⟨x, hx, hid⟩ := (h.swaps w hw).exists_group h.roll
    exact hnone x hx (hid.trans heq)

/-- A call that adds to the groups and their slots, but draws nothing up, keeps the rotation. -/
theorem Rotation.of_same (h : Rotation db) (hroll : Roll db')
    (hcycles : db'.ajoCycles = db.ajoCycles) (hrows : db'.payoutSchedules = db.payoutSchedules)
    (hswaps : db'.swapRequests = db.swapRequests)
    (hgroups : ∀ g ∈ db.ajoGroups.rows, ∃ g' ∈ db'.ajoGroups.rows, g'.id = g.id)
    (hslots : ∀ s ∈ db.ajoSlots.rows, s ∈ db'.ajoSlots.rows)
    (hstage : ∀ g' ∈ db'.ajoGroups.rows, Stage db' g') : Rotation db' where
  roll := hroll
  cycles := by
    rw [hcycles]
    intro c hc
    obtain ⟨x, hx, hid⟩ := h.cycles c hc
    obtain ⟨x', hx', hid'⟩ := hgroups x hx
    exact ⟨x', hx', hid'.trans hid⟩
  rows := by
    rw [hrows]
    intro r hr
    obtain ⟨x, hx, hid⟩ := h.rows r hr
    obtain ⟨x', hx', hid'⟩ := hgroups x hx
    exact ⟨x', hx', hid'.trans hid⟩
  swaps := by
    rw [hswaps]
    exact fun w hw ↦ (h.swaps w hw).mono hslots
  stage := hstage

section Calls

variable {ctx : Ctx}

theorem Creates.rotation (hc : Creates ctx db db' g) (h : Rotation db) : Rotation db' := by
  have hroll := hc.roll h.roll
  have haccepts := hc.accepts
  have hversion := hc.version
  obtain ⟨groups, hgroups, e, enrolled, henrol, hroom, -, i, -, -, hafter⟩ := hc.opened
  have hsame : ∀ x, SameSchedule db db' x := by
    intro x
    refine .of_eq ?_ ?_ ?_
    · rw [hafter, henrol.after]
    · rw [hafter, henrol.after]
    · rw [hafter, henrol.after]
  have hrows : db'.ajoGroups.rows = db.ajoGroups.rows ++ [g] := by
    rw [hafter, henrol.after]
    exact insertRow_eq_ok hgroups
  have hslots : db'.ajoSlots.rows = db.ajoSlots.rows ++ newSlots ctx e := by
    rw [hafter]
    exact henrol.slots
  have hnone : ∀ x ∈ db.ajoGroups.rows, x.id ≠ g.id :=
    fun x hx heq ↦ not_clash_of_insertRow hgroups x hx (.inl heq)
  refine h.of_same hroll ?_ ?_ ?_ ?_ ?_ ?_
  · rw [hafter, henrol.after]
  · rw [hafter, henrol.after]
  · rw [hafter, henrol.after]
  · intro x hx
    exact ⟨x, hrows ▸ List.mem_append_left _ hx, rfl⟩
  · intro s hs
    exact hslots ▸ List.mem_append_left _ hs
  · intro x hx
    rw [hrows, List.mem_append, List.mem_singleton] at hx
    rcases hx with hx | rfl
    · refine (h.stage x hx).of_same (.refl x) (hsame x) fun _ ↦ ?_
      have hother : x.id ≠ e.member.groupId := fun heq ↦ hnone x hx (heq.trans hroom.group)
      rw [hafter]
      exact henrol.slotsOf_other hother
    · have hstage : Stage db x := ⟨fun _ ↦ h.unscheduled hversion hnone, fun hn ↦ absurd haccepts hn⟩
      exact hstage.of_same (.refl x) (hsame x) fun hn ↦ absurd haccepts hn

theorem spendInvitation_after (db : Db) (spent : Option GroupInvitation) :
    spendInvitation db spent = { db with
      groupInvitations := (spendInvitation db spent).groupInvitations } := by
  cases spent with
  | none => rfl
  | some i => rfl

theorem Joins.rotation (hj : Joins ctx db db' g) (h : Rotation db) : Rotation db' := by
  have hroll := hj.roll h.roll
  obtain ⟨e, enrolled, henrol, hroom, -, spent, -, rfl⟩ := hj.enrolled
  have hafter := spendInvitation_after enrolled spent
  have hgroups : (spendInvitation enrolled spent).ajoGroups = db.ajoGroups := by
    rw [hafter, henrol.after]
  refine h.of_same hroll ?_ ?_ ?_ ?_ ?_ ?_
  · rw [hafter, henrol.after]
  · rw [hafter, henrol.after]
  · rw [hafter, henrol.after]
  · intro x hx
    exact ⟨x, hgroups ▸ hx, rfl⟩
  · intro s hs
    rw [hafter]
    exact henrol.slots ▸ List.mem_append_left _ hs
  · intro x hx
    rw [hgroups] at hx
    refine (h.stage x hx).of_same (.refl x) (.of_eq ?_ ?_ ?_) fun hlocked ↦ ?_
    · rw [hafter, henrol.after]
    · rw [hafter, henrol.after]
    · rw [hafter, henrol.after]
    · have hother : x.id ≠ e.member.groupId := by
        intro heq
        have hxg : x = g := db.ajoGroups.eq_of_clash hx hj.mem (.inl (heq.trans hroom.group))
        exact hlocked (hxg ▸ hj.accepts)
      rw [hafter]
      exact henrol.slotsOf_other hother

theorem Lists.rotation {groupId : Uuid} {listed : Bool} (hl : Lists db db' groupId listed)
    (h : Rotation db) : Rotation db' := by
  have hroll := hl.roll h.roll
  subst hl
  have hplan : ∀ x : AjoGroup, SamePlan x
      (if decide (x.id = groupId) = true then { x with publiclyListed := listed } else x) := by
    intro x
    split
    · exact ⟨rfl, rfl, rfl, rfl⟩
    · exact .refl x
  refine h.of_same hroll rfl rfl rfl ?_ (fun _ hs ↦ hs) ?_
  · intro x hx
    exact ⟨_, List.mem_map_of_mem hx, (hplan x).id⟩
  · intro x' hx'
    rw [Table.rows_modify, List.mem_map] at hx'
    obtain ⟨x, hx, rfl⟩ := hx'
    exact (h.stage x hx).of_same (hplan x) (.of_eq rfl rfl rfl) fun _ ↦ rfl

theorem Invites.rotation (hi : Invites db db') (h : Rotation db) : Rotation db' := by
  have hroll := hi.roll h.roll
  rw [hi.after] at hroll ⊢
  refine h.of_same hroll rfl rfl rfl (fun x hx ↦ ⟨x, hx, rfl⟩) (fun _ hs ↦ hs) fun x hx ↦ ?_
  exact (h.stage x hx).of_same (.refl x) (.of_eq rfl rfl rfl) fun _ ↦ rfl

/-! ## Locking -/

variable {slots : List AjoSlot} {cycles : List RotationCycle}

theorem Draws.cyclesOf_self (h : Draws ctx g slots 1 cycles db db') :
    cyclesOf db' g.id = cyclesOf db g.id ++ drawnCycles ctx g (slots.length + 2) 1 cycles := by
  rw [cyclesOf, cyclesOf, Table.findMany, h.ajoCycles]
  exact filter_concat_of fun c hc ↦ decide_eq_true (groupId_of_mem_drawnCycles hc)

theorem Draws.versionRows_self (h : Draws ctx g slots 1 cycles db db') (v : Nat) :
    versionRows db' g.id v = versionRows db g.id v ++
      if v = g.scheduleVersion + 1 then drawnPayouts ctx g (slots.length + 2) 1 cycles else [] := by
  rw [versionRows, versionRows, Table.findMany, h.payoutSchedules]
  split
  · next hv =>
      refine filter_concat_of fun r hr ↦ decide_eq_true ?_
      obtain ⟨hgroup, hversion, -⟩ := mem_drawnPayouts hr
      exact ⟨hgroup, hversion.trans hv.symm⟩
  · next hv =>
      rw [List.append_nil]
      refine filter_concat_of_not fun r hr heq ↦ hv ?_
      obtain ⟨-, hversion, -⟩ := mem_drawnPayouts hr
      exact (of_decide_eq_true heq).2.symm.trans hversion

/-- The schedules of other groups are left alone. -/
theorem Draws.same_other (h : Draws ctx g slots 1 cycles db db')
    (hswaps : db'.swapRequests = db.swapRequests) {x : AjoGroup} (hid : x.id ≠ g.id) :
    SameSchedule db db' x where
  cycles := by
    rw [cyclesOf, cyclesOf, Table.findMany, h.ajoCycles]
    exact filter_concat_of_not fun c hc heq ↦
      hid ((of_decide_eq_true heq).symm.trans (groupId_of_mem_drawnCycles hc))
  rows := by
    intro v
    rw [versionRows, versionRows, Table.findMany, h.payoutSchedules]
    exact filter_concat_of_not fun r hr heq ↦
      hid ((of_decide_eq_true heq).1.symm.trans (mem_drawnPayouts hr).1)
  executed := by rw [executedCount, executedCount, hswaps]
  swaps := by
    rw [hswaps]
    exact fun _ h ↦ h

/-- No swap of a group without requests has been executed. -/
theorem Unscheduled.executedCount_eq (h : Unscheduled db g) : executedCount db g.id = 0 := by
  rw [executedCount, List.countP_eq_zero]
  intro w hw heq
  exact h.swaps w hw (of_decide_eq_true heq).1

/-- The first version pairs the cycles with the slots. -/
theorem Locks.rotates (hl : Locks ctx db db' g slots cycles) (h : Rotation db) :
    Rotates db' { g with status := .locked, scheduleVersion := g.scheduleVersion + 1 } := by
  obtain ⟨hversion, hcycles, hrows, hswaps⟩ := (h.stage g hl.mem).unscheduled hl.accepts
  have hagrees := h.roll.agrees g hl.mem
  have hslots : slots = slotsOf db g.id := by
    rw [hl.slots_eq, insertionSort_of_positions hagrees.positions]
  have hslots' : slotsOf db' g.id = slots := by
    rw [hslots, slotsOf, slotsOf, hl.after]
  obtain ⟨htwo, -, hplanned⟩ := generateRotationSchedule_eq_ok hl.cycles_eq
    (by rw [hslots]; exact hagrees.positions)
  have hdraws := hl.draws
  have hcyclesOf := hdraws.cyclesOf_self
  rw [hcycles, List.nil_append] at hcyclesOf
  have hversionRows : ∀ v, versionRows db' g.id v =
      if v = 1 then drawnPayouts ctx g (slots.length + 2) 1 cycles else [] := by
    intro v
    rw [hdraws.versionRows_self, hrows, List.nil_append, hversion]
  have hlengthCycles : (cyclesOf db' g.id).length = slots.length := by
    rw [hcyclesOf, length_drawnCycles, hplanned.length]
  have hnonempty : drawnPayouts ctx g (slots.length + 2) 1 cycles ≠ [] := by
    apply List.ne_nil_of_length_pos
    rw [length_drawnPayouts, hplanned.length]
    exact lt_of_lt_of_le Nat.zero_lt_two htwo
  have hone : ∀ v, 1 ≤ v ∧ v ≤ g.scheduleVersion + 1 ↔ v = 1 := by
    intro v
    omega
  constructor
  · change g.scheduleVersion + 1 = executedCount db' g.id + 1
    have hcount := (h.stage g hl.mem).unscheduled hl.accepts |>.executedCount_eq
    rw [hversion, executedCount, hl.after]
    exact congrArg (· + 1) hcount.symm
  · change (cyclesOf db' g.id).length = (slotsOf db' g.id).length
    rw [hlengthCycles, hslots']
  · intro v
    change versionRows db' g.id v ≠ [] ↔ 1 ≤ v ∧ v ≤ g.scheduleVersion + 1
    rw [hone, hversionRows]
    split
    · next hv => exact iff_of_true hnonempty hv
    · next hv => exact iff_of_false (fun hne ↦ hne rfl) hv
  · intro v hle hle'
    change ((versionRows db' g.id v).map _).Perm ((slotsOf db' g.id).map _)
    rw [hversionRows, if_pos ((hone v).mp ⟨hle, hle'⟩), slotIds_drawnPayouts, hplanned.slots,
      hslots']
  · intro v hle hle'
    change ((versionRows db' g.id v).map _).Perm ((cyclesOf db' g.id).map _)
    rw [hversionRows, if_pos ((hone v).mp ⟨hle, hle'⟩), cycleIds_drawnPayouts, hcyclesOf]
  · intro v r hr
    change r.amountDueMinor = (slotsOf db' g.id).length * g.baseContributionMinor
    change r ∈ versionRows db' g.id v at hr
    rw [hversionRows] at hr
    split at hr
    · obtain ⟨-, -, cycle, hcycle, hamount⟩ := mem_drawnPayouts hr
      rw [hamount, hplanned.payouts cycle hcycle, hslots', Int.mul_comm]
    · exact absurd hr List.not_mem_nil

theorem Locks.rotation (hl : Locks ctx db db' g slots cycles) (h : Rotation db) :
    Rotation db' := by
  have hdraws := hl.draws
  have hswaps : db'.swapRequests = db.swapRequests := by rw [hl.after]
  have hslots : db'.ajoSlots = db.ajoSlots := by rw [hl.after]
  have hgroups : ∀ x ∈ db.ajoGroups.rows, ∃ x' ∈ db'.ajoGroups.rows, x'.id = x.id := by
    intro x hx
    rw [hl.groups]
    refine ⟨_, List.mem_map_of_mem hx, ?_⟩
    split
    · rfl
    · rfl
  refine ⟨hl.roll h.roll, ?_, ?_, ?_, ?_⟩
  · intro c hc
    rw [hdraws.ajoCycles, List.mem_append] at hc
    rcases hc with hc | hc
    · obtain ⟨x, hx, hid⟩ := h.cycles c hc
      obtain ⟨x', hx', hid'⟩ := hgroups x hx
      exact ⟨x', hx', hid'.trans hid⟩
    · obtain ⟨x', hx', hid'⟩ := hgroups g hl.mem
      exact ⟨x', hx', hid'.trans (groupId_of_mem_drawnCycles hc).symm⟩
  · intro r hr
    rw [hdraws.payoutSchedules, List.mem_append] at hr
    rcases hr with hr | hr
    · obtain ⟨x, hx, hid⟩ := h.rows r hr
      obtain ⟨x', hx', hid'⟩ := hgroups x hx
      exact ⟨x', hx', hid'.trans hid⟩
    · obtain ⟨x', hx', hid'⟩ := hgroups g hl.mem
      exact ⟨x', hx', hid'.trans (mem_drawnPayouts hr).1.symm⟩
  · rw [hswaps]
    exact fun w hw ↦ (h.swaps w hw).mono (by rw [hslots]; exact fun _ hs ↦ hs)
  · intro x' hx'
    rw [hl.groups, Table.rows_modify, List.mem_map] at hx'
    obtain ⟨x, hx, rfl⟩ := hx'
    split
    · next hid =>
        have hxg : x = g := db.ajoGroups.eq_of_clash hx hl.mem (.inl (of_decide_eq_true hid))
        subst hxg
        refine ⟨fun haccepts ↦ ?_, fun _ ↦ hl.rotates h⟩
        rcases haccepts with haccepts | haccepts
        · cases haccepts
        · cases haccepts
    · next hid =>
        refine (h.stage x hx).of_same (.refl x) (hdraws.same_other hswaps ?_) fun _ ↦ ?_
        · exact fun heq ↦ hid (decide_eq_true heq)
        · rw [slotsOf, slotsOf, hslots]

/-- Every call of the group services keeps the rotation. -/
theorem GroupEffect.rotation (he : GroupEffect db db') (h : Rotation db) : Rotation db' := by
  cases he with
  | same heq => exact heq ▸ h
  | created ctx g hc => exact hc.rotation h
  | joined ctx g hj => exact hj.rotation h
  | listed groupId listed hl => exact hl.rotation h
  | invited hi => exact hi.rotation h
  | locked ctx g slots cycles hl => exact hl.rotation h

end Calls

/-! ## Swaps -/

section Swaps

variable {ctx : Ctx} {userId groupId swapId : Uuid} {reason : Option String} {r : SwapRequest}

/-- A request rewritten, but neither between other slots nor executed. -/
structure SameSwap (w w' : SwapRequest) : Prop where
  groupId : w'.groupId = w.groupId
  fromSlotId : w'.fromSlotId = w.fromSlotId
  toSlotId : w'.toSlotId = w.toSlotId
  executed : w'.status = .executed ↔ w.status = .executed

theorem SameSwap.refl (w : SwapRequest) : SameSwap w w := ⟨rfl, rfl, rfl, .rfl⟩

/-- A new request is between two slots of a group that no longer takes members. -/
structure Requests (db : Db) (w : SwapRequest) : Prop where
  pending : w.status = .pending
  slots : OnSlots db w
  group : ∃ g ∈ db.ajoGroups.rows, g.id = w.groupId ∧ ¬ AcceptsMembers g

/-- Requests were made or decided, and none executed. -/
structure Negotiates (db db' : Db) (added : List SwapRequest) (f : SwapRequest → SwapRequest) :
    Prop where
  after : db' = { db with
    swapRequests := db'.swapRequests
    swapApprovals := db'.swapApprovals
    feeAssessments := db'.feeAssessments }
  rows : db'.swapRequests.rows = (db.swapRequests.rows ++ added).map f
  same : ∀ w ∈ db.swapRequests.rows ++ added, SameSwap w (f w)
  added : ∀ w ∈ added, Requests db w

theorem assessSwapFee_rows {currency : String} {base : Int}
    (h : assessSwapFee ctx db swapId currency base = .ok db') :
    ∃ f, db'.swapRequests.rows = db.swapRequests.rows.map f ∧ ∀ w, SameSwap w (f w) := by
  obtain ⟨_, _, f, rfl, hrows, hf⟩ := assessSwapFee_eq_ok h
  refine ⟨f, hrows, fun w ↦ ?_⟩
  obtain ⟨_, heq⟩ := hf w
  rw [heq]
  exact ⟨rfl, rfl, rfl, .rfl⟩

theorem createSwap_negotiates {dto : CreateSwapRequestDto}
    (h : createSwap ctx db userId groupId dto = .ok (r, db')) :
    ∃ added f, Negotiates db db' added f := by
  have honly := createSwap_swapsOnly h
  simp only [createSwap, bind_eq_ok, require_eq_ok, orThrow_eq_ok, pure_eq_ok, exists_const,
    Prod.mk.injEq] at h
  obtain ⟨-, membership, -, group, hgroup, hstatus, -, origin, horigin, target, htarget, -, -, -, -,
    -, requests, hins, db₂, hfee, rfl, rfl⟩ := h
  have hgid : group.id = groupId := by simpa using Table.prop_of_find? hgroup
  subst hgid
  -- Both slots were found among those of the group.
  have hof : ∀ {slot : AjoSlot} {id : Uuid},
      List.find? (fun s : AjoSlot ↦ decide (s.id = id)) (db.ajoSlots.findMany fun s ↦
        decide (s.groupId = group.id ∧ (s.id = dto.fromSlotId ∨ s.id = dto.toSlotId))) = some slot →
      slot ∈ slotsOf db group.id := by
    intro slot id hfind
    obtain ⟨hmem, hgroup⟩ := Table.mem_findMany.mp (List.mem_of_find?_eq_some hfind)
    exact Table.mem_findMany.mpr ⟨hmem, decide_eq_true (of_decide_eq_true hgroup).1⟩
  obtain ⟨f, hrows, hsame⟩ := assessSwapFee_rows hfee
  refine ⟨[newSwapRequest ctx userId group membership dto origin target], f, honly.after, ?_,
    fun w _ ↦ hsame w, fun w hw ↦ ?_⟩
  · rw [hrows]
    exact congrArg (List.map f) (Table.rows_of_insert hins)
  · rw [List.mem_singleton.mp hw]
    refine ⟨rfl, ⟨⟨origin, hof horigin, rfl⟩, target, hof htarget, rfl⟩, group,
      Table.mem_of_find? hgroup, rfl, ?_⟩
    rintro (hdraft | hopen)
    · rw [hdraft] at hstatus
      rcases hstatus with hstatus | hstatus
      · cases hstatus
      · cases hstatus
    · rw [hopen] at hstatus
      rcases hstatus with hstatus | hstatus
      · cases hstatus
      · cases hstatus

theorem rejectSwap_negotiates
    (h : rejectSwap ctx db userId groupId swapId reason = .ok (r, db')) :
    ∃ added f, Negotiates db db' added f := by
  have honly := rejectSwap_swapsOnly h
  simp only [rejectSwap, bind_eq_ok, require_eq_ok, orThrow_eq_ok, pure_eq_ok, exists_const,
    Prod.mk.injEq] at h
  obtain ⟨w, hw, membership, -, -, db₁, hupsert, rfl, rfl⟩ := h
  obtain ⟨hmem, -, -, hst⟩ := requirePending_eq_ok hw
  have hdb₁ := upsertApproval_eq_ok hupsert
  refine ⟨[], fun s ↦ if decide (s.id = w.id) = true then { s with status := .rejected } else s,
    honly.after, ?_, fun x hx ↦ ?_, List.forall_mem_nil _⟩
  · rw [List.append_nil, hdb₁]
    rfl
  · rw [List.append_nil] at hx
    split
    · next hid =>
        rw [swap_eq_of_id hx hmem (of_decide_eq_true hid)]
        refine ⟨rfl, rfl, rfl, ?_⟩
        rw [hst]
        exact ⟨by simp, by simp⟩
    · exact .refl x

/-- A swap was executed, and its request marked so. -/
structure Exchanges (ctx : Ctx) (db db' : Db) (w : SwapRequest) : Prop where
  mem : w ∈ db.swapRequests.rows
  pending : w.status = .pending
  swapped : Swapped db db' w ctx
  rows : db'.swapRequests.rows = db.swapRequests.rows.map fun s ↦
    if decide (s.id = w.id) = true then
      { s with
        status := .executed
        resultingScheduleVersion := some (w.previousScheduleVersion + 1) }
    else s
  after : db' = { db with
    swapRequests := db'.swapRequests
    swapApprovals := db'.swapApprovals
    payoutSchedules := db'.payoutSchedules
    ajoScheduleVersions := db'.ajoScheduleVersions
    ajoGroups := db'.ajoGroups }

theorem approveSwap_exchanges
    (h : approveSwap ctx db userId groupId swapId reason = .ok (r, db')) :
    (∃ added f, Negotiates db db' added f) ∨ ∃ w, Exchanges ctx db db' w := by
  simp only [approveSwap, bind_eq_ok, require_eq_ok, exists_const] at h
  obtain ⟨w, hw, membership, -, -, db₁, hupsert, h⟩ := h
  have hdb₁ := upsertApproval_eq_ok hupsert
  split at h
  · rw [bind_eq_ok] at h
    obtain ⟨_, -, h⟩ := h
    obtain ⟨x, hid, hexecutes⟩ := executeSwap_eq_ok h
    have hexecutes' := hexecutes.of_approvals hdb₁
    have hafter := h
    simp only [executeSwap, bind_eq_ok, require_eq_ok, orThrow_eq_ok, pure_eq_ok, exists_const,
      Prod.mk.injEq] at hafter
    obtain ⟨w', hw', group, -, -, -, -, -, payoutSchedules, -, versions, -, rfl, rfl⟩ := hafter
    have hid' : w'.id = w.id := by simpa using Table.prop_of_find? hw'
    have hmem' := Table.mem_of_find? hw'
    rw [hdb₁] at hmem'
    have hxw : x = w' := swap_eq_of_id hexecutes'.mem hmem' (hid.trans hid'.symm)
    subst hxw
    refine .inr ⟨x, hexecutes'.mem, hexecutes'.pending, hexecutes'.swapped, ?_, ?_⟩
    · rw [hdb₁]
      rfl
    · rw [hdb₁]
  · rw [pure_eq_ok, Prod.mk.injEq] at h
    obtain ⟨rfl, rfl⟩ := h
    refine .inl ⟨[], id, by rw [hdb₁], ?_, fun w _ ↦ .refl w, List.forall_mem_nil _⟩
    rw [hdb₁, List.append_nil, List.map_id]

/-! ### Counting -/

theorem executedCount_of_map {added : List SwapRequest} {f : SwapRequest → SwapRequest}
    (h : Negotiates db db' added f) (id : Uuid) : executedCount db' id = executedCount db id := by
  have hadded : added.countP (fun w ↦ decide (w.groupId = id ∧ w.status = .executed)) = 0 := by
    rw [List.countP_eq_zero]
    intro w hw heq
    have hst := (of_decide_eq_true heq).2
    rw [(h.added w hw).pending] at hst
    cases hst
  rw [executedCount, h.rows, List.countP_map, ← Nat.add_zero (executedCount db id), ← hadded,
    executedCount, ← List.countP_append]
  apply List.countP_congr
  intro w hw
  have hsame := h.same w hw
  simp only [Function.comp_apply, decide_eq_true_eq, hsame.groupId, hsame.executed]

/-- The count goes up by one for the group of the swap, and for no other. -/
theorem Exchanges.executedCount_eq {w : SwapRequest} (h : Exchanges ctx db db' w) (id : Uuid) :
    executedCount db' id = executedCount db id + if w.groupId = id then 1 else 0 := by
  have hperm := List.perm_cons_erase h.mem
  rw [executedCount, executedCount, h.rows, List.countP_map, hperm.countP_eq, hperm.countP_eq,
    List.countP_cons, List.countP_cons]
  have hrest : ∀ x ∈ db.swapRequests.rows.erase w, x.id ≠ w.id := by
    intro x hx heq
    have hxw := swap_eq_of_id (List.mem_of_mem_erase hx) h.mem heq
    exact (db.swapRequests.nodup.not_mem_erase) (hxw ▸ hx)
  have hcongr : (db.swapRequests.rows.erase w).countP
      ((fun w ↦ decide (w.groupId = id ∧ w.status = .executed)) ∘ fun s ↦
        if decide (s.id = w.id) = true then
          { s with
            status := .executed
            resultingScheduleVersion := some (w.previousScheduleVersion + 1) }
        else s) =
      (db.swapRequests.rows.erase w).countP
        fun w ↦ decide (w.groupId = id ∧ w.status = .executed) := by
    apply List.countP_congr
    intro x hx
    rw [Function.comp_apply, if_neg (by simpa using hrest x hx)]
  rw [hcongr, Function.comp_apply, if_pos (decide_eq_true rfl), h.pending]
  by_cases hid : w.groupId = id
  · simp [hid]
  · simp [hid]

/-! ### Negotiating -/

/-- Requests that are made or decided change no schedule. -/
theorem Negotiates.rotation {added : List SwapRequest} {f : SwapRequest → SwapRequest}
    (hn : Negotiates db db' added f) (h : Rotation db) : Rotation db' := by
  have hroll : Roll db' := by
    rw [hn.after]
    exact h.roll.of_eq rfl rfl rfl rfl
  have hgroups : db'.ajoGroups = db.ajoGroups := by rw [hn.after]
  have hcycles : db'.ajoCycles = db.ajoCycles := by rw [hn.after]
  have hpayouts : db'.payoutSchedules = db.payoutSchedules := by rw [hn.after]
  have hslots : db'.ajoSlots = db.ajoSlots := by rw [hn.after]
  refine ⟨hroll, by rw [hcycles, hgroups]; exact h.cycles, by rw [hpayouts, hgroups]; exact h.rows,
    ?_, ?_⟩
  · intro w' hw'
    rw [hn.rows, List.mem_map] at hw'
    obtain ⟨w, hw, rfl⟩ := hw'
    have hsame := hn.same w hw
    have hon : OnSlots db w := by
      rcases List.mem_append.mp hw with hw | hw
      · exact h.swaps w hw
      · exact (hn.added w hw).slots
    rw [OnSlots, hsame.groupId, hsame.fromSlotId, hsame.toSlotId, slotsOf, hslots]
    exact hon
  · intro x hx
    rw [hgroups] at hx
    refine (h.stage x hx).of_same (.refl x) ⟨?_, ?_, executedCount_of_map hn x.id, ?_⟩ fun _ ↦ ?_
    · rw [cyclesOf, cyclesOf, hcycles]
    · intro v
      rw [versionRows, versionRows, hpayouts]
    · intro haccepts hnone w' hw' heq
      rw [hn.rows, List.mem_map] at hw'
      obtain ⟨w, hw, rfl⟩ := hw'
      rw [(hn.same w hw).groupId] at heq
      rcases List.mem_append.mp hw with hw | hw
      · exact hnone w hw heq
      · obtain ⟨y, hy, hid, hlocked⟩ := (hn.added w hw).group
        exact hlocked (db.ajoGroups.eq_of_clash hx hy (.inl (heq.symm.trans hid.symm)) ▸ haccepts)
    · rw [slotsOf, slotsOf, hslots]

/-! ### Exchanging -/

/-- Exchanging is its own inverse. -/
theorem exchange_exchange (a b x : Uuid) : exchange a b (exchange a b x) = x := by
  unfold exchange
  by_cases hxa : x = a
  · subst hxa
    by_cases hba : b = x
    · simp [hba]
    · simp [hba]
  · by_cases hxb : x = b
    · simp [hxb]
    · simp [hxa, hxb]

theorem exchange_mem {a b x : Uuid} {l : List Uuid} (ha : a ∈ l) (hb : b ∈ l) (hx : x ∈ l) :
    exchange a b x ∈ l := by
  unfold exchange
  split
  · exact hb
  · split
    · exact ha
    · exact hx

/-- Exchanging two elements of a list permutes it. -/
theorem map_exchange_perm {a b : Uuid} {l : List Uuid} (hl : l.Nodup) (ha : a ∈ l) (hb : b ∈ l) :
    (l.map (exchange a b)).Perm l := by
  have hinj : Function.Injective (exchange a b) := by
    intro x y hxy
    rw [← exchange_exchange a b x, hxy, exchange_exchange]
  refine (List.perm_ext_iff_of_nodup (hl.map hinj) hl).mpr fun x ↦ ?_
  rw [List.mem_map]
  constructor
  · rintro ⟨y, hy, rfl⟩
    exact exchange_mem ha hb hy
  · intro hx
    exact ⟨exchange a b x, exchange_mem ha hb hx, exchange_exchange a b x⟩

theorem slotIds_nextRows {w : SwapRequest} {first : Nat} {entries : List PayoutSchedule} :
    (nextRows ctx w first entries).map (·.slotId) =
      (entries.map (·.slotId)).map (exchange w.fromSlotId w.toSlotId) := by
  induction entries generalizing first with
  | nil => rfl
  | cons entry rest ih => rw [nextRows, List.map_cons, List.map_cons, List.map_cons, ih]

theorem cycleIds_nextRows {w : SwapRequest} {first : Nat} {entries : List PayoutSchedule} :
    (nextRows ctx w first entries).map (·.cycleId) = entries.map (·.cycleId) := by
  induction entries generalizing first with
  | nil => rfl
  | cons entry rest ih => rw [nextRows, List.map_cons, List.map_cons, ih]

/-- The rows of a group's versions after a swap of it. -/
theorem Swapped.versionRows_self {w : SwapRequest} (h : Swapped db db' w ctx) (v : Nat) :
    versionRows db' w.groupId v = versionRows db w.groupId v ++
      if v = w.previousScheduleVersion + 1 then
        nextRows ctx w 0 ((versionRows db w.groupId w.previousScheduleVersion).insertionSort
          fun a b ↦ a.dueAt ≤ b.dueAt)
      else [] := by
  have hcopy : ∀ r' ∈ nextRows ctx w 0
      ((versionRows db w.groupId w.previousScheduleVersion).insertionSort
        fun a b ↦ a.dueAt ≤ b.dueAt),
      r'.groupId = w.groupId ∧ r'.scheduleVersion = w.previousScheduleVersion + 1 := by
    intro r' hr'
    obtain ⟨r, hr, hcopies⟩ := copies_of_mem_nextRows hr'
    rw [List.mem_insertionSort] at hr
    exact ⟨hcopies.groupId.trans (mem_versionRows.mp hr).2.1, hcopies.scheduleVersion⟩
  conv_lhs => rw [versionRows, Table.findMany, h.payoutSchedules]
  split
  · next hv =>
      exact filter_concat_of fun r' hr' ↦
        decide_eq_true ⟨(hcopy r' hr').1, (hcopy r' hr').2.trans hv.symm⟩
  · next hv =>
      rw [List.append_nil]
      exact filter_concat_of_not fun r' hr' heq ↦
        hv ((of_decide_eq_true heq).2.symm.trans (hcopy r' hr').2)

/-- The rows of every other group are left alone. -/
theorem Swapped.versionRows_other {w : SwapRequest} (h : Swapped db db' w ctx) {id : Uuid}
    (hid : id ≠ w.groupId) (v : Nat) : versionRows db' id v = versionRows db id v := by
  rw [versionRows, versionRows, Table.findMany, h.payoutSchedules]
  refine filter_concat_of_not fun r' hr' heq ↦ hid ?_
  obtain ⟨r, hr, hcopies⟩ := copies_of_mem_nextRows hr'
  rw [List.mem_insertionSort] at hr
  exact (of_decide_eq_true heq).1.symm.trans (hcopies.groupId.trans (mem_versionRows.mp hr).2.1)

theorem nodup_slotIds (id : Uuid) : ((slotsOf db id).map (·.id)).Nodup :=
  (db.ajoSlots.nodup_map fun _ _ h ↦ .inl h).sublist ((List.filter_sublist ..).map _)

/-- The next version pairs the cycles with the slots again. -/
theorem Exchanges.rotates {w : SwapRequest} (he : Exchanges ctx db db' w) (h : Rotates db g)
    (hg : g ∈ db.ajoGroups.rows) (hid : w.groupId = g.id) (hon : OnSlots db w) :
    Rotates db' { g with scheduleVersion := w.previousScheduleVersion + 1 } := by
  obtain ⟨hcurrent, hlength, hpresent, hslots, hcycles, hamounts⟩ := h
  have hprev : w.previousScheduleVersion = g.scheduleVersion := by
    obtain ⟨row, hrow, hrowid, hversion⟩ := he.swapped.group
    rw [← hversion, db.ajoGroups.eq_of_clash hrow hg (.inl (hrowid.trans hid))]
  have hslotsOf : slotsOf db' g.id = slotsOf db g.id := by rw [slotsOf, slotsOf, he.after]
  have hcyclesOf : cyclesOf db' g.id = cyclesOf db g.id := by rw [cyclesOf, cyclesOf, he.after]
  have hself := he.swapped.versionRows_self
  rw [hid, hprev] at hself
  have hpos : 1 ≤ g.scheduleVersion := by omega
  -- The version that is copied, in the order of its dates.
  have hsorted := List.perm_insertionSort (fun a b : PayoutSchedule ↦ a.dueAt ≤ b.dueAt)
    (versionRows db g.id g.scheduleVersion)
  have hnext : versionRows db g.id (g.scheduleVersion + 1) = [] := by
    by_contra hne
    have := (hpresent _).mp hne
    omega
  have hnew : versionRows db' g.id (g.scheduleVersion + 1) =
      nextRows ctx w 0 ((versionRows db g.id g.scheduleVersion).insertionSort
        fun a b ↦ a.dueAt ≤ b.dueAt) := by
    rw [hself, if_pos rfl, hnext, List.nil_append]
  have hold : ∀ v, v ≤ g.scheduleVersion → versionRows db' g.id v = versionRows db g.id v := by
    intro v hv
    rw [hself, if_neg (by omega), List.append_nil]
  have hnewSlots : ((versionRows db' g.id (g.scheduleVersion + 1)).map (·.slotId)).Perm
      ((slotsOf db g.id).map (·.id)) := by
    have hperm := (hsorted.map (·.slotId)).trans (hslots g.scheduleVersion hpos (le_refl _))
    obtain ⟨⟨a, ha, hfrom⟩, b, hb, hto⟩ := hon
    rw [hid] at ha hb
    rw [hnew, slotIds_nextRows]
    refine (hperm.map _).trans (map_exchange_perm (nodup_slotIds g.id) ?_ ?_)
    · exact hfrom ▸ List.mem_map_of_mem ha
    · exact hto ▸ List.mem_map_of_mem hb
  have hsplit : ∀ v, v ≤ g.scheduleVersion + 1 → v ≤ g.scheduleVersion ∨ v = g.scheduleVersion + 1 := by
    intro v hv
    omega
  rw [hprev]
  constructor
  · change g.scheduleVersion + 1 = executedCount db' g.id + 1
    rw [he.executedCount_eq, if_pos hid, hcurrent]
  · change (cyclesOf db' g.id).length = (slotsOf db' g.id).length
    rw [hcyclesOf, hslotsOf, hlength]
  · intro v
    change versionRows db' g.id v ≠ [] ↔ 1 ≤ v ∧ v ≤ g.scheduleVersion + 1
    by_cases hv : v = g.scheduleVersion + 1
    · subst hv
      refine iff_of_true (fun hnil ↦ ?_) ⟨Nat.le_add_left 1 _, le_refl _⟩
      have hempty := hnewSlots.length_eq
      rw [hnil, ← (hslots g.scheduleVersion hpos (le_refl _)).length_eq, List.map_nil,
        List.length_map] at hempty
      exact (hpresent g.scheduleVersion).mpr ⟨hpos, le_refl _⟩
        (List.length_eq_zero_iff.mp hempty.symm)
    · rw [hself, if_neg hv, List.append_nil, hpresent]
      omega
  · intro v hle hle'
    change ((versionRows db' g.id v).map _).Perm ((slotsOf db' g.id).map _)
    rw [hslotsOf]
    rcases hsplit v hle' with hv | rfl
    · rw [hold v hv]
      exact hslots v hle hv
    · exact hnewSlots
  · intro v hle hle'
    change ((versionRows db' g.id v).map _).Perm ((cyclesOf db' g.id).map _)
    rw [hcyclesOf]
    rcases hsplit v hle' with hv | rfl
    · rw [hold v hv]
      exact hcycles v hle hv
    · rw [hnew, cycleIds_nextRows]
      exact (hsorted.map _).trans (hcycles g.scheduleVersion hpos (le_refl _))
  · intro v r hr
    change r.amountDueMinor = (slotsOf db' g.id).length * g.baseContributionMinor
    change r ∈ versionRows db' g.id v at hr
    rw [hslotsOf]
    by_cases hv : v = g.scheduleVersion + 1
    · rw [hv, hnew] at hr
      obtain ⟨entry, hentry, hcopies⟩ := copies_of_mem_nextRows hr
      rw [List.mem_insertionSort] at hentry
      rw [hcopies.amountDueMinor]
      exact hamounts _ entry hentry
    · rw [hself, if_neg hv, List.append_nil] at hr
      exact hamounts v r hr

theorem Exchanges.rotation {w : SwapRequest} (he : Exchanges ctx db db' w) (h : Rotation db) :
    Rotation db' := by
  have hslots : db'.ajoSlots = db.ajoSlots := by rw [he.after]
  have hcycles : db'.ajoCycles = db.ajoCycles := by rw [he.after]
  have hgroups := he.swapped.ajoGroups
  have hexists : ∀ x ∈ db.ajoGroups.rows, ∃ x' ∈ db'.ajoGroups.rows, x'.id = x.id := by
    intro x hx
    rw [hgroups]
    refine ⟨_, List.mem_map_of_mem hx, ?_⟩
    split
    · rfl
    · rfl
  have hroll : Roll db' := by
    refine h.roll.of_map (by rw [he.after]) hslots (congrArg Table.rows hgroups) (fun x ↦ ?_)
      (by rw [he.after]; exact (List.map_id _).symm) .refl
    split
    · exact ⟨rfl, rfl, rfl, rfl, rfl⟩
    · exact .refl x
  have hsame : ∀ x ∈ db.swapRequests.rows, ∀ x', x' = (if decide (x.id = w.id) = true then
      { x with
        status := .executed
        resultingScheduleVersion := some (w.previousScheduleVersion + 1) }
      else x) → x'.groupId = x.groupId ∧ x'.fromSlotId = x.fromSlotId ∧ x'.toSlotId = x.toSlotId := by
    rintro x - x' rfl
    split
    · exact ⟨rfl, rfl, rfl⟩
    · exact ⟨rfl, rfl, rfl⟩
  refine ⟨hroll, ?_, ?_, ?_, ?_⟩
  · rw [hcycles]
    intro c hc
    obtain ⟨x, hx, hid⟩ := h.cycles c hc
    obtain ⟨x', hx', hid'⟩ := hexists x hx
    exact ⟨x', hx', hid'.trans hid⟩
  · intro r' hr'
    have hold : ∃ r ∈ db.payoutSchedules.rows, r'.groupId = r.groupId := by
      rcases he.swapped.mem_rows hr' with hr | ⟨r, hr, hcopies⟩
      · exact ⟨r', hr, rfl⟩
      · exact ⟨r, (mem_versionRows.mp hr).1, hcopies.groupId⟩
    obtain ⟨r, hr, hgroup⟩ := hold
    obtain ⟨x, hx, hid⟩ := h.rows r hr
    obtain ⟨x', hx', hid'⟩ := hexists x hx
    exact ⟨x', hx', hid'.trans (hid.trans hgroup.symm)⟩
  · intro x' hx'
    rw [he.rows, List.mem_map] at hx'
    obtain ⟨x, hx, hx'⟩ := hx'
    obtain ⟨hgroup, hfrom, hto⟩ := hsame x hx x' hx'.symm
    rw [OnSlots, hgroup, hfrom, hto, slotsOf, hslots]
    exact h.swaps x hx
  · intro x' hx'
    rw [hgroups, Table.rows_modify, List.mem_map] at hx'
    obtain ⟨x, hx, rfl⟩ := hx'
    split
    · next hid =>
        have hid := of_decide_eq_true hid
        have hlocked : ¬ AcceptsMembers x := fun haccepts ↦
          ((h.stage x hx).unscheduled haccepts).swaps w he.mem hid.symm
        refine ⟨fun haccepts ↦ absurd haccepts hlocked, fun _ ↦ ?_⟩
        exact he.rotates ((h.stage x hx).rotates hlocked) hx hid.symm (h.swaps w he.mem)
    · next hid =>
        have hne : x.id ≠ w.groupId := fun heq ↦ hid (decide_eq_true heq)
        refine (h.stage x hx).of_same (.refl x) ⟨?_, ?_, ?_, ?_⟩ fun _ ↦ ?_
        · rw [cyclesOf, cyclesOf, hcycles]
        · exact he.swapped.versionRows_other hne
        · rw [he.executedCount_eq, if_neg (Ne.symm hne), Nat.add_zero]
        · intro _ hnone y' hy' heq
          rw [he.rows, List.mem_map] at hy'
          obtain ⟨y, hy, hy'⟩ := hy'
          exact hnone y hy ((hsame y hy y' hy'.symm).1.symm.trans heq)
        · rw [slotsOf, slotsOf, hslots]

end Swaps

/-! ## Runs -/

/-- A call of the group services or of the swap service, or anything that happens elsewhere on the
platform in between. -/
inductive RotationCall where
  | group (call : GroupCall)
  | swap (call : Call)
  | elsewhere (after : Db)

/-- The tables of groups, schedules and swaps are taken from `db`, all others from `after`. -/
def withRotation (db after : Db) : Db :=
  { after with
    ajoGroups := db.ajoGroups
    ajoGroupMembers := db.ajoGroupMembers
    ajoSlots := db.ajoSlots
    ajoContributionPlans := db.ajoContributionPlans
    ajoCycles := db.ajoCycles
    payoutSchedules := db.payoutSchedules
    swapRequests := db.swapRequests }

/-- The database a call leaves. -/
def rotationStep (db : Db) : RotationCall → Db
  | .group call => groupStep db call
  | .swap call => step db call
  | .elsewhere after => withRotation db after

/-- The calls on swaps are those of the swap service. -/
def IsRotationCall (_ : Db) : RotationCall → Prop
  | .swap call => call.isSwap = true
  | .group _ | .elsewhere _ => True

instance (db : Db) (call : RotationCall) : Decidable (IsRotationCall db call) :=
  match call with
  | .swap call => inferInstanceAs (Decidable (call.isSwap = true))
  | .group _ | .elsewhere _ => isTrue trivial

/-- A transaction whose every success keeps the rotation keeps it when it is committed. -/
theorem rotation_committed {α : Type} {result : Except ServiceError (α × Db)} (h : Rotation db)
    (hok : ∀ a db', result = .ok (a, db') → Rotation db') : Rotation (committed db result) := by
  rcases result with e | ⟨a, db'⟩
  · exact h
  · exact hok a db' rfl

theorem rotation_step (h : Rotation db) {call : Call} (hswap : call.isSwap = true) :
    Rotation (step db call) := by
  cases call with
  | createSwap ctx userId groupId dto =>
      refine rotation_committed h fun r db' hok ↦ ?_
      obtain ⟨added, f, hnegotiates⟩ := createSwap_negotiates hok
      exact hnegotiates.rotation h
  | approveSwap ctx userId groupId swapId reason =>
      refine rotation_committed h fun r db' hok ↦ ?_
      rcases approveSwap_exchanges hok with ⟨added, f, hnegotiates⟩ | ⟨w, hexchanges⟩
      · exact hnegotiates.rotation h
      · exact hexchanges.rotation h
  | rejectSwap ctx userId groupId swapId reason =>
      refine rotation_committed h fun r db' hok ↦ ?_
      obtain ⟨added, f, hnegotiates⟩ := rejectSwap_negotiates hok
      exact hnegotiates.rotation h
  | payContribution | createIntent | settleIntent | executePayout | assignStatus => cases hswap

theorem rotation_rotationStep (h : Rotation db) {call : RotationCall}
    (hcall : IsRotationCall db call) : Rotation (rotationStep db call) := by
  cases call with
  | group call => exact (groupStep_effect h.roll call).rotation h
  | swap call => exact rotation_step h hcall
  | elsewhere after =>
      refine h.of_same (h.roll.of_eq rfl rfl rfl rfl) rfl rfl rfl (fun x hx ↦ ⟨x, hx, rfl⟩)
        (fun _ hs ↦ hs) fun x hx ↦ ?_
      exact (h.stage x hx).of_same (.refl x) (.of_eq rfl rfl rfl) fun _ ↦ rfl

/-- There are no groups, schedules and swaps yet; the rest of the platform may be in any state. -/
structure NoRotations (db : Db) : Prop where
  groups : NoGroups db
  cycles : db.ajoCycles.rows = []
  rows : db.payoutSchedules.rows = []
  swaps : db.swapRequests.rows = []

theorem NoRotations.rotation (h : NoRotations db) : Rotation db where
  roll := h.groups.roll
  cycles := by
    rw [h.cycles]
    exact List.forall_mem_nil _
  rows := by
    rw [h.rows]
    exact List.forall_mem_nil _
  swaps := by
    rw [h.swaps]
    exact List.forall_mem_nil _
  stage := by
    rw [h.groups.groups]
    exact List.forall_mem_nil _

/-- However groups are opened, joined and locked, and swaps asked for, approved, rejected and
executed: in every version of every locked group the payouts go through its cycles and through its
slots, each once and for the contributions of all slots, and the version in force is the last one
and has gone up by one with every executed swap. -/
theorem schedule_versions_permute {start : Db} (hstart : NoRotations start)
    (hrun : Reaches rotationStep IsRotationCall start db) (hg : g ∈ db.ajoGroups.rows)
    (hlocked : ¬ AcceptsMembers g) : Rotates db g := by
  have hrotation : Rotation db :=
    hrun.invariant hstart.rotation fun _ _ h hcall ↦ rotation_rotationStep h hcall
  exact (hrotation.stage g hg).rotates hlocked

section Sample

/-- The group of two is opened and locked, and its slots are exchanged. -/
def sampleRotation : List RotationCall :=
  sampleOpening.map .group ++
    [.group (.lock ⟨2000, fun k ↦ .ofNat (3000 + k)⟩ (.ofNat 1) (.ofNat 1000)),
      .swap (.createSwap ⟨3000, fun k ↦ .ofNat (4000 + k)⟩ (.ofNat 1) (.ofNat 1000)
        ⟨.ofNat 1010, .ofNat 2010, none⟩),
      .swap (.approveSwap ⟨4000, fun k ↦ .ofNat (5000 + k)⟩ (.ofNat 1) (.ofNat 1000) (.ofNat 4000)
        none),
      .swap (.approveSwap ⟨5000, fun k ↦ .ofNat (6000 + k)⟩ (.ofNat 8) (.ofNat 1000) (.ofNat 4000)
        none)]

/-- The database that the run leaves. -/
def sampleRotated : Db := sampleRotation.foldl rotationStep verifiedOrganiser

theorem schedule_versions_permute_sample :
    sampleRotated.ajoGroups.rows.length = 1 ∧
      ∀ g ∈ sampleRotated.ajoGroups.rows, g.scheduleVersion = 2 ∧ Rotates sampleRotated g := by
  have hfacts : ∀ g ∈ sampleRotated.ajoGroups.rows, g.scheduleVersion = 2 ∧ ¬ AcceptsMembers g := by
    decide +kernel
  refine ⟨by decide +kernel, fun g hg ↦ ?_⟩
  refine ⟨(hfacts g hg).1, schedule_versions_permute ⟨⟨rfl, rfl, rfl, rfl, rfl⟩, rfl, rfl, rfl⟩
    (reaches_of_allAdmitted ?_) hg (hfacts g hg).2⟩
  decide +kernel

end Sample

end AjoCloud.Ajo
