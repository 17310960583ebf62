import AjoCloud.Ajo.Plans
import AjoCloud.Ajo.Rotation

/-!
# What a lock can still be refused for

Opening a group bounds its capacity and its dates, and joining it looks at the capacity.  Only `lock`
multiplies the contribution by the slots and puts the rounds into the calendar: here is which
enrolments fit their dates and the columns of their amounts.
-/

namespace AjoCloud.Ajo

open Lib Calendar ServiceError

variable {ctx : Ctx} {db db' : Db} {g : AjoGroup}

/-! ## Capacity -/

/-- Every group is within the limits it was opened in. -/
def WithinCapacity (db : Db) : Prop := ∀ g ∈ db.ajoGroups.rows, g.CapacityCheck

theorem WithinCapacity.of_map (h : WithinCapacity db) {f : AjoGroup → AjoGroup}
    (hgroups : db'.ajoGroups.rows = db.ajoGroups.rows.map f)
    (hf : ∀ g : AjoGroup, g.CapacityCheck → (f g).CapacityCheck) : WithinCapacity db' := by
  intro x hx
  rw [hgroups, List.mem_map] at hx
  obtain ⟨g, hg, rfl⟩ := hx
  exact hf g (h g hg)

theorem WithinCapacity.of_eq (h : WithinCapacity db) (hgroups : db'.ajoGroups = db.ajoGroups) :
    WithinCapacity db' := by
  intro x hx
  exact h x (hgroups ▸ hx)

theorem GroupEffect.withinCapacity (he : GroupEffect db db') (h : WithinCapacity db) :
    WithinCapacity db' := by
  cases he with
  | same heq => exact heq ▸ h
  | created ctx g hc =>
      obtain ⟨groups, hgroups, e, enrolled, henrol, -, -, i, -, -, hafter⟩ := hc.opened
      have hrows : db'.ajoGroups.rows = db.ajoGroups.rows ++ [g] := by
        rw [hafter, henrol.after]
        exact insertRow_eq_ok hgroups
      intro x hx
      rw [hrows, List.mem_append, List.mem_singleton] at hx
      rcases hx with hx | rfl
      · exact h x hx
      · exact hc.check
  | joined ctx g hj =>
      obtain ⟨e, enrolled, henrol, -, -, spent, -, rfl⟩ := hj.enrolled
      have hsame : enrolled.ajoGroups = db.ajoGroups := by rw [henrol.after]
      cases spent with
      | none => exact h.of_eq hsame
      | some i => exact h.of_eq hsame
  | listed groupId listed hl =>
      refine h.of_map (congrArg (fun d : Db ↦ d.ajoGroups.rows) hl) fun x hx ↦ ?_
      split
      · exact hx
      · exact hx
  | invited hi =>
      rw [hi.after]
      exact h.of_eq rfl
  | locked ctx g slots cycles hl =>
      refine h.of_map (congrArg Table.rows hl.groups) fun x hx ↦ ?_
      split
      · exact hx
      · exact hx

theorem NoGroups.withinCapacity (h : NoGroups db) : WithinCapacity db := by
  intro g hg
  rw [h.groups] at hg
  exact absurd hg List.not_mem_nil

/-- Groups stay within their limits wherever a run of calls gets. -/
theorem withinCapacity_of_reaches {start : Db} (hstart : NoGroups start)
    (hrun : Reaches enrolmentStep anyCall start db) : WithinCapacity db := by
  refine (hrun.invariant (I := fun db ↦ Roll db ∧ WithinCapacity db)
    ⟨hstart.roll, hstart.withinCapacity⟩ fun db call h _ ↦ ?_).2
  cases call with
  | group call =>
      have heffect := groupStep_effect h.1 call
      exact ⟨heffect.roll h.1, heffect.withinCapacity h.2⟩
  | elsewhere after => exact ⟨h.1.of_eq rfl rfl rfl rfl, h.2⟩

/-! ## The refusals of `lock` -/

/-- The amounts that `lock` computes can be stored. -/
structure Storable (db : Db) (g : AjoGroup) : Prop where
  payout : fitsBigInt (g.baseContributionMinor * (slotsOf db g.id).length) = true
  plans : ∀ p ∈ plansOf db g.id, fitsBigInt (p.expectedPerCycleMinor * (slotsOf db g.id).length) = true ∧
    fitsBigInt (g.baseContributionMinor * (slotsOf db g.id).length * p.unitQuantity) = true

/-- Why `lock` refuses a group whose tables agree. -/
inductive LockRefusal (db : Db) (g : AjoGroup) (e : ServiceError) : Prop
  /-- The caller may not, the group is not there, or it is locked. -/
  | request (h : e ∈ [forbidden "Only this group’s active administrator can lock it",
      notFound "Ajo group was not found", conflict "Only a draft or open group can be locked"])
  | schedule (h : generateRotationSchedule g (slotsOf db g.id) = .error e)
  | overflow (h : e = .database .valueTooLong) (amounts : ¬ Storable db g)
  | constraint (h : e = .database .uniqueConstraint ∨ e = .database .checkConstraint)

theorem requireAdministrator_eq_error {userId groupId : Uuid} {refusal : String} {e : ServiceError}
    (h : requireAdministrator db userId groupId refusal = .error e) : e = forbidden refusal := by
  rw [requireAdministrator] at h
  rcases bind_eq_error.mp h with h | ⟨membership, -, h⟩
  · exact (orThrow_eq_error.mp h).2.symm
  · rcases bind_eq_error.mp h with h | ⟨_, -, h⟩
    · exact (require_eq_error.mp h).2.symm
    · cases h

theorem lockCycles_eq_error {slots : List AjoSlot} {first : Nat} {cycles : List RotationCycle}
    {e : ServiceError} (h : lockCycles ctx g slots first cycles db = .error e) :
    e = .database .uniqueConstraint ∨
      e = .database .valueTooLong ∧ ∃ cycle ∈ cycles, fitsBigInt cycle.payoutAmountMinor = false := by
  induction cycles generalizing first db with
  | nil => cases h
  | cons cycle rest ih =>
      rw [lockCycles] at h
      rcases bind_eq_error.mp h with h | ⟨db₁, -, h⟩
      · rw [lockCycle] at h
        rcases bind_eq_error.mp h with h | ⟨_, -, h⟩
        · exact .inl (orThrow_eq_error.mp h).2.symm
        rcases bind_eq_error.mp h with h | ⟨_, -, h⟩
        · exact .inl (orThrow_eq_error.mp h).2.symm
        rcases bind_eq_error.mp h with h | ⟨_, -, h⟩
        · obtain ⟨hlong, rfl⟩ := require_eq_error.mp h
          exact .inr ⟨rfl, cycle, List.mem_cons_self, by simpa using hlong⟩
        rcases bind_eq_error.mp h with h | ⟨_, -, h⟩
        · exact .inl (orThrow_eq_error.mp h).2.symm
        · cases h
      · rcases ih h with hunique | ⟨hlong, c, hc, hfits⟩
        · exact .inl hunique
        · exact .inr ⟨hlong, c, List.mem_cons_of_mem _ hc, hfits⟩

theorem fits_of_lockCycles {slots : List AjoSlot} {first : Nat} {cycles : List RotationCycle}
    (h : lockCycles ctx g slots first cycles db = .ok db') :
    ∀ cycle ∈ cycles, fitsBigInt cycle.payoutAmountMinor = true := by
  induction cycles generalizing first db with
  | nil => exact List.forall_mem_nil _
  | cons cycle rest ih =>
      rw [lockCycles, bind_eq_ok] at h
      obtain ⟨db₁, hcycle, hrest⟩ := h
      simp only [lockCycle, bind_eq_ok, require_eq_ok, orThrow_eq_ok, pure_eq_ok, exists_const] at hcycle
      obtain ⟨_, -, _, -, hfits, -⟩ := hcycle
      exact List.forall_mem_cons.mpr ⟨hfits, ih hrest⟩

theorem Agrees.lock_eq_error (h : Agrees db g) (hg : g ∈ db.ajoGroups.rows) {userId : Uuid}
    {e : ServiceError} (herror : lock ctx db userId g.id = .error e) : LockRefusal db g e := by
  have hsorted := insertionSort_of_positions h.positions
  rw [lock] at herror
  rcases bind_eq_error.mp herror with herror | ⟨_, -, herror⟩
  · rw [requireAdministrator_eq_error herror]
    exact .request List.mem_cons_self
  rcases bind_eq_error.mp herror with herror | ⟨x, hx, herror⟩
  · rw [← (orThrow_eq_error.mp herror).2]
    exact .request (List.mem_cons_of_mem _ List.mem_cons_self)
  have hfind := orThrow_eq_ok.mp hx
  have hid : x.id = g.id := by simpa using Table.prop_of_find? hfind
  obtain rfl : x = g := db.ajoGroups.eq_of_clash (Table.mem_of_find? hfind) hg (.inl hid)
  rw [hsorted] at herror
  rcases bind_eq_error.mp herror with herror | ⟨_, -, herror⟩
  · rw [← (require_eq_error.mp herror).2]
    exact .request (List.mem_cons_of_mem _ (List.mem_cons_of_mem _ List.mem_cons_self))
  rcases bind_eq_error.mp herror with herror | ⟨cycles, hcycles, herror⟩
  · exact .schedule herror
  obtain ⟨-, -, hplanned⟩ := generateRotationSchedule_eq_ok hcycles h.positions
  -- What enrolment has kept is not refused.
  rcases bind_eq_error.mp herror with herror | ⟨_, -, herror⟩
  · exact absurd (not_lt.mpr h.members_le) (require_eq_error.mp herror).1
  rcases bind_eq_error.mp herror with herror | ⟨_, -, herror⟩
  · exact absurd ⟨h.plans.symm, h.quantities⟩ (require_eq_error.mp herror).1
  rcases bind_eq_error.mp herror with herror | ⟨drawn, -, herror⟩
  · rcases lockCycles_eq_error herror with hunique | ⟨hlong, cycle, hcycle, hfits⟩
    · exact .constraint (.inl hunique)
    · refine .overflow hlong fun hstorable ↦ ?_
      rw [hplanned.payouts cycle hcycle, hstorable.payout] at hfits
      cases hfits
  rcases bind_eq_error.mp herror with herror | ⟨_, -, herror⟩
  · obtain ⟨hlong, rfl⟩ := require_eq_error.mp herror
    refine .overflow rfl fun hstorable ↦ hlong fun plan hplan ↦ ?_
    obtain ⟨p, hp, rfl⟩ := List.mem_map.mp hplan
    rw [hplanned.length]
    exact hstorable.plans p hp
  rcases bind_eq_error.mp herror with herror | ⟨_, -, herror⟩
  · exact .constraint (.inr (require_eq_error.mp herror).2.symm)
  rcases bind_eq_error.mp herror with herror | ⟨_, -, herror⟩
  · exact .constraint (.inl (orThrow_eq_error.mp herror).2.symm)
  · cases herror

/-- A group that was locked has amounts that could be stored. -/
theorem Agrees.storable_of_lock (h : Agrees db g) (hg : g ∈ db.ajoGroups.rows) {userId : Uuid}
    {answer : LockAnswer} (hok : lock ctx db userId g.id = .ok (answer, db')) : Storable db g := by
  simp only [lock, bind_eq_ok, require_eq_ok, orThrow_eq_ok, exists_const,
    insertionSort_of_positions h.positions] at hok
  obtain ⟨_, -, x, hfind, -, cycles, hcycles, -, -, drawn, hdrawn, hfits, -⟩ := hok
  have hid : x.id = g.id := by simpa using Table.prop_of_find? hfind
  obtain rfl : x = g := db.ajoGroups.eq_of_clash (Table.mem_of_find? hfind) hg (.inl hid)
  obtain ⟨htwo, -, hplanned⟩ := generateRotationSchedule_eq_ok hcycles h.positions
  constructor
  · have hne : cycles ≠ [] := by
      rw [← List.length_pos_iff, hplanned.length]
      omega
    obtain ⟨cycle, hcycle⟩ := List.exists_mem_of_ne_nil _ hne
    rw [← hplanned.payouts cycle hcycle]
    exact fits_of_lockCycles hdrawn cycle hcycle
  · intro p hp
    have hplan := hfits _ (List.mem_map_of_mem hp)
    rw [hplanned.length] at hplan
    exact hplan

/-! ## Dates -/

/-- Where the tables agree and the group is within its limits, the rotation is refused for its dates
exactly when the round of the last slot falls due after the end. -/
theorem Agrees.datesError_iff (h : Agrees db g) (hcheck : g.CapacityCheck)
    (htwo : 2 ≤ (slotsOf db g.id).length) :
    generateRotationSchedule g (slotsOf db g.id) = .error datesError ↔
      g.endDate < dueAt g ((slotsOf db g.id).length - 1) := by
  have hsize : 2 ≤ (slotsOf db g.id).length ∧ (slotsOf db g.id).length ≤ 1000 :=
    ⟨htwo, h.slots_le.trans hcheck.2.1.2⟩
  have hpositions : ((slotsOf db g.id).map (·.position)).Perm
      (List.range' 1 (slotsOf db g.id).length) := h.positions ▸ .refl _
  rw [generateRotationSchedule_eq, if_pos hsize, if_pos hcheck.2.2.2.2.2.1, if_pos hpositions]
  constructor
  · intro herror
    by_contra hfits
    rw [if_pos hfits] at herror
    cases herror
  · intro hlate
    exact if_neg (not_not.mpr hlate)

/-- The rotation of an enrolment is refused for its dates exactly when the round of its last slot falls
due after the end; where the round at the capacity still falls due by then, members cannot fill a group
that can no longer be locked. -/
theorem rotation_fits_iff {start : Db} (hstart : NoGroups start)
    (hrun : Reaches enrolmentStep anyCall start db) (hg : g ∈ db.ajoGroups.rows)
    (htwo : 2 ≤ (slotsOf db g.id).length) :
    (generateRotationSchedule g (slotsOf db g.id) = .error datesError ↔
      g.endDate < dueAt g ((slotsOf db g.id).length - 1)) ∧
        (dueAt g (g.maxSlots - 1) ≤ g.endDate →
          ∀ ctx userId, lock ctx db userId g.id ≠ .error datesError) := by
  have hagrees := (roll_of_reaches hstart hrun).1.agrees g hg
  have hcheck := withinCapacity_of_reaches hstart hrun g hg
  refine ⟨hagrees.datesError_iff hcheck htwo, fun hfits ctx userId herror ↦ ?_⟩
  cases hagrees.lock_eq_error hg herror with
  | request h => exact absurd h (by decide +kernel)
  | schedule h =>
      rw [hagrees.datesError_iff hcheck htwo] at h
      have hle : dueAt g ((slotsOf db g.id).length - 1) ≤ dueAt g (g.maxSlots - 1) :=
        (addFrequency_strictMono _ _).monotone (Nat.sub_le_sub_right hagrees.slots_le 1)
      exact absurd (hle.trans hfits) (not_le.mpr h)
  | overflow h => cases h
  | constraint h =>
      rcases h with h | h
      · cases h
      · cases h

/-! ## Amounts -/

/-- The amounts that `join` and `lock` write are below 2⁶³. -/
structure AmountsWithin (db : Db) (g : AjoGroup) : Prop where
  perCycle : ∀ p ∈ plansOf db g.id, p.expectedPerCycleMinor < 2 ^ 63
  payout : g.baseContributionMinor * (slotsOf db g.id).length < 2 ^ 63
  total : ∀ p ∈ plansOf db g.id, p.expectedPerCycleMinor * (slotsOf db g.id).length < 2 ^ 63
  entitlement : ∀ p ∈ plansOf db g.id,
    g.baseContributionMinor * (slotsOf db g.id).length * p.unitQuantity < 2 ^ 63

/-- What the members are entitled to is below 2⁶³. -/
def EntitlementsWithin (db : Db) (g : AjoGroup) : Prop := ∀ p ∈ plansOf db g.id,
  g.baseContributionMinor * (slotsOf db g.id).length * p.unitQuantity < 2 ^ 63

/-- A plan of the group is for its contribution. -/
theorem PlansFit.perCycle_eq (h : PlansFit db) (hg : g ∈ db.ajoGroups.rows) :
    ∀ p ∈ plansOf db g.id, p.expectedPerCycleMinor = g.baseContributionMinor * p.unitQuantity := by
  intro p hp
  obtain ⟨hp, hid⟩ := Table.mem_findMany.mp hp
  exact h.perCycle p hp g hg (of_decide_eq_true hid).symm

/-- A multiple by a positive number is not smaller. -/
theorem le_mul_count {a : Int} {count : Nat} (ha : 0 ≤ a) (hcount : count ≠ 0) : a ≤ a * count :=
  le_mul_of_one_le_right ha (Int.ofNat_le.mpr (Nat.one_le_iff_ne_zero.mpr hcount))

/-- The entitlements are the largest of the amounts. -/
theorem PlansFit.amountsWithin_iff (h : PlansFit db) (hg : g ∈ db.ajoGroups.rows)
    (hbase : 0 ≤ g.baseContributionMinor) : AmountsWithin db g ↔ EntitlementsWithin db g := by
  have hquantities := (h.roll.agrees g hg).quantities
  have hperCycle := h.perCycle_eq hg
  have htotal : ∀ p ∈ plansOf db g.id, p.expectedPerCycleMinor * (slotsOf db g.id).length =
      g.baseContributionMinor * (slotsOf db g.id).length * p.unitQuantity := by
    intro p hp
    rw [hperCycle p hp, mul_right_comm]
  refine ⟨fun hwithin ↦ hwithin.entitlement, fun hwithin ↦ ⟨fun p hp ↦ ?_, ?_, fun p hp ↦ ?_, hwithin⟩⟩
  · have hle : p.unitQuantity ≤ (slotsOf db g.id).length := by
      rw [← hquantities]
      exact List.le_sum_of_mem (List.mem_map_of_mem hp)
    have hnonneg : 0 ≤ p.expectedPerCycleMinor := by
      rw [hperCycle p hp]
      exact mul_nonneg hbase (Int.natCast_nonneg _)
    by_cases hzero : (slotsOf db g.id).length = 0
    · have hnone : p.unitQuantity = 0 := by omega
      rw [hperCycle p hp, hnone, Nat.cast_zero, mul_zero]
      decide
    · exact lt_of_le_of_lt (le_mul_count hnonneg hzero) (htotal p hp ▸ hwithin p hp)
  · by_cases hzero : (slotsOf db g.id).length = 0
    · rw [hzero, Nat.cast_zero, mul_zero]
      decide
    · -- Whoever has a slot is entitled to as much.
      have hsome : ∃ p ∈ plansOf db g.id, p.unitQuantity ≠ 0 := by
        by_contra hnone
        refine hzero (hquantities.symm.trans (List.sum_eq_zero fun units hunits ↦ ?_))
        obtain ⟨p, hp, rfl⟩ := List.mem_map.mp hunits
        exact not_not.mp fun hne ↦ hnone ⟨p, hp, hne⟩
      obtain ⟨p, hp, hunits⟩ := hsome
      exact lt_of_le_of_lt (le_mul_count (mul_nonneg hbase (Int.natCast_nonneg _)) hunits) (hwithin p hp)
  · rw [htotal p hp]
    exact hwithin p hp

/-- Amounts that are not negative can be stored when they are small enough. -/
theorem PlansFit.storable_iff (h : PlansFit db) (hg : g ∈ db.ajoGroups.rows)
    (hbase : 0 ≤ g.baseContributionMinor) : Storable db g ↔ EntitlementsWithin db g := by
  have hslots : 0 ≤ g.baseContributionMinor * (slotsOf db g.id).length :=
    mul_nonneg hbase (Int.natCast_nonneg _)
  constructor
  · intro hstorable p hp
    exact (fitsBigInt_iff (mul_nonneg hslots (Int.natCast_nonneg _))).mp (hstorable.plans p hp).2
  · intro hentitled
    have hwithin := (h.amountsWithin_iff hg hbase).mpr hentitled
    refine ⟨(fitsBigInt_iff hslots).mpr hwithin.payout, fun p hp ↦ ⟨?_, ?_⟩⟩
    · refine (fitsBigInt_iff ?_).mpr (hwithin.total p hp)
      rw [h.perCycle_eq hg p hp]
      exact mul_nonneg (mul_nonneg hbase (Int.natCast_nonneg _)) (Int.natCast_nonneg _)
    · exact (fitsBigInt_iff (mul_nonneg hslots (Int.natCast_nonneg _))).mpr (hentitled p hp)

/-- The plans fit their groups, and these are within their limits, wherever a run of calls and payments
gets. -/
theorem plansFit_of_reaches {start : Db} (hstart : NoPlans start)
    (hrun : Reaches planStep IsPlanCall start db) : PlansFit db ∧ WithinCapacity db := by
  refine hrun.invariant (I := fun db ↦ PlansFit db ∧ WithinCapacity db)
    ⟨hstart.plansFit, hstart.groups.withinCapacity⟩ fun db call h hcall ↦ ⟨plansFit_planStep h.1 hcall, ?_⟩
  cases call with
  | group call => exact (groupStep_effect h.1.roll call).withinCapacity h.2
  | pay call =>
      obtain ⟨_, _, hpays⟩ := pays_step hcall
      exact h.2.of_eq hpays.groups
  | elsewhere after => exact h.2.of_eq rfl

theorem generateRotationSchedule_ne_database {slots : List AjoSlot} {fault : DatabaseFault} :
    generateRotationSchedule g slots ≠ .error (.database fault) := by
  intro h
  rw [generateRotationSchedule_eq] at h
  split_ifs at h
  all_goals cases h

/-- All amounts that are written for an enrolment are below 2⁶³ exactly when what each member is
entitled to in all is; then no lock fails on an overflow, and else none succeeds. -/
theorem amounts_fit_iff {start : Db} (hstart : NoPlans start)
    (hrun : Reaches planStep IsPlanCall start db) (hg : g ∈ db.ajoGroups.rows) :
    (AmountsWithin db g ↔ EntitlementsWithin db g) ∧
      (EntitlementsWithin db g → ∀ ctx userId,
        lock ctx db userId g.id ≠ .error (.database .valueTooLong)) ∧
      (¬ EntitlementsWithin db g → ∀ ctx userId answer, lock ctx db userId g.id ≠ .ok answer) := by
  obtain ⟨hfit, hcapacity⟩ := plansFit_of_reaches hstart hrun
  have hagrees := hfit.roll.agrees g hg
  have hbase := le_of_lt (hcapacity g hg).2.2.2.2.2.1
  rw [← hfit.storable_iff hg hbase]
  refine ⟨(hfit.amountsWithin_iff hg hbase).trans (hfit.storable_iff hg hbase).symm,
    fun hstorable ctx userId herror ↦ ?_, fun hlong ctx userId answer hok ↦ ?_⟩
  · cases hagrees.lock_eq_error hg herror with
    | request h => exact absurd h (by decide +kernel)
    | schedule h => exact absurd h generateRotationSchedule_ne_database
    | overflow _ hlong => exact hlong hstorable
    | constraint h =>
        rcases h with h | h
        · cases h
        · cases h
  · exact hlong (hagrees.storable_of_lock hg hok)

/-! ### A group that fills up -/

section Sample

/-- A group of three slots, with one round a day from the 2nd of January 1970 on, that ends on the
3rd. -/
def sampleShortGroup : CreateAjoGroupDto := { sampleGroupDto with maxSlots := 3, endDate := 172800000 }

/-- The organiser opens the group with one slot, and a friend takes so many of the others. -/
def sampleFilling (dto : CreateAjoGroupDto) (slots : Nat) : List GroupCall :=
  [.create sampleCodec ⟨0, fun k ↦ .ofNat (1000 + k)⟩ ⟨"7KQ3MZP2AC", "7KQ3MZP"⟩ (.ofNat 1) dto,
    .join sampleCodec ⟨1000, fun k ↦ .ofNat (2000 + k)⟩ (.ofNat 8) (.ofNat 1000) ⟨"7kq3mzp2ac", slots⟩]

/-- The group that came of it. -/
def sampleFilled (dto : CreateAjoGroupDto) (slots : Nat) : Db :=
  ((sampleFilling dto slots).map .group).foldl enrolmentStep verifiedOrganiser

/-- A group of two slots at 2⁶² each. -/
def sampleLargeGroup : CreateAjoGroupDto := { sampleGroupDto with baseContributionMinor := 2 ^ 62 }

/-- Both slots are taken. -/
def sampleOverflowing : Db :=
  ((sampleFilling sampleLargeGroup 1).map PlanCall.group).foldl planStep verifiedOrganiser

end Sample

theorem rotation_fits_sample : ∃ g ∈ sampleOpened.ajoGroups.rows,
    generateRotationSchedule g (slotsOf sampleOpened g.id) ≠ .error datesError ∧
      ∀ ctx userId, lock ctx sampleOpened userId g.id ≠ .error datesError := by
  have hgroups : ∃ g ∈ sampleOpened.ajoGroups.rows, 2 ≤ (slotsOf sampleOpened g.id).length ∧
      ¬ g.endDate < dueAt g ((slotsOf sampleOpened g.id).length - 1) ∧
        dueAt g (g.maxSlots - 1) ≤ g.endDate := by
    decide +kernel
  obtain ⟨g, hg, htwo, hlast, hcapacity⟩ := hgroups
  obtain ⟨hiff, hlock⟩ := rotation_fits_iff ⟨rfl, rfl, rfl, rfl, rfl⟩
    (reaches_foldl enrolmentStep verifiedOrganiser (sampleOpening.map .group)) hg htwo
  exact ⟨g, hg, hiff.not.mpr hlast, hlock hcapacity⟩

/-- Three slots are taken of a group whose dates have room for two rounds. -/
theorem filled_beyond_dates :
    ¬ ∀ (start db : Db) (g : AjoGroup), NoGroups start → Reaches enrolmentStep anyCall start db →
      g ∈ db.ajoGroups.rows → 2 ≤ (slotsOf db g.id).length →
        generateRotationSchedule g (slotsOf db g.id) ≠ .error datesError := by
  intro h
  have hstart : NoGroups verifiedOrganiser := ⟨rfl, rfl, rfl, rfl, rfl⟩
  have hrun : Reaches enrolmentStep anyCall verifiedOrganiser (sampleFilled sampleShortGroup 2) :=
    reaches_foldl enrolmentStep verifiedOrganiser _
  have hgroups : ∃ g ∈ (sampleFilled sampleShortGroup 2).ajoGroups.rows,
      2 ≤ (slotsOf (sampleFilled sampleShortGroup 2) g.id).length ∧
        g.endDate < dueAt g ((slotsOf (sampleFilled sampleShortGroup 2) g.id).length - 1) := by
    decide +kernel
  obtain ⟨g, hg, htwo, hlate⟩ := hgroups
  have hagrees := (roll_of_reaches hstart hrun).1.agrees g hg
  have hcheck := withinCapacity_of_reaches hstart hrun g hg
  exact h _ _ g hstart hrun hg htwo ((hagrees.datesError_iff hcheck htwo).mpr hlate)

theorem amounts_fit_sample : ∃ g ∈ samplePlanned.ajoGroups.rows, AmountsWithin samplePlanned g := by
  have hgroups : ∃ g ∈ samplePlanned.ajoGroups.rows, ∀ p ∈ plansOf samplePlanned g.id,
      g.baseContributionMinor * (slotsOf samplePlanned g.id).length * p.unitQuantity < 2 ^ 63 := by
    decide +kernel
  obtain ⟨g, hg, hentitled⟩ := hgroups
  exact ⟨g, hg, (amounts_fit_iff sampleSaver_noPlans samplePlanned_reached hg).1.mpr hentitled⟩

/-- Two slots at 2⁶² each are taken, and the group cannot be locked. -/
theorem filled_beyond_amounts :
    ¬ ∀ (start db : Db) (g : AjoGroup), NoPlans start → Reaches planStep IsPlanCall start db →
      g ∈ db.ajoGroups.rows → g.baseContributionMinor < 2 ^ 63 →
        AmountsWithin db g ∧ ∀ ctx userId, lock ctx db userId g.id ≠ .error (.database .valueTooLong) := by
  intro h
  have hrun : Reaches planStep IsPlanCall verifiedOrganiser sampleOverflowing :=
    reaches_of_allAdmitted (by decide +kernel)
  have hgroups : ∃ g ∈ sampleOverflowing.ajoGroups.rows, g.id = .ofNat 1000 ∧
      g.baseContributionMinor < 2 ^ 63 := by
    decide +kernel
  have hanswer : (match lock (sampleCtx 9) sampleOverflowing (.ofNat 1) (.ofNat 1000) with
      | .error e => e
      | .ok _ => .database .uniqueConstraint) = .database .valueTooLong := by
    decide +kernel
  obtain ⟨g, hg, hid, hbase⟩ := hgroups
  have hlock := (h _ _ g ⟨⟨rfl, rfl, rfl, rfl, rfl⟩, rfl, rfl⟩ hrun hg hbase).2 (sampleCtx 9) (.ofNat 1)
  rw [hid] at hlock
  cases hresult : lock (sampleCtx 9) sampleOverflowing (.ofNat 1) (.ofNat 1000) with
  | error e =>
      rw [hresult] at hanswer
      exact hlock (hresult.trans (congrArg _ hanswer))
  | ok answer =>
      rw [hresult] at hanswer
      cases hanswer

end AjoCloud.Ajo
