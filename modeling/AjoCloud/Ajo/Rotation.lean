import AjoCloud.Ajo.Lockable
import AjoCloud.Lib.Months
import AjoCloud.Lib.Sorting

/-!
# The rotation is correct

What `addFrequency` does to a date, which lists of slots `generateRotationSchedule` accepts, and what
the rounds are that it answers.
-/

namespace AjoCloud.Ajo

open Lib Calendar ServiceError

variable {g : AjoGroup} {slots : List AjoSlot} {start : Timestamp} {index : Nat}

/-! ## Due dates -/

theorem addFrequency_daily (start : Timestamp) (index : Nat) :
    addFrequency start .daily index = start + index * msPerDay := by
  rw [addFrequency, setUtcDate_eq]
  ring

theorem addFrequency_weekly (start : Timestamp) (index : Nat) :
    addFrequency start .weekly index = start + index * 7 * msPerDay := by
  rw [addFrequency, setUtcDate_eq]
  ring

/-- A month later it is the same day, or the last of the month. -/
theorem addFrequency_monthly (start : Timestamp) (index : Nat) :
    monthOf (addFrequency start .monthly index) = monthOf start + index ∧
      utcDate (addFrequency start .monthly index) =
        min (utcDate start) (monthLength (monthOf start + index)) := by
  have hlength := (monthLength_bounds (monthOf start)).1
  have hlength' := (monthLength_bounds (monthOf start + index)).1
  have hdate := (day_eq start).1
  obtain ⟨hfirst, hone⟩ := fields_setUtcDate (t := start) (le_refl 1) (by omega)
  generalize hfirstDay : setUtcDate start 1 = first at hfirst hone
  have hmonths : 12 * utcFullYear first + (utcMonth first + index) = monthOf start + index := by
    rw [← hfirst, monthOf]
    ring
  have hfits : utcDate first ≤ monthLength (12 * utcFullYear first + (utcMonth first + index)) := by
    rw [hone, hmonths]
    omega
  obtain ⟨hmonth, -⟩ := fields_setUtcMonth hfits
  rw [hmonths] at hmonth
  have hlast : utcDate (utc (utcFullYear (setUtcMonth first (utcMonth first + index)))
      (utcMonth (setUtcMonth first (utcMonth first + index)) + 1) 0) =
        monthLength (monthOf start + index) := by
    rw [utcDate_utc_zero, ← hmonth, monthOf]
  rw [addFrequency, hfirstDay, hlast, ← hmonth]
  refine fields_setUtcDate ?_ (min_le_right _ _)
  rw [hmonth]
  omega

/-- Each round falls due after the one before. -/
theorem addFrequency_strictMono (start : Timestamp) (frequency : ContributionFrequency) :
    StrictMono (addFrequency start frequency) := by
  intro index later hlt
  cases frequency with
  | daily =>
      rw [addFrequency_daily, addFrequency_daily]
      refine Int.add_lt_add_left ?_ start
      show (index * 86400000 : Int) < later * 86400000
      omega
  | weekly =>
      rw [addFrequency_weekly, addFrequency_weekly]
      refine Int.add_lt_add_left ?_ start
      show (index * 7 * 86400000 : Int) < later * 7 * 86400000
      omega
  | monthly =>
      apply lt_of_monthOf_lt
      rw [(addFrequency_monthly start index).1, (addFrequency_monthly start later).1]
      omega

/-! ## What is accepted -/

/-- The order in which the slots are paid out. -/
def payoutOrder (slots : List AjoSlot) : List AjoSlot := sortedBy (·.position) slots

/-- When the round at an index falls due. -/
def dueAt (g : AjoGroup) (index : Nat) : Timestamp :=
  addFrequency g.startDate g.contributionFrequency index

/-- The error of a rotation that does not fit its dates. -/
def datesError : ServiceError :=
  unprocessable "The rotation cannot complete within the configured dates"

/-- The rounds are those of the slots in turn, unless one falls due after the end. -/
theorem rotationFrom_eq (g : AjoGroup) (n first : Nat) (slots : List AjoSlot) :
    rotationFrom g n first slots =
      if ∀ index < slots.length, ¬ g.endDate < dueAt g (first + index) then
        .ok (slots.mapIdx fun index slot ↦ rotationCycle g n (first + index) slot)
      else .error datesError := by
  induction slots generalizing first with
  | nil =>
      rw [if_pos nofun]
      rfl
  | cons slot rest ih =>
      have hshift : ∀ index, first + 1 + index = first + (index + 1) := fun index ↦ by omega
      rw [rotationFrom, require_bind, ih, List.length_cons, List.mapIdx_cons]
      simp only [hshift, Nat.forall_lt_succ_left, Nat.add_zero]
      change (if ¬ g.endDate < dueAt g first then _ else Except.error datesError) = _
      by_cases hdue : ¬ g.endDate < dueAt g first
      · rw [if_pos hdue]
        by_cases hdues : ∀ index < rest.length, ¬ g.endDate < dueAt g (first + (index + 1))
        · rw [if_pos hdues, if_pos ⟨hdue, hdues⟩]
          rfl
        · rw [if_neg hdues, if_neg fun h ↦ hdues h.2]
          rfl
      · rw [if_neg hdue, if_neg fun h ↦ hdue h.1]

/-- Contiguous positions are those that count up. -/
theorem contiguousFrom_iff {first : Nat} : contiguousFrom first slots = true ↔
    slots.map (·.position) = List.range' (first + 1) slots.length := by
  refine ⟨fun h ↦ ?_, contiguousFrom_of_positions⟩
  induction slots generalizing first with
  | nil => rfl
  | cons slot rest ih =>
      rw [contiguousFrom, Bool.and_eq_true, decide_eq_true_eq] at h
      rw [List.map_cons, List.length_cons, List.range'_succ, h.1, ih h.2]

/-- What `generateRotationSchedule` asks of its input. -/
structure Schedulable (g : AjoGroup) (slots : List AjoSlot) : Prop where
  size : 2 ≤ slots.length ∧ slots.length ≤ 1000
  positive : 0 < g.baseContributionMinor
  positions : (slots.map (·.position)).Perm (List.range' 1 slots.length)
  fits : ¬ g.endDate < dueAt g (slots.length - 1)

theorem positions_payoutOrder : (payoutOrder slots).map (·.position) = List.range' 1 slots.length ↔
    (slots.map (·.position)).Perm (List.range' 1 slots.length) :=
  map_sortedBy_eq_iff ((List.pairwise_lt_range').imp le_of_lt)

/-- The rounds, in the order of the positions. -/
def rounds (g : AjoGroup) (slots : List AjoSlot) : List RotationCycle :=
  (payoutOrder slots).mapIdx (rotationCycle g slots.length)

/-- The last round falls due last. -/
theorem forall_dueAt_iff (h : 2 ≤ slots.length) :
    (∀ index < slots.length, ¬ g.endDate < dueAt g index) ↔
      ¬ g.endDate < dueAt g (slots.length - 1) := by
  refine ⟨fun hall ↦ hall _ (by omega), fun hlast index hindex hlt ↦ hlast (lt_of_lt_of_le hlt ?_)⟩
  exact (addFrequency_strictMono _ _).monotone (by omega)

theorem generateRotationSchedule_eq (g : AjoGroup) (slots : List AjoSlot) :
    generateRotationSchedule g slots =
      if 2 ≤ slots.length ∧ slots.length ≤ 1000 then
        if 0 < g.baseContributionMinor then
          if (slots.map (·.position)).Perm (List.range' 1 slots.length) then
            if ¬ g.endDate < dueAt g (slots.length - 1) then .ok (rounds g slots)
            else .error datesError
          else .error positionsError
        else .error (unprocessable "Contribution amount must be positive")
      else .error (unprocessable "A locked group requires 2 to 1,000 slots") := by
  have hlength : (payoutOrder slots).length = slots.length := length_sortedBy _ slots
  have hpositions : (((payoutOrder slots).map (·.position)).Nodup ∧
      contiguousFrom 0 (payoutOrder slots) = true) ↔
        (slots.map (·.position)).Perm (List.range' 1 slots.length) := by
    rw [contiguousFrom_iff, hlength, Nat.zero_add, ← positions_payoutOrder]
    refine ⟨fun h ↦ h.2, fun h ↦ ⟨?_, h⟩⟩
    rw [h]
    exact List.nodup_range'
  rw [generateRotationSchedule]
  change (require _ _ >>= fun _ ↦ require _ _ >>= fun _ ↦
    require (((payoutOrder slots).map (·.position)).Nodup ∧ contiguousFrom 0 (payoutOrder slots) = true)
      _ >>= fun _ ↦ rotationFrom g (payoutOrder slots).length 0 (payoutOrder slots)) = _
  simp only [require_bind, rotationFrom_eq, hlength, hpositions, Nat.zero_add]
  by_cases hsize : 2 ≤ slots.length ∧ slots.length ≤ 1000
  · simp only [forall_dueAt_iff hsize.1]
    rfl
  · rw [if_neg hsize]
    exact if_neg hsize

theorem generateRotationSchedule_eq_ok_iff {cycles : List RotationCycle} :
    generateRotationSchedule g slots = .ok cycles ↔ Schedulable g slots ∧ cycles = rounds g slots := by
  rw [generateRotationSchedule_eq]
  simp only [ite_error_eq_ok, Except.ok.injEq]
  constructor
  · rintro ⟨hsize, hpositive, hpositions, hfits, rfl⟩
    exact ⟨⟨hsize, hpositive, hpositions, hfits⟩, rfl⟩
  · rintro ⟨⟨hsize, hpositive, hpositions, hfits⟩, rfl⟩
    exact ⟨hsize, hpositive, hpositions, hfits, rfl⟩

/-- The order of the slots does not matter. -/
theorem generateRotationSchedule_perm {slots' : List AjoSlot} (hperm : slots'.Perm slots) :
    generateRotationSchedule g slots' = generateRotationSchedule g slots := by
  have hpositions : (slots'.map (·.position)).Perm (List.range' 1 slots.length) ↔
      (slots.map (·.position)).Perm (List.range' 1 slots.length) :=
    ⟨(hperm.map _).symm.trans, (hperm.map _).trans⟩
  rw [generateRotationSchedule_eq, generateRotationSchedule_eq, hperm.length_eq]
  simp only [hpositions]
  by_cases h : (slots.map (·.position)).Perm (List.range' 1 slots.length)
  · have horder : payoutOrder slots' = payoutOrder slots := by
      refine sortedBy_eq_of_perm ?_ hperm
      exact ((hpositions.mpr h).nodup_iff).mpr List.nodup_range'
    rw [rounds, horder, hperm.length_eq]
    rfl
  · rw [if_neg h, if_neg h]

/-! ## What is answered -/

/-- What comes in for a round: a contribution of every slot. -/
def inflow (slots : List AjoSlot) (cycle : RotationCycle) : Int :=
  (slots.map fun _ ↦ cycle.contributionAmountMinor).sum

/-- The rounds are a rotation of the slots: each slot has its turn, at its position, and is paid what
all of them contribute. -/
structure IsRotation (g : AjoGroup) (slots : List AjoSlot) (cycles : List RotationCycle) : Prop where
  length : cycles.length = slots.length
  turn : ∀ (index : Nat) (cycle : RotationCycle), cycles[index]? = some cycle → cycle.sequence = index + 1 ∧
    ∃ slot ∈ slots, slot.position = index + 1 ∧ cycle.payoutSlotId = slot.id
  once : (cycles.map (·.payoutSlotId)).Perm (slots.map (·.id))
  amounts : ∀ cycle ∈ cycles, cycle.contributionAmountMinor = g.baseContributionMinor ∧
    cycle.payoutAmountMinor = slots.length * g.baseContributionMinor
  funded : ∀ cycle ∈ cycles, inflow slots cycle = cycle.payoutAmountMinor
  balanced : (cycles.map (inflow slots)).sum = (cycles.map (·.payoutAmountMinor)).sum
  increasing : cycles.Pairwise fun earlier later ↦ earlier.contributionDueAt < later.contributionDueAt
  monthly : g.contributionFrequency = .monthly →
    ∀ (index : Nat) (cycle : RotationCycle), cycles[index]? = some cycle →
    monthOf cycle.contributionDueAt = monthOf g.startDate + index ∧
      utcDate cycle.contributionDueAt = min (utcDate g.startDate)
        (daysInMonth (utcFullYear cycle.contributionDueAt) (utcMonth cycle.contributionDueAt))

/-- The round at an index is that of the slot whose turn it is. -/
theorem getElem?_rounds {cycle : RotationCycle} : (rounds g slots)[index]? = some cycle ↔
    ∃ slot, (payoutOrder slots)[index]? = some slot ∧ rotationCycle g slots.length index slot = cycle := by
  rw [rounds, List.getElem?_mapIdx, Option.map_eq_some_iff]

theorem exists_of_mem_rounds {cycle : RotationCycle} (h : cycle ∈ rounds g slots) :
    ∃ index slot, rotationCycle g slots.length index slot = cycle := by
  obtain ⟨index, hindex⟩ := List.getElem?_of_mem h
  obtain ⟨slot, -, hcycle⟩ := getElem?_rounds.mp hindex
  exact ⟨index, slot, hcycle⟩

theorem funded_of_mem_rounds {cycle : RotationCycle} (h : cycle ∈ rounds g slots) :
    inflow slots cycle = cycle.payoutAmountMinor := by
  obtain ⟨index, slot, rfl⟩ := exists_of_mem_rounds h
  rw [inflow, List.map_const', List.sum_replicate, nsmul_eq_mul, mul_comm]
  rfl

theorem Schedulable.isRotation (h : Schedulable g slots) : IsRotation g slots (rounds g slots) := by
  constructor
  case length => rw [rounds, List.length_mapIdx, payoutOrder, length_sortedBy]
  case turn =>
    intro index cycle hcycle
    obtain ⟨slot, hslot, rfl⟩ := getElem?_rounds.mp hcycle
    refine ⟨rfl, slot, mem_sortedBy.mp (List.mem_of_getElem? hslot), ?_, rfl⟩
    have hposition : ((payoutOrder slots).map (·.position))[index]? = some slot.position := by
      rw [List.getElem?_map, hslot]
      rfl
    rw [positions_payoutOrder.mpr h.positions] at hposition
    obtain ⟨_, hvalue⟩ := List.getElem?_eq_some_iff.mp hposition
    rw [List.getElem_range'] at hvalue
    omega
  case once =>
    have hids : (rounds g slots).map (·.payoutSlotId) = (payoutOrder slots).map (·.id) := by
      apply List.ext_getElem?
      intro index
      rw [rounds, List.getElem?_map, List.getElem?_map, List.getElem?_mapIdx, Option.map_map]
      rfl
    rw [hids]
    exact (perm_sortedBy _ slots).map _
  case amounts =>
    intro cycle hcycle
    obtain ⟨index, slot, rfl⟩ := exists_of_mem_rounds hcycle
    exact ⟨rfl, mul_comm _ _⟩
  case funded => exact fun cycle hcycle ↦ funded_of_mem_rounds hcycle
  case balanced => exact congrArg List.sum (List.map_congr_left fun cycle hcycle ↦ funded_of_mem_rounds hcycle)
  case increasing =>
    rw [List.pairwise_iff_getElem]
    intro index later hindex hlater hlt
    obtain ⟨_, -, hcycle⟩ := getElem?_rounds.mp (List.getElem?_eq_getElem hindex)
    obtain ⟨_, -, hcycle'⟩ := getElem?_rounds.mp (List.getElem?_eq_getElem hlater)
    rw [← hcycle, ← hcycle']
    exact addFrequency_strictMono g.startDate g.contributionFrequency hlt
  case monthly =>
    intro hmonthly index cycle hcycle
    obtain ⟨slot, hslot, rfl⟩ := getElem?_rounds.mp hcycle
    have hdue : (rotationCycle g slots.length index slot).contributionDueAt =
        addFrequency g.startDate .monthly index := by
      rw [← hmonthly]
      rfl
    obtain ⟨hmonth, hdate⟩ := addFrequency_monthly g.startDate index
    rw [hdue, ← monthLength_monthOf, hmonth]
    exact ⟨rfl, hdate⟩

/-- A schedule is generated exactly when there are 2 to 1 000 slots at the positions from one on, the
contribution is positive and the last round falls due by the end; it is a rotation of the slots, in
whatever order they come. -/
theorem rotation_correct (g : AjoGroup) (slots : List AjoSlot) :
    ((∃ cycles, generateRotationSchedule g slots = .ok cycles) ↔
      (2 ≤ slots.length ∧ slots.length ≤ 1000) ∧ 0 < g.baseContributionMinor ∧
        (slots.map (·.position)).Perm (List.range' 1 slots.length) ∧
          addFrequency g.startDate g.contributionFrequency (slots.length - 1) ≤ g.endDate) ∧
      (∀ cycles, generateRotationSchedule g slots = .ok cycles → IsRotation g slots cycles) ∧
        ∀ slots' : List AjoSlot, slots'.Perm slots →
          generateRotationSchedule g slots' = generateRotationSchedule g slots := by
  refine ⟨?_, fun cycles h ↦ ?_, fun slots' hperm ↦ generateRotationSchedule_perm hperm⟩
  · simp only [generateRotationSchedule_eq_ok_iff]
    constructor
    · rintro ⟨_, ⟨hsize, hpositive, hpositions, hfits⟩, -⟩
      exact ⟨hsize, hpositive, hpositions, not_lt.mp hfits⟩
    · rintro ⟨hsize, hpositive, hpositions, hfits⟩
      exact ⟨_, ⟨hsize, hpositive, hpositions, not_lt.mpr hfits⟩, rfl⟩
  · obtain ⟨hschedulable, rfl⟩ := generateRotationSchedule_eq_ok_iff.mp h
    exact hschedulable.isRotation

/-! ### From the end of January on -/

section Sample

/-- A group that starts on the 31st of January 2026. -/
def sampleMonthly : AjoGroup where
  id := .ofNat 1
  name := "Month by month"
  contributionFrequency := .monthly
  baseContributionMinor := 100
  maxSlots := 3
  maxSlotsPerMember := 3
  startDate := utc 2026 0 31
  endDate := utc 2026 11 31
  createdByUserId := .ofNat 2
  shortCode := "7KQ3MZP"

/-- Its slots, out of order. -/
def sampleShuffled : List AjoSlot :=
  [⟨.ofNat 13, .ofNat 1, .ofNat 3, 3⟩, ⟨.ofNat 11, .ofNat 1, .ofNat 3, 1⟩,
    ⟨.ofNat 12, .ofNat 1, .ofNat 4, 2⟩]

end Sample

theorem rotation_correct_sample : ∃ cycles,
    generateRotationSchedule sampleMonthly sampleShuffled = .ok cycles ∧
      IsRotation sampleMonthly sampleShuffled cycles ∧
        cycles.map (·.contributionDueAt) = [utc 2026 0 31, utc 2026 1 28, utc 2026 2 31] := by
  obtain ⟨hok, hrotation, -⟩ := rotation_correct sampleMonthly sampleShuffled
  obtain ⟨cycles, hcycles⟩ := hok.mpr (by decide +kernel)
  refine ⟨cycles, hcycles, hrotation cycles hcycles, ?_⟩
  obtain ⟨-, rfl⟩ := generateRotationSchedule_eq_ok_iff.mp hcycles
  decide +kernel

end AjoCloud.Ajo
