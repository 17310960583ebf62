import AjoCloud.Database.Ajo
import AjoCloud.Lib.Calendar
import Mathlib.Data.List.Sort

/-!
# The rotation

`ajo-schedule.ts`: the bounds of a group, and the cycles it goes through once it is locked.  The
slots are paid out in the order of their positions, one a cycle.
-/

namespace AjoCloud.Ajo

open Lib Calendar ServiceError

/-- `MAX_SLOTS`. -/
def maxSlotsOfGroup : Nat := 1000

/-- `assertAjoGroupBounds`. -/
def assertAjoGroupBounds (startDate endDate : Timestamp) (maxSlots : Nat) :
    Except ServiceError Unit := do
  require (2 ≤ maxSlots ∧ maxSlots ≤ maxSlotsOfGroup)
    (unprocessable "Group capacity must be between 2 and 1,000 slots")
  require (startDate < endDate) (unprocessable "Group end date must be after its start date")
  let maximumEnd := setUtcFullYear startDate (utcFullYear startDate + 1)
  require (¬ maximumEnd < endDate) (unprocessable "Ajo groups cannot last longer than 12 months")

/-- `addMinutes`. -/
def addMinutes (date : Timestamp) (minutes : Int) : Timestamp := date + minutes * 60000

/-- `addFrequency`.  A month that is too short for the day of the start ends the step on its last
day. -/
def addFrequency (start : Timestamp) (frequency : ContributionFrequency) (offset : Nat) :
    Timestamp :=
  match frequency with
  | .daily => setUtcDate start (utcDate start + offset)
  | .weekly => setUtcDate start (utcDate start + offset * 7)
  | .monthly =>
      let first := setUtcDate start 1
      let date := setUtcMonth first (utcMonth first + offset)
      let lastDay := utcDate (utc (utcFullYear date) (utcMonth date + 1) 0)
      setUtcDate date (min (utcDate start) lastDay)

-- A month after the 31st of January 2026.
example : addFrequency (utc 2026 0 31) .monthly 1 = utc 2026 1 28 := by decide +kernel

/-- A round of the rotation, as it is planned. -/
structure RotationCycle where
  sequence : Nat
  contributionDueAt : Timestamp
  contributionOpensAt : Timestamp
  contributionClosesAt : Timestamp
  graceEndsAt : Timestamp
  payoutEligibilityCutoffAt : Timestamp
  payoutDueAt : Timestamp
  payoutProcessingEndsAt : Timestamp
  payoutSlotId : Uuid
  contributionAmountMinor : Int
  payoutUnitCount : Nat
  payoutAmountMinor : Int

/-- The round that pays out to a slot. -/
def rotationCycle (group : AjoGroup) (slotCount index : Nat) (slot : AjoSlot) : RotationCycle :=
  let dueAt := addFrequency group.startDate group.contributionFrequency index
  let contributionClosesAt := addMinutes dueAt group.contributionCloseOffsetMinutes
  let payoutDueAt := addMinutes dueAt group.payoutOffsetMinutes
  { sequence := index + 1
    contributionDueAt := dueAt
    contributionOpensAt := addMinutes dueAt (-group.contributionOpenOffsetMinutes)
    contributionClosesAt := contributionClosesAt
    graceEndsAt := addMinutes contributionClosesAt group.gracePeriodMinutes
    payoutEligibilityCutoffAt := addMinutes dueAt group.payoutEligibilityCutoffMinutes
    payoutDueAt := payoutDueAt
    payoutProcessingEndsAt := addMinutes payoutDueAt group.payoutProcessingWindowMinutes
    payoutSlotId := slot.id
    contributionAmountMinor := group.baseContributionMinor
    payoutUnitCount := 1
    payoutAmountMinor := group.baseContributionMinor * slotCount }

/-- The rounds for the slots from `index` on, unless one falls due after the end. -/
def rotationFrom (group : AjoGroup) (slotCount : Nat) :
    Nat → List AjoSlot → Except ServiceError (List RotationCycle)
  | _, [] => .ok []
  | index, slot :: rest => do
      let cycle := rotationCycle group slotCount index slot
      require (¬ group.endDate < cycle.contributionDueAt)
        (unprocessable "The rotation cannot complete within the configured dates")
      let cycles ← rotationFrom group slotCount (index + 1) rest
      pure (cycle :: cycles)

/-- The slots stand at the positions from `first + 1` on, in this order. -/
def contiguousFrom : Nat → List AjoSlot → Bool
  | _, [] => true
  | first, slot :: rest => slot.position = first + 1 && contiguousFrom (first + 1) rest

/-- The error of a rotation whose positions have a gap. -/
def positionsError : ServiceError := unprocessable "Slot positions must be unique and contiguous"

/-- `generateRotationSchedule`, for the slots and the dates of a group. -/
def generateRotationSchedule (group : AjoGroup) (slots : List AjoSlot) :
    Except ServiceError (List RotationCycle) := do
  require (2 ≤ slots.length ∧ slots.length ≤ maxSlotsOfGroup)
    (unprocessable "A locked group requires 2 to 1,000 slots")
  require (0 < group.baseContributionMinor) (unprocessable "Contribution amount must be positive")
  let ordered := slots.insertionSort fun left right ↦ left.position ≤ right.position
  require ((ordered.map (·.position)).Nodup ∧ contiguousFrom 0 ordered) positionsError
  rotationFrom group ordered.length 0 ordered

end AjoCloud.Ajo
