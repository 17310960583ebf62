import AjoCloud.Ajo.Enrolment

/-!
# Every enrolment can be locked

`lock` checks again what enrolment has kept: that the positions are `1` to `n`, that the plans are
those of the slots, and that there are not too many members.  On the tables that `create` and `join`
leave, none of these checks fails.
-/

namespace AjoCloud.Ajo

open Lib ServiceError

variable {db : Db} {g : AjoGroup}

/-! ## Positions -/

/-- Positions that count up from `first + 1` are contiguous. -/
theorem contiguousFrom_of_positions {slots : List AjoSlot} {first : Nat}
    (h : slots.map (·.position) = List.range' (first + 1) slots.length) :
    contiguousFrom first slots = true := by
  induction slots generalizing first with
  | nil => rfl
  | cons slot rest ih =>
      rw [List.map_cons, List.length_cons, List.range'_succ, List.cons.injEq] at h
      obtain ⟨hposition, hrest⟩ := h
      rw [contiguousFrom, ih hrest, Bool.and_true, decide_eq_true_eq]
      exact hposition

/-- Slots in the order of their positions are not moved by sorting. -/
theorem insertionSort_of_positions {slots : List AjoSlot} {first : Nat}
    (h : slots.map (·.position) = List.range' first slots.length) :
    (slots.insertionSort fun a b ↦ a.position ≤ b.position) = slots := by
  apply List.Pairwise.insertionSort_eq
  have hsorted : (slots.map (·.position)).Pairwise (· ≤ ·) := by
    rw [h]
    exact (List.pairwise_lt_range').imp le_of_lt
  exact List.pairwise_map.mp hsorted

/-! ## The checks of `lock` -/

/-- The refusals of `lock` that are about contiguity, plans and capacity. -/
def IsCheckFailure (e : ServiceError) : Prop :=
  e = positionsError ∨ e = plansError ∨ e = capacityError

instance (e : ServiceError) : Decidable (IsCheckFailure e) := inferInstanceAs (Decidable (_ ∨ _ ∨ _))

/-- The computation fails none of these checks. -/
abbrev Passes {α : Type} (x : Except ServiceError α) : Prop := Throws x fun e ↦ ¬ IsCheckFailure e

theorem database_not_checkFailure (fault : DatabaseFault) : ¬ IsCheckFailure (.database fault) := by
  rintro (h | h | h)
  · cases h
  · cases h
  · cases h

theorem passes_rotationFrom {n first : Nat} {slots : List AjoSlot} :
    Passes (rotationFrom g n first slots) := by
  induction slots generalizing first with
  | nil => exact throws_pure _
  | cons slot rest ih =>
      rw [rotationFrom]
      refine Throws.bind (throws_require fun _ ↦ by decide +kernel) fun _ _ ↦ ?_
      exact Throws.bind ih fun _ _ ↦ throws_pure _

/-- A rotation over contiguous positions is not refused for them. -/
theorem passes_generateRotationSchedule {slots : List AjoSlot}
    (h : slots.map (·.position) = List.range' 1 slots.length) :
    Passes (generateRotationSchedule g slots) := by
  rw [generateRotationSchedule]
  refine Throws.bind (throws_require fun _ ↦ by decide +kernel) fun _ _ ↦ ?_
  refine Throws.bind (throws_require fun _ ↦ by decide +kernel) fun _ _ ↦ ?_
  rw [insertionSort_of_positions h]
  refine Throws.bind (throws_require fun hfails ↦ absurd ?_ hfails) fun _ _ ↦ passes_rotationFrom
  refine ⟨?_, contiguousFrom_of_positions h⟩
  rw [h]
  exact List.nodup_range'

theorem passes_lockCycles {ctx : Ctx} {slots : List AjoSlot} {cycles : List RotationCycle}
    {first : Nat} : Passes (lockCycles ctx g slots first cycles db) := by
  induction cycles generalizing first db with
  | nil => exact throws_pure _
  | cons cycle rest ih =>
      have hcycle : Passes (lockCycle ctx g slots first cycle db) := by
        rw [lockCycle]
        refine Throws.bind (throws_orThrow fun _ ↦ database_not_checkFailure _) fun _ _ ↦ ?_
        refine Throws.bind (throws_orThrow fun _ ↦ database_not_checkFailure _) fun _ _ ↦ ?_
        refine Throws.bind (throws_require fun _ ↦ database_not_checkFailure _) fun _ _ ↦ ?_
        refine Throws.bind (throws_orThrow fun _ ↦ database_not_checkFailure _) fun _ _ ↦ ?_
        exact throws_pure _
      rw [lockCycles]
      exact hcycle.bind fun _ _ ↦ ih

theorem passes_requireAdministrator {userId groupId : Uuid} {refusal : String} :
    Passes (requireAdministrator db userId groupId refusal) := by
  rw [requireAdministrator]
  have hforbidden : ¬ IsCheckFailure (forbidden refusal) := by
    rintro (h | h | h)
    · cases h
    · cases h
    · cases h
  refine Throws.bind (throws_orThrow fun _ ↦ hforbidden) fun _ _ ↦ ?_
  exact Throws.bind (throws_require fun _ ↦ hforbidden) fun _ _ ↦ throws_pure _

/-- On tables that agree, `lock` fails none of its checks. -/
theorem Agrees.passes_lock (h : Agrees db g) (hg : g ∈ db.ajoGroups.rows) (ctx : Ctx)
    (userId : Uuid) : Passes (lock ctx db userId g.id) := by
  have hsorted := insertionSort_of_positions h.positions
  rw [lock]
  refine Throws.bind passes_requireAdministrator fun _ _ ↦ ?_
  refine Throws.bind (throws_orThrow fun _ ↦ by decide +kernel) fun x hx ↦ ?_
  have hxg : x = g := by
    have hfind := orThrow_eq_ok.mp hx
    have hid : x.id = g.id := by simpa using Table.prop_of_find? hfind
    exact db.ajoGroups.eq_of_clash (Table.mem_of_find? hfind) hg (.inl hid)
  subst hxg
  rw [hsorted]
  refine Throws.bind (throws_require fun _ ↦ by decide +kernel) fun _ _ ↦ ?_
  refine Throws.bind (passes_generateRotationSchedule h.positions) fun cycles _ ↦ ?_
  refine Throws.bind (throws_require fun hfails ↦ absurd (not_lt.mpr h.members_le) hfails)
    fun _ _ ↦ ?_
  refine Throws.bind (throws_require fun hfails ↦ absurd ⟨h.plans.symm, h.quantities⟩ hfails)
    fun _ _ ↦ ?_
  refine Throws.bind passes_lockCycles fun _ _ ↦ ?_
  refine Throws.bind (throws_require fun _ ↦ database_not_checkFailure _) fun _ _ ↦ ?_
  refine Throws.bind (throws_require fun _ ↦ database_not_checkFailure _) fun _ _ ↦ ?_
  refine Throws.bind (throws_orThrow fun _ ↦ database_not_checkFailure _) fun _ _ ↦ ?_
  exact throws_pure _

/-! ## Runs -/

/-- A call of the group services, or anything that happens elsewhere on the platform in between. -/
inductive EnrolmentCall where
  | group (call : GroupCall)
  | elsewhere (after : Db)

/-- The tables that only the group and invitation services write are taken from `db`, all others
from `after`. -/
def withRoll (db after : Db) : Db :=
  { after with
    ajoGroups := db.ajoGroups
    ajoGroupMembers := db.ajoGroupMembers
    ajoSlots := db.ajoSlots
    ajoContributionPlans := db.ajoContributionPlans
    groupInvitations := db.groupInvitations }

/-- The database a call leaves. -/
def enrolmentStep (db : Db) : EnrolmentCall → Db
  | .group call => groupStep db call
  | .elsewhere after => withRoll db after

/-- No group has been opened yet; the rest of the platform may be in any state. -/
structure NoGroups (db : Db) : Prop where
  groups : db.ajoGroups.rows = []
  members : db.ajoGroupMembers.rows = []
  slots : db.ajoSlots.rows = []
  plans : db.ajoContributionPlans.rows = []
  invitations : db.groupInvitations.rows = []

theorem NoGroups.roll (h : NoGroups db) : Roll db := by
  constructor
  · intro m hm
    rw [h.members] at hm
    exact absurd hm List.not_mem_nil
  · intro s hs
    rw [h.slots] at hs
    exact absurd hs List.not_mem_nil
  · intro p hp
    rw [h.plans] at hp
    exact absurd hp List.not_mem_nil
  · intro p hp
    rw [h.plans] at hp
    exact absurd hp List.not_mem_nil
  · intro g hg
    rw [h.groups] at hg
    exact absurd hg List.not_mem_nil

theorem NoGroups.invitationsInBounds (h : NoGroups db) : InvitationsInBounds db := by
  intro i hi
  rw [h.invitations] at hi
  exact absurd hi List.not_mem_nil

/-- The roll holds wherever a run of calls gets. -/
theorem roll_of_reaches {start : Db} (hstart : NoGroups start)
    (hrun : Reaches enrolmentStep anyCall start db) : Roll db ∧ InvitationsInBounds db := by
  refine hrun.invariant (I := fun db ↦ Roll db ∧ InvitationsInBounds db)
    ⟨hstart.roll, hstart.invitationsInBounds⟩ fun db call h _ ↦ ?_
  cases call with
  | group call =>
      have heffect := groupStep_effect h.1 call
      exact ⟨heffect.roll h.1, heffect.invitations h.2⟩
  | elsewhere after => exact ⟨h.1.of_eq rfl rfl rfl rfl, h.2⟩

/-- However groups are opened, joined and listed, and whatever else happens on the platform
meanwhile, the tables of every group agree, every invitation is within its bounds, and `lock` fails
none of its checks. -/
theorem enrolment_stays_lockable {start : Db} (hstart : NoGroups start)
    (hrun : Reaches enrolmentStep anyCall start db) (hg : g ∈ db.ajoGroups.rows) :
    Agrees db g ∧ InvitationsInBounds db ∧
      ∀ (ctx : Ctx) (userId : Uuid) (e : ServiceError), lock ctx db userId g.id = .error e →
        ¬ IsCheckFailure e := by
  obtain ⟨hroll, hbounds⟩ := roll_of_reaches hstart hrun
  have hagrees := hroll.agrees g hg
  exact ⟨hagrees, hbounds, fun ctx userId ↦ hagrees.passes_lock hg ctx userId⟩

/-! ### Two friends -/

section Sample

/-- A platform with one user, fully verified, and no groups. -/
def verifiedOrganiser : Db :=
  { Db.empty with
    users := ⟨[⟨.ofNat 1, none, none, .active, none⟩], by decide⟩
    kyc := Kyc.verifiedUser }

/-- Codes without letters beyond ASCII, digested to themselves. -/
def sampleCodec : Codec where
  toUpperCase text := String.ofList (text.toList.map Char.toUpper)
  digestInvitationCode code := code

/-- A group of two slots, with one round a day from the 2nd of January 1970 on. -/
def sampleGroupDto : CreateAjoGroupDto where
  name := "Friends"
  contributionFrequency := .daily
  baseContributionMinor := 100
  maxSlots := 2
  requestedSlots := 1
  startDate := 86400000
  endDate := 864000000

/-- The organiser opens the group, and a friend joins it with the code of the invitation, typed in
small letters. -/
def sampleOpening : List GroupCall :=
  [.create sampleCodec ⟨0, fun k ↦ .ofNat (1000 + k)⟩ ⟨"7KQ3MZP2AC", "7KQ3MZP"⟩ (.ofNat 1)
      sampleGroupDto,
    .join sampleCodec ⟨1000, fun k ↦ .ofNat (2000 + k)⟩ (.ofNat 8) (.ofNat 1000) ⟨"7kq3mzp2ac", 1⟩]

/-- The group after the friend has joined. -/
def sampleOpened : Db := (sampleOpening.map .group).foldl enrolmentStep verifiedOrganiser

theorem enrolment_stays_lockable_sample :
    (slotsOf sampleOpened (.ofNat 1000)).length = 2 ∧
      ∀ g ∈ sampleOpened.ajoGroups.rows, Agrees sampleOpened g ∧ InvitationsInBounds sampleOpened := by
  refine ⟨by decide +kernel, fun g hg ↦ ?_⟩
  have h := enrolment_stays_lockable ⟨rfl, rfl, rfl, rfl, rfl⟩
    (reaches_foldl enrolmentStep verifiedOrganiser (sampleOpening.map .group)) hg
  exact ⟨h.1, h.2.1⟩

end Sample

end AjoCloud.Ajo
