import AjoCloud.Ajo.Groups
import AjoCloud.Lib.Run

/-!
# Enrolment

Members, slots, contribution plans and invitations of a group are four tables that `create` and
`join` write side by side.  The roll of the groups says how they fit together; every call keeps it,
and `lock` finds in it all that it checks.
-/

namespace AjoCloud.Ajo

open Lib ServiceError

variable {db db' : Db}

/-! ## Calls -/

/-- A call of the group service or of the invitation service. -/
inductive GroupCall where
  | create (codec : Codec) (ctx : Ctx) (codes : DrawnCodes) (userId : Uuid) (dto : CreateAjoGroupDto)
  | join (codec : Codec) (ctx : Ctx) (userId groupId : Uuid) (dto : JoinAjoGroupDto)
  | setListing (userId groupId : Uuid) (listed : Bool)
  | invite (codec : Codec) (ctx : Ctx) (code : String) (userId groupId : Uuid) (maxUses : Nat)
  | revoke (userId groupId invitationId : Uuid)
  | lock (ctx : Ctx) (userId groupId : Uuid)

/-- The database a call leaves. -/
def groupStep (db : Db) : GroupCall → Db
  | .create codec ctx codes userId dto => committed db (createGroup codec ctx codes db userId dto)
  | .join codec ctx userId groupId dto => committed db (joinGroup codec ctx db userId groupId dto)
  | .setListing userId groupId listed => committed db (setListing db userId groupId listed)
  | .invite codec ctx code userId groupId maxUses =>
      committed db (createInvitation codec ctx code db userId groupId maxUses)
  | .revoke userId groupId invitationId =>
      committed db (revokeInvitation db userId groupId invitationId)
  | .lock ctx userId groupId => committed db (lock ctx db userId groupId)

/-! ## The roll -/

/-- How many slots a member holds. -/
def heldBy (db : Db) (memberId : Uuid) : Nat :=
  (db.ajoSlots.findMany (·.memberId = memberId)).length

/-- The tables of one group agree with each other and with its terms. -/
structure Agrees (db : Db) (g : AjoGroup) : Prop where
  positions : (slotsOf db g.id).map (·.position) = List.range' 1 (slotsOf db g.id).length
  quantities : ((plansOf db g.id).map (·.unitQuantity)).sum = (slotsOf db g.id).length
  plans : (activeMembersOf db g.id).length = (plansOf db g.id).length
  slots_le : (slotsOf db g.id).length ≤ g.maxSlots
  members_le : (activeMembersOf db g.id).length ≤ g.maxMembers
  held : ∀ m ∈ db.ajoGroupMembers.rows, m.groupId = g.id →
    g.minSlotsPerMember ≤ heldBy db m.id ∧ heldBy db m.id ≤ g.maxSlotsPerMember

/-- The tables refer to each other as they should, and agree for every group. -/
structure Roll (db : Db) : Prop where
  members : ∀ m ∈ db.ajoGroupMembers.rows, ∃ g ∈ db.ajoGroups.rows, g.id = m.groupId
  slots : ∀ s ∈ db.ajoSlots.rows, ∃ m ∈ db.ajoGroupMembers.rows, m.id = s.memberId ∧
    m.groupId = s.groupId
  plans : ∀ p ∈ db.ajoContributionPlans.rows, ∃ m ∈ db.ajoGroupMembers.rows, m.id = p.memberId ∧
    m.groupId = p.groupId
  quantity : ∀ p ∈ db.ajoContributionPlans.rows, p.unitQuantity = heldBy db p.memberId
  agrees : ∀ g ∈ db.ajoGroups.rows, Agrees db g

theorem Roll.exists_group_of_slot (h : Roll db) {s : AjoSlot} (hs : s ∈ db.ajoSlots.rows) :
    ∃ g ∈ db.ajoGroups.rows, g.id = s.groupId := by
  obtain ⟨m, hm, -, hgroup⟩ := h.slots s hs
  obtain ⟨g, hg, hid⟩ := h.members m hm
  exact ⟨g, hg, hid.trans hgroup⟩

theorem Roll.exists_group_of_plan (h : Roll db) {p : AjoContributionPlan}
    (hp : p ∈ db.ajoContributionPlans.rows) : ∃ g ∈ db.ajoGroups.rows, g.id = p.groupId := by
  obtain ⟨m, hm, -, hgroup⟩ := h.plans p hp
  obtain ⟨g, hg, hid⟩ := h.members m hm
  exact ⟨g, hg, hid.trans hgroup⟩

/-! ### Calls that enrol nobody -/

/-- The terms that enrolment is bound by are the same. -/
structure SameTerms (g g' : AjoGroup) : Prop where
  id : g'.id = g.id
  maxMembers : g'.maxMembers = g.maxMembers
  maxSlots : g'.maxSlots = g.maxSlots
  minSlotsPerMember : g'.minSlotsPerMember = g.minSlotsPerMember
  maxSlotsPerMember : g'.maxSlotsPerMember = g.maxSlotsPerMember

theorem SameTerms.refl (g : AjoGroup) : SameTerms g g := ⟨rfl, rfl, rfl, rfl, rfl⟩

/-- The plans are of the same member, for as many slots. -/
structure SameShare (p p' : AjoContributionPlan) : Prop where
  groupId : p'.groupId = p.groupId
  memberId : p'.memberId = p.memberId
  unitQuantity : p'.unitQuantity = p.unitQuantity

theorem SameShare.refl (p : AjoContributionPlan) : SameShare p p := ⟨rfl, rfl, rfl⟩

/-- Rewriting the plans in place keeps whose they are. -/
theorem plansOf_of_map {f : AjoContributionPlan → AjoContributionPlan}
    (hplans : db'.ajoContributionPlans.rows = db.ajoContributionPlans.rows.map f)
    (hf : ∀ p, SameShare p (f p)) (groupId : Uuid) :
    plansOf db' groupId = (plansOf db groupId).map f := by
  rw [plansOf, plansOf, Table.findMany, Table.findMany, hplans, List.filter_map]
  congr 2
  funext p
  exact congrArg (fun id ↦ decide (id = groupId)) (hf p).groupId

/-- Rewriting the groups and the plans in place, without touching terms and shares, keeps the
roll. -/
theorem Roll.of_map (h : Roll db) {groups : AjoGroup → AjoGroup}
    {plans : AjoContributionPlan → AjoContributionPlan}
    (hmembers : db'.ajoGroupMembers = db.ajoGroupMembers) (hslots : db'.ajoSlots = db.ajoSlots)
    (hgroups : db'.ajoGroups.rows = db.ajoGroups.rows.map groups)
    (hterms : ∀ g, SameTerms g (groups g))
    (hplans : db'.ajoContributionPlans.rows = db.ajoContributionPlans.rows.map plans)
    (hshares : ∀ p, SameShare p (plans p)) : Roll db' := by
  have hslotsOf : ∀ id, slotsOf db' id = slotsOf db id := fun id ↦ by rw [slotsOf, slotsOf, hslots]
  have hheld : ∀ id, heldBy db' id = heldBy db id := fun id ↦ by rw [heldBy, heldBy, hslots]
  have hactive : ∀ id, activeMembersOf db' id = activeMembersOf db id := fun id ↦ by
    rw [activeMembersOf, activeMembersOf, hmembers]
  refine ⟨?_, by rw [hslots, hmembers]; exact h.slots, ?_, ?_, ?_⟩
  · intro m hm
    rw [hmembers] at hm
    obtain ⟨g, hg, hid⟩ := h.members m hm
    exact ⟨groups g, hgroups ▸ List.mem_map_of_mem hg, (hterms g).id.trans hid⟩
  · intro p hp
    rw [hplans, List.mem_map] at hp
    obtain ⟨p, hp, rfl⟩ := hp
    rw [(hshares p).memberId, (hshares p).groupId, hmembers]
    exact h.plans p hp
  · intro p hp
    rw [hplans, List.mem_map] at hp
    obtain ⟨p, hp, rfl⟩ := hp
    rw [(hshares p).memberId, (hshares p).unitQuantity, hheld]
    exact h.quantity p hp
  · intro g hg
    rw [hgroups, List.mem_map] at hg
    obtain ⟨g, hg, rfl⟩ := hg
    have hagrees := h.agrees g hg
    have hquantities : ((plansOf db g.id).map plans).map (·.unitQuantity) =
        (plansOf db g.id).map (·.unitQuantity) := by
      rw [List.map_map]
      exact List.map_congr_left fun p _ ↦ (hshares p).unitQuantity
    constructor
    · rw [(hterms g).id, hslotsOf]
      exact hagrees.positions
    · rw [(hterms g).id, hslotsOf, plansOf_of_map hplans hshares, hquantities]
      exact hagrees.quantities
    · rw [(hterms g).id, hactive, plansOf_of_map hplans hshares, List.length_map]
      exact hagrees.plans
    · rw [(hterms g).id, (hterms g).maxSlots, hslotsOf]
      exact hagrees.slots_le
    · rw [(hterms g).id, (hterms g).maxMembers, hactive]
      exact hagrees.members_le
    · intro m hm hgroup
      rw [hmembers] at hm
      rw [(hterms g).minSlotsPerMember, (hterms g).maxSlotsPerMember, hheld]
      exact hagrees.held m hm (hgroup.trans (hterms g).id)

/-- A call that touches neither groups nor members, slots and plans keeps the roll. -/
theorem Roll.of_eq (h : Roll db) (hgroups : db'.ajoGroups = db.ajoGroups)
    (hmembers : db'.ajoGroupMembers = db.ajoGroupMembers) (hslots : db'.ajoSlots = db.ajoSlots)
    (hplans : db'.ajoContributionPlans = db.ajoContributionPlans) : Roll db' :=
  h.of_map hmembers hslots (hgroups ▸ (List.map_id _).symm) .refl (hplans ▸ (List.map_id _).symm)
    .refl

/-! ### A new group -/

/-- Nothing belongs to a group that does not exist. -/
structure Deserted (db : Db) (groupId : Uuid) : Prop where
  members : ∀ m ∈ db.ajoGroupMembers.rows, m.groupId ≠ groupId
  slots : slotsOf db groupId = []
  plans : plansOf db groupId = []
  active : activeMembersOf db groupId = []

theorem Roll.deserted (h : Roll db) {groupId : Uuid}
    (hnone : ∀ g ∈ db.ajoGroups.rows, g.id ≠ groupId) : Deserted db groupId where
  members := by
    intro m hm heq
    obtain ⟨g, hg, hid⟩ := h.members m hm
    exact hnone g hg (hid.trans heq)
  slots := by
    rw [slotsOf, Table.findMany, List.filter_eq_nil_iff]
    intro s hs heq
    obtain ⟨g, hg, hid⟩ := h.exists_group_of_slot hs
    exact hnone g hg (hid.trans (of_decide_eq_true heq))
  plans := by
    rw [plansOf, Table.findMany, List.filter_eq_nil_iff]
    intro p hp heq
    obtain ⟨g, hg, hid⟩ := h.exists_group_of_plan hp
    exact hnone g hg (hid.trans (of_decide_eq_true heq))
  active := by
    rw [activeMembersOf, Table.findMany, List.filter_eq_nil_iff]
    intro m hm heq
    obtain ⟨g, hg, hid⟩ := h.members m hm
    exact hnone g hg (hid.trans (of_decide_eq_true heq).1)

/-- A group that was just opened has nobody in it, and agrees. -/
theorem Roll.addGroup (h : Roll db) {g : AjoGroup} {ajoGroups : Table AjoGroup}
    (hins : insertRow db.ajoGroups g = .ok ajoGroups) : Roll { db with ajoGroups := ajoGroups } := by
  have hrows := insertRow_eq_ok hins
  have hdeserted : Deserted db g.id :=
    h.deserted fun x hx heq ↦ not_clash_of_insertRow hins x hx (.inl heq)
  refine ⟨?_, h.slots, h.plans, h.quantity, ?_⟩
  · intro m hm
    obtain ⟨x, hx, hid⟩ := h.members m hm
    exact ⟨x, hrows ▸ List.mem_append_left _ hx, hid⟩
  · intro x hx
    rw [hrows, List.mem_append, List.mem_singleton] at hx
    rcases hx with hx | rfl
    · obtain ⟨hpositions, hquantities, hplans, hslots, hmembers, hheld⟩ := h.agrees x hx
      exact ⟨hpositions, hquantities, hplans, hslots, hmembers, hheld⟩
    · obtain ⟨hmembers, hslots, hplans, hactive⟩ := hdeserted
      constructor
      · change (slotsOf db x.id).map _ = List.range' 1 (slotsOf db x.id).length
        rw [hslots]
        rfl
      · change ((plansOf db x.id).map _).sum = (slotsOf db x.id).length
        rw [hslots, hplans]
        rfl
      · change (activeMembersOf db x.id).length = (plansOf db x.id).length
        rw [hactive, hplans]
        rfl
      · change (slotsOf db x.id).length ≤ _
        rw [hslots]
        exact Nat.zero_le _
      · change (activeMembersOf db x.id).length ≤ _
        rw [hactive]
        exact Nat.zero_le _
      · intro m hm hgroup
        exact absurd hgroup (hmembers m hm)

/-! ### A new member -/

section Enrol

variable {ctx : Ctx} {e : Enrolment}

/-- What enrolling a member wrote. -/
structure Enrols (ctx : Ctx) (e : Enrolment) (db db' : Db) : Prop where
  after : db' = { db with
    ajoGroupMembers := db'.ajoGroupMembers
    ajoSlots := db'.ajoSlots
    ajoContributionPlans := db'.ajoContributionPlans }
  fresh : ∀ m ∈ db.ajoGroupMembers.rows, m.id ≠ e.member.id
  members : db'.ajoGroupMembers.rows = db.ajoGroupMembers.rows ++ [e.member]
  slots : db'.ajoSlots.rows = db.ajoSlots.rows ++ newSlots ctx e
  plans : db'.ajoContributionPlans.rows = db.ajoContributionPlans.rows ++ [newPlan ctx e]

theorem enrol_eq_ok (h : enrol ctx db e = .ok db') : Enrols ctx e db db' := by
  simp only [enrol, bind_eq_ok, require_eq_ok, orThrow_eq_ok, pure_eq_ok, exists_const] at h
  obtain ⟨members, hmembers, slots, hslots, -, -, plans, hplans, rfl⟩ := h
  exact ⟨rfl, fun m hm heq ↦ not_clash_of_insertRow hmembers m hm (.inl heq),
    insertRow_eq_ok hmembers, Table.rows_of_insertMany hslots, insertRow_eq_ok hplans⟩

theorem mem_newSlots {s : AjoSlot} (hs : s ∈ newSlots ctx e) :
    s.groupId = e.member.groupId ∧ s.memberId = e.member.id := by
  obtain ⟨i, -, rfl⟩ := List.mem_map.mp hs
  exact ⟨rfl, rfl⟩

@[simp] theorem length_newSlots : (newSlots ctx e).length = e.requestedSlots := by
  rw [newSlots, List.length_map, List.length_range]

theorem positions_newSlots :
    (newSlots ctx e).map (·.position) = List.range' (1 + e.taken) e.requestedSlots := by
  rw [newSlots, List.map_map, List.range_eq_range', List.range'_eq_map_range,
    List.range'_eq_map_range, List.map_map]
  refine List.map_congr_left fun i _ ↦ ?_
  simp only [Function.comp_apply, Nat.zero_add]
  omega

/-- A row of the new member is one of the group it joined, and of no other. -/
theorem filter_concat_of {ρ : Type} {rows added : List ρ} {p : ρ → Bool}
    (h : ∀ r ∈ added, p r = true) : (rows ++ added).filter p = rows.filter p ++ added := by
  rw [List.filter_append, List.filter_eq_self.mpr h]

theorem filter_concat_of_not {ρ : Type} {rows added : List ρ} {p : ρ → Bool}
    (h : ∀ r ∈ added, ¬ p r = true) : (rows ++ added).filter p = rows.filter p := by
  rw [List.filter_append, List.filter_eq_nil_iff.mpr h, List.append_nil]

theorem Enrols.slotsOf_self (h : Enrols ctx e db db') :
    slotsOf db' e.member.groupId = slotsOf db e.member.groupId ++ newSlots ctx e := by
  rw [slotsOf, slotsOf, Table.findMany, h.slots]
  exact filter_concat_of fun s hs ↦ decide_eq_true (mem_newSlots hs).1

theorem Enrols.slotsOf_other (h : Enrols ctx e db db') {id : Uuid} (hid : id ≠ e.member.groupId) :
    slotsOf db' id = slotsOf db id := by
  rw [slotsOf, slotsOf, Table.findMany, h.slots]
  exact filter_concat_of_not fun s hs heq ↦
    hid ((of_decide_eq_true heq).symm.trans (mem_newSlots hs).1)

theorem Enrols.plansOf_self (h : Enrols ctx e db db') :
    plansOf db' e.member.groupId = plansOf db e.member.groupId ++ [newPlan ctx e] := by
  rw [plansOf, plansOf, Table.findMany, h.plans]
  refine filter_concat_of fun p hp ↦ decide_eq_true ?_
  rw [List.mem_singleton.mp hp]
  rfl

theorem Enrols.plansOf_other (h : Enrols ctx e db db') {id : Uuid} (hid : id ≠ e.member.groupId) :
    plansOf db' id = plansOf db id := by
  rw [plansOf, plansOf, Table.findMany, h.plans]
  refine filter_concat_of_not fun p hp heq ↦ hid ?_
  rw [List.mem_singleton.mp hp] at heq
  exact (of_decide_eq_true heq).symm

theorem Enrols.activeMembersOf_self (h : Enrols ctx e db db') (hactive : e.member.status = .active) :
    activeMembersOf db' e.member.groupId = activeMembersOf db e.member.groupId ++ [e.member] := by
  rw [activeMembersOf, activeMembersOf, Table.findMany, h.members]
  refine filter_concat_of fun m hm ↦ decide_eq_true ?_
  rw [List.mem_singleton.mp hm]
  exact ⟨rfl, hactive⟩

theorem Enrols.activeMembersOf_other (h : Enrols ctx e db db') {id : Uuid}
    (hid : id ≠ e.member.groupId) : activeMembersOf db' id = activeMembersOf db id := by
  rw [activeMembersOf, activeMembersOf, Table.findMany, h.members]
  refine filter_concat_of_not fun m hm heq ↦ hid ?_
  rw [List.mem_singleton.mp hm] at heq
  exact (of_decide_eq_true heq).1.symm

/-- The new member holds what it asked for. -/
theorem Enrols.heldBy_self (h : Enrols ctx e db db') (hroll : Roll db) :
    heldBy db' e.member.id = e.requestedSlots := by
  have hnone : db.ajoSlots.rows.filter (fun s ↦ s.memberId = e.member.id) = [] := by
    rw [List.filter_eq_nil_iff]
    intro s hs heq
    obtain ⟨m, hm, hid, -⟩ := hroll.slots s hs
    exact h.fresh m hm (hid.trans (of_decide_eq_true heq))
  rw [heldBy, Table.findMany, h.slots, filter_concat_of
    fun s hs ↦ decide_eq_true (mem_newSlots hs).2, hnone, List.nil_append, length_newSlots]

theorem Enrols.heldBy_other (h : Enrols ctx e db db') {id : Uuid} (hid : id ≠ e.member.id) :
    heldBy db' id = heldBy db id := by
  rw [heldBy, heldBy, Table.findMany, h.slots, filter_concat_of_not
    fun s hs heq ↦ hid ((of_decide_eq_true heq).symm.trans (mem_newSlots hs).2)]
  rfl

/-- The group has room for the new member on its terms. -/
structure HasRoom (db : Db) (g : AjoGroup) (e : Enrolment) : Prop where
  group : e.member.groupId = g.id
  active : e.member.status = .active
  taken : e.taken = (slotsOf db g.id).length
  slots : e.taken + e.requestedSlots ≤ g.maxSlots
  members : (activeMembersOf db g.id).length < g.maxMembers
  least : g.minSlotsPerMember ≤ e.requestedSlots
  most : e.requestedSlots ≤ g.maxSlotsPerMember

/-- The tables of the group that was joined agree again. -/
theorem Agrees.enrol_self {g : AjoGroup} (h : Agrees db g) (hroll : Roll db)
    (he : Enrols ctx e db db') (hroom : HasRoom db g e) : Agrees db' g := by
  have hslots := he.slotsOf_self
  have hplans := he.plansOf_self
  have hactive := he.activeMembersOf_self hroom.active
  rw [hroom.group] at hslots hplans hactive
  constructor
  · rw [hslots, List.map_append, h.positions, positions_newSlots, hroom.taken, List.length_append,
      length_newSlots, List.range'_append_1]
  · rw [hplans, hslots, List.map_append, List.sum_append, h.quantities, List.length_append,
      length_newSlots]
    rfl
  · rw [hactive, hplans, List.length_append, List.length_append, h.plans]
    rfl
  · rw [hslots, List.length_append, length_newSlots, ← hroom.taken]
    exact hroom.slots
  · rw [hactive, List.length_append]
    exact hroom.members
  · intro m hm hgroup
    rw [he.members, List.mem_append, List.mem_singleton] at hm
    rcases hm with hm | rfl
    · rw [he.heldBy_other (he.fresh m hm)]
      exact h.held m hm hgroup
    · rw [he.heldBy_self hroll]
      exact ⟨hroom.least, hroom.most⟩

/-- The tables of every other group are as they were. -/
theorem Agrees.enrol_other {g : AjoGroup} (h : Agrees db g) (he : Enrols ctx e db db')
    (hother : g.id ≠ e.member.groupId) : Agrees db' g := by
  constructor
  · rw [he.slotsOf_other hother]
    exact h.positions
  · rw [he.slotsOf_other hother, he.plansOf_other hother]
    exact h.quantities
  · rw [he.activeMembersOf_other hother, he.plansOf_other hother]
    exact h.plans
  · rw [he.slotsOf_other hother]
    exact h.slots_le
  · rw [he.activeMembersOf_other hother]
    exact h.members_le
  · intro m hm hgroup
    rw [he.members, List.mem_append, List.mem_singleton] at hm
    rcases hm with hm | rfl
    · rw [he.heldBy_other (he.fresh m hm)]
      exact h.held m hm hgroup
    · exact absurd hgroup.symm hother

theorem Roll.enrol (h : Roll db) {g : AjoGroup} (hg : g ∈ db.ajoGroups.rows)
    (he : Enrols ctx e db db') (hroom : HasRoom db g e) : Roll db' := by
  have hgroups : db'.ajoGroups = db.ajoGroups := by rw [he.after]
  have hold : ∀ {m}, m ∈ db.ajoGroupMembers.rows → m ∈ db'.ajoGroupMembers.rows :=
    fun hm ↦ he.members ▸ List.mem_append_left _ hm
  have hnew : e.member ∈ db'.ajoGroupMembers.rows :=
    he.members ▸ List.mem_append_right _ (List.mem_singleton_self _)
  constructor
  · intro m hm
    rw [he.members, List.mem_append, List.mem_singleton] at hm
    rw [hgroups]
    rcases hm with hm | rfl
    · exact h.members m hm
    · exact ⟨g, hg, hroom.group.symm⟩
  · intro s hs
    rw [he.slots, List.mem_append] at hs
    rcases hs with hs | hs
    · obtain ⟨m, hm, hrefers⟩ := h.slots s hs
      exact ⟨m, hold hm, hrefers⟩
    · exact ⟨e.member, hnew, (mem_newSlots hs).2.symm, (mem_newSlots hs).1.symm⟩
  · intro p hp
    rw [he.plans, List.mem_append, List.mem_singleton] at hp
    rcases hp with hp | rfl
    · obtain ⟨m, hm, hrefers⟩ := h.plans p hp
      exact ⟨m, hold hm, hrefers⟩
    · exact ⟨e.member, hnew, rfl, rfl⟩
  · intro p hp
    rw [he.plans, List.mem_append, List.mem_singleton] at hp
    rcases hp with hp | rfl
    · obtain ⟨m, hm, hid, -⟩ := h.plans p hp
      rw [he.heldBy_other (hid ▸ he.fresh m hm)]
      exact h.quantity p hp
    · exact (he.heldBy_self h).symm
  · intro x hx
    rw [hgroups] at hx
    by_cases hid : x.id = e.member.groupId
    · have heq : x = g := db.ajoGroups.eq_of_clash hx hg (.inl (hid.trans hroom.group))
      subst heq
      exact (h.agrees x hx).enrol_self h he hroom
    · exact (h.agrees x hx).enrol_other he hid

end Enrol

/-! ### Every call -/

section Calls

variable {codec : Codec} {ctx : Ctx} {userId groupId : Uuid}

theorem assertSlotCapacity_eq_ok {least most requested capacity : Nat} {u : Unit}
    (h : assertSlotCapacity least most requested capacity = .ok u) :
    least ≤ requested ∧ requested ≤ most ∧ requested ≤ capacity := by
  simp only [assertSlotCapacity, bind_eq_ok, require_eq_ok, exists_const] at h
  omega

/-- What creating a group does: it is opened, its administrator is enrolled, and an invitation for
the slots that are left is issued. -/
structure Creates (ctx : Ctx) (db db' : Db) (g : AjoGroup) : Prop where
  accepts : AcceptsMembers g
  version : g.scheduleVersion = 0
  check : g.CapacityCheck
  unit : g.contributionUnitMinor.getD g.baseContributionMinor = g.baseContributionMinor
  opened : ∃ groups, insertRow db.ajoGroups g = .ok groups ∧
    ∃ e enrolled, Enrols ctx e { db with ajoGroups := groups } enrolled ∧ HasRoom db g e ∧
      e.unitMinor = g.baseContributionMinor ∧ ∃ i, i.useCount = 0 ∧ insertRow enrolled.groupInvitations i = .ok db'.groupInvitations ∧
        db' = { enrolled with groupInvitations := db'.groupInvitations }

theorem createGroup_eq_ok (h : Roll db) {codes : DrawnCodes} {dto : CreateAjoGroupDto}
    {g : AjoGroup} (hok : createGroup codec ctx codes db userId dto = .ok (g, db')) :
    Creates ctx db db' g := by
  simp only [createGroup, bind_eq_ok, require_eq_ok, orThrow_eq_ok, pure_eq_ok, exists_const,
    Prod.mk.injEq] at hok
  obtain ⟨_, -, _, hcapacity, unit, -, -, hcheck, groups, hgroups, enrolled, henrol, invitations,
    hinvitations, rfl, rfl⟩ := hok
  obtain ⟨hleast, hmost, hslots⟩ := assertSlotCapacity_eq_ok hcapacity
  have hdeserted := h.deserted fun x hx heq ↦ not_clash_of_insertRow hgroups x hx (.inl heq)
  have hunit : (newGroup ctx codes.shortCode userId dto unit).contributionUnitMinor.getD unit =
      unit := by
    simp only [newGroup]
    split
    · rfl
    · rfl
  refine ⟨.inl rfl, rfl, hcheck, hunit, groups, hgroups, _, enrolled, enrol_eq_ok henrol, ?_, rfl,
    _, rfl, hinvitations, rfl⟩
  constructor
  · rfl
  · rfl
  · rw [hdeserted.slots]
    rfl
  · rw [Nat.zero_add]
    exact hslots
  · rw [hdeserted.active]
    exact lt_of_lt_of_le Nat.zero_lt_two hcheck.1.1
  · exact hleast
  · exact hmost

theorem Creates.roll {g : AjoGroup} (hc : Creates ctx db db' g) (h : Roll db) : Roll db' := by
  obtain ⟨groups, hgroups, e, enrolled, henrol, hroom, -, i, -, -, hafter⟩ := hc.opened
  have hmem : g ∈ groups.rows := by
    rw [insertRow_eq_ok hgroups]
    exact List.mem_append_right _ (List.mem_singleton_self _)
  have hroll : Roll enrolled := by
    refine (h.addGroup hgroups).enrol hmem henrol ?_
    exact ⟨hroom.group, hroom.active, hroom.taken, hroom.slots, hroom.members, hroom.least,
      hroom.most⟩
  rw [hafter]
  exact hroll.of_eq rfl rfl rfl rfl

/-- What joining a group does: a member is enrolled, and the invitation that admitted it, if it was
one, is spent. -/
structure Joins (ctx : Ctx) (db db' : Db) (g : AjoGroup) : Prop where
  mem : g ∈ db.ajoGroups.rows
  accepts : AcceptsMembers g
  enrolled : ∃ e enrolled, Enrols ctx e db enrolled ∧ HasRoom db g e ∧
    e.unitMinor = g.contributionUnitMinor.getD g.baseContributionMinor ∧
    ∃ spent, (∀ i ∈ spent, i ∈ db.groupInvitations.rows ∧ i.useCount < i.maxUses) ∧
      db' = spendInvitation enrolled spent

theorem admission_eq_ok {g : AjoGroup} {code : String} {spent : Option GroupInvitation}
    (h : admission codec ctx db g code = .ok spent) :
    ∀ i ∈ spent, i ∈ db.groupInvitations.rows ∧ i.useCount < i.maxUses := by
  rw [admission] at h
  split at h
  · cases h
    simp
  · simp only [bind_eq_ok, require_eq_ok, orThrow_eq_ok, pure_eq_ok, exists_const] at h
    obtain ⟨_, -, i, hfind, hadmits, rfl⟩ := h
    rintro _ ⟨⟩
    exact ⟨Table.mem_of_find? hfind, hadmits.2.2.2⟩

theorem joinGroup_eq_ok {dto : JoinAjoGroupDto} {answer : Uuid × Nat}
    (hok : joinGroup codec ctx db userId groupId dto = .ok (answer, db')) :
    ∃ g, g.id = groupId ∧ Joins ctx db db' g := by
  simp only [joinGroup, bind_eq_ok, require_eq_ok, orThrow_eq_ok, pure_eq_ok, exists_const,
    Prod.mk.injEq] at hok
  obtain ⟨g, hfind, haccepts, _, -, spent, hspent, hslots, hmembers, hrequested, enrolled, henrol,
    -, rfl⟩ := hok
  have hid : g.id = groupId := by simpa using Table.prop_of_find? hfind
  subst hid
  refine ⟨g, rfl, Table.mem_of_find? hfind, haccepts, _, enrolled, enrol_eq_ok henrol, ?_, rfl,
    spent, admission_eq_ok hspent, rfl⟩
  constructor
  · rfl
  · rfl
  · rfl
  · exact not_lt.mp hslots
  · exact not_le.mp hmembers
  · exact not_lt.mp fun hlt ↦ hrequested (.inl hlt)
  · exact not_lt.mp fun hlt ↦ hrequested (.inr hlt)

theorem spendInvitation_roll (h : Roll db) (spent : Option GroupInvitation) :
    Roll (spendInvitation db spent) := by
  cases spent with
  | none => exact h
  | some i => exact h.of_eq rfl rfl rfl rfl

theorem Joins.roll {g : AjoGroup} (hj : Joins ctx db db' g) (h : Roll db) : Roll db' := by
  obtain ⟨e, enrolled, henrol, hroom, -, spent, -, rfl⟩ := hj.enrolled
  exact spendInvitation_roll (h.enrol hj.mem henrol hroom) spent

/-- A group was listed or unlisted. -/
def Lists (db db' : Db) (groupId : Uuid) (listed : Bool) : Prop :=
  db' = { db with
    ajoGroups := db.ajoGroups.modify (fun g ↦ g.id = groupId)
      (fun g ↦ { g with publiclyListed := listed }) fun h ↦ h }

theorem setListing_eq_ok {listed : Bool} {u : Unit}
    (hok : setListing db userId groupId listed = .ok (u, db')) : Lists db db' groupId listed := by
  simp only [setListing, bind_eq_ok, require_eq_ok, orThrow_eq_ok, pure_eq_ok, exists_const,
    Prod.mk.injEq] at hok
  obtain ⟨_, -, g, -, -, -, rfl⟩ := hok
  rfl

theorem Lists.roll {listed : Bool} (hl : Lists db db' groupId listed) (h : Roll db) : Roll db' := by
  rw [hl]
  refine h.of_map rfl rfl rfl (fun x ↦ ?_) (List.map_id _).symm .refl
  split
  · exact ⟨rfl, rfl, rfl, rfl, rfl⟩
  · exact .refl x

/-- An invitation was issued, or one was taken back. -/
structure Invites (db db' : Db) : Prop where
  after : db' = { db with groupInvitations := db'.groupInvitations }
  invitations : ∀ i ∈ db'.groupInvitations.rows, i.useCount = 0 ∨
    ∃ j ∈ db.groupInvitations.rows, i.useCount = j.useCount ∧ i.maxUses = j.maxUses

theorem createInvitation_eq_ok {code : String} {maxUses : Nat} {i : GroupInvitation}
    (hok : createInvitation codec ctx code db userId groupId maxUses = .ok (i, db')) :
    Invites db db' := by
  simp only [createInvitation, bind_eq_ok, require_eq_ok, orThrow_eq_ok, pure_eq_ok, exists_const,
    Prod.mk.injEq] at hok
  obtain ⟨member, -, g, -, -, -, invitations, hins, rfl, rfl⟩ := hok
  refine ⟨rfl, fun j hj ↦ ?_⟩
  rw [insertRow_eq_ok hins, List.mem_append, List.mem_singleton] at hj
  rcases hj with hj | rfl
  · exact .inr ⟨j, hj, rfl, rfl⟩
  · exact .inl rfl

theorem revokeInvitation_eq_ok {invitationId : Uuid} {u : Unit}
    (hok : revokeInvitation db userId groupId invitationId = .ok (u, db')) : Invites db db' := by
  simp only [revokeInvitation, bind_eq_ok, require_eq_ok, orThrow_eq_ok, exists_const] at hok
  obtain ⟨member, -, i, -, -, hok⟩ := hok
  split at hok
  · rw [pure_eq_ok, Prod.mk.injEq] at hok
    obtain ⟨-, rfl⟩ := hok
    refine ⟨rfl, fun j hj ↦ ?_⟩
    rw [Table.rows_modify, List.mem_map] at hj
    obtain ⟨k, hk, rfl⟩ := hj
    refine .inr ⟨k, hk, ?_⟩
    split
    · exact ⟨rfl, rfl⟩
    · exact ⟨rfl, rfl⟩
  · rw [pure_eq_ok, Prod.mk.injEq] at hok
    obtain ⟨-, rfl⟩ := hok
    exact ⟨rfl, fun j hj ↦ .inr ⟨j, hj, rfl, rfl⟩⟩

theorem Invites.roll (hi : Invites db db') (h : Roll db) : Roll db' := by
  rw [hi.after]
  exact h.of_eq rfl rfl rfl rfl

/-- Drawing up the cycles writes no other table than those of the schedules. -/
theorem lockCycles_after {g : AjoGroup} {slots : List AjoSlot} {cycles : List RotationCycle}
    {first : Nat} (hok : lockCycles ctx g slots first cycles db = .ok db') :
    db' = { db with
      ajoCycles := db'.ajoCycles
      contributionSchedules := db'.contributionSchedules
      payoutSchedules := db'.payoutSchedules } := by
  induction cycles generalizing first db with
  | nil =>
      cases hok
      rfl
  | cons cycle rest ih =>
      rw [lockCycles, bind_eq_ok] at hok
      obtain ⟨db₁, hcycle, hrest⟩ := hok
      simp only [lockCycle, bind_eq_ok, require_eq_ok, orThrow_eq_ok, pure_eq_ok,
        exists_const] at hcycle
      obtain ⟨_, -, _, -, -, _, -, rfl⟩ := hcycle
      have hafter := ih hrest
      exact hafter

/-- What locking a group does: the cycles are drawn up, the plans get their totals, and the group
gets its status and the first version of its schedule. -/
structure Locks (ctx : Ctx) (db db' : Db) (g : AjoGroup) (slots : List AjoSlot)
    (cycles : List RotationCycle) : Prop where
  mem : g ∈ db.ajoGroups.rows
  accepts : AcceptsMembers g
  slots_eq : slots = (slotsOf db g.id).insertionSort fun a b ↦ a.position ≤ b.position
  cycles_eq : generateRotationSchedule g slots = .ok cycles
  drawn : lockCycles ctx g slots 1 cycles db = .ok
    { db with
      ajoCycles := db'.ajoCycles
      contributionSchedules := db'.contributionSchedules
      payoutSchedules := db'.payoutSchedules }
  plans : db'.ajoContributionPlans = db.ajoContributionPlans.modify (·.groupId = g.id)
    (lockedPlan g slots.length cycles.length) fun h ↦ h
  groups : db'.ajoGroups = db.ajoGroups.modify (fun x ↦ x.id = g.id)
    (fun x ↦ { x with status := .locked, scheduleVersion := g.scheduleVersion + 1 }) fun h ↦ h
  after : db' = { db with
    ajoCycles := db'.ajoCycles
    contributionSchedules := db'.contributionSchedules
    payoutSchedules := db'.payoutSchedules
    ajoScheduleVersions := db'.ajoScheduleVersions
    ajoContributionPlans := db'.ajoContributionPlans
    ajoGroups := db'.ajoGroups }

theorem lock_eq_ok {answer : LockAnswer} (hok : lock ctx db userId groupId = .ok (answer, db')) :
    ∃ g slots cycles, g.id = groupId ∧ Locks ctx db db' g slots cycles := by
  simp only [lock, bind_eq_ok, require_eq_ok, orThrow_eq_ok, pure_eq_ok, exists_const,
    Prod.mk.injEq] at hok
  obtain ⟨_, -, g, hfind, haccepts, cycles, hcycles, -, -, drawn, hdrawn, -, -, versions, -, -,
    rfl⟩ := hok
  have hid : g.id = groupId := by simpa using Table.prop_of_find? hfind
  subst hid
  have hafter := lockCycles_after hdrawn
  refine ⟨g, _, cycles, rfl, Table.mem_of_find? hfind, haccepts, rfl, hcycles, ?_, ?_, ?_, ?_⟩
  · exact hafter ▸ hdrawn
  · rw [hafter]
  · rw [hafter]
  · rw [hafter]

theorem Locks.roll {g : AjoGroup} {slots : List AjoSlot} {cycles : List RotationCycle}
    (hl : Locks ctx db db' g slots cycles) (h : Roll db) : Roll db' := by
  refine h.of_map (by rw [hl.after]) (by rw [hl.after]) (congrArg Table.rows hl.groups)
    (fun x ↦ ?_) (congrArg Table.rows hl.plans) fun p ↦ ?_
  · split
    · exact ⟨rfl, rfl, rfl, rfl, rfl⟩
    · exact .refl x
  · split
    · exact ⟨rfl, rfl, rfl⟩
    · exact .refl p

end Calls

/-- What a call did. -/
inductive GroupEffect (db db' : Db) : Prop
  | same (h : db' = db)
  | created (ctx : Ctx) (g : AjoGroup) (h : Creates ctx db db' g)
  | joined (ctx : Ctx) (g : AjoGroup) (h : Joins ctx db db' g)
  | listed (groupId : Uuid) (listed : Bool) (h : Lists db db' groupId listed)
  | invited (h : Invites db db')
  | locked (ctx : Ctx) (g : AjoGroup) (slots : List AjoSlot) (cycles : List RotationCycle)
      (h : Locks ctx db db' g slots cycles)

/-- A transaction whose every success has an effect has one when it is committed. -/
theorem groupEffect_committed {α : Type} {result : Except ServiceError (α × Db)}
    (h : ∀ a db', result = .ok (a, db') → GroupEffect db db') :
    GroupEffect db (committed db result) := by
  rcases result with e | ⟨a, db'⟩
  · exact .same rfl
  · exact h a db' rfl

theorem groupStep_effect (h : Roll db) (call : GroupCall) : GroupEffect db (groupStep db call) := by
  cases call with
  | create codec ctx codes userId dto =>
      exact groupEffect_committed fun g _ hok ↦ .created ctx g (createGroup_eq_ok h hok)
  | join codec ctx userId groupId dto =>
      refine groupEffect_committed fun _ _ hok ↦ ?_
      obtain ⟨g, -, hjoins⟩ := joinGroup_eq_ok hok
      exact .joined ctx g hjoins
  | setListing userId groupId listed =>
      exact groupEffect_committed fun _ _ hok ↦ .listed groupId listed (setListing_eq_ok hok)
  | invite codec ctx code userId groupId maxUses =>
      exact groupEffect_committed fun _ _ hok ↦ .invited (createInvitation_eq_ok hok)
  | revoke userId groupId invitationId =>
      exact groupEffect_committed fun _ _ hok ↦ .invited (revokeInvitation_eq_ok hok)
  | lock ctx userId groupId =>
      refine groupEffect_committed fun _ _ hok ↦ ?_
      obtain ⟨g, slots, cycles, -, hlocks⟩ := lock_eq_ok hok
      exact .locked ctx g slots cycles hlocks

theorem GroupEffect.roll (he : GroupEffect db db') (h : Roll db) : Roll db' := by
  cases he with
  | same heq => exact heq ▸ h
  | created ctx g hc => exact hc.roll h
  | joined ctx g hj => exact hj.roll h
  | listed groupId listed hl => exact hl.roll h
  | invited hi => exact hi.roll h
  | locked ctx g slots cycles hl => exact hl.roll h

/-! ## Invitations -/

/-- No invitation has admitted more people than it was issued for. -/
def InvitationsInBounds (db : Db) : Prop :=
  ∀ i ∈ db.groupInvitations.rows, i.useCount ≤ i.maxUses

theorem GroupEffect.invitations (he : GroupEffect db db') (h : InvitationsInBounds db) :
    InvitationsInBounds db' := by
  cases he with
  | same heq => exact heq ▸ h
  | created ctx g hc =>
      obtain ⟨groups, -, e, enrolled, henrol, -, -, i, hzero, hins, -⟩ := hc.opened
      intro j hj
      rw [insertRow_eq_ok hins, henrol.after, List.mem_append, List.mem_singleton] at hj
      rcases hj with hj | rfl
      · exact h j hj
      · rw [hzero]
        exact Nat.zero_le _
  | joined ctx g hj =>
      obtain ⟨e, enrolled, henrol, -, -, spent, hspent, rfl⟩ := hj.enrolled
      have hsame : enrolled.groupInvitations = db.groupInvitations := by rw [henrol.after]
      cases spent with
      | none =>
          intro j hj
          exact h j (hsame ▸ hj)
      | some i =>
          obtain ⟨hi, hlt⟩ := hspent i rfl
          intro j hj
          rw [spendInvitation, Table.rows_modify, List.mem_map, hsame] at hj
          obtain ⟨k, hk, rfl⟩ := hj
          split
          · next heq =>
              have hki : k = i :=
                db.groupInvitations.eq_of_clash hk hi (.inl (of_decide_eq_true heq))
              subst hki
              exact hlt
          · exact h k hk
  | listed groupId listed hl =>
      rw [hl]
      exact h
  | invited hi =>
      intro j hj
      rcases hi.invitations j hj with hzero | ⟨k, hk, huse, hmax⟩
      · rw [hzero]
        exact Nat.zero_le _
      · rw [huse, hmax]
        exact h k hk
  | locked ctx g slots cycles hl =>
      rw [hl.after]
      exact h

end AjoCloud.Ajo
