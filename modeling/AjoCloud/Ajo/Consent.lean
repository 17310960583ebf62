import AjoCloud.Ajo.Turns
import AjoCloud.Lib.Frame

/-!
# Consent to swaps

The approvals of a swap are collected one call at a time, while other swaps move the schedule on.
This module follows the history of a request: an executed swap was approved by the owner of each of
its slots, before it expired and under the version of the schedule it was made against, and nobody
rejected it.
-/

namespace AjoCloud.Ajo

open Lib ServiceError

variable {db db' : Db} {call : Call} {g : Uuid} {w w' : SwapRequest}

/-- The version of the schedule that a group is at. -/
def scheduleVersionOf (db : Db) (groupId : Uuid) : Option Nat :=
  (db.ajoGroups.find? fun x ↦ x.id = groupId).map (·.scheduleVersion)

/-! ## What the history of a request says -/

/-- The call made the request, when the schedule was at this version. -/
def MadeAt (w : SwapRequest) (version : Nat) (event : Db × Call) : Prop :=
  ∃ ctx userId dto r after, event.2 = .createSwap ctx userId w.groupId dto ∧
    createSwap ctx event.1 userId w.groupId dto = .ok (r, after) ∧ r.id = w.id ∧
    dto.fromSlotId = w.fromSlotId ∧ dto.toSlotId = w.toSlotId ∧
    w.expiresAt = some (ctx.now + 72 * 60 * 60000) ∧
    scheduleVersionOf event.1 w.groupId = some version

/-- The call approved the request for the member, before it expired and when the schedule was at
this version. -/
def ApprovedAt (w : SwapRequest) (memberId : Uuid) (version : Nat) (event : Db × Call) : Prop :=
  ∃ ctx userId reason r after, event.2 = .approveSwap ctx userId w.groupId w.id reason ∧
    approveSwap ctx event.1 userId w.groupId w.id reason = .ok (r, after) ∧
    (∃ m ∈ event.1.ajoGroupMembers.rows, m.groupId = w.groupId ∧ m.userId = userId ∧
      m.id = memberId) ∧
    w.expiresAt.all (ctx.now < ·) ∧ scheduleVersionOf event.1 w.groupId = some version

/-- The call rejected the request. -/
def RejectedAt (swapId : Uuid) (event : Db × Call) : Prop :=
  ∃ ctx userId groupId reason r after, event.2 = .rejectSwap ctx userId groupId swapId reason ∧
    rejectSwap ctx event.1 userId groupId swapId reason = .ok (r, after)

/-- The slot is one of the two that the request would exchange. -/
def OfSwap (w : SwapRequest) (slot : AjoSlot) : Prop :=
  slot.id = w.fromSlotId ∨ slot.id = w.toSlotId

/-- The same request, possibly with another status or fee. -/
structure SameRequest (w w' : SwapRequest) : Prop where
  id : w'.id = w.id
  groupId : w'.groupId = w.groupId
  fromSlotId : w'.fromSlotId = w.fromSlotId
  toSlotId : w'.toSlotId = w.toSlotId
  expiresAt : w'.expiresAt = w.expiresAt
  previousScheduleVersion : w'.previousScheduleVersion = w.previousScheduleVersion

theorem SameRequest.refl (w : SwapRequest) : SameRequest w w := ⟨rfl, rfl, rfl, rfl, rfl, rfl⟩

theorem MadeAt.of_same {version : Nat} {event : Db × Call} (h : MadeAt w version event)
    (hsame : SameRequest w w') : MadeAt w' version event := by
  unfold MadeAt
  rw [hsame.id, hsame.groupId, hsame.fromSlotId, hsame.toSlotId, hsame.expiresAt]
  exact h

theorem ApprovedAt.of_same {memberId : Uuid} {version : Nat} {event : Db × Call}
    (h : ApprovedAt w memberId version event) (hsame : SameRequest w w') :
    ApprovedAt w' memberId version event := by
  unfold ApprovedAt
  rw [hsame.id, hsame.groupId, hsame.expiresAt]
  exact h

theorem OfSwap.of_same {slot : AjoSlot} (h : OfSwap w' slot) (hsame : SameRequest w w') :
    OfSwap w slot := by
  rw [OfSwap, ← hsame.fromSlotId, ← hsame.toSlotId]
  exact h

/-! ## What one call does -/

/-- The owners of both slots have approved, and the schedule is at the version of the request. -/
structure Agreed (db db' : Db) (w : SwapRequest) : Prop where
  version : scheduleVersionOf db w.groupId = some w.previousScheduleVersion
  owners : ∀ slot ∈ db.ajoSlots.rows, OfSwap w slot → ∃ a ∈ db'.swapApprovals.rows,
    a.swapRequestId = w.id ∧ a.approverMemberId = slot.memberId ∧ a.decision = .approved

/-- What a call of the swap service may do to requests, decisions and versions. -/
structure Decides (db : Db) (call : Call) (db' : Db) : Prop where
  slots : db'.ajoSlots = db.ajoSlots
  version : ∀ g v, scheduleVersionOf db g = some v → ∃ v', v ≤ v' ∧ scheduleVersionOf db' g = some v'
  requests : ∀ w' ∈ db'.swapRequests.rows,
    (∃ w ∈ db.swapRequests.rows, SameRequest w w' ∧
      (w'.status = .executed → w.status = .executed ∨ Agreed db db' w)) ∨
    (w'.status = .pending ∧ (∀ w ∈ db.swapRequests.rows, w.id ≠ w'.id) ∧
      MadeAt w' w'.previousScheduleVersion (db, call))
  kept : ∀ w ∈ db.swapRequests.rows, ∃ w' ∈ db'.swapRequests.rows, w'.id = w.id ∧
    (w.status = .rejected → w'.status = .rejected)
  approvals : ∀ a ∈ db'.swapApprovals.rows, a ∈ db.swapApprovals.rows ∨
    ∃ w ∈ db.swapRequests.rows, w.id = a.swapRequestId ∧ (a.decision = .approved →
      ∀ v, scheduleVersionOf db w.groupId = some v →
        ApprovedAt w a.approverMemberId v (db, call))
  rejected : ∀ swapId, RejectedAt swapId (db, call) → ∃ w' ∈ db'.swapRequests.rows,
    w'.id = swapId ∧ w'.status = .rejected

/-- A call that writes nothing and is no rejection. -/
theorem Decides.refl (hcall : ∀ swapId, ¬ RejectedAt swapId (db, call)) : Decides db call db where
  slots := rfl
  version := fun _ v hv ↦ ⟨v, le_rfl, hv⟩
  requests := fun w hw ↦ .inl ⟨w, hw, .refl w, .inl⟩
  kept := fun w hw ↦ ⟨w, hw, rfl, fun h ↦ h⟩
  approvals := fun _ ha ↦ .inl ha
  rejected := fun swapId h ↦ absurd h (hcall swapId)

/-! ### Requesting -/

section Calls

variable {ctx : Ctx} {userId groupId swapId : Uuid} {reason : Option String} {r : SwapRequest}

/-- A fee changes no request. -/
theorem assessSwapFee_requests {currency : String} {base : Int}
    (h : assessSwapFee ctx db swapId currency base = .ok db') :
    db'.swapApprovals = db.swapApprovals ∧ ∃ f,
      db'.swapRequests.rows = db.swapRequests.rows.map f ∧
        ∀ w, SameRequest w (f w) ∧ (f w).status = w.status := by
  obtain ⟨_, _, f, rfl, hrows, hf⟩ := assessSwapFee_eq_ok h
  refine ⟨rfl, f, hrows, fun w ↦ ?_⟩
  obtain ⟨_, heq⟩ := hf w
  rw [heq]
  exact ⟨⟨rfl, rfl, rfl, rfl, rfl, rfl⟩, rfl⟩

theorem createSwap_decides {dto : CreateSwapRequestDto}
    (h : createSwap ctx db userId groupId dto = .ok (r, db')) :
    Decides db (.createSwap ctx userId groupId dto) db' := by
  have hafter := (createSwap_swapsOnly h).after
  have hmade := h
  simp only [createSwap, bind_eq_ok, require_eq_ok, orThrow_eq_ok, pure_eq_ok, exists_const,
    Prod.mk.injEq] at h
  obtain ⟨-, membership, -, group, hgroup, -, -, origin, horigin, target, htarget, -, -, -, -, -,
    requests, hins, db₂, hfee, rfl, rfl⟩ := h
  have hgid : group.id = groupId := by simpa using Table.prop_of_find? hgroup
  have hfrom : origin.id = dto.fromSlotId := by
    simpa using List.find?_some horigin
  have hto : target.id = dto.toSlotId := by simpa using List.find?_some htarget
  obtain ⟨happrovals, f, hrows, hsame⟩ := assessSwapFee_requests hfee
  have hrows₂ : db₂.swapRequests.rows = (db.swapRequests.rows ++
      [newSwapRequest ctx userId group membership dto origin target]).map f := by
    rw [hrows]
    exact congrArg (List.map f) (Table.rows_of_insert hins)
  refine ⟨by rw [hafter], fun g v hv ↦ ⟨v, le_rfl, by rw [hafter]; exact hv⟩, ?_, ?_, ?_, ?_⟩
  · intro w' hw'
    rw [hrows₂, List.mem_map] at hw'
    obtain ⟨w, hw, rfl⟩ := hw'
    obtain ⟨hs, hst⟩ := hsame w
    rcases List.mem_append.mp hw with hw | hw
    · exact .inl ⟨w, hw, hs, fun hex ↦ .inl (hst ▸ hex)⟩
    · rw [List.mem_singleton] at hw
      subst hw
      refine .inr ⟨hst, fun x hx hid ↦ ?_, MadeAt.of_same ?_ hs⟩
      · exact (Table.insert_eq_some.mp hins).1 x hx (.inl (hid.trans hs.id))
      · rw [hs.previousScheduleVersion]
        refine ⟨ctx, userId, dto, _, db₂, ?_, ?_, rfl, hfrom.symm, hto.symm, rfl, ?_⟩
        · rw [newSwapRequest, hgid]
        · rw [newSwapRequest, hgid] at hmade ⊢
          exact hmade
        · show scheduleVersionOf db group.id = some group.scheduleVersion
          rw [scheduleVersionOf, hgid, hgroup]
          rfl
  · intro w hw
    refine ⟨f w, ?_, (hsame w).1.id, fun hst ↦ (hsame w).2.trans hst⟩
    rw [hrows₂]
    exact List.mem_map_of_mem (List.mem_append_left _ hw)
  · intro a ha
    rw [happrovals] at ha
    exact .inl ha
  · rintro swapId ⟨_, _, _, _, _, _, hcall, -⟩
    cases hcall

/-! ### Deciding -/

/-- A decision is recorded in place of the member's former one. -/
theorem mem_upsertApproval {memberId : Uuid} {decision : SwapApprovalDecision}
    (h : upsertApproval ctx db swapId memberId decision reason = .ok db') {a : SwapApproval}
    (ha : a ∈ db'.swapApprovals.rows) : a ∈ db.swapApprovals.rows ∨
      (a.swapRequestId = swapId ∧ a.approverMemberId = memberId ∧ a.decision = decision) := by
  unfold upsertApproval at h
  split at h
  · next existing hfind =>
      cases h
      obtain ⟨x, hx, rfl⟩ := List.mem_map.mp ha
      split
      · next hid =>
          have hxe : x = existing := db.swapApprovals.eq_of_clash hx (Table.mem_of_find? hfind)
            (.inl (of_decide_eq_true hid))
          subst hxe
          have hp := Table.prop_of_find? hfind
          rw [decide_eq_true_eq] at hp
          exact .inr ⟨hp.1, hp.2, rfl⟩
      · exact .inl hx
  · simp only [bind_eq_ok, orThrow_eq_ok, pure_eq_ok] at h
    obtain ⟨_, hins, rfl⟩ := h
    rw [Table.rows_of_insert hins, List.mem_append, List.mem_singleton] at ha
    rcases ha with ha | rfl
    · exact .inl ha
    · exact .inr ⟨rfl, rfl, rfl⟩

theorem requirePending_expiresAt (h : requirePending ctx db groupId swapId = .ok w) :
    w.expiresAt.all (ctx.now < ·) := by
  simp only [requirePending, assertSwapNotExpired, bind_eq_ok, require_eq_ok, orThrow_eq_ok,
    pure_eq_ok, exists_const] at h
  obtain ⟨w', -, -, hexpiry, rfl⟩ := h
  exact hexpiry

/-- Rewriting a pending request, whose decisions alone were touched before. -/
theorem requests_of_modify {f : SwapRequest → SwapRequest} (hw : w ∈ db.swapRequests.rows)
    (hf : ∀ x, SameRequest x (f x))
    (hagreed : (f w).status = .executed → Agreed db db' w)
    (hrows : db'.swapRequests.rows =
      db.swapRequests.rows.map fun s ↦ if decide (s.id = w.id) = true then f s else s)
    {w' : SwapRequest} (hw' : w' ∈ db'.swapRequests.rows) :
    ∃ x ∈ db.swapRequests.rows, SameRequest x w' ∧
      (w'.status = .executed → x.status = .executed ∨ Agreed db db' x) := by
  rw [hrows, List.mem_map] at hw'
  obtain ⟨x, hx, rfl⟩ := hw'
  refine ⟨x, hx, ?_⟩
  split
  · next hid =>
      rw [swap_eq_of_id hx hw (of_decide_eq_true hid)]
      exact ⟨hf w, fun hst ↦ .inr (hagreed hst)⟩
  · exact ⟨.refl x, .inl⟩

/-- Rewriting a pending request leaves the rejected ones rejected. -/
theorem kept_of_modify {f : SwapRequest → SwapRequest} (hw : w ∈ db.swapRequests.rows)
    (hpending : w.status = .pending) (hf : ∀ x, SameRequest x (f x))
    (hrows : db'.swapRequests.rows =
      db.swapRequests.rows.map fun s ↦ if decide (s.id = w.id) = true then f s else s)
    {x : SwapRequest} (hx : x ∈ db.swapRequests.rows) :
    ∃ w' ∈ db'.swapRequests.rows, w'.id = x.id ∧ (x.status = .rejected → w'.status = .rejected) := by
  refine ⟨_, by rw [hrows]; exact List.mem_map_of_mem hx, ?_⟩
  split
  · next hid =>
      rw [swap_eq_of_id hx hw (of_decide_eq_true hid), hpending]
      exact ⟨(hf w).id, nofun⟩
  · exact ⟨rfl, fun h ↦ h⟩

theorem rejectSwap_decides (h : rejectSwap ctx db userId groupId swapId reason = .ok (r, db')) :
    Decides db (.rejectSwap ctx userId groupId swapId reason) db' := by
  have hafter := (rejectSwap_swapsOnly h).after
  simp only [rejectSwap, bind_eq_ok, require_eq_ok, orThrow_eq_ok, pure_eq_ok, exists_const,
    Prod.mk.injEq] at h
  obtain ⟨w, hw, membership, -, -, db₁, hupsert, rfl, rfl⟩ := h
  obtain ⟨hmem, hid, -, hst⟩ := requirePending_eq_ok hw
  have hdb₁ := upsertApproval_eq_ok hupsert
  have hf : ∀ x : SwapRequest, SameRequest x { x with status := .rejected } :=
    fun _ ↦ ⟨rfl, rfl, rfl, rfl, rfl, rfl⟩
  have hrows : (db₁.swapRequests.modify (fun s ↦ s.id = w.id)
      (fun s ↦ { s with status := .rejected }) fun h ↦ h).rows = db.swapRequests.rows.map fun s ↦
        if decide (s.id = w.id) = true then { s with status := .rejected } else s := by
    rw [hdb₁]
    rfl
  refine ⟨by rw [hafter], fun g v hv ↦ ⟨v, le_rfl, by rw [hafter]; exact hv⟩, fun w' hw' ↦ .inl ?_,
    fun x hx ↦ kept_of_modify hmem hst hf hrows hx, fun a ha ↦ ?_, ?_⟩
  · exact requests_of_modify hmem hf (by simp) hrows hw'
  · rcases mem_upsertApproval hupsert ha with ha | ⟨hswap, -, hdecision⟩
    · exact .inl ha
    · refine .inr ⟨w, hmem, hswap.symm, ?_⟩
      rw [hdecision]
      simp
  · rintro _ ⟨_, _, _, _, _, _, hcall, -⟩
    cases hcall
    refine ⟨{ w with status := .rejected }, ?_, hid, rfl⟩
    rw [hrows]
    exact List.mem_map.mpr ⟨w, hmem, if_pos (decide_eq_true rfl)⟩

theorem mem_requiredApprovers {slot : AjoSlot} (hslot : slot ∈ db.ajoSlots.rows)
    (hof : OfSwap w slot) : slot.memberId ∈ requiredApprovers db w := by
  rw [requiredApprovers, List.mem_eraseDups, List.mem_map]
  exact ⟨slot, Table.mem_findMany.mpr ⟨hslot, decide_eq_true hof⟩, rfl⟩

theorem scheduleVersionOf_executeSwap
    (h : executeSwap ctx db userId swapId = .ok (r, db')) :
    ∃ w, w ∈ db.swapRequests.rows ∧ w.id = swapId ∧ w.status = .pending ∧
      scheduleVersionOf db w.groupId = some w.previousScheduleVersion ∧
      (∀ g v, scheduleVersionOf db g = some v → ∃ v', v ≤ v' ∧ scheduleVersionOf db' g = some v') ∧
      db'.ajoSlots = db.ajoSlots ∧ db'.swapApprovals = db.swapApprovals ∧
      db'.swapRequests.rows = db.swapRequests.rows.map fun s ↦
        if decide (s.id = w.id) = true then
          { s with
            status := .executed
            resultingScheduleVersion := some (w.previousScheduleVersion + 1) }
        else s := by
  simp only [executeSwap, bind_eq_ok, require_eq_ok, orThrow_eq_ok, pure_eq_ok, exists_const,
    Prod.mk.injEq] at h
  obtain ⟨w, hw, group, hgroup, hst, -, hversion, -, payoutSchedules, -, versions, -, rfl,
    rfl⟩ := h
  have hgid : group.id = w.groupId := by simpa using Table.prop_of_find? hgroup
  have hat : scheduleVersionOf db w.groupId = some w.previousScheduleVersion := by
    rw [scheduleVersionOf, hgroup, Option.map_some, hversion]
  refine ⟨w, Table.mem_of_find? hw, by simpa using Table.prop_of_find? hw, hst, hat,
    fun g v hv ↦ ?_, rfl, rfl, rfl⟩
  obtain ⟨x, hx, rfl⟩ := Option.map_eq_some_iff.mp hv
  have hfind := Table.find?_of_rows (Table.rows_modify db.ajoGroups (fun x ↦ x.id = w.groupId)
    (fun x ↦ { x with scheduleVersion := w.previousScheduleVersion + 1 }) fun h ↦ h)
    (q := fun x ↦ x.id = g) fun _ _ ↦ rfl
  rw [hx, Option.map_some] at hfind
  refine ⟨_, ?_, congrArg (Option.map AjoGroup.scheduleVersion) hfind⟩
  split
  · next hid =>
      have hx' : x = group := db.ajoGroups.eq_of_clash (Table.mem_of_find? hx)
        (Table.mem_of_find? hgroup)
        (.inl ((of_decide_eq_true hid).trans hgid.symm))
      rw [hx', hversion]
      exact Nat.le_succ _
  · exact le_rfl

/-- An approval waits for others or executes the swap, and then all have approved. -/
theorem approveSwap_decides (h : approveSwap ctx db userId groupId swapId reason = .ok (r, db')) :
    Decides db (.approveSwap ctx userId groupId swapId reason) db' := by
  have hok := h
  simp only [approveSwap, bind_eq_ok, require_eq_ok, exists_const] at h
  obtain ⟨w, hw, membership, hmember, -, db₁, hupsert, h⟩ := h
  obtain ⟨hmem, hid, hgid, hst⟩ := requirePending_eq_ok hw
  have hexpiry := requirePending_expiresAt hw
  have hdb₁ := upsertApproval_eq_ok hupsert
  subst hid hgid
  -- The decision that the call records is one of the history.
  have hrecorded : ∀ a ∈ db₁.swapApprovals.rows, a ∈ db.swapApprovals.rows ∨
      ∃ x ∈ db.swapRequests.rows, x.id = a.swapRequestId ∧ (a.decision = .approved →
        ∀ v, scheduleVersionOf db x.groupId = some v → ApprovedAt x a.approverMemberId v
          (db, .approveSwap ctx userId w.groupId w.id reason)) := by
    intro a ha
    rcases mem_upsertApproval hupsert ha with ha | ⟨hswap, hmember', -⟩
    · exact .inl ha
    · refine .inr ⟨w, hmem, hswap.symm, fun _ v hv ↦ ?_⟩
      simp only [activeMembership, bind_eq_ok, require_eq_ok, orThrow_eq_ok, pure_eq_ok,
        exists_const] at hmember
      obtain ⟨m, hfind, -, rfl⟩ := hmember
      have hm := Table.prop_of_find? hfind
      rw [decide_eq_true_eq] at hm
      exact ⟨ctx, userId, reason, r, db', rfl, hok,
        ⟨m, Table.mem_of_find? hfind, hm.1, hm.2, hmember'.symm⟩, hexpiry, hv⟩
  have hnone : ∀ swapId, ¬ RejectedAt swapId
      (db, .approveSwap ctx userId w.groupId w.id reason) := by
    rintro _ ⟨_, _, _, _, _, _, hcall, -⟩
    cases hcall
  split at h
  · next hall =>
      rw [bind_eq_ok] at h
      obtain ⟨_, -, h⟩ := h
      obtain ⟨x, hx, hxid, -, hat, hversion, hslots, happrovals, hrows⟩ :=
        scheduleVersionOf_executeSwap h
      have hsame : ∀ y : SwapRequest, SameRequest y
          { y with
            status := .executed
            resultingScheduleVersion := some (x.previousScheduleVersion + 1) } :=
        fun _ ↦ ⟨rfl, rfl, rfl, rfl, rfl, rfl⟩
      rw [hdb₁] at hx hat hversion hslots hrows
      have hxw : x = w := swap_eq_of_id hx hmem hxid
      subst hxw
      have hagreed : Agreed db db' x := by
        refine ⟨hat, fun slot hslot hof ↦ ?_⟩
        have hreq : slot.memberId ∈ requiredApprovers db₁ x := by
          rw [hdb₁]
          exact mem_requiredApprovers hslot hof
        obtain ⟨a, ha, hp⟩ := List.any_eq_true.mp (List.all_eq_true.mp hall _ hreq)
        obtain ⟨ha, hswap⟩ := Table.mem_findMany.mp ha
        rw [decide_eq_true_eq] at hp hswap
        exact ⟨a, happrovals ▸ ha, hswap, hp.1, hp.2⟩
      refine ⟨hslots, hversion, fun w' hw' ↦ .inl ?_, fun y hy ↦ ?_, ?_, ?_⟩
      · exact requests_of_modify hmem hsame (fun _ ↦ hagreed) hrows hw'
      · exact kept_of_modify hx hst hsame hrows hy
      · rw [happrovals]
        exact hrecorded
      · exact fun swapId hrejected ↦ absurd hrejected (hnone swapId)
  · rw [pure_eq_ok, Prod.mk.injEq] at h
    obtain ⟨rfl, rfl⟩ := h
    have hrequests : db₁.swapRequests = db.swapRequests := by rw [hdb₁]
    refine ⟨by rw [hdb₁], fun g v hv ↦ ⟨v, le_rfl, by rw [hdb₁]; exact hv⟩, ?_, ?_, hrecorded, ?_⟩
    · rw [hrequests]
      exact fun x hx ↦ .inl ⟨x, hx, .refl x, .inl⟩
    · rw [hrequests]
      exact fun x hx ↦ ⟨x, hx, rfl, fun h ↦ h⟩
    · exact fun swapId hrejected ↦ absurd hrejected (hnone swapId)

end Calls

theorem step_decides (hswap : call.isSwap = true) : Decides db call (step db call) := by
  cases call with
  | createSwap ctx userId groupId dto =>
      rcases committed_cases db (createSwap ctx db userId groupId dto) with
        heq | ⟨r, db', hok, heq⟩
      · rw [step, heq]
        refine .refl ?_
        rintro _ ⟨_, _, _, _, _, _, hcall, -⟩
        cases hcall
      · rw [step, heq]
        exact createSwap_decides hok
  | approveSwap ctx userId groupId swapId reason =>
      rcases committed_cases db (approveSwap ctx db userId groupId swapId reason) with
        heq | ⟨r, db', hok, heq⟩
      · rw [step, heq]
        refine .refl ?_
        rintro _ ⟨_, _, _, _, _, _, hcall, -⟩
        cases hcall
      · rw [step, heq]
        exact approveSwap_decides hok
  | rejectSwap ctx userId groupId swapId reason =>
      cases hresult : rejectSwap ctx db userId groupId swapId reason with
      | error e =>
          rw [step, hresult]
          refine .refl ?_
          rintro _ ⟨_, _, _, _, _, _, hcall, hok⟩
          cases hcall
          rw [hresult] at hok
          cases hok
      | ok result =>
          rw [step, hresult]
          exact rejectSwap_decides hresult
  | payContribution | createIntent | settleIntent | executePayout | assignStatus => cases hswap

/-! ## Runs -/

/-- A locked group on which no swap has been requested yet; every decision is on a request. -/
structure Unpetitioned (db : Db) (g : Uuid) : Prop where
  locked : ∃ group ∈ db.ajoGroups.rows, group.id = g ∧ group.status = .locked
  requests : ∀ w ∈ db.swapRequests.rows, w.groupId ≠ g
  decisions : ∀ a ∈ db.swapApprovals.rows, ∃ w ∈ db.swapRequests.rows, w.id = a.swapRequestId

/-- What the history of a group's requests says about those that are stored. -/
structure Consented (g : Uuid) (history : List (Db × Call)) (db : Db) : Prop where
  version : ∃ v, scheduleVersionOf db g = some v
  versions : ∀ event ∈ history, ∀ v, scheduleVersionOf event.1 g = some v →
    ∃ v', v ≤ v' ∧ scheduleVersionOf db g = some v'
  decisions : ∀ a ∈ db.swapApprovals.rows, ∃ w ∈ db.swapRequests.rows, w.id = a.swapRequestId
  made : ∀ w ∈ db.swapRequests.rows, w.groupId = g →
    ∃ event ∈ history, MadeAt w w.previousScheduleVersion event
  approved : ∀ w ∈ db.swapRequests.rows, w.groupId = g → ∀ a ∈ db.swapApprovals.rows,
    a.swapRequestId = w.id → a.decision = .approved →
      ∃ v, w.previousScheduleVersion ≤ v ∧ ∃ event ∈ history, ApprovedAt w a.approverMemberId v event
  executed : ∀ w ∈ db.swapRequests.rows, w.groupId = g → w.status = .executed →
    ∀ slot ∈ db.ajoSlots.rows, OfSwap w slot →
      ∃ event ∈ history, ApprovedAt w slot.memberId w.previousScheduleVersion event
  rejected : ∀ event ∈ history, ∀ swapId, RejectedAt swapId event →
    ∃ w ∈ db.swapRequests.rows, w.id = swapId ∧ w.status = .rejected

theorem Unpetitioned.consented (h : Unpetitioned db g) : Consented g [] db where
  version := by
    obtain ⟨group, hgroup, rfl, -⟩ := h.locked
    refine ⟨group.scheduleVersion, ?_⟩
    have hfind : (db.ajoGroups.find? fun x ↦ x.id = group.id) = some group :=
      db.ajoGroups.find?_eq_some_of_mem hgroup (decide_eq_true rfl)
        fun x _ hx ↦ .inl (of_decide_eq_true hx)
    rw [scheduleVersionOf, hfind, Option.map_some]
  versions := nofun
  decisions := h.decisions
  made := fun w hw hg ↦ absurd hg (h.requests w hw)
  approved := fun w hw hg ↦ absurd hg (h.requests w hw)
  executed := fun w hw hg ↦ absurd hg (h.requests w hw)
  rejected := nofun

variable {history : List (Db × Call)}

/-- Versions only go up. -/
theorem Consented.versions_step (h : Consented g history db) (hd : Decides db call db') :
    ∀ event ∈ history ++ [(db, call)], ∀ v, scheduleVersionOf event.1 g = some v →
      ∃ v', v ≤ v' ∧ scheduleVersionOf db' g = some v' := by
  intro event hevent v hv
  rcases List.mem_append.mp hevent with hevent | hevent
  · obtain ⟨v₁, hle, hv₁⟩ := h.versions event hevent v hv
    obtain ⟨v₂, hle', hv₂⟩ := hd.version g v₁ hv₁
    exact ⟨v₂, hle.trans hle', hv₂⟩
  · rw [List.mem_singleton] at hevent
    subst hevent
    exact hd.version g v hv

/-- A request was made at a version that the schedule has reached. -/
theorem Consented.previous_le (h : Consented g history db) (hw : w ∈ db.swapRequests.rows)
    (hg : w.groupId = g) {v : Nat} (hv : scheduleVersionOf db g = some v) :
    w.previousScheduleVersion ≤ v := by
  obtain ⟨event, hevent, hmade⟩ := h.made w hw hg
  obtain ⟨_, _, _, _, _, -, -, -, -, -, -, hat⟩ := hmade
  rw [hg] at hat
  obtain ⟨v', hle, hv'⟩ := h.versions event hevent _ hat
  rw [hv] at hv'
  cases hv'
  exact hle

/-- A decision recorded now or before is one that the history knows. -/
theorem Consented.approved_step (h : Consented g history db) (hd : Decides db call db')
    (hw : w ∈ db.swapRequests.rows) (hg : w.groupId = g) {a : SwapApproval}
    (ha : a ∈ db'.swapApprovals.rows) (hswap : a.swapRequestId = w.id)
    (happroved : a.decision = .approved) :
    ∃ v, w.previousScheduleVersion ≤ v ∧
      ∃ event ∈ history ++ [(db, call)], ApprovedAt w a.approverMemberId v event := by
  rcases hd.approvals a ha with hold | ⟨x, hx, hid, hnow⟩
  · obtain ⟨v, hle, event, hevent, hat⟩ := h.approved w hw hg a hold hswap happroved
    exact ⟨v, hle, event, List.mem_append_left _ hevent, hat⟩
  · have hxw : x = w := swap_eq_of_id hx hw (hid.trans hswap)
    subst hxw
    obtain ⟨v, hv⟩ := h.version
    exact ⟨v, h.previous_le hw hg hv, _, List.mem_append_right _ (List.mem_singleton_self _),
      hnow happroved v (hg ▸ hv)⟩

/-- When all have agreed, each owner approved under the version that the schedule is at. -/
theorem Consented.agreed (h : Consented g history db) (hd : Decides db call db')
    (hw : w ∈ db.swapRequests.rows) (hg : w.groupId = g) (hagreed : Agreed db db' w)
    {slot : AjoSlot} (hslot : slot ∈ db.ajoSlots.rows) (hof : OfSwap w slot) :
    ∃ event ∈ history ++ [(db, call)],
      ApprovedAt w slot.memberId w.previousScheduleVersion event := by
  obtain ⟨a, ha, hswap, howner, happroved⟩ := hagreed.owners slot hslot hof
  obtain ⟨v, hle, event, hevent, hat⟩ := h.approved_step hd hw hg ha hswap happroved
  -- The version of the approval lies between that of the request and the present one: all agree.
  have hv : v = w.previousScheduleVersion := by
    obtain ⟨_, _, _, _, _, -, -, -, -, hver⟩ := id hat
    have hcurrent : ∃ v', v ≤ v' ∧ scheduleVersionOf db g = some v' := by
      rw [hg] at hver
      rcases List.mem_append.mp hevent with hevent | hevent
      · exact h.versions event hevent v hver
      · rw [List.mem_singleton] at hevent
        subst hevent
        exact ⟨v, le_rfl, hver⟩
    obtain ⟨v', hle', hv'⟩ := hcurrent
    rw [← hg, hagreed.version] at hv'
    cases hv'
    exact Nat.le_antisymm hle' hle
  subst hv
  rw [howner] at hat
  exact ⟨event, hevent, hat⟩

theorem Consented.step (h : Consented g history db) (hd : Decides db call db') :
    Consented g (history ++ [(db, call)]) db' where
  version := by
    obtain ⟨v, hv⟩ := h.version
    obtain ⟨v', -, hv'⟩ := hd.version g v hv
    exact ⟨v', hv'⟩
  versions := h.versions_step hd
  decisions := by
    intro a ha
    have hw : ∃ w ∈ db.swapRequests.rows, w.id = a.swapRequestId := by
      rcases hd.approvals a ha with hold | ⟨w, hw, hid, -⟩
      · exact h.decisions a hold
      · exact ⟨w, hw, hid⟩
    obtain ⟨w, hw, hid⟩ := hw
    obtain ⟨w', hw', hid', -⟩ := hd.kept w hw
    exact ⟨w', hw', hid'.trans hid⟩
  made := by
    intro w' hw' hg
    rcases hd.requests w' hw' with ⟨w, hw, hsame, -⟩ | ⟨-, -, hmade⟩
    · obtain ⟨event, hevent, hmade⟩ := h.made w hw (hsame.groupId.symm.trans hg)
      rw [hsame.previousScheduleVersion]
      exact ⟨event, List.mem_append_left _ hevent, hmade.of_same hsame⟩
    · exact ⟨_, List.mem_append_right _ (List.mem_singleton_self _), hmade⟩
  approved := by
    intro w' hw' hg a ha hswap happroved
    rcases hd.requests w' hw' with ⟨w, hw, hsame, -⟩ | ⟨-, hfresh, -⟩
    · obtain ⟨v, hle, event, hevent, hat⟩ := h.approved_step hd hw (hsame.groupId.symm.trans hg) ha
        (hswap.trans hsame.id) happroved
      rw [hsame.previousScheduleVersion]
      exact ⟨v, hle, event, hevent, hat.of_same hsame⟩
    · -- Nobody can have decided on a request that was not there.
      have hw : ∃ w ∈ db.swapRequests.rows, w.id = a.swapRequestId := by
        rcases hd.approvals a ha with hold | ⟨w, hw, hid, -⟩
        · exact h.decisions a hold
        · exact ⟨w, hw, hid⟩
      obtain ⟨w, hw, hid⟩ := hw
      exact absurd (hid.trans hswap) (hfresh w hw)
  executed := by
    intro w' hw' hg hst slot hslot hof
    rw [hd.slots] at hslot
    rcases hd.requests w' hw' with ⟨w, hw, hsame, hexecuted⟩ | ⟨hpending, -, -⟩
    · have hg' : w.groupId = g := hsame.groupId.symm.trans hg
      have hevent : ∃ event ∈ history ++ [(db, call)],
          ApprovedAt w slot.memberId w.previousScheduleVersion event := by
        rcases hexecuted hst with hbefore | hagreed
        · obtain ⟨event, hevent, hat⟩ :=
            h.executed w hw hg' hbefore slot hslot (hof.of_same hsame)
          exact ⟨event, List.mem_append_left _ hevent, hat⟩
        · exact h.agreed hd hw hg' hagreed hslot (hof.of_same hsame)
      obtain ⟨event, hevent, hat⟩ := hevent
      rw [hsame.previousScheduleVersion]
      exact ⟨event, hevent, hat.of_same hsame⟩
    · rw [hpending] at hst
      cases hst
  rejected := by
    intro event hevent swapId hrejected
    rcases List.mem_append.mp hevent with hevent | hevent
    · obtain ⟨w, hw, hid, hst⟩ := h.rejected event hevent swapId hrejected
      obtain ⟨w', hw', hid', hst'⟩ := hd.kept w hw
      exact ⟨w', hw', hid'.trans hid, hst' hst⟩
    · rw [List.mem_singleton] at hevent
      subst hevent
      exact hd.rejected swapId hrejected

/-- In whatever order the members of a locked group request, approve and reject swaps: an executed
swap was made under some version of the schedule, every owner of its two slots approved it under
that version and before it expired, and nobody rejected it. -/
theorem executed_with_consent {start : Db} (hstart : Unpetitioned start g)
    (hrun : Traced step (fun _ call ↦ call.isSwap = true) start history db)
    (hw : w ∈ db.swapRequests.rows) (hg : w.groupId = g) (hst : w.status = .executed) :
    (∃ version, (∃ event ∈ history, MadeAt w version event) ∧
      ∀ slot ∈ db.ajoSlots.rows, OfSwap w slot →
        ∃ event ∈ history, ApprovedAt w slot.memberId version event) ∧
      ∀ event ∈ history, ¬ RejectedAt w.id event := by
  have h : Consented g history db := hrun.invariant (I := Consented g) hstart.consented
    fun _ _ _ h hcall ↦ h.step (step_decides hcall)
  refine ⟨⟨w.previousScheduleVersion, h.made w hw hg, h.executed w hw hg hst⟩,
    fun event hevent hrejected ↦ ?_⟩
  obtain ⟨x, hx, hid, hxst⟩ := h.rejected event hevent w.id hrejected
  rw [swap_eq_of_id hx hw hid, hst] at hxst
  cases hxst

section Sample

/-- Both owners approve the exchange of the two slots. -/
def sampleConsent : List Call := [sampleSwap, sampleApproval 6 1, sampleApproval 7 2]

theorem executed_with_consent_sample :
    ∃ history, Traced step (fun _ call ↦ call.isSwap = true) sampleGroup history
        (sampleConsent.foldl step sampleGroup) ∧
      ∃ w ∈ (sampleConsent.foldl step sampleGroup).swapRequests.rows, w.status = .executed ∧
        (∃ version, (∃ event ∈ history, MadeAt w version event) ∧
          ∀ slot ∈ (sampleConsent.foldl step sampleGroup).ajoSlots.rows, OfSwap w slot →
            ∃ event ∈ history, ApprovedAt w slot.memberId version event) ∧
          ∀ event ∈ history, ¬ RejectedAt w.id event := by
  have hrun : Reaches step (fun _ call ↦ call.isSwap = true) sampleGroup
      (sampleConsent.foldl step sampleGroup) := by
    refine reaches_of_allAdmitted ?_
    decide +kernel
  have hstart : Unpetitioned sampleGroup (.ofNat 30) :=
    ⟨⟨sampleFriends, List.mem_singleton_self _, rfl, rfl⟩, nofun, nofun⟩
  have hexecuted : ∃ w ∈ (sampleConsent.foldl step sampleGroup).swapRequests.rows,
      w.groupId = .ofNat 30 ∧ w.status = .executed := by
    decide +kernel
  obtain ⟨history, htraced⟩ := hrun.exists_traced
  obtain ⟨w, hw, hg, hst⟩ := hexecuted
  exact ⟨history, htraced, w, hw, hst, executed_with_consent hstart htraced hw hg hst⟩

end Sample

end AjoCloud.Ajo
