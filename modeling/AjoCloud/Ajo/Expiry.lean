import AjoCloud.Ajo.Turns
import AjoCloud.Lib.Transaction

/-!
# Requests that ran out

A swap request that nobody decides within three days has expired.  `requirePending` writes the
status `EXPIRED` when somebody tries to decide it then, and throws in the same transaction; `create`
asks for conflicting requests by their stored status alone.  Here the transactions are written out
with the writes they make before they throw, to see which of them last.
-/

namespace AjoCloud.Ajo

open Lib ServiceError

variable {ctx : Ctx} {db : Db} {userId groupId swapId : Uuid} {reason : Option String}

/-! ## Deciding, write by write -/

/-- The request's time to be decided is over. -/
def SwapRequest.HasExpired (w : SwapRequest) (now : Timestamp) : Prop :=
  w.expiresAt.any (· ≤ now)

instance (w : SwapRequest) (now : Timestamp) : Decidable (SwapRequest.HasExpired w now) :=
  inferInstanceAs (Decidable (_ = true))

/-- The request is marked as expired. -/
def expireSwap (swapId : Uuid) (db : Db) : Db :=
  { db with
    swapRequests := db.swapRequests.modify (fun s ↦ s.id = swapId)
      (fun s ↦ { s with status := .expired }) fun h ↦ h }

/-- `requirePending` inside its transaction. -/
def requirePendingWithin (ctx : Ctx) (groupId swapId : Uuid) : Body ServiceError Db SwapRequest := do
  let swap ← .read fun db ↦ orThrow
    (db.swapRequests.find? fun s ↦ s.id = swapId ∧ s.groupId = groupId)
    (notFound "Swap request was not found")
  .read fun _ ↦ require (swap.status = .pending) (conflict "Swap request is no longer pending")
  if SwapRequest.HasExpired swap ctx.now then do
    .write (expireSwap swap.id)
    .read fun _ ↦ assertSwapNotExpired swap.expiresAt ctx.now
    pure swap
  else pure swap

/-- What `approve` does with a request that is pending. -/
def approvePending (ctx : Ctx) (userId groupId : Uuid) (reason : Option String)
    (swap : SwapRequest) (db : Db) : Except ServiceError (SwapRequest × Db) := do
  let membership ← activeMembership db userId groupId
  require (membership.id ∈ requiredApprovers db swap)
    (forbidden "Only an affected position owner can approve")
  let db ← upsertApproval ctx db swap.id membership.id .approved reason
  if allApproved (requiredApprovers db swap) (approvalsOf db swap.id) then do
    assertAllSwapApprovals (requiredApprovers db swap) (approvalsOf db swap.id)
    executeSwap ctx db userId swap.id
  else pure (swap, db)

/-- What `reject` does with a request that is pending. -/
def rejectPending (ctx : Ctx) (userId groupId : Uuid) (reason : Option String)
    (swap : SwapRequest) (db : Db) : Except ServiceError (SwapRequest × Db) := do
  let membership ← orThrow
    (db.ajoGroupMembers.find? fun m ↦ m.groupId = groupId ∧ m.userId = userId)
    (forbidden "Group membership is required")
  let slot := db.ajoSlots.find? fun s ↦
    (s.id = swap.fromSlotId ∨ s.id = swap.toSlotId) ∧ s.memberId = membership.id
  require (slot.isSome ∨ membership.role = .groupAdmin)
    (forbidden "Only an affected owner or administrator can reject")
  let db ← upsertApproval ctx db swap.id membership.id .rejected reason
  pure ({ swap with status := .rejected },
    { db with
      swapRequests := db.swapRequests.modify (fun s ↦ s.id = swap.id)
        (fun s ↦ { s with status := .rejected }) fun h ↦ h })

/-- The body of `approve`. -/
def approveWithin (ctx : Ctx) (userId groupId swapId : Uuid) (reason : Option String) :
    Body ServiceError Db SwapRequest := do
  let swap ← requirePendingWithin ctx groupId swapId
  .call (approvePending ctx userId groupId reason swap)

/-- The body of `reject`. -/
def rejectWithin (ctx : Ctx) (userId groupId swapId : Uuid) (reason : Option String) :
    Body ServiceError Db SwapRequest := do
  let swap ← requirePendingWithin ctx groupId swapId
  .call (rejectPending ctx userId groupId reason swap)

theorem assertSwapNotExpired_of_hasExpired {w : SwapRequest} {now : Timestamp}
    (h : SwapRequest.HasExpired w now) :
    assertSwapNotExpired w.expiresAt now = .error (conflict "Swap request has expired") := by
  rw [assertSwapNotExpired, require_eq_error]
  refine ⟨fun hall ↦ ?_, rfl⟩
  rw [SwapRequest.HasExpired] at h
  cases hat : w.expiresAt with
  | none => simp [hat] at h
  | some deadline =>
      simp only [hat, Option.any_some, decide_eq_true_eq, Option.all_some] at h hall
      exact absurd hall (not_lt.mpr h)

theorem assertSwapNotExpired_of_not_hasExpired {w : SwapRequest} {now : Timestamp}
    (h : ¬ SwapRequest.HasExpired w now) : assertSwapNotExpired w.expiresAt now = .ok () := by
  rw [assertSwapNotExpired, require_eq_ok]
  rw [SwapRequest.HasExpired] at h
  cases hat : w.expiresAt with
  | none => rfl
  | some deadline =>
      simp only [hat, Option.any_some, decide_eq_true_eq, Option.all_some] at h ⊢
      exact not_le.mp h

/-- As a transaction, `requirePending` only reads: it throws whenever it has written. -/
theorem serializable_requirePending :
    serializable (requirePendingWithin ctx groupId swapId) db =
      (requirePending ctx db groupId swapId).map fun swap ↦ (swap, db) := by
  rw [requirePendingWithin, requirePending, serializable_bind, serializable_read]
  cases orThrow (db.swapRequests.find? fun s ↦ s.id = swapId ∧ s.groupId = groupId)
    (notFound "Swap request was not found") with
  | error e => rfl
  | ok swap =>
      change serializable (Body.read _ >>= _) db = (require _ _ >>= _ : Except _ _).map _
      rw [serializable_bind, serializable_read]
      by_cases hst : swap.status = .pending
      · rw [require, if_pos hst]
        by_cases hexpired : SwapRequest.HasExpired swap ctx.now
        · rw [assertSwapNotExpired_of_hasExpired hexpired, if_pos hexpired]
          rfl
        · rw [assertSwapNotExpired_of_not_hasExpired hexpired, if_neg hexpired]
          rfl
      · rw [require, if_neg hst]
        rfl

theorem serializable_approve :
    serializable (approveWithin ctx userId groupId swapId reason) db =
      approveSwap ctx db userId groupId swapId reason := by
  rw [approveWithin, serializable_bind, serializable_requirePending]
  change _ = requirePending ctx db groupId swapId >>= fun swap ↦
    approvePending ctx userId groupId reason swap db
  cases requirePending ctx db groupId swapId with
  | error e => rfl
  | ok swap => exact serializable_call _ _

theorem serializable_reject :
    serializable (rejectWithin ctx userId groupId swapId reason) db =
      rejectSwap ctx db userId groupId swapId reason := by
  rw [rejectWithin, serializable_bind, serializable_requirePending]
  change _ = requirePending ctx db groupId swapId >>= fun swap ↦
    rejectPending ctx userId groupId reason swap db
  cases requirePending ctx db groupId swapId with
  | error e => rfl
  | ok swap => exact serializable_call _ _

/-! ## What stays of an expired request -/

/-- The request is stored as expired. -/
def StoredExpired (db : Db) (swapId : Uuid) : Prop :=
  ∃ w ∈ db.swapRequests.rows, w.id = swapId ∧ w.status = .expired

theorem storedExpired_expireSwap {w : SwapRequest} (hw : w ∈ db.swapRequests.rows) :
    StoredExpired (expireSwap w.id db) w.id := by
  refine ⟨{ w with status := .expired }, ?_, rfl, rfl⟩
  exact List.mem_map.mpr ⟨w, hw, if_pos (decide_eq_true rfl)⟩

section Decisions

variable {w : SwapRequest} (hw : w ∈ db.swapRequests.rows) (hst : w.status = .pending)
  (hexpired : SwapRequest.HasExpired w ctx.now)

include hw in
theorem find?_swap :
    (db.swapRequests.find? fun s ↦ s.id = w.id ∧ s.groupId = w.groupId) = some w :=
  db.swapRequests.find?_eq_some_of_mem hw (by simp) fun _ _ h ↦ .inl (of_decide_eq_true h).1

include hw hst hexpired

/-- Inside its transaction the request has been marked as expired when the refusal comes. -/
theorem requirePendingWithin_of_hasExpired :
    (requirePendingWithin ctx w.groupId w.id).run db =
      (.error (conflict "Swap request has expired"), expireSwap w.id db) := by
  rw [requirePendingWithin, Body.run_bind, Body.run_read, find?_swap hw]
  change (Body.read _ >>= _ : Body ServiceError Db SwapRequest).run db = _
  rw [Body.run_bind, Body.run_read, require_of hst, if_pos hexpired,
    assertSwapNotExpired_of_hasExpired hexpired]
  rfl

end Decisions

/-! ## What stands in the way of a new request -/

/-- A request of the group that is stored as pending and names one of the two slots. -/
def PendingOn (groupId a b : Uuid) (w : SwapRequest) : Prop :=
  w.groupId = groupId ∧ w.status = .pending ∧ (w.fromSlotId ∈ [a, b] ∨ w.toSlotId ∈ [a, b])

instance (groupId a b : Uuid) : DecidablePred (PendingOn groupId a b) := fun w ↦
  inferInstanceAs (Decidable (w.groupId = groupId ∧ w.status = .pending ∧
    (w.fromSlotId ∈ [a, b] ∨ w.toSlotId ∈ [a, b])))

/-- The database without the pending requests on the two slots. -/
def withoutPending (db : Db) (groupId a b : Uuid) : Db :=
  { db with swapRequests := db.swapRequests.delete fun w ↦ PendingOn groupId a b w }

/-- The new request meets every condition of `create` but that on conflicting requests: it would be
stored if there were none. -/
def MeetsOtherConditions (ctx : Ctx) (db : Db) (userId groupId : Uuid)
    (dto : CreateSwapRequestDto) : Prop :=
  ∃ r, createSwap ctx (withoutPending db groupId dto.fromSlotId dto.toSlotId) userId groupId dto =
    .ok r

/-- The refusal of `create` for the sake of another request. -/
def conflictingSwap : ServiceError := conflict "A conflicting swap request already exists"

theorem withoutPending_eq_self {a b : Uuid}
    (h : ∀ w ∈ db.swapRequests.rows, ¬ PendingOn groupId a b w) :
    withoutPending db groupId a b = db := by
  have hrows : (db.swapRequests.delete fun w ↦ PendingOn groupId a b w) = db.swapRequests := by
    apply Table.ext
    rw [Table.rows_delete, List.filter_eq_self]
    intro w hw
    simpa using h w hw
  rw [withoutPending, hrows]

/-- A pending request on one of the slots stands in the way, expired or not. -/
theorem createSwap_eq_conflict {dto : CreateSwapRequestDto} {w : SwapRequest}
    (hother : MeetsOtherConditions ctx db userId groupId dto) (hw : w ∈ db.swapRequests.rows)
    (hon : PendingOn groupId dto.fromSlotId dto.toSlotId w) :
    createSwap ctx db userId groupId dto = .error conflictingSwap := by
  obtain ⟨r, hr⟩ := hother
  simp only [createSwap, bind_eq_ok, require_eq_ok, orThrow_eq_ok, exists_const] at hr
  obtain ⟨hne, membership, hmember, group, hgroup, hstatus, howners, origin, horigin, target,
    htarget, hrole, -⟩ := hr
  have hfrom : origin.id = dto.fromSlotId := by simpa using List.find?_some horigin
  have hto : target.id = dto.toSlotId := by simpa using List.find?_some htarget
  -- None of the checks before that on conflicting requests reads the requests.
  refine bind_eq_error.mpr (.inr ⟨⟨⟩, require_of hne, ?_⟩)
  refine bind_eq_error.mpr (.inr ⟨membership, hmember, ?_⟩)
  refine bind_eq_error.mpr (.inr ⟨group, orThrow_eq_ok.mpr hgroup, ?_⟩)
  refine bind_eq_error.mpr (.inr ⟨⟨⟩, require_of hstatus, ?_⟩)
  refine bind_eq_error.mpr (.inr ⟨⟨⟩, require_of howners, ?_⟩)
  refine bind_eq_error.mpr (.inr ⟨origin, orThrow_eq_ok.mpr horigin, ?_⟩)
  refine bind_eq_error.mpr (.inr ⟨target, orThrow_eq_ok.mpr htarget, ?_⟩)
  refine bind_eq_error.mpr (.inr ⟨⟨⟩, require_of hrole, ?_⟩)
  refine bind_eq_error.mpr (.inl (require_eq_error.mpr ⟨fun hnone ↦ ?_, rfl⟩))
  rw [hfrom, hto] at hnone
  exact Table.not_of_find?_eq_none hnone hw (decide_eq_true hon)

/-- Both ways in which an expired request could be out of the way, in any state.  A new request that
meets all other conditions is taken exactly when there is no pending request on its slots at all;
and a decision on an expired request marks it as expired, throws, and leaves it stored as pending. -/
theorem expired_requests_block (db : Db) :
    (∀ (ctx : Ctx) (userId groupId : Uuid) (dto : CreateSwapRequestDto),
      MeetsOtherConditions ctx db userId groupId dto →
      (∀ w ∈ db.swapRequests.rows, PendingOn groupId dto.fromSlotId dto.toSlotId w →
        SwapRequest.HasExpired w ctx.now) →
      (createSwap ctx db userId groupId dto ≠ .error conflictingSwap ↔
        ∀ w ∈ db.swapRequests.rows, ¬ PendingOn groupId dto.fromSlotId dto.toSlotId w)) ∧
    ∀ (ctx : Ctx) (userId : Uuid) (reason : Option String), ∀ w ∈ db.swapRequests.rows,
      w.status = .pending → SwapRequest.HasExpired w ctx.now →
      ∀ body ∈ [approveWithin ctx userId w.groupId w.id reason,
          rejectWithin ctx userId w.groupId w.id reason],
        StoredExpired (body.run db).2 w.id ∧
          serializable body db = .error (conflict "Swap request has expired") ∧
          ¬ StoredExpired (committed db (serializable body db)) w.id := by
  constructor
  · intro ctx userId groupId dto hother _
    constructor
    · intro hne w hw hon
      exact hne (createSwap_eq_conflict hother hw hon)
    · intro hnone herror
      obtain ⟨r, hr⟩ := hother
      rw [withoutPending_eq_self hnone, herror] at hr
      cases hr
  · intro ctx userId reason w hw hst hexpired body hbody
    have hwithin := requirePendingWithin_of_hasExpired hw hst hexpired
    have hrun : body.run db =
        (.error (conflict "Swap request has expired"), expireSwap w.id db) := by
      simp only [List.mem_cons, List.not_mem_nil, or_false] at hbody
      rcases hbody with rfl | rfl
      · exact Body.run_bind_of_error hwithin
      · exact Body.run_bind_of_error hwithin
    have hthrows : serializable body db = .error (conflict "Swap request has expired") := by
      rw [serializable, hrun]
    refine ⟨?_, hthrows, ?_⟩
    · rw [hrun]
      exact storedExpired_expireSwap hw
    · rw [hthrows, committed_error]
      rintro ⟨x, hx, hid, hxst⟩
      rw [swap_eq_of_id hx hw hid, hst] at hxst
      cases hxst

section Sample

/-- More than three days after the first calls. -/
def lateCtx : Ctx := ⟨300000000, fun k ↦ .ofNat (9000 + k)⟩

/-- The two slots of the sample group, to be exchanged. -/
def sampleDto : CreateSwapRequestDto := ⟨.ofNat 41, .ofNat 42, none⟩

/-- The administrator asks to exchange the slots, and approves when it is too late. -/
def lateApproval : List Call :=
  [sampleSwap, .approveSwap lateCtx (.ofNat 1) (.ofNat 30) (.ofNat 5000) none]

instance (ctx : Ctx) (db : Db) (userId groupId : Uuid) (dto : CreateSwapRequestDto) :
    Decidable (MeetsOtherConditions ctx db userId groupId dto) :=
  match h : createSwap ctx (withoutPending db groupId dto.fromSlotId dto.toSlotId) userId groupId
      dto with
  | .ok r => isTrue ⟨r, h⟩
  | .error _ => isFalse fun ⟨_, hr⟩ ↦ nomatch h.symm.trans hr

/-- A request is made, and a decision on it comes after the three days: the decision fails, the
request stays pending, and no request on the two slots is taken any more. -/
theorem expired_swap_blocks_create :
    (¬ ∀ calls : List Call, ∀ (ctx : Ctx) (userId groupId : Uuid) (dto : CreateSwapRequestDto),
      MeetsOtherConditions ctx (calls.foldl step sampleGroup) userId groupId dto →
      (∀ w ∈ (calls.foldl step sampleGroup).swapRequests.rows,
        PendingOn groupId dto.fromSlotId dto.toSlotId w → SwapRequest.HasExpired w ctx.now) →
      createSwap ctx (calls.foldl step sampleGroup) userId groupId dto ≠ .error conflictingSwap) ∧
    ¬ ∀ calls : List Call, ∀ (ctx : Ctx) (userId : Uuid) (reason : Option String),
      ∀ w ∈ (calls.foldl step sampleGroup).swapRequests.rows,
        w.status = .pending → SwapRequest.HasExpired w ctx.now →
        StoredExpired (committed (calls.foldl step sampleGroup)
          (serializable (approveWithin ctx userId w.groupId w.id reason)
            (calls.foldl step sampleGroup))) w.id := by
  constructor
  · intro hclaim
    refine hclaim lateApproval lateCtx (.ofNat 1) (.ofNat 30) sampleDto (by decide +kernel)
      (by decide +kernel) (createSwap_eq_conflict (by decide +kernel)
        (w := (lateApproval.foldl step sampleGroup).swapRequests.rows.head (by decide +kernel))
        (by decide +kernel) (by decide +kernel))
  · intro hclaim
    have hexpired := hclaim [sampleSwap] lateCtx (.ofNat 1) none
      ((step sampleGroup sampleSwap).swapRequests.rows.head (by decide +kernel))
      (by decide +kernel) (by decide +kernel) (by decide +kernel)
    rw [StoredExpired] at hexpired
    revert hexpired
    decide +kernel

/-- With no request on the slots a new one is taken. -/
theorem expired_requests_block_sample :
    (createSwap lateCtx sampleGroup (.ofNat 1) (.ofNat 30) sampleDto ≠ .error conflictingSwap ↔
      ∀ w ∈ sampleGroup.swapRequests.rows, ¬ PendingOn (.ofNat 30) (.ofNat 41) (.ofNat 42) w) ∧
    ∀ w ∈ (lateApproval.foldl step sampleGroup).swapRequests.rows,
      ¬ StoredExpired (committed (lateApproval.foldl step sampleGroup)
        (serializable (approveWithin lateCtx (.ofNat 2) w.groupId w.id none)
          (lateApproval.foldl step sampleGroup))) w.id := by
  refine ⟨(expired_requests_block sampleGroup).1 lateCtx (.ofNat 1) (.ofNat 30) sampleDto
    (by decide +kernel) (by decide +kernel), fun w hw ↦ ?_⟩
  have hall : ∀ w ∈ (lateApproval.foldl step sampleGroup).swapRequests.rows,
      w.status = .pending ∧ SwapRequest.HasExpired w lateCtx.now := by decide +kernel
  exact ((expired_requests_block (lateApproval.foldl step sampleGroup)).2 lateCtx (.ofNat 2) none w
    hw (hall w hw).1 (hall w hw).2 _ (List.mem_cons_self ..)).2.2

end Sample

end AjoCloud.Ajo
