import AjoCloud.Ajo.Effect

/-!
# The outcome of every call

Payouts, swaps and assigned statuses, and with them `step_outcome`: whatever the call, the books
saw one effect and the ledger's keys are still backed.
-/

namespace AjoCloud.Ajo

open Lib ServiceError Ledger Payments

variable {ctx : Ctx} {db db' : Db} {userId g : Uuid} {call : Call}

/-! ## Payouts -/

/-- The steps of a payout that went through. -/
structure PayoutSettled (ctx : Ctx) (db : Db) (userId : Uuid) (r : PayoutSchedule)
    (slot : AjoSlot) (p : Payout) (db' : Db) (recipient : AjoGroupMember)
    (wallet : FinancialAccount) (pool : Uuid) (opened : Db) (posting : LedgerReference)
    (ledger : Ledger) : Prop where
  executable : canExecutePayout r.status = true
  collected : isCycleFullyCollected
    (db.contributionSchedules.findMany fun s ↦ s.cycleId = r.cycleId) = true
  holder : db.ajoGroupMembers.find? (fun m ↦ m.id = slot.memberId) = some recipient
  credit : poolAccountWithin db (ctx.uuid 1) r.groupId r.currency = .ok (pool, opened)
  account : memberWalletAccount opened recipient.userId r.currency = .ok wallet
  covered : r.amountDueMinor ≤ opened.balance pool
  post : opened.ledger.postWithin (ctx.uuid 0)
    (payoutPosting ctx userId r.groupId r pool wallet.id) = .ok (posting, ledger)
  row : p = newPayout (ctx.uuid 2) r.groupId slot.memberId r posting.id
  fresh : ∀ x ∈ opened.payouts.rows, ¬ Schema.Clash x p
  payouts : db'.payouts.rows = opened.payouts.rows ++ [p]
  after : db' = { opened with
    ledger := ledger
    payouts := db'.payouts
    payoutSchedules := opened.payoutSchedules.modify (fun s ↦ s.id = r.id) (markPaid r) fun h ↦ h }

theorem payOut_eq_ok {r : PayoutSchedule} {slot : AjoSlot} {p : Payout}
    (h : payOut ctx db userId r.groupId r slot = .ok (p, db')) :
    ∃ recipient wallet pool opened posting ledger,
      PayoutSettled ctx db userId r slot p db' recipient wallet pool opened posting ledger := by
  simp only [payOut, bind_eq_ok, require_eq_ok, orThrow_eq_ok, pure_eq_ok, exists_const,
    Prod.exists, Prod.mk.injEq] at h
  obtain ⟨hexec, hcoll, recipient, hrec, _, -, pool, opened, hpool, wallet, hwallet, hcov, posting,
    ledger, hpost, payouts, hins, rfl, rfl⟩ := h
  obtain ⟨hfresh, hrows⟩ := Table.insert_eq_some.mp hins
  exact ⟨recipient, wallet, pool, opened, posting, ledger, hexec, hcoll, hrec, hpool, hwallet,
    not_lt.mp hcov, hpost, rfl, hfresh, hrows, rfl⟩

/-- The two movements of a payout. -/
theorem net_payoutPosting (ctx : Ctx) (userId g : Uuid) (r : PayoutSchedule) {pool wallet : Uuid}
    (hne : wallet ≠ pool) :
    Journal.net (payoutPosting ctx userId g r pool wallet).legs pool = -r.amountDueMinor := by
  simp [payoutPosting, LedgerPostingCommand.legs, LedgerPostingEntry.leg, Journal.net_cons, hne]

/-- A payout under an unused key took its amount from the pool of its own group. -/
theorem PayoutSettled.outcome {r : PayoutSchedule} {slot : AjoSlot} {p : Payout}
    {recipient : AjoGroupMember} {wallet : FinancialAccount} {pool : Uuid} {opened : Db}
    {posting : LedgerReference} {ledger : Ledger} (hkeyed : WellKeyed db)
    (hr : r ∈ db.payoutSchedules.rows)
    (hunused : ∀ x ∈ db.payouts.rows, x.idempotencyKey ≠ payoutIdempotencyKey r.id)
    (h : PayoutSettled ctx db userId r slot p db' recipient wallet pool opened posting ledger) :
    PaidOut db db' r p ∧ Keeps db db' ∧ Logged db db' := by
  obtain ⟨hopenedDb, hopened, a, ha, rfl, hcode⟩ := poolAccountWithin_eq_ok h.credit
  have hw := memberWalletAccount_eq_ok h.account
  have hwpurpose : wallet.purpose ≠ some .ajoGroupPool := by simp [hw.purpose]
  have hne := id_ne_pool hw.mem hwpurpose ha hcode
  have hfresh := h.fresh
  have hrows := h.payouts
  have hdb' := h.after
  rw [hopenedDb] at hfresh hrows hdb'
  obtain ⟨hbalanced, hposted⟩ := postWithin_eq_ok h.post
  -- A key with no payout behind it is not in the ledger, so the posting is no replay.
  cases hposted with
  | replayed existing hmem hkey _ _ =>
      rw [hopened.transactions] at hmem
      obtain ⟨x, hx, hxk⟩ := (hkeyed existing hmem).payout r.id hkey
      exact absurd (hxk.trans hkey) (hunused x hx)
  | appended _ created _ =>
      have htx := (createTransaction_eq_ok created).2.2.2.2
      rw [hopened.transactions] at htx
      have hcovered : r.amountDueMinor ≤ poolBalance db r.groupId := by
        rw [poolBalance, ← hopened.codeBalance, codeBalance_eq ha hcode]
        exact h.covered
      refine ⟨⟨hr, h.executable, h.collected, hcovered, ?_, ?_, hfresh, hrows, ?_, ?_⟩, ?_, ?_⟩
      · exact hbalanced.pos ⟨a.id, .debit, r.amountDueMinor⟩ (List.mem_cons_self ..)
      · rw [h.row]
        exact ⟨rfl, rfl, rfl, rfl, rfl, rfl⟩
      · rw [hdb']
        rfl
      · intro g
        have hpools := family_pool.codeBalance_posting created ha hcode (by
          intro e he
          simp only [payoutPosting, List.mem_cons, List.not_mem_nil, or_false] at he
          rcases he with rfl | rfl
          · exact .inl rfl
          · exact .inr ⟨wallet, hw.mem, rfl, hwpurpose⟩) g
        rw [net_payoutPosting ctx userId r.groupId r hne] at hpools
        rw [poolBalance, hdb', hpools, hopened.codeBalance, sub_eq_add_neg]
        split
        · rfl
        · rfl
      · exact .of_append [] [p] [] (by rw [hdb', List.append_nil]) hrows
          (by rw [hdb', List.append_nil])
      · refine .one (postedTransaction (ctx.uuid 0) _) (by rw [hdb']; exact htx)
          (backed_payoutKey (o := p) ?_ (by rw [h.row]; rfl))
        rw [hrows]
        exact List.mem_append_right _ (List.mem_singleton_self _)

/-- What `settlePayout` answered: an earlier payout, or one it made now. -/
theorem settlePayout_eq_ok {id : Uuid} {p : Payout}
    (h : settlePayout ctx db userId g id = .ok (p, db')) :
    ∃ r ∈ db.payoutSchedules.rows, r.id = id ∧ r.groupId = g ∧
      ∃ slot, db.ajoSlots.find? (fun s ↦ s.id = r.slotId) = some slot ∧
        (db' = db ∨
          ((∀ x ∈ db.payouts.rows, x.idempotencyKey ≠ payoutIdempotencyKey r.id) ∧
            payOut ctx db userId r.groupId r slot = .ok (p, db'))) := by
  simp only [settlePayout, bind_eq_ok, require_eq_ok, orThrow_eq_ok, exists_const] at h
  obtain ⟨r, hr, rfl, slot, hslot, _, -, h⟩ := h
  have hid : r.id = id := by simpa using Table.prop_of_find? hr
  subst hid
  refine ⟨r, Table.mem_of_find? hr, rfl, rfl, slot, hslot, ?_⟩
  split at h
  · rw [pure_eq_ok, Prod.mk.injEq] at h
    exact .inl h.2.symm
  · next hnone =>
      exact .inr ⟨fun x hx ↦ by simpa using Table.not_of_find?_eq_none hnone hx, h⟩

/-- A payout is held only while it could still be made. -/
theorem executable_of_payoutHeld {id : Uuid} {message : String} {status : HttpStatus}
    (h : settlePayout ctx db userId g id = .error (.payoutHeld message status)) :
    ∀ r ∈ db.payoutSchedules.rows, r.id = id → canExecutePayout r.status = true := by
  simp only [settlePayout, assertGroupAdmin, bind_eq_error, require_eq_error, orThrow_eq_error,
    require_eq_ok, orThrow_eq_ok, notFound, forbidden, reduceCtorEq, and_false, false_or,
    exists_false, exists_const] at h
  obtain ⟨r, hr, rfl, slot, -, _, -, h⟩ := h
  intro r' hr' hid
  have hrid : r.id = id := by simpa using Table.prop_of_find? hr
  have heq := db.payoutSchedules.eq_of_clash hr' (Table.mem_of_find? hr)
    (.inl (.inl (hid.trans hrid.symm)))
  subst heq
  split at h
  · cases h
  · rw [payOut, bind_eq_error] at h
    rcases h with h | ⟨_, h, -⟩
    · cases (require_eq_error.mp h).2
    · exact require_eq_ok.mp h

/-- What a call of `executePayout` left: the database it found, a payout, or a hold. -/
inductive PayoutAnswer (ctx : Ctx) (db : Db) (userId g id : Uuid) (db' : Db) : Prop
  | /-- Nothing was written. -/
    nothing (same : db' = db)
  | /-- The payout was made. -/
    paid (r : PayoutSchedule) (slot : AjoSlot) (p : Payout) (mem : r ∈ db.payoutSchedules.rows)
      (id_eq : r.id = id) (group_eq : r.groupId = g)
      (slot_eq : db.ajoSlots.find? (fun s ↦ s.id = r.slotId) = some slot)
      (unused : ∀ x ∈ db.payouts.rows, x.idempotencyKey ≠ payoutIdempotencyKey r.id)
      (pay : payOut ctx db userId r.groupId r slot = .ok (p, db'))
  | /-- The payout was put on hold. -/
    held (hold : db' = holdPayout db id)
      (executable : ∀ r ∈ db.payoutSchedules.rows, r.id = id → canExecutePayout r.status = true)

theorem executePayout_cases (ctx : Ctx) (db : Db) (userId g id : Uuid) :
    PayoutAnswer ctx db userId g id (executePayout ctx db userId g id).2 := by
  unfold executePayout
  split
  · next p db' h =>
      obtain ⟨r, hr, hid, hg, slot, hslot, rfl | ⟨hunused, hpay⟩⟩ := settlePayout_eq_ok h
      · exact .nothing rfl
      · exact .paid r slot p hr hid hg hslot hunused hpay
  · next message status h => exact .held rfl (executable_of_payoutHeld h)
  · exact .nothing rfl

theorem executePayout_outcome (hkeyed : WellKeyed db) {id : Uuid}
    (hcall : call.payoutRow = some id) :
    Outcome call db (executePayout ctx db userId g id).2 := by
  cases executePayout_cases ctx db userId g id with
  | nothing same =>
      rw [same]
      exact .refl call db
  | paid r slot p hr hid _ _ hunused hpay =>
      obtain ⟨_, _, _, _, _, _, hsettled⟩ := payOut_eq_ok hpay
      obtain ⟨hpaid, hkeeps, hlogged⟩ := hsettled.outcome hkeyed hr hunused
      exact ⟨.paidOut r p hpaid (hid ▸ hcall), hkeeps, hlogged⟩
  | held hold executable =>
      refine ⟨.held id hold executable, ?_, ?_⟩
      · rw [hold]
        exact .of_append [] [] [] (List.append_nil _).symm (List.append_nil _).symm
          (List.append_nil _).symm
      · rw [hold]
        exact .none rfl

/-! ## Swaps -/

/-- Nothing was written but requests, decisions and fees of swaps, and no swap was executed. -/
structure SwapsOnly (db db' : Db) : Prop where
  after : db' = { db with
    swapRequests := db'.swapRequests
    swapApprovals := db'.swapApprovals
    feeAssessments := db'.feeAssessments }
  executed : executedSwaps db' = executedSwaps db

theorem SwapsOnly.outcome (h : SwapsOnly db db') : Outcome call db db' := by
  refine .idle ?_ (by rw [h.after]) [] (by rw [h.after, List.append_nil])
  have hexecuted := h.executed
  rw [h.after] at hexecuted ⊢
  rw [books, hexecuted]
  rfl

/-- Rewriting requests without executing one leaves the executed ones as they are. -/
theorem executedSwaps_eq_of_map {f : SwapRequest → SwapRequest}
    (hrows : db'.swapRequests.rows = db.swapRequests.rows.map f)
    (h : ∀ w ∈ db.swapRequests.rows, (f w).groupId = w.groupId ∧
      (f w).previousScheduleVersion = w.previousScheduleVersion ∧
      ((f w).status = .executed ↔ w.status = .executed)) :
    executedSwaps db' = executedSwaps db := by
  ext v
  simp only [executedSwaps, hrows, List.mem_map, Set.mem_ofPred_eq]
  constructor
  · rintro ⟨_, ⟨w, hw, rfl⟩, hst, rfl⟩
    obtain ⟨hg, hv, hiff⟩ := h w hw
    exact ⟨w, hw, hiff.mp hst, by rw [hg, hv]⟩
  · rintro ⟨w, hw, hst, rfl⟩
    obtain ⟨hg, hv, hiff⟩ := h w hw
    exact ⟨f w, ⟨w, hw, rfl⟩, hiff.mpr hst, by rw [hg, hv]⟩

/-- A request that has not been executed adds no executed one. -/
theorem executedSwaps_eq_of_append {w : SwapRequest}
    (hrows : db'.swapRequests.rows = db.swapRequests.rows ++ [w]) (hw : w.status ≠ .executed) :
    executedSwaps db' = executedSwaps db := by
  ext v
  simp only [executedSwaps, hrows, List.mem_append, List.mem_singleton, Set.mem_ofPred_eq]
  constructor
  · rintro ⟨x, hx | rfl, hst, hv⟩
    · exact ⟨x, hx, hst, hv⟩
    · exact absurd hst hw
  · rintro ⟨x, hx, hst, hv⟩
    exact ⟨x, .inl hx, hst, hv⟩

theorem assessSwapFee_swapsOnly {swapId : Uuid} {currency : String} {base : Int}
    (h : assessSwapFee ctx db swapId currency base = .ok db') : SwapsOnly db db' := by
  obtain ⟨_, requests, f, rfl, hrows, hf⟩ := assessSwapFee_eq_ok h
  refine ⟨rfl, executedSwaps_eq_of_map hrows fun w _ ↦ ?_⟩
  obtain ⟨_, heq⟩ := hf w
  rw [heq]
  exact ⟨rfl, rfl, .rfl⟩

theorem createSwap_swapsOnly {dto : CreateSwapRequestDto} {w : SwapRequest}
    (h : createSwap ctx db userId g dto = .ok (w, db')) : SwapsOnly db db' := by
  simp only [createSwap, bind_eq_ok, require_eq_ok, orThrow_eq_ok, pure_eq_ok, exists_const,
    Prod.mk.injEq] at h
  obtain ⟨-, membership, -, group, -, -, -, origin, -, target, -, -, -, -, -, -, requests, hins,
    db₂, hfee, rfl, rfl⟩ := h
  have hassess := assessSwapFee_swapsOnly hfee
  refine ⟨by rw [hassess.after], hassess.executed.trans ?_⟩
  exact executedSwaps_eq_of_append (Table.rows_of_insert hins) (by simp [newSwapRequest])

theorem upsertApproval_eq_ok {swapId memberId : Uuid} {decision : SwapApprovalDecision}
    {reason : Option String} (h : upsertApproval ctx db swapId memberId decision reason = .ok db') :
    db' = { db with swapApprovals := db'.swapApprovals } := by
  unfold upsertApproval at h
  split at h
  · cases h
    rfl
  · simp only [bind_eq_ok, orThrow_eq_ok, pure_eq_ok] at h
    obtain ⟨_, -, rfl⟩ := h
    rfl

theorem requirePending_eq_ok {swapId : Uuid} {w : SwapRequest}
    (h : requirePending ctx db g swapId = .ok w) :
    w ∈ db.swapRequests.rows ∧ w.id = swapId ∧ w.groupId = g ∧ w.status = .pending := by
  simp only [requirePending, assertSwapNotExpired, bind_eq_ok, require_eq_ok, orThrow_eq_ok,
    pure_eq_ok, exists_const] at h
  obtain ⟨w', hfind, hst, -, rfl⟩ := h
  have hp := Table.prop_of_find? hfind
  simp only [decide_eq_true_eq] at hp
  exact ⟨Table.mem_of_find? hfind, hp.1, hp.2, hst⟩

theorem swap_eq_of_id {w w' : SwapRequest} (hw : w ∈ db.swapRequests.rows)
    (hw' : w' ∈ db.swapRequests.rows) (h : w.id = w'.id) : w = w' :=
  db.swapRequests.eq_of_clash hw hw' (.inl h)

/-- An executed swap is the stored request it answers for, marked as executed. -/
structure Executes (ctx : Ctx) (db db' : Db) (w r : SwapRequest) : Prop where
  mem : w ∈ db.swapRequests.rows
  pending : w.status = .pending
  answer : r = { w with
    status := .executed
    resultingScheduleVersion := some (w.previousScheduleVersion + 1) }
  swapped : Swapped db db' w ctx

theorem executeSwap_eq_ok {swapId : Uuid} {r : SwapRequest}
    (h : executeSwap ctx db userId swapId = .ok (r, db')) :
    ∃ w, w.id = swapId ∧ Executes ctx db db' w r := by
  simp only [executeSwap, bind_eq_ok, require_eq_ok, orThrow_eq_ok, pure_eq_ok, exists_const,
    Prod.mk.injEq] at h
  obtain ⟨w, hw, group, hgroup, hst, -, hversion, -, payoutSchedules, hins, versions, -, rfl,
    rfl⟩ := h
  have hwmem := Table.mem_of_find? hw
  have hgid : group.id = w.groupId := by simpa using Table.prop_of_find? hgroup
  refine ⟨w, by simpa using Table.prop_of_find? hw, hwmem, hst, rfl,
    ⟨group, Table.mem_of_find? hgroup, hgid, hversion⟩, Table.rows_of_insertMany hins, ?_, rfl, rfl⟩
  have hexecuted : executedSwaps { db with
      swapRequests := db.swapRequests.modify (fun s ↦ s.id = w.id)
        (fun s ↦ { s with
          status := .executed
          resultingScheduleVersion := some (w.previousScheduleVersion + 1) }) fun h ↦ h } =
      insert (w.groupId, w.previousScheduleVersion) (executedSwaps db) := by
    ext v
    simp only [executedSwaps, Table.mem_modify, Set.mem_ofPred_eq, Set.mem_insert_iff,
      decide_eq_true_eq, decide_eq_false_iff_not]
    constructor
    · rintro ⟨_, ⟨hx, hne⟩ | ⟨x, hx, hid, rfl⟩, hxst, hv⟩
      · exact .inr ⟨_, hx, hxst, hv⟩
      · rw [swap_eq_of_id hx hwmem hid] at hv
        exact .inl hv.symm
    · rintro (rfl | ⟨x, hx, hxst, hv⟩)
      · exact ⟨_, .inr ⟨w, hwmem, rfl, rfl⟩, rfl, rfl⟩
      · refine ⟨x, .inl ⟨hx, fun hid ↦ ?_⟩, hxst, hv⟩
        rw [swap_eq_of_id hx hwmem hid, hst] at hxst
        cases hxst
  rw [← hexecuted]
  rfl

/-- A swap executed after an approval was recorded, seen from before the approval. -/
theorem Executes.of_approvals {db₁ : Db} {w r : SwapRequest}
    (hdb₁ : db₁ = { db with swapApprovals := db₁.swapApprovals })
    (h : Executes ctx db₁ db' w r) : Executes ctx db db' w r := by
  have hs := h.swapped
  rw [hdb₁] at hs
  exact ⟨by rw [hdb₁] at h; exact h.mem, h.pending, h.answer, hs.group, hs.payoutSchedules,
    hs.books, hs.ledger, hs.intents⟩

/-- An approval either waits for others or executes the swap it was the last one for. -/
theorem approveSwap_eq_ok {swapId : Uuid} {reason : Option String} {r : SwapRequest}
    (h : approveSwap ctx db userId g swapId reason = .ok (r, db')) :
    (r.status = .pending ∧ SwapsOnly db db') ∨
      ∃ w, w.id = swapId ∧ w.groupId = g ∧ Executes ctx db db' w r := by
  simp only [approveSwap, bind_eq_ok, require_eq_ok, exists_const] at h
  obtain ⟨w, hw, membership, -, -, db₁, hupsert, h⟩ := h
  obtain ⟨hmem, hid, hgroup, hst⟩ := requirePending_eq_ok hw
  have hdb₁ := upsertApproval_eq_ok hupsert
  split at h
  · rw [bind_eq_ok] at h
    obtain ⟨_, -, h⟩ := h
    obtain ⟨w', hid', hexec⟩ := executeSwap_eq_ok h
    have hexec' := hexec.of_approvals hdb₁
    have heq := swap_eq_of_id hmem hexec'.mem hid'.symm
    subst heq
    exact .inr ⟨w, hid, hgroup, hexec'⟩
  · rw [pure_eq_ok, Prod.mk.injEq] at h
    obtain ⟨rfl, rfl⟩ := h
    refine .inl ⟨hst, by rw [hdb₁], ?_⟩
    rw [hdb₁]
    rfl

theorem rejectSwap_swapsOnly {swapId : Uuid} {reason : Option String} {r : SwapRequest}
    (h : rejectSwap ctx db userId g swapId reason = .ok (r, db')) : SwapsOnly db db' := by
  simp only [rejectSwap, bind_eq_ok, require_eq_ok, orThrow_eq_ok, pure_eq_ok, exists_const,
    Prod.mk.injEq] at h
  obtain ⟨w, hw, membership, -, -, db₁, hupsert, rfl, rfl⟩ := h
  obtain ⟨hmem, -, -, hst⟩ := requirePending_eq_ok hw
  have hdb₁ := upsertApproval_eq_ok hupsert
  refine ⟨by rw [hdb₁], executedSwaps_eq_of_map (by rw [hdb₁]; rfl) fun x hx ↦ ?_⟩
  split
  · next hid =>
      rw [swap_eq_of_id hx hmem (of_decide_eq_true hid), hst]
      exact ⟨rfl, rfl, by simp, by simp⟩
  · exact ⟨rfl, rfl, .rfl⟩

/-! ## Every call -/

theorem approveSwap_outcome {swapId : Uuid} {reason : Option String} {r : SwapRequest}
    (hcall : call.isSwap = true)
    (h : approveSwap ctx db userId g swapId reason = .ok (r, db')) : Outcome call db db' := by
  rcases approveSwap_eq_ok h with ⟨-, honly⟩ | ⟨w, -, -, hexec⟩
  · exact honly.outcome
  · have hs := hexec.swapped
    have hc : db'.contributions = db.contributions := congrArg Books.contributions hs.books
    have hp : db'.payouts = db.payouts := congrArg Books.payouts hs.books
    refine ⟨.swapped w ctx hs hcall, ?_, .none (by rw [hs.ledger])⟩
    exact .of_append [] [] [] (by rw [hc, List.append_nil]) (by rw [hp, List.append_nil])
      (by rw [hs.intents, List.append_nil])

/-- A transaction whose every success has an outcome has one when it is committed. -/
theorem outcome_committed {α : Type} {result : Except ServiceError (α × Db)}
    (h : ∀ a db', result = .ok (a, db') → Outcome call db db') :
    Outcome call db (committed db result) := by
  rcases result with e | ⟨a, db'⟩
  · exact .refl call db
  · exact h a db' rfl

/-- Whatever the call, it had one effect on the books and left the keys backed. -/
theorem step_outcome (hkeyed : WellKeyed db) (call : Call) : Outcome call db (step db call) := by
  cases call with
  | payContribution ctx userId groupId scheduleId dto =>
      exact outcome_committed fun _ _ h ↦ payContribution_outcome hkeyed h
  | createIntent ctx userId dto key => exact outcome_committed fun _ _ h ↦ create_outcome h
  | settleIntent ctx userId intentId key =>
      exact outcome_committed fun _ _ h ↦ settleIntent_outcome hkeyed h
  | executePayout ctx userId groupId payoutScheduleId =>
      exact executePayout_outcome hkeyed rfl
  | createSwap ctx userId groupId dto =>
      exact outcome_committed fun _ _ h ↦ (createSwap_swapsOnly h).outcome
  | approveSwap ctx userId groupId swapId reason =>
      exact outcome_committed fun _ _ h ↦ approveSwap_outcome rfl h
  | rejectSwap ctx userId groupId swapId reason =>
      exact outcome_committed fun _ _ h ↦ (rejectSwap_swapsOnly h).outcome
  | assignStatus scheduleId writeOff =>
      exact ⟨.assigned scheduleId writeOff rfl rfl, .of_append [] [] [] (List.append_nil _).symm
        (List.append_nil _).symm (List.append_nil _).symm, .none rfl⟩

/-- The keys of the ledger stay backed. -/
theorem wellKeyed_step (hkeyed : WellKeyed db) (call : Call) : WellKeyed (step db call) :=
  have h := step_outcome hkeyed call
  hkeyed.of_logged h.keeps h.logged

end AjoCloud.Ajo
