import AjoCloud.Platform.Resolution

/-!
# No reserve is stranded

A bill's money is held from the moment its reserve commits until the provider's answer is applied.
`reconcile` takes up a bill only once something has set its reconciliation state, so a bill whose
request is lost before that is held for good.  This module says when none is: as long as no process
stops with an unanswered bill, and every answer about an unanswered bill can be written.
-/

namespace AjoCloud.Platform

open Lib Ledger Payments Bills

variable {config : BillConfig} {db db' : Db}

/-! ## Answers that can be written -/

/-- The event under whose key a bill's money was paid out or given back. -/
def closingEvent : BillPaymentStatus → Option String
  | .successful => some "settle:"
  | .failed => some "release:"
  | .reversed => some "reversal:"
  | _ => none

/-- The money was paid out or given back, as the bill's status says. -/
def Resolved (db : Db) (b : BillPayment) : Prop :=
  ∃ event ∈ closingEvent b.status, ∃ t ∈ db.ledger.transactions.rows,
    t.idempotencyKey = billKey event b.id

/-- `reconcile` takes the bill up. -/
def Awaiting (b : BillPayment) : Prop :=
  b.status = .reconciliationRequired ∧ b.reconciliationState = .pending

/-- The bill's first attempt is on record. -/
def Attempted (db : Db) (b : BillPayment) : Prop :=
  ∃ a ∈ db.bills.attempts.rows, a.billPaymentId = b.id ∧ a.attemptNumber = 1

/-- The bill's accounts are configured, and the ledger takes the posting made on them. -/
def Postable (ctx : Ctx) (db : Db) (b : BillPayment)
    (posting : BillPayment → BillAccounts → LedgerPostingCommand) : Prop :=
  ∃ found, Bills.accounts db b.walletId b.currency = .ok found ∧
    ∃ result, db.ledger.postWithin (ctx.uuid 0) (posting b found) = .ok result

/-- The answer about an unanswered bill can be written: its texts fit, what it posts can be posted,
and it is not that the bill was taken back. -/
def Writable (ctx : Ctx) (db : Db) (b : BillPayment) : Option ProviderBillPayment → Prop
  | none => Attempted db b
  | some result => answerFits result = true ∧ Attempted db b ∧
      match result.state with
      | .pending | .unknown => True
      | .reversed => False
      | .failed => Postable ctx db b releasePosting
      | .successful => Postable ctx db b settlePosting ∧
          ∀ r ∈ db.bills.receipts.rows,
            ¬ Schema.Clash r ⟨ctx.uuid 2, b.id, "RCP-" ++ b.internalReference⟩

/-- A bill that got its outcome is resolved once the posting that goes with it is made. -/
theorem resolved_of_rewritten {id : Uuid} {status : BillPaymentStatus}
    {reconciliation : ReconciliationState → ReconciliationState}
    (h : Rewritten db db' id status reconciliation) {event : String}
    (hevent : closingEvent status = some event) {uuid : Uuid} {command : LedgerPostingCommand}
    {posting : LedgerReference}
    (hpost : db.ledger.postWithin uuid command = .ok (posting, db'.ledger))
    (hkey : command.idempotencyKey = billKey event id) :
    ∀ b ∈ db'.bills.payments.rows, b.id = id → Resolved db' b := by
  intro b hb hid
  rcases h.cases hb with ⟨-, hne⟩ | ⟨-, -, -, -, hstatus, -⟩
  · exact absurd hid hne
  · obtain ⟨t, ht, -, htkey⟩ := exists_key_of_postWithin hpost
    refine ⟨event, hstatus ▸ hevent, t, ht, htkey.trans ?_⟩
    rw [hkey, hid]

/-- A bill that was left for reconciliation is taken up by it. -/
theorem awaiting_of_rewritten {id : Uuid}
    (h : Rewritten db db' id .reconciliationRequired fun _ ↦ .pending) :
    ∀ b ∈ db'.bills.payments.rows, b.id = id → Awaiting b := by
  intro b hb hid
  rcases h.cases hb with ⟨-, hne⟩ | ⟨-, -, -, -, hstatus, hstate⟩
  · exact absurd hid hne
  · exact ⟨hstatus, hstate⟩

theorem markUncertain_awaiting (ctx : Ctx) {b : BillPayment} (hb : b ∈ db.bills.payments.rows)
    {result : Option ProviderBillPayment} (hfits : result.all answerFits = true)
    (hattempt : Attempted db b) :
    ∀ b' ∈ (committed db (markUncertain ctx db b.id result)).bills.payments.rows, b'.id = b.id →
      Awaiting b' := by
  obtain ⟨a, ha, hid, hnumber⟩ := hattempt
  have hok : ∃ r, markUncertain ctx db b.id result = .ok r := by
    refine exists_bind_eq_ok ⟨⟨⟩, require_eq_ok.mpr hfits⟩ fun _ _ ↦ ?_
    refine exists_bind_eq_ok (exists_updateRow hb (decide_eq_true rfl) fun h ↦ h) fun _ _ ↦ ?_
    refine exists_bind_eq_ok (exists_updateRow ha (decide_eq_true ⟨hid, hnumber⟩) fun h ↦ h)
      fun _ _ ↦ ⟨_, rfl⟩
  obtain ⟨⟨_, db'⟩, hok⟩ := hok
  rw [hok]
  exact awaiting_of_rewritten (markUncertain_eq_ok hok).2.1

theorem releaseBill_resolved (ctx : Ctx) {b : BillPayment} (hb : b ∈ db.bills.payments.rows)
    {result : ProviderBillPayment} (hfits : answerFits result = true) (hattempt : Attempted db b)
    {found : BillAccounts}
    (hpost : ∃ r, db.ledger.postWithin (ctx.uuid 0) (releasePosting b found) = .ok r) :
    ∀ b' ∈ (committed db (releaseBill ctx db b found result)).bills.payments.rows, b'.id = b.id →
      Resolved (committed db (releaseBill ctx db b found result)) b' := by
  obtain ⟨a, ha, hid, hnumber⟩ := hattempt
  have hok : ∃ r, releaseBill ctx db b found result = .ok r := by
    refine exists_bind_eq_ok hpost fun _ _ ↦ ?_
    refine exists_bind_eq_ok ⟨⟨⟩, require_eq_ok.mpr hfits⟩ fun _ _ ↦ ?_
    refine exists_bind_eq_ok (exists_updateRow hb (decide_eq_true rfl) fun h ↦ h) fun _ _ ↦ ?_
    refine exists_bind_eq_ok (exists_updateRow ha (decide_eq_true ⟨hid, hnumber⟩) fun h ↦ h)
      fun _ _ ↦ ⟨_, rfl⟩
  obtain ⟨⟨_, db'⟩, hok⟩ := hok
  obtain ⟨posting, hposted, hbills, -⟩ := releaseBill_eq_ok hok
  rw [hok]
  exact resolved_of_rewritten hbills rfl hposted rfl

theorem settleBill_resolved (ctx : Ctx) {b : BillPayment} (hb : b ∈ db.bills.payments.rows)
    {result : ProviderBillPayment} (hfits : answerFits result = true) (hattempt : Attempted db b)
    {found : BillAccounts}
    (hpost : ∃ r, db.ledger.postWithin (ctx.uuid 0) (settlePosting b found) = .ok r)
    (hreceipt : ∀ r ∈ db.bills.receipts.rows,
      ¬ Schema.Clash r ⟨ctx.uuid 2, b.id, "RCP-" ++ b.internalReference⟩) :
    ∀ b' ∈ (committed db (settleBill ctx db b found result)).bills.payments.rows, b'.id = b.id →
      Resolved (committed db (settleBill ctx db b found result)) b' := by
  obtain ⟨a, ha, hid, hnumber⟩ := hattempt
  have hok : ∃ r, settleBill ctx db b found result = .ok r := by
    refine exists_bind_eq_ok hpost fun _ _ ↦ ?_
    refine exists_bind_eq_ok ⟨⟨⟩, require_eq_ok.mpr hfits⟩ fun _ _ ↦ ?_
    refine exists_bind_eq_ok (exists_updateRow hb (decide_eq_true rfl) fun h ↦ h) fun _ _ ↦ ?_
    refine exists_bind_eq_ok (exists_updateRow ha (decide_eq_true ⟨hid, hnumber⟩) fun h ↦ h)
      fun _ _ ↦ ?_
    refine exists_bind_eq_ok ⟨⟨_, _⟩, orThrow_eq_ok.mpr (dif_pos hreceipt)⟩ fun _ _ ↦ ⟨_, rfl⟩
  obtain ⟨⟨_, db'⟩, hok⟩ := hok
  obtain ⟨posting, hposted, hbills, -⟩ := settleBill_eq_ok hok
  rw [hok]
  exact resolved_of_rewritten hbills rfl hposted rfl

/-- A definite answer about an unanswered bill that can be written resolves it. -/
theorem applyProviderResult_resolved (ctx : Ctx) (userId : Uuid) {b : BillPayment}
    (hb : b ∈ db.bills.payments.rows) (hopen : isOpen b.status = true)
    {result : ProviderBillPayment} (hdefinite : isUncertain (some result) = false)
    (hw : Writable ctx db b (some result)) :
    ∀ b' ∈ (applyProviderResult ctx db b.id userId result).bills.payments.rows, b'.id = b.id →
      Resolved (applyProviderResult ctx db b.id userId result) b' := by
  have hunanswered : ¬ (b.status ≠ .pending ∧ b.status ≠ .reconciliationRequired) :=
    fun h ↦ (of_decide_eq_true hopen).elim h.1 h.2
  have hstate := of_decide_eq_false hdefinite
  obtain ⟨hfits, hattempt, hwrite⟩ := hw
  rw [applyProviderResult]
  split
  · next h =>
      rw [h] at hwrite
      exact hwrite.elim
  · next h => exact absurd (.inl h) hstate
  · next h => exact absurd (.inr h) hstate
  · next h =>
      rw [h] at hwrite
      obtain ⟨⟨found, hfound, hpost⟩, hreceipt⟩ := hwrite
      have heq : concludeBill ctx db b.id result = settleBill ctx db b found result := by
        rw [concludeBill, find?_bill hb]
        simp only [orThrow, bind, Except.bind, hunanswered, if_false, hfound, h, reduceCtorEq]
      rw [heq]
      exact settleBill_resolved ctx hb hfits hattempt hpost hreceipt
  · next h =>
      rw [h] at hwrite
      obtain ⟨found, hfound, hpost⟩ := hwrite
      have heq : concludeBill ctx db b.id result = releaseBill ctx db b found result := by
        rw [concludeBill, find?_bill hb]
        simp only [orThrow, bind, Except.bind, hunanswered, if_false, hfound, h, if_true]
      rw [heq]
      exact releaseBill_resolved ctx hb hfits hattempt hpost

/-- An answer about an unanswered bill that can be written resolves it, or leaves it for
`reconcile`. -/
theorem applyAnswer_closed (ctx : Ctx) (userId : Uuid) {b : BillPayment}
    (hb : b ∈ db.bills.payments.rows) (hopen : isOpen b.status = true)
    {answer : Option ProviderBillPayment} (hw : Writable ctx db b answer) :
    ∀ b' ∈ (applyAnswer ctx db b.id userId answer).bills.payments.rows, b'.id = b.id →
      Resolved (applyAnswer ctx db b.id userId answer) b' ∨ Awaiting b' := by
  intro b' hb' hid
  cases answer with
  | none => exact .inr (markUncertain_awaiting ctx hb rfl hw b' hb' hid)
  | some result =>
      cases hanswer : isUncertain (some result) with
      | false => exact .inl (applyProviderResult_resolved ctx userId hb hopen hanswer hw b' hb' hid)
      | true =>
          have hfits : (some result).all answerFits = true := hw.1
          refine .inr (markUncertain_awaiting ctx hb hfits hw.2.1 b' ?_ hid)
          rw [applyAnswer, applyProviderResult] at hb'
          rcases of_decide_eq_true hanswer with h | h
          · simpa only [h] using hb'
          · simpa only [h] using hb'

/-! ## What a step leaves of the bills -/

/-- A posting is never taken out of the ledger. -/
theorem Resolved.mono {b : BillPayment} (h : Resolved db b)
    (hkept : ∀ t ∈ db.ledger.transactions.rows, t ∈ db'.ledger.transactions.rows) :
    Resolved db' b := by
  obtain ⟨event, hevent, t, ht, hkey⟩ := h
  exact ⟨event, hevent, t, hkept t ht, hkey⟩

theorem transactions_kept (config : BillConfig) (db : Db) (call : Call) :
    ∀ t ∈ db.ledger.transactions.rows, t ∈ (step config db call).ledger.transactions.rows := by
  intro t ht
  cases (step_request config db call).posts with
  | opened hopened =>
      rw [hopened.transactions]
      exact ht
  | posted mid hopened id command created _ =>
      rw [(createTransaction_eq_ok created).2.2.2.2, hopened.transactions]
      exact List.mem_append_left _ ht

/-- A bill whose answer was written is resolved, or left for `reconcile`. -/
theorem Handled.closed {ctx : Ctx} {paymentId : Uuid} {answer : Option ProviderBillPayment}
    (h : Handled ctx paymentId answer db db') {b : BillPayment}
    (hb : b ∈ db'.bills.payments.rows) :
    b ∈ db.bills.payments.rows ∨ Resolved db' b ∨ Awaiting b := by
  have hcases : ∀ {id status reconciliation}, Rewritten db db' id status reconciliation →
      (b.id = id → Resolved db' b ∨ Awaiting b) →
      b ∈ db.bills.payments.rows ∨ Resolved db' b ∨ Awaiting b := by
    intro id status reconciliation hr hclosed
    rcases hr.cases hb with ⟨hold, -⟩ | ⟨p, -, hid, hterms, -⟩
    · exact .inl hold
    · exact .inr (hclosed ((congrArg BillTerms.id hterms).trans hid))
  cases h with
  | nothing same => exact .inl (same ▸ hb)
  | released _ _ _ _ _ _ _ post bills _ =>
      exact hcases bills fun hid ↦ .inl (resolved_of_rewritten bills rfl post rfl b hb hid)
  | settled _ _ _ _ _ _ _ post bills _ =>
      exact hcases bills fun hid ↦ .inl (resolved_of_rewritten bills rfl post rfl b hb hid)
  | reversed _ _ _ _ _ _ _ _ post bills _ =>
      exact hcases bills fun hid ↦ .inl (resolved_of_rewritten bills rfl post rfl b hb hid)
  | uncertain _ _ bills _ =>
      exact hcases bills fun hid ↦ .inr (awaiting_of_rewritten bills b hb hid)

/-- No bill is taken out. -/
theorem Handled.exists_of_mem {ctx : Ctx} {paymentId : Uuid} {answer : Option ProviderBillPayment}
    (h : Handled ctx paymentId answer db db') {b : BillPayment} (hb : b ∈ db.bills.payments.rows) :
    ∃ b' ∈ db'.bills.payments.rows, b'.id = b.id := by
  have hrewritten : ∀ {id status reconciliation}, Rewritten db db' id status reconciliation →
      ∃ b' ∈ db'.bills.payments.rows, b'.id = b.id := by
    intro id status reconciliation hr
    by_cases hid : b.id = id
    · obtain ⟨b', hb', hterms, -⟩ := hr.exists_of_mem hb hid
      exact ⟨b', hb', congrArg BillTerms.id hterms⟩
    · exact ⟨b, hr.mem_of_ne hb hid, rfl⟩
  cases h with
  | nothing same => exact ⟨b, same ▸ hb, rfl⟩
  | released _ _ _ _ _ _ _ _ bills _ => exact hrewritten bills
  | settled _ _ _ _ _ _ _ _ bills _ => exact hrewritten bills
  | reversed _ _ _ _ _ _ _ _ _ bills _ => exact hrewritten bills
  | uncertain _ _ bills _ => exact hrewritten bills

theorem Handled.length_bills {ctx : Ctx} {paymentId : Uuid} {answer : Option ProviderBillPayment}
    (h : Handled ctx paymentId answer db db') :
    db'.bills.payments.rows.length = db.bills.payments.rows.length := by
  have hmap : ∀ {id status reconciliation}, Rewritten db db' id status reconciliation →
      db'.bills.payments.rows.length = db.bills.payments.rows.length := by
    intro id status reconciliation hr
    obtain ⟨f, hrows, -⟩ := hr.map
    rw [hrows, List.length_map]
  cases h with
  | nothing same => rw [same]
  | released _ _ _ _ _ _ _ _ bills _ => exact hmap bills
  | settled _ _ _ _ _ _ _ _ bills _ => exact hmap bills
  | reversed _ _ _ _ _ _ _ _ _ bills _ => exact hmap bills
  | uncertain _ _ bills _ => exact hmap bills

/-- A bill after a call was there before, is resolved, is left for `reconcile`, or is new. -/
theorem bill_cases {call : Call} (hp : Permitted config db call) {b : BillPayment}
    (hb : b ∈ (step config db call).bills.payments.rows) :
    b ∈ db.bills.payments.rows ∨ Resolved (step config db call) b ∨ Awaiting b ∨
      (b.status = .pending ∧
        db.bills.payments.insert b = some (step config db call).bills.payments) := by
  cases (step_effect config db call).bills hp with
  | same bills =>
      rw [bills] at hb
      exact .inl hb
  | added p new insert =>
      rw [Table.rows_of_insert insert] at hb
      rcases List.mem_append.mp hb with hb | hb
      · exact .inl hb
      · rw [List.mem_singleton.mp hb]
        exact .inr (.inr (.inr ⟨new.1, insert⟩))
  | handled ctx paymentId answer done _ =>
      rcases Handled.closed done hb with h | h | h
      · exact .inl h
      · exact .inr (.inl h)
      · exact .inr (.inr (.inl h))

/-! ## Requests that carry a bill -/

/-- The request goes on to ask the provider about the bill. -/
def Carries : Task → BillPayment → Prop
  | .await paymentId _ _, b => b.id = paymentId
  | .complete userId intentId _, b =>
      b.userId = userId ∧ b.idempotencyKey = intentPaymentKey intentId
  | _, _ => False

/-- The call reserves a bill, and has to be followed by the request that asks the provider. -/
def isReserve : Call → Bool
  | .settleFromWallet .. | .reserveBill .. => true
  | _ => false

/-- Only a reserve adds a bill. -/
theorem not_insert {call : Call} (hp : Permitted config db call) (hcall : isReserve call = false)
    {b : BillPayment} :
    db.bills.payments.insert b ≠ some (step config db call).bills.payments := by
  have heffect := step_effect config db call
  generalize hdb' : step config db call = db' at heffect ⊢
  intro hins
  have hlength := congrArg List.length (Table.rows_of_insert hins)
  rw [List.length_append, List.length_singleton] at hlength
  have hsame : db'.bills.payments.rows.length = db.bills.payments.rows.length → False := by
    intro h
    omega
  have hrecords : ∀ {r : Records}, records db' = r → r.bills = db.bills.payments → False := by
    intro r hr hb
    refine hsame ?_
    rw [show db'.bills.payments = db.bills.payments from (congrArg Records.bills hr).trans hb]
  cases heffect with
  | idle _ after => exact hrecords after rfl
  | sent _ _ _ _ _ done => exact hrecords done.after rfl
  | withdrew _ _ _ _ _ done => exact hrecords done.after rfl
  | contributed _ _ _ _ _ _ done => exact hrecords done.after rfl
  | paidOut _ _ _ _ _ _ _ _ _ _ done => exact hrecords done.records rfl
  | created _ _ _ _ after => exact hrecords after rfl
  | paid ctx userId intent key walletId target payer destination opened posting settled done asked =>
      cases asked with
      | payment => cases hcall
      | contribution type =>
          rcases done.record.bills with hb | ⟨-, -, -, -, -, -, htype, -⟩
          · refine hrecords done.after (hb.trans ?_)
            rw [done.opened_eq]
          · exact nomatch type.symm.trans htype
  | charged _ _ _ _ _ after => exact hrecords after rfl
  | banked _ _ _ _ done => exact hrecords done.after rfl
  | failed same =>
      rw [same] at hsame
      exact hsame rfl
  | reserved => cases hcall
  | answered done _ => exact hsame (Handled.length_bills done)
  | unanswered done _ _ => exact hsame (Handled.length_bills done)
  | refunded _ _ _ _ _ _ _ done => exact hrecords done.after rfl
  | rewarded _ _ _ _ done => exact hrecords done.after rfl
  | elsewhere change same =>
      rw [same] at hsame
      exact hsame (congrArg List.length hp)

/-- The answer that the step is about to write can be written. -/
def TakesWritable (config : BillConfig) (o : Told) (db : Db) (t : Task) : Prop :=
  TakesPermitted config o db t ∧
    match t with
    | .await paymentId _ asks => ∀ b ∈ db.bills.payments.rows, b.id = paymentId →
        b.status = .pending → Writable o.ctx db b (if asks then o.answer else none)
    | _ => True

/-- A move after which no bill is stranded: a reserve is followed up, an answer about an unanswered
bill can be written, and no process stops with one. -/
def Continues (config : BillConfig) (p : Pool Db Task) : Move Task Told → Prop
  | .spawn (.call call) => isReserve call = false
  | .spawn _ => True
  | .run i o => ∀ t ∈ p.threads[i]?, TakesWritable config o p.shared t
  | .stop i => ∀ t ∈ p.threads[i]?, ∀ b ∈ p.shared.bills.payments.rows, Carries t b →
      b.status ≠ .pending

/-- Every bill is resolved, is left for `reconcile`, or is carried by a request. -/
structure Covered (p : Pool Db Task) : Prop where
  bills : ∀ b ∈ p.shared.bills.payments.rows,
    Resolved p.shared b ∨ Awaiting b ∨ (b.status = .pending ∧ ∃ t ∈ p.threads, Carries t b)
  calls : ∀ call, Task.call call ∈ p.threads → isReserve call = false

/-- The request that paid for a bill goes on to complete it. -/
theorem pay_carries {o : Told} {userId intentId : Uuid} {key : String}
    {customerReference : Option String} {b : BillPayment}
    (hins : db.bills.payments.insert b =
      some (exec config o db (.pay userId intentId key customerReference)).1.bills.payments) :
    ∃ t, (exec config o db (.pay userId intentId key customerReference)).2 = some t ∧
      Carries t b := by
  simp only [exec] at hins ⊢
  cases htarget : targetOf config db intentId with
  | none =>
      rw [htarget] at hins
      exact absurd hins Table.insert_ne_self
  | some target =>
      obtain ⟨i, hi, rfl⟩ := Option.map_eq_some_iff.mp htarget
      have hid : i.id = intentId := by simpa using Table.prop_of_find? hi
      simp only [htarget] at hins ⊢
      rcases hpay : settleFromWallet o.ctx db (targets config i.targetType) userId intentId key with
        e | ⟨r, db'⟩
      · rw [hpay] at hins
        exact absurd hins Table.insert_ne_self
      · simp only [hpay] at hins ⊢
        have htype : ∀ j ∈ db.paymentIntents.rows, j.id = intentId → j.targetType = i.targetType :=
          fun j hj hjd ↦ by rw [intent_eq_of_id hj (Table.mem_of_find? hi) (hjd.trans hid.symm)]
        obtain rfl | ⟨intent, walletId, target, payer, destination, opened, posting, settled, hiid,
          hpaid⟩ := settleFromWallet_paid htype hpay
        · exact absurd hins Table.insert_ne_self
        · have hopened : opened.bills.payments = db.bills.payments := by rw [hpaid.opened_eq]
          have hdb' : db'.bills.payments = settled.bills.payments :=
            congrArg Records.bills hpaid.after
          rcases hpaid.record.bills with hb | ⟨p, -, -, -, hown, hkey, hbill, hp⟩
          · refine absurd hins ?_
            rw [hdb', hb, show ({ opened with ledger := db'.ledger } : Db).bills.payments =
              db.bills.payments from hopened]
            exact Table.insert_ne_self
          · have hinsert : db.bills.payments.insert p = some db'.bills.payments := by
              rw [hdb', ← hopened]
              exact hp
            rw [Table.insert_inj hins hinsert]
            have hfind : (db.paymentIntents.find? fun i ↦ i.id = intentId ∧ i.userId = userId) =
                some intent :=
              db.paymentIntents.find?_eq_some_of_mem hpaid.mem
                (decide_eq_true ⟨hiid, hpaid.owner⟩)
                fun x _ hx ↦ .inl (.inl (.inl ((of_decide_eq_true hx).1.trans hiid.symm)))
            have hnow : settlesNow db userId intentId = true := by
              rw [settlesNow, hfind]
              exact decide_eq_true hpaid.unpaid
            have hlater : (targets config i.targetType).completesLater = true := by
              rw [← htype intent hpaid.mem hiid, hbill]
              rfl
            refine ⟨.complete userId intentId customerReference, if_pos ⟨hlater, hnow⟩, hown, ?_⟩
            rw [← hiid]
            exact hkey

/-- The request that reserved a bill goes on to ask the provider. -/
theorem create_carries {o : Told} {validation : BillCustomerValidation} {userId : Uuid}
    {key hash : String} {dto : CreateBillPaymentDto} {b : BillPayment}
    (hins : db.bills.payments.insert b =
      some (exec config o db (.create validation userId key hash dto)).1.bills.payments) :
    ∃ t, (exec config o db (.create validation userId key hash dto)).2 = some t ∧
      Carries t b := by
  simp only [exec] at hins ⊢
  rcases hreserve : reserve o.ctx db config validation userId key hash dto with e | ⟨payment, db'⟩
  · rw [hreserve] at hins
    exact absurd hins Table.insert_ne_self
  · simp only [hreserve] at hins ⊢
    obtain ⟨rfl, -⟩ | ⟨wallet, feeMinor, found, posting, hid, hdone⟩ := reserve_eq_ok hreserve
    · exact absurd hins Table.insert_ne_self
    · have hnew : isNewBill db userId key = true := by
        rw [isNewBill, Option.isNone_iff_eq_none, Table.find?, List.find?_eq_none]
        intro p hp hsame
        obtain ⟨hown, hkey⟩ := of_decide_eq_true hsame
        refine (Table.insert_eq_some.mp hdone.insert).1 p hp (.inr ⟨rfl, ?_⟩)
        dsimp only
        rw [hown, hkey]
        rfl
      refine ⟨.await payment.id userId true, if_pos hnew, ?_⟩
      rw [Table.insert_inj hins hdone.insert]
      exact hid.symm

/-- Only the step that makes a reserve adds a bill. -/
theorem not_insert_exec {o : Told} {t : Task} (hp : TakesPermitted config o db t)
    (hcall : ∀ call ∈ t.toCall o, isReserve call = false) {b : BillPayment} :
    db.bills.payments.insert b ≠ some (exec config o db t).1.bills.payments := by
  rw [exec_fst]
  split
  · next call hmem => exact not_insert (hp call hmem) (hcall call hmem)
  · exact Table.insert_ne_self

/-- A new bill is carried by what is left of its request. -/
theorem new_carries {o : Told} {t : Task} (hp : TakesPermitted config o db t)
    (hcall : ∀ call, t = .call call → isReserve call = false) {b : BillPayment}
    (hins : db.bills.payments.insert b = some (exec config o db t).1.bills.payments) :
    ∃ t', (exec config o db t).2 = some t' ∧ Carries t' b := by
  cases t with
  | pay userId intentId key customerReference => exact pay_carries hins
  | create validation userId key hash dto => exact create_carries hins
  | call call =>
      refine absurd hins (not_insert_exec hp ?_)
      rintro _ ⟨⟩
      exact hcall call rfl
  | complete userId intentId customerReference =>
      refine absurd hins (not_insert_exec hp fun call hmem ↦ ?_)
      cases hmem
  | reconcile actorUserId paymentId =>
      refine absurd hins (not_insert_exec hp fun call hmem ↦ ?_)
      cases hmem
  | await paymentId userId asks =>
      refine absurd hins (not_insert_exec hp fun call hmem ↦ ?_)
      simp only [Task.toCall] at hmem
      split at hmem
      · cases hmem
        rfl
      · cases hmem
        rfl
  | inquire paymentId actorUserId =>
      refine absurd hins (not_insert_exec hp fun call hmem ↦ ?_)
      obtain ⟨result, -, rfl⟩ := Option.mem_map.mp hmem
      rfl

/-- A request that carries an unanswered bill goes on with it until the answer is written. -/
theorem carries_step {o : Told} {t : Task} (htakes : TakesWritable config o db t) {b : BillPayment}
    (hb : b ∈ db.bills.payments.rows) (hpending : b.status = .pending) (hcarries : Carries t b)
    (hb' : b ∈ (exec config o db t).1.bills.payments.rows) :
    Resolved (exec config o db t).1 b ∨ Awaiting b ∨
      ∃ t', (exec config o db t).2 = some t' ∧ Carries t' b := by
  cases t with
  | await paymentId userId asks =>
      have hid : b.id = paymentId := hcarries
      subst hid
      have hopen : isOpen b.status = true := decide_eq_true (.inl hpending)
      have hw := htakes.2 b hb rfl hpending
      rcases applyAnswer_closed o.ctx userId hb hopen hw b hb' rfl with h | h
      · exact .inl h
      · exact .inr (.inl h)
  | complete userId intentId customerReference =>
      obtain ⟨hown, hkey⟩ := hcarries
      have hfind : (db.bills.payments.find? fun p ↦
          p.userId = userId ∧ p.idempotencyKey = intentPaymentKey intentId) = some b := by
        refine db.bills.payments.find?_eq_some_of_mem hb (decide_eq_true ⟨hown, hkey⟩) ?_
        intro x _ hx
        obtain ⟨hxown, hxkey⟩ := of_decide_eq_true hx
        refine .inr ⟨rfl, ?_⟩
        dsimp only
        rw [hxown, hxkey, hown, hkey]
      refine .inr (.inr ⟨.await b.id userId (truthy customerReference).isSome, ?_, rfl⟩)
      simp only [exec, hfind, hpending, if_true]
  | call call => exact hcarries.elim
  | pay userId intentId key customerReference => exact hcarries.elim
  | create validation userId key hash dto => exact hcarries.elim
  | reconcile actorUserId paymentId => exact hcarries.elim
  | inquire paymentId actorUserId => exact hcarries.elim

/-- What is left of a request is no other call. -/
theorem exec_snd_ne_call (o : Told) (db : Db) (t : Task) (call : Call) :
    (exec config o db t).2 ≠ some (.call call) := by
  intro h
  cases t with
  | call _ => cases h
  | pay userId intentId key customerReference =>
      simp only [exec] at h
      split at h
      · cases h
      · split at h
        · cases h
        · split at h
          · cases h
          · cases h
  | complete userId intentId customerReference =>
      simp only [exec] at h
      split at h
      · cases h
      · split at h
        · cases h
        · cases h
  | create validation userId key hash dto =>
      simp only [exec] at h
      split at h
      · cases h
      · split at h
        · cases h
        · cases h
  | await paymentId userId asks => cases h
  | reconcile actorUserId paymentId =>
      simp only [exec] at h
      split at h
      · cases h
      · split at h
        · cases h
        · cases h
  | inquire paymentId actorUserId =>
      simp only [exec] at h
      split at h
      · cases h
      · cases h

/-- A step of a request keeps the bills covered. -/
theorem Covered.run {p : Pool Db Task} (h : Covered p) {i : Nat} {o : Told} {t : Task}
    (hi : p.threads[i]? = some t) (htakes : TakesWritable config o p.shared t) :
    Covered (p.advance (exec config) (.run i o)) := by
  have hstate : (p.advance (exec config) (.run i o)).shared = (exec config o p.shared t).1 := by
    rw [Pool.advance, hi]
  have hthreads : (p.advance (exec config) (.run i o)).threads =
      p.threads.eraseIdx i ++ (exec config o p.shared t).2.toList := by
    rw [Pool.advance, hi]
  have hleft : ∀ t', (exec config o p.shared t).2 = some t' →
      t' ∈ (p.advance (exec config) (.run i o)).threads := by
    intro t' ht'
    rw [hthreads, ht']
    exact List.mem_append_right _ (List.mem_singleton_self t')
  have hkept : ∀ x ∈ p.shared.ledger.transactions.rows,
      x ∈ (exec config o p.shared t).1.ledger.transactions.rows := by
    intro x hx
    rw [exec_fst]
    split
    · exact transactions_kept config p.shared _ x hx
    · exact hx
  constructor
  · intro b hb
    rw [hstate] at hb ⊢
    have hcases : b ∈ p.shared.bills.payments.rows ∨ Resolved (exec config o p.shared t).1 b ∨
        Awaiting b ∨ (b.status = .pending ∧
          p.shared.bills.payments.insert b = some (exec config o p.shared t).1.bills.payments) := by
      rw [exec_fst] at hb ⊢
      split at hb
      · next call hcall =>
          exact bill_cases (htakes.1 call hcall) hb
      · exact .inl hb
    rcases hcases with hold | hresolved | hawaiting | ⟨hpending, hins⟩
    · rcases h.bills b hold with hresolved | hawaiting | ⟨hpending, u, hu, hcarries⟩
      · exact .inl (hresolved.mono hkept)
      · exact .inr (.inl hawaiting)
      · -- The request that carries the bill is another one, or the one that took the step.
        by_cases hut : u = t
        · subst hut
          rcases carries_step htakes hold hpending hcarries hb with h | h | ⟨t', ht', hc⟩
          · exact .inl h
          · exact .inr (.inl h)
          · exact .inr (.inr ⟨hpending, t', hleft t' ht', hc⟩)
        · refine .inr (.inr ⟨hpending, u, ?_, hcarries⟩)
          rw [hthreads]
          exact List.mem_append_left _ (mem_eraseIdx_of_ne hu hi hut)
    · exact .inl hresolved
    · exact .inr (.inl hawaiting)
    · obtain ⟨t', ht', hc⟩ := new_carries htakes.1
        (fun call hcall ↦ h.calls call (hcall ▸ List.mem_of_getElem? hi)) hins
      exact .inr (.inr ⟨hpending, t', hleft t' ht', hc⟩)
  · intro call hcall
    rcases Pool.mem_advance_run hi hcall with hcall | hcall
    · exact h.calls call hcall
    · exact absurd hcall (exec_snd_ne_call o p.shared t call)

theorem Covered.advance {p : Pool Db Task} (h : Covered p) {m : Move Task Told}
    (hm : Continues config p m) : Covered (p.advance (exec config) m) := by
  cases m with
  | spawn t =>
      constructor
      · intro b hb
        rcases h.bills b hb with hresolved | hawaiting | ⟨hpending, u, hu, hcarries⟩
        · exact .inl hresolved
        · exact .inr (.inl hawaiting)
        · exact .inr (.inr ⟨hpending, u, List.mem_append_left _ hu, hcarries⟩)
      · intro call hcall
        rcases List.mem_append.mp hcall with hcall | hcall
        · exact h.calls call hcall
        · have ht := List.mem_singleton.mp hcall
          subst ht
          exact hm
  | run i o =>
      cases hi : p.threads[i]? with
      | none =>
          rw [Pool.advance, hi]
          exact h
      | some t => exact h.run hi (hm t hi)
  | stop i =>
      constructor
      · intro b hb
        rcases h.bills b hb with hresolved | hawaiting | ⟨hpending, u, hu, hcarries⟩
        · exact .inl hresolved
        · exact .inr (.inl hawaiting)
        · refine .inr (.inr ⟨hpending, u, ?_, hcarries⟩)
          -- The request that is lost is not the one that carries the bill.
          obtain ⟨k, hk⟩ := List.mem_iff_getElem?.mp hu
          refine List.mem_eraseIdx_iff_getElem?.mpr ⟨k, ?_, hk⟩
          rintro rfl
          exact hm u hk b hb hcarries hpending
      · intro call hcall
        exact h.calls call (List.mem_of_mem_eraseIdx hcall)

theorem covered_of_reaches {p q : Pool Db Task} (h₀ : Covered p)
    (h : Reaches (Pool.advance (exec config)) (Continues config) p q) : Covered q :=
  h.invariant (I := Covered) h₀ fun _ _ hp hm ↦ hp.advance hm

/-! ## What `reconcile` makes of a bill -/

/-- Reconciling the bill pays its money out, or gives it back. -/
def Resolves (ctx : Ctx) (db : Db) (actorUserId : Uuid) (b : BillPayment)
    (queryPayment : String → Option ProviderBillPayment) : Prop :=
  ∃ b' ∈ (Bills.reconcile ctx db actorUserId b.id queryPayment).2.bills.payments.rows, b'.id = b.id ∧
    Resolved (Bills.reconcile ctx db actorUserId b.id queryPayment).2 b'

theorem attempted_of_updateRow {f : BillPaymentAttempt → BillPaymentAttempt} {b : BillPayment}
    {attempts : Table BillPaymentAttempt}
    (h : updateRow db.bills.attempts (fun a ↦ a.billPaymentId = b.id ∧ a.attemptNumber = 1) f =
      .ok attempts) : Attempted db b := by
  obtain ⟨a, ha, hattempt⟩ := exists_of_updateRow h
  exact ⟨a, ha, of_decide_eq_true hattempt⟩

theorem writable_of_releaseBill {ctx : Ctx} {b : BillPayment} {found : BillAccounts}
    {result : ProviderBillPayment} {r : BillPayment × Db} (hstate : result.state = .failed)
    (hfound : Bills.accounts db b.walletId b.currency = .ok found)
    (h : releaseBill ctx db b found result = .ok r) : Writable ctx db b (some result) := by
  simp only [releaseBill, bind_eq_ok, require_eq_ok, exists_const, Prod.exists] at h
  obtain ⟨posting, ledger, hpost, hfits, payments, -, attempts, hattempts, -⟩ := h
  refine ⟨hfits, attempted_of_updateRow hattempts, ?_⟩
  rw [hstate]
  exact ⟨found, hfound, _, hpost⟩

theorem writable_of_settleBill {ctx : Ctx} {b : BillPayment} {found : BillAccounts}
    {result : ProviderBillPayment} {r : BillPayment × Db} (hstate : result.state = .successful)
    (hfound : Bills.accounts db b.walletId b.currency = .ok found)
    (h : settleBill ctx db b found result = .ok r) : Writable ctx db b (some result) := by
  simp only [settleBill, bind_eq_ok, require_eq_ok, exists_const, Prod.exists] at h
  obtain ⟨posting, ledger, hpost, hfits, payments, -, attempts, hattempts, receipts, hreceipts, -⟩ := h
  refine ⟨hfits, attempted_of_updateRow hattempts, ?_⟩
  rw [hstate]
  exact ⟨⟨found, hfound, _, hpost⟩, not_clash_of_insertRow hreceipts⟩

/-- A definite answer that could not be written about an unanswered bill changed nothing. -/
theorem applyProviderResult_kept {ctx : Ctx} {userId : Uuid} {b : BillPayment}
    (hb : b ∈ db.bills.payments.rows) (hopen : isOpen b.status = true) {result : ProviderBillPayment}
    (hdefinite : isUncertain (some result) = false) (hw : ¬ Writable ctx db b (some result)) :
    applyProviderResult ctx db b.id userId result = db := by
  have hunanswered : ¬ (b.status ≠ .pending ∧ b.status ≠ .reconciliationRequired) :=
    fun h ↦ (of_decide_eq_true hopen).elim h.1 h.2
  have hstate := of_decide_eq_false hdefinite
  have hconclude : result.state = .successful ∨ result.state = .failed →
      committed db (concludeBill ctx db b.id result) = db := by
    intro hanswer
    cases hok : concludeBill ctx db b.id result with
    | error e => rfl
    | ok r =>
        refine absurd ?_ hw
        rw [concludeBill, orThrow_bind_eq_ok] at hok
        obtain ⟨payment, hfind, hok⟩ := hok
        obtain rfl : b = payment := Option.some.inj ((find?_bill hb).symm.trans hfind)
        rw [if_neg hunanswered, bind_eq_ok] at hok
        obtain ⟨found, hfound, hok⟩ := hok
        rcases hanswer with hs | hf
        · rw [if_neg (by simp [hs])] at hok
          exact writable_of_settleBill hs hfound hok
        · rw [if_pos hf] at hok
          exact writable_of_releaseBill hf hfound hok
  rw [applyProviderResult]
  split
  · refine applyReversal_kept hb ?_
    rintro hpaid
    simp [hpaid] at hunanswered
  · next h => exact absurd (.inl h) hstate
  · next h => exact absurd (.inr h) hstate
  · next h => exact hconclude (.inl h)
  · next h => exact hconclude (.inr h)

/-! ## No bill is stranded -/

/-- `reconcile` takes the bill up, and a definite answer of the provider resolves it exactly when it can
be written. -/
def Reconcilable (db : Db) (b : BillPayment) : Prop :=
  b.reconciliationState = .pending ∧
    ∀ (ctx : Ctx) (actorUserId : Uuid) (queryPayment : String → Option ProviderBillPayment)
      (result : ProviderBillPayment),
      queryPayment (b.providerReference.getD b.internalReference) = some result →
      isUncertain (some result) = false →
      (Resolves ctx db actorUserId b queryPayment ↔ Writable ctx db b (some result))

theorem reconcilable_of_awaiting {b : BillPayment} (hb : b ∈ db.bills.payments.rows)
    (h : Awaiting b) : Reconcilable db b := by
  refine ⟨h.2, fun ctx actorUserId queryPayment result hquery hdefinite ↦ ?_⟩
  have hopen : isOpen b.status = true := decide_eq_true (.inr h.1)
  have hreconcile : (Bills.reconcile ctx db actorUserId b.id queryPayment).2 =
      applyProviderResult ctx db b.id actorUserId result := by
    have hanswer : reconcileAnswer db b.id queryPayment = .ok (b, result) := by
      rw [reconcileAnswer, find?_bill hb]
      simp only [orThrow, require, h.2, if_true, hquery, bind, Except.bind, pure, Except.pure]
    rw [Bills.reconcile, hanswer]
  rw [Resolves, hreconcile]
  constructor
  · rintro ⟨b', hb', hid, event, hevent, -⟩
    by_contra hw
    rw [applyProviderResult_kept hb hopen hdefinite hw] at hb'
    rw [bill_eq_of_id hb' hb hid, h.1] at hevent
    cases hevent
  · intro hw
    obtain ⟨b', hb', hid⟩ :=
      Handled.exists_of_mem (applyProviderResult_handled ctx db b.id actorUserId result) hb
    exact ⟨b', hb', hid, applyProviderResult_resolved ctx actorUserId hb hopen hdefinite hw b' hb' hid⟩

/-- **No bill is stranded.**  In every state of every run in which no process stops with an
unanswered bill and every answer about one can be written, a bill that no request carries is
resolved, or is taken up by `reconcile` and resolved by every later answer that can be written. -/
theorem no_stranded_bill {p q : Pool Db Task} (h₀ : Covered p)
    (h : Reaches (Pool.advance (exec config)) (Continues config) p q) {b : BillPayment}
    (hb : b ∈ q.shared.bills.payments.rows) (hrest : ∀ t ∈ q.threads, ¬ Carries t b) :
    Resolved q.shared b ∨ Reconcilable q.shared b := by
  rcases (covered_of_reaches h₀ h).bills b hb with hresolved | hawaiting | ⟨-, t, ht, hcarries⟩
  · exact .inl hresolved
  · exact .inr (reconcilable_of_awaiting hb hawaiting)
  · exact absurd hcarries (hrest t ht)

section Sample

instance : (t : Task) → (b : BillPayment) → Decidable (Carries t b)
  | .await paymentId _ _, b => inferInstanceAs (Decidable (b.id = paymentId))
  | .complete userId intentId _, b => inferInstanceAs (Decidable
      (b.userId = userId ∧ b.idempotencyKey = intentPaymentKey intentId))
  | .call _, _ | .pay .., _ | .create .., _ | .reconcile .., _ | .inquire .., _ =>
      inferInstanceAs (Decidable False)

instance (db : Db) (b : BillPayment) : Decidable (Attempted db b) :=
  inferInstanceAs (Decidable
    (∃ a ∈ db.bills.attempts.rows, a.billPaymentId = b.id ∧ a.attemptNumber = 1))

instance (ctx : Ctx) (db : Db) (b : BillPayment)
    (posting : BillPayment → BillAccounts → LedgerPostingCommand) :
    Decidable (Postable ctx db b posting) :=
  match hfound : Bills.accounts db b.walletId b.currency with
  | .error _ => isFalse fun ⟨_, h, _⟩ ↦ nomatch hfound.symm.trans h
  | .ok found =>
      match hpost : db.ledger.postWithin (ctx.uuid 0) (posting b found) with
      | .ok result => isTrue ⟨found, hfound, result, hpost⟩
      | .error _ => isFalse fun ⟨_, h, _, h'⟩ ↦ by
          cases hfound.symm.trans h
          cases hpost.symm.trans h'

instance (ctx : Ctx) (db : Db) (b : BillPayment) :
    (answer : Option ProviderBillPayment) → Decidable (Writable ctx db b answer)
  | none => inferInstanceAs (Decidable (Attempted db b))
  | some ⟨reference, .pending, status, code⟩ => inferInstanceAs (Decidable
      (answerFits ⟨reference, .pending, status, code⟩ = true ∧ Attempted db b ∧ True))
  | some ⟨reference, .unknown, status, code⟩ => inferInstanceAs (Decidable
      (answerFits ⟨reference, .unknown, status, code⟩ = true ∧ Attempted db b ∧ True))
  | some ⟨reference, .reversed, status, code⟩ => inferInstanceAs (Decidable
      (answerFits ⟨reference, .reversed, status, code⟩ = true ∧ Attempted db b ∧ False))
  | some ⟨reference, .failed, status, code⟩ => inferInstanceAs (Decidable
      (answerFits ⟨reference, .failed, status, code⟩ = true ∧ Attempted db b ∧
        Postable ctx db b releasePosting))
  | some ⟨reference, .successful, status, code⟩ => inferInstanceAs (Decidable
      (answerFits ⟨reference, .successful, status, code⟩ = true ∧ Attempted db b ∧
        Postable ctx db b settlePosting ∧ ∀ r ∈ db.bills.receipts.rows,
          ¬ Schema.Clash r ⟨ctx.uuid 2, b.id, "RCP-" ++ b.internalReference⟩))

instance (config : BillConfig) (o : Told) (db : Db) :
    (t : Task) → Decidable (TakesWritable config o db t)
  | .await paymentId userId asks => inferInstanceAs (Decidable
      (TakesPermitted config o db (.await paymentId userId asks) ∧
        ∀ b ∈ db.bills.payments.rows, b.id = paymentId → b.status = .pending →
          Writable o.ctx db b (if asks then o.answer else none)))
  | .call call => inferInstanceAs (Decidable (TakesPermitted config o db (.call call) ∧ True))
  | .pay userId intentId key reference => inferInstanceAs (Decidable
      (TakesPermitted config o db (.pay userId intentId key reference) ∧ True))
  | .complete userId intentId reference => inferInstanceAs (Decidable
      (TakesPermitted config o db (.complete userId intentId reference) ∧ True))
  | .create validation userId key hash dto => inferInstanceAs (Decidable
      (TakesPermitted config o db (.create validation userId key hash dto) ∧ True))
  | .reconcile actorUserId paymentId => inferInstanceAs (Decidable
      (TakesPermitted config o db (.reconcile actorUserId paymentId) ∧ True))
  | .inquire paymentId actorUserId => inferInstanceAs (Decidable
      (TakesPermitted config o db (.inquire paymentId actorUserId) ∧ True))

instance (config : BillConfig) (p : Pool Db Task) :
    (m : Move Task Told) → Decidable (Continues config p m)
  | .spawn (.call call) => inferInstanceAs (Decidable (isReserve call = false))
  | .spawn (.pay ..) | .spawn (.complete ..) | .spawn (.create ..) | .spawn (.await ..)
  | .spawn (.reconcile ..) | .spawn (.inquire ..) => inferInstanceAs (Decidable True)
  | .run i o => inferInstanceAs (Decidable
      (∀ t ∈ p.threads[i]?, TakesWritable config o p.shared t))
  | .stop i => inferInstanceAs (Decidable (∀ t ∈ p.threads[i]?,
      ∀ b ∈ p.shared.bills.payments.rows, Carries t b → b.status ≠ .pending))

/-- The provider did not say what became of the bill. -/
def sampleUncertainBill : List (Move Task Told) :=
  samplePaying ++ [.run 0 (sampleTold 7 .unknown)]

/-- The process stops once the bill is reserved. -/
def sampleStoppedBill : List (Move Task Told) :=
  samplePaying.take 2 ++ [.stop 0]

end Sample

/-- The provider did not say what became of the bill, and refuses it later; a later answer that it was
reversed would resolve nothing. -/
theorem no_stranded_bill_sample :
    ∃ b ∈ (sampleBillRun sampleUncertainBill).shared.bills.payments.rows,
      b.reconciliationState = .pending ∧
        Resolves (sampleCtx 9) (sampleBillRun sampleUncertainBill).shared (.ofNat 9) b
          (fun _ ↦ (sampleTold 9 .failed).answer) ∧
        ¬ Resolves (sampleCtx 9) (sampleBillRun sampleUncertainBill).shared (.ofNat 9) b
          fun _ ↦ (sampleTold 9 .reversed).answer := by
  have hcovered : Covered ⟨sampleFunded, []⟩ := by
    constructor
    · intro b hb
      cases hb
    · intro call hcall
      cases hcall
  have hrun : Reaches (Pool.advance (exec sampleConfig)) (Continues sampleConfig)
      ⟨sampleFunded, []⟩ (sampleBillRun sampleUncertainBill) :=
    reaches_of_allAdmitted (by decide +kernel)
  have hbill : ∃ b ∈ (sampleBillRun sampleUncertainBill).shared.bills.payments.rows,
      b.status = .reconciliationRequired ∧
        (∀ t ∈ (sampleBillRun sampleUncertainBill).threads, ¬ Carries t b) ∧
        Writable (sampleCtx 9) (sampleBillRun sampleUncertainBill).shared b
          (sampleTold 9 .failed).answer := by decide +kernel
  obtain ⟨b, hb, hstatus, hrest, hw⟩ := hbill
  rcases no_stranded_bill hcovered hrun hb hrest with ⟨event, hevent, -⟩ | ⟨hstate, hresolves⟩
  · rw [hstatus] at hevent
    cases hevent
  · exact ⟨b, hb, hstate, (hresolves (sampleCtx 9) (.ofNat 9) _ _ rfl rfl).mpr hw,
      fun h ↦ ((hresolves (sampleCtx 9) (.ofNat 9) _ _ rfl rfl).mp h).2.2⟩

/-- It is not the case that a bill whose process stopped is resolved, or taken up by
`reconcile`. -/
theorem stopped_bill_stranded :
    ¬ ∀ (config : BillConfig) (db : Db) (q : Pool Db Task), db.bills.payments.rows = [] →
      Runs config TakesPermitted ⟨db, []⟩ q → q.threads = [] →
      ∀ b ∈ q.shared.bills.payments.rows, Resolved q.shared b ∨ b.reconciliationState = .pending := by
  intro h
  have hrun : Runs sampleConfig TakesPermitted ⟨sampleFunded, []⟩
      (sampleBillRun sampleStoppedBill) := reaches_of_allAdmitted (by decide +kernel)
  have hbill : ∃ b ∈ (sampleBillRun sampleStoppedBill).shared.bills.payments.rows,
      b.status = .pending ∧ b.reconciliationState = .notRequired := by decide +kernel
  obtain ⟨b, hb, hstatus, hstate⟩ := hbill
  rcases h sampleConfig sampleFunded _ rfl hrun (by decide +kernel) b hb with ⟨event, hevent, -⟩ | h
  · rw [hstatus] at hevent
    cases hevent
  · exact nomatch hstate.symm.trans h

end AjoCloud.Platform
