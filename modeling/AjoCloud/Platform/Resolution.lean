import AjoCloud.Platform.Bills
import AjoCloud.Platform.Solvency

/-!
# The outcome of a bill

What the provider's answers make of a bill over a whole run.  A bill that was paid is refused by
`reconcile` ever after, so that the branch that takes it back is never reached.  A bill that was
paid, refused or taken back stays so, and its intent says the same, as long as `markUncertain` finds
the bill unanswered.
-/

namespace AjoCloud.Platform

open Lib Ledger Payments Bills

variable {config : BillConfig} {db db' : Db} {call : Call}

/-! ## Runs of tasks -/

/-- The step makes no call, or one its callers had permission for. -/
def TakesPermitted (config : BillConfig) (o : Told) (db : Db) (t : Task) : Prop :=
  ∀ call ∈ t.toCall o, Permitted config db call

/-- The step makes such a call, and finds the bill unanswered if it leaves it for reconciliation. -/
def TakesOpen (config : BillConfig) (o : Told) (db : Db) (t : Task) : Prop :=
  ∀ call ∈ t.toCall o, Permitted config db call ∧ FindsOpen db call

instance (config : BillConfig) (o : Told) (db : Db) (t : Task) :
    Decidable (TakesPermitted config o db t) :=
  inferInstanceAs (Decidable (∀ call ∈ t.toCall o, Permitted config db call))

instance (config : BillConfig) (o : Told) (db : Db) (t : Task) :
    Decidable (TakesOpen config o db t) :=
  inferInstanceAs (Decidable (∀ call ∈ t.toCall o, Permitted config db call ∧ FindsOpen db call))

/-- Tasks start, take steps that are allowed and stop, in any order. -/
abbrev Runs (config : BillConfig) (takes : BillConfig → Told → Db → Task → Prop) :
    Pool Db Task → Pool Db Task → Prop :=
  Reaches (Pool.advance (exec config)) (Pool.Admitted (fun _ _ ↦ True) (takes config))

/-- What every allowed call keeps, every run of tasks keeps. -/
theorem invariant_of_calls {takes : BillConfig → Told → Db → Task → Prop} {I : Db → Prop}
    {ok : Db → Call → Prop} {p q : Pool Db Task} (h : Runs config takes p q) (h₀ : I p.shared)
    (htakes : ∀ o db t, takes config o db t → ∀ call ∈ t.toCall o, ok db call)
    (hstep : ∀ db call, I db → ok db call → I (step config db call)) : I q.shared := by
  refine Pool.invariant_of_steps h h₀ fun o db t hi ht ↦ ?_
  rw [exec_fst]
  cases hcall : t.toCall o with
  | none => exact hi
  | some call => exact hstep db call hi (htakes o db t ht call hcall)

/-! ## Paid bills are not reconciled -/

/-- No paid bill awaits reconciliation. -/
def PaidClosed (db : Db) : Prop :=
  ∀ b ∈ db.bills.payments.rows, b.status = .successful → b.reconciliationState ≠ .pending

theorem PaidClosed.of_handled {ctx : Ctx} {paymentId : Uuid} {answer : Option ProviderBillPayment}
    (h : PaidClosed db) (hd : Handled ctx paymentId answer db db') : PaidClosed db' := by
  have hrewritten : ∀ {id status reconciliation}, Rewritten db db' id status reconciliation →
      (status = .successful → ∀ s, reconciliation s ≠ .pending) → PaidClosed db' := by
    intro id status reconciliation hr hclosed b hb hst
    rcases hr.cases hb with ⟨hold, -⟩ | ⟨p, -, -, -, hstatus, hstate⟩
    · exact h b hold hst
    · rw [hstate]
      exact hclosed (hstatus.symm.trans hst) _
  cases hd with
  | nothing same =>
      rw [same]
      exact h
  | released _ _ _ _ _ _ _ _ bills _ => exact hrewritten bills nofun
  | settled _ _ _ _ _ _ _ _ bills _ => exact hrewritten bills fun _ _ ↦ nofun
  | reversed _ _ _ _ _ _ _ _ _ bills _ => exact hrewritten bills nofun
  | uncertain _ _ bills _ => exact hrewritten bills nofun

theorem PaidClosed.step (h : PaidClosed db) (hp : Permitted config db call) :
    PaidClosed (step config db call) := by
  cases (step_effect config db call).bills hp with
  | same bills =>
      intro b hb
      rw [bills] at hb
      exact h b hb
  | added p new insert =>
      intro b hb hst
      rw [Table.rows_of_insert insert] at hb
      rcases List.mem_append.mp hb with hb | hb
      · exact h b hb hst
      · rw [List.mem_singleton.mp hb, new.2]
        exact nofun
  | handled ctx paymentId answer done _ => exact h.of_handled done

/-- Reconciling the bill takes the money back from the provider. -/
def Refunds (ctx : Ctx) (db : Db) (actorUserId : Uuid) (b : BillPayment)
    (queryPayment : String → Option ProviderBillPayment) : Prop :=
  (∃ bill, (Bills.reconcile ctx db actorUserId b.id queryPayment).1 = .ok bill) ∧
    ∃ t ∈ (Bills.reconcile ctx db actorUserId b.id queryPayment).2.ledger.transactions.rows,
      t.idempotencyKey = billKey "reversal:" b.id

theorem find?_bill {b : BillPayment} (hb : b ∈ db.bills.payments.rows) :
    (db.bills.payments.find? fun p ↦ p.id = b.id) = some b :=
  db.bills.payments.find?_eq_some_of_mem hb (decide_eq_true rfl)
    fun _ _ hx ↦ .inl (.inl (of_decide_eq_true hx))

theorem reconcile_eq_error (ctx : Ctx) (actorUserId : Uuid)
    (queryPayment : String → Option ProviderBillPayment) {b : BillPayment}
    (hb : b ∈ db.bills.payments.rows) (hstate : b.reconciliationState ≠ .pending) :
    Bills.reconcile ctx db actorUserId b.id queryPayment =
      (.error (.conflict "Bill payment is not awaiting reconciliation"), db) := by
  have herror : reconcileAnswer db b.id queryPayment =
      .error (.conflict "Bill payment is not awaiting reconciliation") := by
    rw [reconcileAnswer, find?_bill hb]
    simp only [orThrow, require, hstate, if_false, bind, Except.bind]
  rw [Bills.reconcile, herror]

/-- Only a bill that says it was paid is taken back. -/
theorem applyReversal_kept {ctx : Ctx} {actorUserId : Uuid} {b : BillPayment}
    {result : ProviderBillPayment} (hb : b ∈ db.bills.payments.rows) (hpaid : b.status ≠ .successful) :
    committed db (applyReversal ctx db b.id actorUserId result) = db := by
  by_cases hreversed : b.status = .reversed
  · have hok : applyReversal ctx db b.id actorUserId result = .ok (b, db) := by
      rw [applyReversal, find?_bill hb]
      simp only [orThrow, bind, Except.bind, hreversed, if_true, pure, Except.pure]
    rw [hok]
    rfl
  · have herror : applyReversal ctx db b.id actorUserId result =
        .error (.conflict "Only a successful Bill Payment can be reversed") := by
      rw [applyReversal, find?_bill hb]
      simp only [orThrow, bind, Except.bind, hreversed, if_false, require, hpaid]
    rw [herror]
    rfl

/-- An inquiry that answers that a bill was reversed changes nothing. -/
theorem reconcile_reversed (ctx : Ctx) (actorUserId : Uuid)
    {queryPayment : String → Option ProviderBillPayment} {b : BillPayment}
    (hb : b ∈ db.bills.payments.rows) (hclosed : PaidClosed db)
    (hanswer : ∀ reference, ∀ r ∈ queryPayment reference, r.state = .reversed) :
    (Bills.reconcile ctx db actorUserId b.id queryPayment).2 = db := by
  by_cases hstate : b.reconciliationState = .pending
  · have hpaid : b.status ≠ .successful := fun hst ↦ hclosed b hb hst hstate
    rw [Bills.reconcile]
    cases hquery : reconcileAnswer db b.id queryPayment with
    | error e => rfl
    | ok answered =>
        simp only [reconcileAnswer, bind_eq_ok, require_eq_ok, orThrow_eq_ok, pure_eq_ok,
          exists_const] at hquery
        obtain ⟨payment, hfind, -, result, hresult, rfl⟩ := hquery
        rw [find?_bill hb] at hfind
        cases hfind
        dsimp only
        rw [applyProviderResult, hanswer _ result hresult]
        exact applyReversal_kept hb hpaid
  · rw [reconcile_eq_error ctx actorUserId queryPayment hb hstate]

/-- **A paid bill is never refunded.**  In every state of every run, `reconcile` refuses a bill that
was paid, whatever the provider answers, and an inquiry that answers that a bill was reversed changes
nothing, whatever has become of the bill since it was paid. -/
theorem paid_bill_never_refunded {p q : Pool Db Task} (h₀ : PaidClosed p.shared)
    (h : Runs config TakesPermitted p q) {b : BillPayment}
    (hb : b ∈ q.shared.bills.payments.rows) (ctx : Ctx) (actorUserId : Uuid)
    (queryPayment : String → Option ProviderBillPayment) :
    (b.status = .successful → Bills.reconcile ctx q.shared actorUserId b.id queryPayment =
        (.error (.conflict "Bill payment is not awaiting reconciliation"), q.shared) ∧
      ¬ Refunds ctx q.shared actorUserId b queryPayment) ∧
    ((∀ reference, ∀ r ∈ queryPayment reference, r.state = .reversed) →
      (Bills.reconcile ctx q.shared actorUserId b.id queryPayment).2 = q.shared) := by
  have hclosed : PaidClosed q.shared :=
    invariant_of_calls h h₀ (fun _ _ _ ht ↦ ht) fun _ _ hi hp ↦ hi.step hp
  refine ⟨fun hpaid ↦ ?_, reconcile_reversed ctx actorUserId hb hclosed⟩
  have herror := reconcile_eq_error ctx actorUserId queryPayment hb (hclosed b hb hpaid)
  refine ⟨herror, ?_⟩
  rintro ⟨⟨bill, hok⟩, -⟩
  rw [herror] at hok
  cases hok

section Sample

/-- The sample with a biller, and a number that was validated for the first member. -/
def sampleBillers : Db :=
  { samplePlatform with
    bills := { samplePlatform.bills with
      categories := ⟨[⟨.ofNat 51, .active⟩], by simp⟩
      billers := ⟨[⟨.ofNat 52, .ofNat 51, "MTN", "MTN", .active⟩], by simp⟩
      validations := ⟨[⟨.ofNat 53, .ofNat 1, .ofNat 52, none, "sandbox", "digest", "0803****567",
        none, true, 5000⟩], by simp⟩ } }

/-- The first member has added money, and is about to pay a bill. -/
def sampleFunded : Db :=
  (sampleCalls.take 3 ++ [Call.createIntent (sampleCtx 4) .billPayment (.ofNat 1)
    ⟨some (.ofNat 53), some 20000⟩ "bill"]).foldl (step sampleConfig) sampleBillers

/-- The bill is paid from the wallet, and the provider is being asked. -/
def samplePaying : List (Move Task Told) :=
  [.spawn (.pay (.ofNat 1) (.ofNat 4000) "pay" (some "08031234567")), .run 0 ⟨sampleCtx 5, none⟩,
    .run 0 ⟨sampleCtx 6, none⟩]

/-- The provider's answer, at the given step. -/
def sampleTold (n : Nat) (state : ProviderBillPaymentState) : Told :=
  ⟨sampleCtx n, some ⟨some "P-1", state, "status", none⟩⟩

/-- The bill is reconciled, and the provider answers. -/
def sampleReconcile (n : Nat) (state : ProviderBillPaymentState) : List (Move Task Told) :=
  [.spawn (.reconcile (.ofNat 9) (.ofNat 5002)), .run 0 ⟨sampleCtx n, none⟩,
    .run 0 (sampleTold (n + 1) state)]

/-- Where the moves lead. -/
def sampleBillRun (moves : List (Move Task Told)) : Pool Db Task :=
  moves.foldl (Pool.advance (exec sampleConfig)) ⟨sampleFunded, []⟩

/-- The bill is paid. -/
def samplePaidBill : List (Move Task Told) := samplePaying ++ [.run 0 (sampleTold 7 .successful)]

/-- The bill is left for reconciliation and reconciled twice at once: the one inquiry says that it was
paid, the other does not know. -/
def sampleOvertakenBill : List (Move Task Told) :=
  samplePaying ++ [.run 0 (sampleTold 7 .pending), .spawn (.reconcile (.ofNat 9) (.ofNat 5002)),
    .spawn (.reconcile (.ofNat 9) (.ofNat 5002)), .run 0 ⟨sampleCtx 8, none⟩, .run 0 ⟨sampleCtx 9, none⟩,
    .run 0 (sampleTold 10 .successful), .run 0 (sampleTold 11 .pending)]

/-- The bill is left for reconciliation, and then refused. -/
def sampleRefusedBill : List (Move Task Told) :=
  samplePaying ++ [.run 0 (sampleTold 7 .pending)] ++ sampleReconcile 8 .failed

end Sample

/-- The bill was paid, and the provider now says it was reversed; and the same of a bill that was paid and
then left for reconciliation once more. -/
theorem paid_bill_never_refunded_sample :
    (∃ b ∈ (sampleBillRun samplePaidBill).shared.bills.payments.rows, b.status = .successful ∧
      ¬ Refunds (sampleCtx 12) (sampleBillRun samplePaidBill).shared (.ofNat 9) b
        fun _ ↦ (sampleTold 12 .reversed).answer) ∧
    ∃ b ∈ (sampleBillRun sampleOvertakenBill).shared.bills.payments.rows,
      (b.status = .reconciliationRequired ∧
        ∃ t ∈ (sampleBillRun sampleOvertakenBill).shared.ledger.transactions.rows,
          t.idempotencyKey = billKey "settle:" b.id) ∧
      (Bills.reconcile (sampleCtx 12) (sampleBillRun sampleOvertakenBill).shared (.ofNat 9) b.id
        fun _ ↦ (sampleTold 12 .reversed).answer).2 = (sampleBillRun sampleOvertakenBill).shared := by
  have hclosed : PaidClosed sampleFunded := by
    intro b hb
    cases hb
  constructor
  · have hpaid : ∃ b ∈ (sampleBillRun samplePaidBill).shared.bills.payments.rows,
        b.status = .successful := by decide +kernel
    have hrun : Runs sampleConfig TakesPermitted ⟨sampleFunded, []⟩ (sampleBillRun samplePaidBill) :=
      reaches_of_allAdmitted (by decide +kernel)
    obtain ⟨b, hb, hst⟩ := hpaid
    exact ⟨b, hb, hst, ((paid_bill_never_refunded hclosed hrun hb (sampleCtx 12) (.ofNat 9)
      fun _ ↦ (sampleTold 12 .reversed).answer).1 hst).2⟩
  · have hpaid : ∃ b ∈ (sampleBillRun sampleOvertakenBill).shared.bills.payments.rows,
        b.status = .reconciliationRequired ∧
          ∃ t ∈ (sampleBillRun sampleOvertakenBill).shared.ledger.transactions.rows,
            t.idempotencyKey = billKey "settle:" b.id := by decide +kernel
    have hrun : Runs sampleConfig TakesPermitted ⟨sampleFunded, []⟩
        (sampleBillRun sampleOvertakenBill) := reaches_of_allAdmitted (by decide +kernel)
    obtain ⟨b, hb, hst⟩ := hpaid
    exact ⟨b, hb, hst, (paid_bill_never_refunded hclosed hrun hb (sampleCtx 12) (.ofNat 9)
      fun _ ↦ (sampleTold 12 .reversed).answer).2 fun _ _ hr ↦ by cases hr; rfl⟩

/-- It is not the case that a paid bill is taken back when the provider says so. -/
theorem reversed_bill_refused :
    ¬ ∀ (config : BillConfig) (db : Db) (q : Pool Db Task) (b : BillPayment) (o : Told)
        (actorUserId : Uuid), db.bills.payments.rows = [] →
      Runs config TakesPermitted ⟨db, []⟩ q → b ∈ q.shared.bills.payments.rows →
      b.status = .successful → (∀ r ∈ o.answer, r.state = .reversed) → o.answer ≠ none →
      Refunds o.ctx q.shared actorUserId b fun _ ↦ o.answer := by
  intro h
  have hrun : Runs sampleConfig TakesPermitted ⟨sampleFunded, []⟩ (sampleBillRun samplePaidBill) :=
    reaches_of_allAdmitted (by decide +kernel)
  have hpaid : ∃ b ∈ (sampleBillRun samplePaidBill).shared.bills.payments.rows,
      b.status = .successful ∧ b.reconciliationState ≠ .pending := by decide +kernel
  obtain ⟨b, hb, hst, hstate⟩ := hpaid
  obtain ⟨⟨bill, hok⟩, -⟩ := h sampleConfig sampleFunded _ b (sampleTold 9 .reversed) (.ofNat 9) rfl
    hrun hb hst (by decide) nofun
  rw [reconcile_eq_error _ _ _ hb hstate] at hok
  cases hok

/-! ## Resolved bills stay resolved -/

/-- A refused bill and one that was taken back stay so; a paid one can only be taken back. -/
structure StaysResolved (s s' : BillPaymentStatus) : Prop where
  failed : s = .failed → s' = .failed
  reversed : s = .reversed → s' = .reversed
  successful : s = .successful → s' = .successful ∨ s' = .reversed

theorem StaysResolved.refl (s : BillPaymentStatus) : StaysResolved s s := ⟨id, id, .inl⟩

theorem StaysResolved.of_open {s s' : BillPaymentStatus} (h : isOpen s = true) :
    StaysResolved s s' := by
  have hopen := of_decide_eq_true h
  constructor
  · rintro rfl
    simp at hopen
  · rintro rfl
    simp at hopen
  · rintro rfl
    simp at hopen

theorem StaysResolved.trans {s s' s'' : BillPaymentStatus} (h : StaysResolved s s')
    (h' : StaysResolved s' s'') : StaysResolved s s'' := by
  refine ⟨fun e ↦ h'.failed (h.failed e), fun e ↦ h'.reversed (h.reversed e), fun e ↦ ?_⟩
  rcases h.successful e with e' | e'
  · exact h'.successful e'
  · exact .inr (h'.reversed e')

/-- Every bill is still there, with its terms, and as resolved as it was. -/
def KeepsResolved (db db' : Db) : Prop :=
  ∀ b ∈ db.bills.payments.rows, ∃ b' ∈ db'.bills.payments.rows,
    billTerms b' = billTerms b ∧ StaysResolved b.status b'.status

theorem KeepsResolved.refl (db : Db) : KeepsResolved db db := fun b hb ↦ ⟨b, hb, rfl, .refl _⟩

theorem KeepsResolved.trans {db'' : Db} (h : KeepsResolved db db') (h' : KeepsResolved db' db'') :
    KeepsResolved db db'' := by
  intro b hb
  obtain ⟨b', hb', hterms, hstays⟩ := h b hb
  obtain ⟨b'', hb'', hterms', hstays'⟩ := h' b' hb'
  exact ⟨b'', hb'', hterms'.trans hterms, hstays.trans hstays'⟩

/-- Rewriting one bill keeps the bills resolved when it keeps that one. -/
theorem KeepsResolved.of_rewritten {id : Uuid} {status : BillPaymentStatus}
    {reconciliation : ReconciliationState → ReconciliationState}
    (h : Rewritten db db' id status reconciliation)
    (hstays : ∀ b ∈ db.bills.payments.rows, b.id = id → StaysResolved b.status status) :
    KeepsResolved db db' := by
  intro b hb
  by_cases hid : b.id = id
  · obtain ⟨b', hb', hterms, hstatus, -⟩ := h.exists_of_mem hb hid
    exact ⟨b', hb', hterms, hstatus ▸ hstays b hb hid⟩
  · exact ⟨b, h.mem_of_ne hb hid, rfl, .refl _⟩

theorem KeepsResolved.of_handled {ctx : Ctx} {paymentId : Uuid} {answer : Option ProviderBillPayment}
    (h : Handled ctx paymentId answer db db')
    (hopen : isUncertain answer = true → ∀ b ∈ db.bills.payments.rows, b.id = paymentId →
      isOpen b.status = true) : KeepsResolved db db' := by
  cases h with
  | nothing same =>
      rw [same]
      exact .refl db
  | released payment _ _ mem _ wasOpen _ _ bills _ =>
      refine .of_rewritten bills fun b hb hid ↦ ?_
      rw [bill_eq_of_id hb mem hid]
      exact .of_open wasOpen
  | settled payment _ _ mem _ wasOpen _ _ bills _ =>
      refine .of_rewritten bills fun b hb hid ↦ ?_
      rw [bill_eq_of_id hb mem hid]
      exact .of_open wasOpen
  | reversed payment _ _ _ mem _ wasPaid _ _ bills _ =>
      refine .of_rewritten bills fun b hb hid ↦ ?_
      rw [bill_eq_of_id hb mem hid, wasPaid]
      exact ⟨nofun, nofun, fun _ ↦ .inr rfl⟩
  | uncertain asked _ bills _ =>
      exact .of_rewritten bills fun b hb hid ↦ .of_open (hopen asked b hb hid)

theorem step_keepsResolved (hp : Permitted config db call) (hopen : FindsOpen db call) :
    KeepsResolved db (step config db call) := by
  cases (step_effect config db call).bills hp with
  | same bills =>
      intro b hb
      exact ⟨b, bills ▸ hb, rfl, .refl _⟩
  | added p _ insert =>
      intro b hb
      refine ⟨b, ?_, rfl, .refl _⟩
      rw [Table.rows_of_insert insert]
      exact List.mem_append_left _ hb
  | handled ctx paymentId answer done asked =>
      exact .of_handled done fun hasked ↦ hopen paymentId (asked hasked)

/-! ## Bills and their intents -/

/-- The status that goes with a bill's. -/
def intentStatusFor : BillPaymentStatus → PaymentIntentStatus
  | .successful | .reversed => .succeeded
  | .failed => .failed
  | _ => .processing

theorem intentStatusFor_of_open {s : BillPaymentStatus} (h : isOpen s = true) :
    intentStatusFor s = .processing := by
  rcases of_decide_eq_true h with rfl | rfl
  · rfl
  · rfl

theorem intentStatusFor_ne (s : BillPaymentStatus) : intentStatusFor s ≠ .requiresConfirmation := by
  cases s with
  | successful => exact nofun
  | reversed => exact nofun
  | failed => exact nofun
  | _ => exact nofun

/-- The intent is the one the bill was paid through, and says what the bill says. -/
structure PaidThrough (b : BillPayment) (i : PaymentIntent) : Prop where
  owner : b.userId = i.userId
  key : b.idempotencyKey = intentPaymentKey i.id
  target : i.targetType = .billPayment
  status : i.status = intentStatusFor b.status

/-- Every bill that was paid through an intent agrees with it. -/
structure BillsInStep (db : Db) : Prop where
  /-- No bill is paid by a transfer or a card. -/
  uncharged : ∀ i ∈ db.paymentIntents.rows, i.targetType = .billPayment →
    i.providerReference = none
  paid : ∀ b ∈ db.bills.payments.rows, ∀ id, b.paymentIntentId = some id →
    ∃ i ∈ db.paymentIntents.rows, i.id = id ∧ PaidThrough b i

/-- One intent pays one bill. -/
theorem BillsInStep.eq_of_intent (h : BillsInStep db) {b c : BillPayment} {id : Uuid}
    (hb : b ∈ db.bills.payments.rows) (hc : c ∈ db.bills.payments.rows)
    (hbid : b.paymentIntentId = some id) (hcid : c.paymentIntentId = some id) : b = c := by
  obtain ⟨i, hi, hid, hbi⟩ := h.paid b hb id hbid
  obtain ⟨j, hj, hjd, hcj⟩ := h.paid c hc id hcid
  have hij := intent_eq_of_id hi hj (hid.trans hjd.symm)
  subst hij
  refine db.bills.payments.eq_of_clash hb hc (.inr ⟨rfl, ?_⟩)
  dsimp only
  rw [hbi.owner, hcj.owner, hbi.key, hcj.key]

/-- The bills stayed, and the intents of bills that are past confirmation stayed. -/
theorem BillsInStep.of_intents (h : BillsInStep db)
    (hbills : db'.bills.payments.rows = db.bills.payments.rows)
    (huncharged : ∀ i ∈ db'.paymentIntents.rows, i.targetType = .billPayment →
      i.providerReference = none)
    (hintents : ∀ i ∈ db.paymentIntents.rows, i.targetType = .billPayment →
      i.status ≠ .requiresConfirmation → i ∈ db'.paymentIntents.rows) : BillsInStep db' := by
  refine ⟨huncharged, fun b hb id hid ↦ ?_⟩
  rw [hbills] at hb
  obtain ⟨i, hi, hiid, hbi⟩ := h.paid b hb id hid
  exact ⟨i, hintents i hi hbi.target (hbi.status ▸ intentStatusFor_ne _), hiid, hbi⟩

/-- An intent that is no bill's was rewritten. -/
theorem BillsInStep.of_map (h : BillsInStep db)
    (hbills : db'.bills.payments.rows = db.bills.payments.rows) {id : Uuid}
    {f : PaymentIntent → PaymentIntent}
    (hrows : db'.paymentIntents.rows = db.paymentIntents.rows.map fun i ↦
      if i.id = id then f i else i)
    (htype : ∀ i, (f i).targetType = i.targetType)
    (hother : ∀ i ∈ db.paymentIntents.rows, i.id = id → i.targetType ≠ .billPayment) :
    BillsInStep db' := by
  refine h.of_intents hbills ?_ ?_
  · intro i hi hbill
    rw [hrows] at hi
    obtain ⟨j, hj, rfl⟩ := List.mem_map.mp hi
    split at hbill
    · next hid => exact absurd ((htype j).symm.trans hbill) (hother j hj hid)
    · next hid =>
        rw [if_neg hid]
        exact h.uncharged j hj hbill
  · intro i hi hbill _
    rw [hrows]
    exact List.mem_map.mpr ⟨i, hi, if_neg fun hid ↦ hother i hi hid hbill⟩

/-- The provider's answer was written on the bill and on its intent. -/
theorem BillsInStep.of_synced (h : BillsInStep db) {payment : BillPayment}
    (hmem : payment ∈ db.bills.payments.rows) (hopen : isOpen payment.status = true)
    {status : BillPaymentStatus} {reconciliation : ReconciliationState → ReconciliationState}
    {outcome : PaymentIntentStatus} (hbills : Rewritten db db' payment.id status reconciliation)
    (hintents : Synced db db' payment.paymentIntentId outcome)
    (hagree : outcome = intentStatusFor status) : BillsInStep db' := by
  obtain ⟨f, hrows, hterms, hstatus, hrest⟩ := hintents
  constructor
  · intro i hi hbill
    rw [hrows] at hi
    obtain ⟨j, hj, rfl⟩ := List.mem_map.mp hi
    split at hbill
    · next hsync =>
        rw [if_pos hsync, (hrest j).2.1]
        exact h.uncharged j hj ((congrArg IntentTerms.targetType (hterms j)).symm.trans hbill)
    · next hsync =>
        rw [if_neg hsync]
        exact h.uncharged j hj hbill
  · intro b hb id hid
    rw [hrows]
    rcases hbills.cases hb with ⟨hold, hne⟩ | ⟨b₀, hb₀, hbid, hbterms, hbstatus, -⟩
    · -- Another bill has another intent, which is left alone.
      obtain ⟨i, hi, hiid, hbi⟩ := h.paid b hold id hid
      refine ⟨i, List.mem_map.mpr ⟨i, hi, if_neg ?_⟩, hiid, hbi⟩
      rintro ⟨hsame, -⟩
      exact hne (congrArg BillPayment.id
        (h.eq_of_intent hold hmem hid (hsame.trans (congrArg some hiid))))
    · -- The intent of the bill is in process, and gets the outcome.
      have heq := bill_eq_of_id hb₀ hmem hbid
      subst heq
      have hintent : b₀.paymentIntentId = some id :=
        (congrArg BillTerms.paymentIntentId hbterms).symm.trans hid
      obtain ⟨i, hi, hiid, hbi⟩ := h.paid b₀ hmem id hintent
      have hsync : b₀.paymentIntentId = some i.id ∧ i.status = .processing :=
        ⟨hintent.trans (congrArg some hiid.symm), hbi.status.trans (intentStatusFor_of_open hopen)⟩
      have hfid : (f i).id = i.id := congrArg IntentTerms.id (hterms i)
      refine ⟨f i, List.mem_map.mpr ⟨i, hi, if_pos hsync⟩, hfid.trans hiid, ?_, ?_, ?_, ?_⟩
      · exact (congrArg BillTerms.userId hbterms).trans
          (hbi.owner.trans (congrArg IntentTerms.userId (hterms i)).symm)
      · rw [hfid]
        exact (congrArg BillTerms.idempotencyKey hbterms).trans hbi.key
      · exact (congrArg IntentTerms.targetType (hterms i)).trans hbi.target
      · rw [hstatus, hagree, hbstatus]

/-- A bill was rewritten to a status that its intent goes with as before. -/
theorem BillsInStep.of_rewritten (h : BillsInStep db) {paymentId : Uuid}
    {status : BillPaymentStatus} {reconciliation : ReconciliationState → ReconciliationState}
    (hbills : Rewritten db db' paymentId status reconciliation)
    (hintents : db'.paymentIntents = db.paymentIntents)
    (hagree : ∀ b ∈ db.bills.payments.rows, b.id = paymentId →
      intentStatusFor b.status = intentStatusFor status) : BillsInStep db' := by
  constructor
  · rw [hintents]
    exact h.uncharged
  · intro b hb id hid
    rw [hintents]
    rcases hbills.cases hb with ⟨hold, -⟩ | ⟨b₀, hb₀, hbid, hterms, hstatus, -⟩
    · exact h.paid b hold id hid
    · obtain ⟨i, hi, hiid, hbi⟩ := h.paid b₀ hb₀ id
        ((congrArg BillTerms.paymentIntentId hterms).symm.trans hid)
      refine ⟨i, hi, hiid, ?_, ?_, hbi.target, ?_⟩
      · exact (congrArg BillTerms.userId hterms).trans hbi.owner
      · exact (congrArg BillTerms.idempotencyKey hterms).trans hbi.key
      · rw [hstatus, ← hagree b₀ hb₀ hbid]
        exact hbi.status

theorem BillsInStep.of_handled {ctx : Ctx} {paymentId : Uuid} {answer : Option ProviderBillPayment}
    (h : BillsInStep db) (hd : Handled ctx paymentId answer db db')
    (hopen : isUncertain answer = true → ∀ b ∈ db.bills.payments.rows, b.id = paymentId →
      isOpen b.status = true) : BillsInStep db' := by
  cases hd with
  | nothing same =>
      rw [same]
      exact h
  | released payment _ _ mem _ wasOpen _ _ bills intents =>
      exact h.of_synced mem wasOpen bills intents rfl
  | settled payment _ _ mem _ wasOpen _ _ bills intents =>
      exact h.of_synced mem wasOpen bills intents rfl
  | reversed payment _ _ _ mem _ wasPaid _ _ bills intents =>
      refine h.of_rewritten bills intents fun b hb hid ↦ ?_
      rw [bill_eq_of_id hb mem hid, wasPaid]
      rfl
  | uncertain asked _ bills intents =>
      exact h.of_rewritten bills intents fun b hb hid ↦
        intentStatusFor_of_open (hopen asked b hb hid)

/-- The wallet paid for an intent: it is past confirmation, and a bill waits for the provider. -/
theorem BillsInStep.of_paid {ctx : Ctx} {userId : Uuid} {intent : PaymentIntent} {key : String}
    {walletId : Uuid} {target : ResolvedTarget} {payer : PayerAccounts} {destination : Uuid}
    {opened : Db} {posting : LedgerReference} {settled : Db} (h : BillsInStep db)
    (hp : Paid config ctx db db' userId intent key walletId target payer destination opened posting
      settled) : BillsInStep db' := by
  have hopened : opened.bills.payments = db.bills.payments := by rw [hp.opened_eq]
  have hbills : db'.bills.payments = settled.bills.payments := congrArg Records.bills hp.after
  have huncharged : ∀ i ∈ db'.paymentIntents.rows, i.targetType = .billPayment →
      i.providerReference = none := by
    intro i hi hbill
    rw [hp.intents] at hi
    obtain ⟨j, hj, rfl⟩ := List.mem_map.mp hi
    split at hbill
    · next hid =>
        rw [if_pos hid]
        exact h.uncharged j hj hbill
    · next hid =>
        rw [if_neg hid]
        exact h.uncharged j hj hbill
  -- The intent was awaiting confirmation, so it is not one that a bill was paid through.
  have hkept : ∀ i ∈ db.paymentIntents.rows, i.status ≠ .requiresConfirmation →
      i ∈ db'.paymentIntents.rows := by
    intro i hi hst
    rw [hp.intents]
    refine List.mem_map.mpr ⟨i, hi, if_neg fun hid ↦ hst ?_⟩
    rw [intent_eq_of_id hi hp.mem hid]
    exact hp.unpaid
  rcases hp.record.bills with hb | ⟨b, hst, -, hintent, hown, hkey, htype, hins⟩
  · refine h.of_intents (by rw [hbills, hb, ← hopened]) huncharged fun i hi _ hst ↦ hkept i hi hst
  · refine ⟨huncharged, fun c hc id hid ↦ ?_⟩
    rw [hbills, Table.rows_of_insert hins] at hc
    rcases List.mem_append.mp hc with hc | hc
    · rw [show ({ opened with ledger := db'.ledger } : Db).bills.payments = db.bills.payments from
        hopened] at hc
      obtain ⟨i, hi, hiid, hbi⟩ := h.paid c hc id hid
      exact ⟨i, hkept i hi (hbi.status ▸ intentStatusFor_ne _), hiid, hbi⟩
    · rw [List.mem_singleton.mp hc] at hid ⊢
      have hid' : intent.id = id := Option.some.inj (hintent.symm.trans hid)
      refine ⟨markSettled ctx (targets config intent.targetType) posting intent, ?_, hid', ?_, ?_,
        htype, ?_⟩
      · rw [hp.intents]
        exact List.mem_map.mpr ⟨intent, hp.mem, if_pos rfl⟩
      · exact hown.trans hp.owner.symm
      · exact hkey
      · rw [hst, markSettled, htype]
        rfl

theorem BillsInStep.step (h : BillsInStep db) (hp : Permitted config db call)
    (hopen : FindsOpen db call) : BillsInStep (step config db call) := by
  have heffect := step_effect config db call
  generalize hdb' : Platform.step config db call = db' at heffect ⊢
  have hsame : ∀ {r : Records}, records db' = r → r.bills = db.bills.payments →
      r.intents = db.paymentIntents → BillsInStep db' := by
    intro r hr hb hi
    have hbills : db'.bills.payments = db.bills.payments := (congrArg Records.bills hr).trans hb
    have hintents : db'.paymentIntents = db.paymentIntents := (congrArg Records.intents hr).trans hi
    exact ⟨hintents ▸ h.uncharged, hbills ▸ hintents ▸ h.paid⟩
  cases heffect with
  | idle _ after => exact hsame after rfl rfl
  | sent _ _ _ _ _ done => exact hsame done.after rfl rfl
  | withdrew _ _ _ _ _ done => exact hsame done.after rfl rfl
  | contributed _ _ _ _ _ _ done => exact hsame done.after rfl rfl
  | paidOut _ _ _ _ _ _ _ _ _ _ done => exact hsame done.records rfl rfl
  | created intent _ new insert after =>
      have hrows := Table.rows_of_insert insert
      refine h.of_intents (congrArg Table.rows (congrArg Records.bills after)) ?_ ?_
      · intro i hi hbill
        rw [hrows] at hi
        rcases List.mem_append.mp hi with hi | hi
        · exact h.uncharged i hi hbill
        · rw [List.mem_singleton.mp hi]
          exact new.2.1
      · intro i hi _ _
        rw [hrows]
        exact List.mem_append_left _ hi
  | paid ctx userId intent key walletId target payer destination opened posting settled done _ =>
      exact h.of_paid done
  | charged intent reference mem _ intents after =>
      refine h.of_map (congrArg Table.rows (congrArg Records.bills after)) intents (fun _ ↦ rfl) ?_
      intro i hi hid hbill
      obtain ⟨hwallet, hmethod⟩ := hp i hi hid
      rw [hbill] at hmethod
      exact hwallet (List.mem_singleton.mp hmethod)
  | banked intent wallet accounts posting done =>
      refine h.of_map (congrArg Table.rows (congrArg Records.bills done.after))
        done.deposited.intents (fun _ ↦ rfl) ?_
      intro i hi hid hbill
      exact hp i hi hid (h.uncharged i hi hbill)
  | failed same =>
      subst same
      refine h.of_map rfl (rows_failIntent db _ _) (fun _ ↦ rfl) ?_
      intro i hi hid hbill
      exact hp i hi hid (h.uncharged i hi hbill)
  | reserved wallet feeMinor found posting done =>
      have hrows := Table.rows_of_insert done.insert
      have hintents : db'.paymentIntents = db.paymentIntents := congrArg Records.intents done.after
      refine ⟨hintents ▸ h.uncharged, fun b hb id hid ↦ ?_⟩
      rw [hrows] at hb
      rw [hintents]
      rcases List.mem_append.mp hb with hb | hb
      · exact h.paid b hb id hid
      · rw [List.mem_singleton.mp hb] at hid
        cases hid
  | answered done _ =>
      refine h.of_handled done fun hasked ↦ hopen _ ?_
      rw [uncertainBill, if_pos hasked]
      rfl
  | unanswered done _ _ => exact h.of_handled done fun _ ↦ hopen _ rfl
  | refunded _ _ _ _ _ _ _ done => exact hsame done.after rfl rfl
  | rewarded _ _ _ _ done => exact hsame done.after rfl rfl
  | elsewhere change same =>
      subst same
      refine h.of_intents hp ?_ ?_
      · rw [change.intents]
        exact h.uncharged
      · rw [change.intents]
        exact fun i hi _ _ ↦ hi

/-- Bills agree with their intents in every state of a run, and those resolved stay so. -/
theorem bills_of_runs {p q : Pool Db Task} (h₀ : BillsInStep p.shared)
    (h : Runs config TakesOpen p q) : BillsInStep q.shared ∧ KeepsResolved p.shared q.shared := by
  refine invariant_of_calls (I := fun db ↦ BillsInStep db ∧ KeepsResolved p.shared db) h
    ⟨h₀, .refl _⟩ (fun _ _ _ ht ↦ ht) ?_
  rintro db call ⟨hstep, hkeeps⟩ ⟨hp, hopen⟩
  exact ⟨hstep.step hp hopen, hkeeps.trans (step_keepsResolved hp hopen)⟩

/-- What was resolved in `db` is so in `db'`, and there every bill agrees with its intent. -/
structure ResolvedIn (db db' : Db) : Prop where
  stays : ∀ b ∈ db.bills.payments.rows, ∃ b' ∈ db'.bills.payments.rows, b'.id = b.id ∧
    (b.status = .failed ∨ b.status = .reversed → b'.status = b.status) ∧
    (b.status = .successful → b'.status = .successful ∨ b'.status = .reversed)
  agrees : ∀ b ∈ db'.bills.payments.rows, ∀ id, b.paymentIntentId = some id →
    ∃ i ∈ db'.paymentIntents.rows, i.id = id ∧
      (i.status = .succeeded ↔ b.status = .successful ∨ b.status = .reversed) ∧
      (i.status = .failed ↔ b.status = .failed) ∧
      (i.status = .processing ↔
        ¬ (b.status = .successful ∨ b.status = .reversed ∨ b.status = .failed))

/-- **Resolved bills stay resolved.**  As long as `markUncertain` finds the bill unanswered, what was
resolved anywhere in a run is so ever after, and every bill agrees with its intent. -/
theorem resolved_bills_stay_resolved {p q : Pool Db Task} (h₀ : BillsInStep p.shared)
    (h : Runs config TakesOpen p q) : ResolvedIn p.shared q.shared := by
  obtain ⟨hinStep, hkeeps⟩ := bills_of_runs h₀ h
  constructor
  · intro b hb
    obtain ⟨b', hb', hterms, hstays⟩ := hkeeps b hb
    refine ⟨b', hb', congrArg BillTerms.id hterms, ?_, hstays.successful⟩
    rintro (hst | hst)
    · rw [hst, hstays.failed hst]
    · rw [hst, hstays.reversed hst]
  · intro b hb id hid
    obtain ⟨i, hi, hiid, hbi⟩ := hinStep.paid b hb id hid
    refine ⟨i, hi, hiid, ?_⟩
    rw [hbi.status]
    cases b.status with
    | _ => simp [intentStatusFor]

theorem billsInStep_sampleFunded : BillsInStep sampleFunded := by
  refine ⟨by decide +kernel, fun b hb ↦ ?_⟩
  cases hb

theorem runs_sampleRefusedBill :
    Runs sampleConfig TakesOpen ⟨sampleFunded, []⟩ (sampleBillRun sampleRefusedBill) :=
  reaches_of_allAdmitted (by decide +kernel)

/-- A bill that is left for reconciliation and then refused. -/
theorem resolved_bills_stay_resolved_sample :
    ResolvedIn sampleFunded (sampleBillRun sampleRefusedBill).shared ∧
      ∃ b ∈ (sampleBillRun sampleRefusedBill).shared.bills.payments.rows, b.status = .failed :=
  ⟨resolved_bills_stay_resolved billsInStep_sampleFunded runs_sampleRefusedBill, by decide +kernel⟩

/-- A refused bill is reconciled once more, the provider does not know, and the bill is open
again. -/
theorem refused_bill_reopened :
    ¬ ∀ (config : BillConfig) (p q : Pool Db Task), BillsInStep p.shared →
      Runs config TakesPermitted p q → ResolvedIn p.shared q.shared := by
  intro h
  have hrun : Runs sampleConfig TakesPermitted (sampleBillRun sampleRefusedBill)
      ((sampleReconcile 10 .pending).foldl (Pool.advance (exec sampleConfig))
        (sampleBillRun sampleRefusedBill)) := reaches_of_allAdmitted (by decide +kernel)
  have hreopened : ∃ b ∈ (sampleBillRun sampleRefusedBill).shared.bills.payments.rows,
      b.status = .failed ∧ ∀ b' ∈ ((sampleReconcile 10 .pending).foldl
        (Pool.advance (exec sampleConfig))
        (sampleBillRun sampleRefusedBill)).shared.bills.payments.rows,
          b'.status ≠ .failed := by decide +kernel
  obtain ⟨b, hb, hst, hopen⟩ := hreopened
  obtain ⟨b', hb', -, hstays, -⟩ :=
    (h _ _ _ (bills_of_runs billsInStep_sampleFunded runs_sampleRefusedBill).1 hrun).stays b hb
  exact hopen b' hb' ((hstays (.inl hst)).trans hst)

end AjoCloud.Platform
