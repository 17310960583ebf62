import AjoCloud.Platform.Deposits
import AjoCloud.Platform.Payments

/-!
# Redelivery

All deliveries about one payment share one event row, which is keyed on the route and the reference.
The delivery that stores the row is the only one that is settled; every later one is acknowledged and
dropped.  So a deposit is booked at most once, and it is booked when the delivery that stored the row is
fresh, says that the payment succeeded, and goes through.
-/

namespace AjoCloud.Platform

open Lib Ledger Payments Bills Webhooks

variable {config : BillConfig} {host : Host} {start db db' : Db} {x : PaymentIntent}
  {reference : String} {o : Signal} {s : Desk} {task : PaymentTask}

/-! ## Deliveries about one payment -/

/-- The key of the row that the deliveries about a payment share. -/
def deliveryId (reference : String) : String :=
  MonnifyEventKind.transactionCompletion.text ++ ":" ++ reference

/-- The delivery came by the route of transaction completions, with the reference of the payment. -/
structure IsAbout (reference : String) (delivery : Delivery) : Prop where
  kind : delivery.kind = .transactionCompletion
  reference_eq : truthy delivery.event.providerReference = some reference
  eventId : delivery.event.eventId = deliveryId reference

instance (reference : String) (delivery : Delivery) : Decidable (IsAbout reference delivery) :=
  decidable_of_iff (delivery.kind = .transactionCompletion ∧
      truthy delivery.event.providerReference = some reference ∧
      delivery.event.eventId = deliveryId reference)
    ⟨fun ⟨h₁, h₂, h₃⟩ ↦ ⟨h₁, h₂, h₃⟩, fun h ↦ ⟨h.kind, h.reference_eq, h.eventId⟩⟩

/-- Every event that is extracted with the reference is about the payment. -/
theorem isAbout_of_extract {payload : Json} {payloadHash : String} {event : ExtractedMonnifyEvent}
    (h : extractMonnifyEvent payload .transactionCompletion payloadHash = .ok event)
    (href : truthy event.providerReference = some reference) (signature : Option String) :
    IsAbout reference ⟨.transactionCompletion, event, payloadHash, signature⟩ := by
  refine ⟨rfl, href, ?_⟩
  unfold extractMonnifyEvent at h
  split at h
  · cases h
  · cases h
    show eventIdOf .transactionCompletion
      (extractFrom payload .transactionCompletion payloadHash).providerReference payloadHash =
        deliveryId reference
    rw [eventIdOf, href]
    rfl

/-- The provider says that the payment failed. -/
def Declined (delivery : Delivery) : Prop := delivery.event.declaredType = some "FAILED_TRANSACTION"

instance (delivery : Delivery) : Decidable (Declined delivery) :=
  inferInstanceAs (Decidable (delivery.event.declaredType = some "FAILED_TRANSACTION"))

/-- A delivery about the payment was stored. -/
def Heard (db : Db) (reference : String) : Prop :=
  ∃ e ∈ db.paymentWebhookEvents.rows, isEvent (deliveryId reference) e = true

instance (db : Db) (reference : String) : Decidable (Heard db reference) :=
  inferInstanceAs (Decidable (∃ e ∈ db.paymentWebhookEvents.rows,
    isEvent (deliveryId reference) e = true))

/-- The top-up waits for the payment with the reference, of which nothing was heard. -/
structure Awaits (start : Db) (x : PaymentIntent) (reference : String) : Prop where
  mem : x ∈ start.paymentIntents.rows
  topUp : x.targetType = .walletTopup
  processing : x.status = .processing
  reference_eq : x.providerReference = some reference
  unheard : ¬ Heard start reference
  unposted : ∀ t ∈ start.ledger.transactions.rows, t.idempotencyKey ≠ depositKey x.id

/-- The deposit of the intent was added to the ledger, and nothing else. -/
def CreditedOnce (start : Db) (x : PaymentIntent) (ledger : Ledger) : Prop :=
  ∃ id accounts, accountsFor start x.userId x.currency = .ok accounts ∧
    ledger.transactions.rows =
      start.ledger.transactions.rows ++ [postedTransaction id (depositPosting x accounts)]

/-! ## What the deliveries keep -/

/-- The intent waits, or its deposit was booked. -/
structure Expects (start : Db) (x : PaymentIntent) (reference : String) (db : Db) : Prop where
  wallets : db.wallets = start.wallets
  accounts : db.ledger.accounts = start.ledger.accounts
  intent : ∃ x' ∈ db.paymentIntents.rows, terms x' = terms x ∧
    x'.providerReference = some reference ∧ (x'.status = .succeeded → CreditedOnce start x db.ledger)
  ledger : db.ledger.transactions = start.ledger.transactions ∨ CreditedOnce start x db.ledger

theorem Awaits.expects (h : Awaits start x reference) : Expects start x reference start where
  wallets := rfl
  accounts := rfl
  intent := by
    refine ⟨x, h.mem, rfl, h.reference_eq, fun hst ↦ ?_⟩
    rw [h.processing] at hst
    cases hst
  ledger := .inl rfl

theorem Expects.of_eq (h : Expects start x reference db) (hwallets : db'.wallets = db.wallets)
    (hledger : db'.ledger = db.ledger) (hintents : db'.paymentIntents = db.paymentIntents) :
    Expects start x reference db' where
  wallets := hwallets.trans h.wallets
  accounts := hledger ▸ h.accounts
  intent := by
    rw [hintents, hledger]
    exact h.intent
  ledger := hledger ▸ h.ledger

theorem accountsFor_congr {userId : Uuid} {currency : String} (hwallets : db'.wallets = db.wallets)
    (haccounts : db'.ledger.accounts = db.ledger.accounts) :
    accountsFor db' userId currency = accountsFor db userId currency := by
  rw [accountsFor, accountsFor, hwallets, haccounts]

/-- The intent that a lookup by its identifier finds. -/
theorem Expects.intent_of_find (h : Expects start x reference db) {current : PaymentIntent}
    (hfind : (db.paymentIntents.find? fun i ↦ i.id = x.id) = some current) :
    terms current = terms x ∧ (current.status = .succeeded → CreditedOnce start x db.ledger) := by
  obtain ⟨x', hx', hterms, -, hsettled⟩ := h.intent
  have hid : current.id = x.id := by simpa using Table.prop_of_find? hfind
  have hid' : x'.id = x.id := congrArg IntentTerms.id hterms
  rw [intent_eq_of_id (Table.mem_of_find? hfind) hx' (hid.trans hid'.symm)]
  exact ⟨hterms, hsettled⟩

/-- A lookup by the reference finds the intent. -/
theorem Expects.id_of_find (h : Expects start x reference db) {current : PaymentIntent}
    (hfind : (db.paymentIntents.find? fun i ↦ i.providerReference = some reference) = some current) :
    current.id = x.id := by
  obtain ⟨x', hx', hterms, href, -⟩ := h.intent
  have href' : current.providerReference = some reference := by
    simpa using Table.prop_of_find? hfind
  have hsome : current.providerReference.isSome = true := by
    rw [href']
    rfl
  have hclash : Schema.Clash current x' := .inl (.inr ⟨hsome, href'.trans href.symm⟩)
  rw [db.paymentIntents.eq_of_clash (Table.mem_of_find? hfind) hx' hclash]
  exact congrArg IntentTerms.id hterms

/-- A deposit that is booked has its key. -/
theorem CreditedOnce.exists_key {ledger : Ledger} (h : CreditedOnce start x ledger) :
    ∃ t ∈ ledger.transactions.rows, t.idempotencyKey = depositKey x.id := by
  obtain ⟨id, accounts, -, hrows⟩ := h
  refine ⟨postedTransaction id (depositPosting x accounts), ?_, rfl⟩
  rw [hrows]
  exact List.mem_append_right _ (List.mem_singleton_self _)

/-- A settlement that returns has booked the deposit, now or before. -/
theorem Expects.credited_of_settle (h : Expects start x reference db) (h₀ : Awaits start x reference)
    {ctx : Ctx} {outcome : SettlementOutcome}
    (hsettle : settleDeposit ctx db x.id = .ok (outcome, db')) : CreditedOnce start x db'.ledger := by
  unfold settleDeposit at hsettle
  split at hsettle
  · next hnone =>
      obtain ⟨x', hx', hterms, -⟩ := h.intent
      have hid : x'.id = x.id := congrArg IntentTerms.id hterms
      exact absurd hid (by simpa using Table.not_of_find?_eq_none hnone hx')
  · next current hfind =>
      obtain ⟨hterms, hsettled⟩ := h.intent_of_find hfind
      split at hsettle
      · next hst =>
          cases hsettle
          exact hsettled hst
      · simp only [postDeposit, bind_eq_ok, pure_eq_ok] at hsettle
        obtain ⟨accounts, haccounts, ⟨posting, ledger⟩, hpost, intents, -, hanswer⟩ := hsettle
        cases hanswer
        have huser : current.userId = x.userId := congrArg IntentTerms.userId hterms
        have hcurrency : current.currency = x.currency := congrArg IntentTerms.currency hterms
        rw [huser, hcurrency, accountsFor_congr h.wallets h.accounts] at haccounts
        rw [depositPosting_congr hterms] at hpost
        show CreditedOnce start x ledger
        cases (postWithin_eq_ok hpost).2 with
        | replayed existing mem key _ same =>
            rw [same]
            refine h.ledger.resolve_left fun hsame ↦ ?_
            exact h₀.unposted existing (hsame ▸ mem) key
        | appended fresh created _ =>
            have hnot : ¬ CreditedOnce start x db.ledger := by
              intro hcredited
              obtain ⟨t, ht, hkey⟩ := hcredited.exists_key
              exact fresh t ht hkey
            refine ⟨ctx.uuid 0, accounts, haccounts, ?_⟩
            rw [(createTransaction_eq_ok created).2.2.2.2, h.ledger.resolve_right hnot]

/-- What a settlement leaves alone. -/
theorem settleDeposit_frame {ctx : Ctx} {intentId : Uuid} {outcome : SettlementOutcome}
    (h : settleDeposit ctx db intentId = .ok (outcome, db')) :
    db'.wallets = db.wallets ∧ db'.paymentWebhookEvents = db.paymentWebhookEvents ∧
      db'.ledger.accounts = db.ledger.accounts := by
  unfold settleDeposit at h
  split at h
  · cases h
    exact ⟨rfl, rfl, rfl⟩
  · split at h
    · cases h
      exact ⟨rfl, rfl, rfl⟩
    · simp only [postDeposit, bind_eq_ok, pure_eq_ok] at h
      obtain ⟨_, -, ⟨posting, ledger⟩, hpost, _, -, hanswer⟩ := h
      cases hanswer
      refine ⟨rfl, rfl, ?_⟩
      cases (postWithin_eq_ok hpost).2 with
      | replayed _ _ _ _ same => exact congrArg Ledger.accounts same
      | appended _ created _ => exact (createTransaction_eq_ok created).2.2.2.1

theorem Expects.settle (h : Expects start x reference db) (h₀ : Awaits start x reference) {ctx : Ctx}
    {outcome : SettlementOutcome} (hsettle : settleDeposit ctx db x.id = .ok (outcome, db')) :
    Expects start x reference db' := by
  have hcredited := h.credited_of_settle h₀ hsettle
  obtain ⟨hwallets, -, haccounts⟩ := settleDeposit_frame hsettle
  refine ⟨hwallets.trans h.wallets, haccounts.trans h.accounts, ?_, .inr hcredited⟩
  obtain ⟨x', hx', hterms, href, -⟩ := h.intent
  obtain ⟨rfl, -⟩ | ⟨intent, accounts, posting, -, -, hdeposited⟩ := settleDeposit_eq_ok hsettle
  · exact ⟨x', hx', hterms, href, fun _ ↦ hcredited⟩
  · have hkept : terms (if x'.id = intent.id then markDeposited ctx posting x' else x') = terms x' :=
      terms_ite rfl
    refine ⟨_, ?_, hkept.trans hterms, ?_, fun _ ↦ hcredited⟩
    · rw [hdeposited.intents]
      exact List.mem_map.mpr ⟨x', hx', rfl⟩
    · split
      · exact href
      · exact href

/-- A failure that is written down does not settle the intent. -/
theorem Expects.failIntent (h : Expects start x reference db) (reason : String) :
    Expects start x reference (failIntent db x.id reason) := by
  refine ⟨h.wallets, h.accounts, ?_, h.ledger⟩
  obtain ⟨x', hx', hterms, href, -⟩ := h.intent
  have hid : x'.id = x.id := congrArg IntentTerms.id hterms
  refine ⟨markFailed reason x', ?_, hterms, href, nofun⟩
  rw [rows_failIntent]
  exact List.mem_map.mpr ⟨x', hx', if_pos hid⟩

/-! ## Tasks about one payment -/

/-- The task belongs to a delivery about the payment. -/
def Concerns (x : PaymentIntent) (reference : String) (s : Desk) : PaymentTask → Prop
  | .record delivery | .store delivery _ => IsAbout reference delivery
  | .audit delivery _ | .close delivery _ => IsAbout reference delivery ∧ Heard s.db reference
  | .settleSuccessful delivery r | .settleFailed delivery r =>
      (IsAbout reference delivery ∧ Heard s.db reference) ∧ r = reference
  | .deposit delivery i | .markFailed delivery i =>
      (IsAbout reference delivery ∧ Heard s.db reference) ∧ i = x.id
  | .other _ | .confirm .. | .startExternal .. | .charge .. | .markProcessing .. => False

/-- The task writes on events only. -/
def WritesEvents : PaymentTask → Prop
  | .record _ | .store .. | .audit .. | .settleSuccessful .. | .settleFailed .. | .close .. => True
  | _ => False

theorem close_frame (o : Signal) (s : Desk) (delivery : Delivery)
    (outcome : Except ServiceError SettlementOutcome) :
    (close o s delivery outcome).1.db =
      { s.db with paymentWebhookEvents := (close o s delivery outcome).1.db.paymentWebhookEvents } := by
  unfold close
  split
  · rfl
  · next outcome _ =>
      split
      · rfl
      · cases outcome with
        | _ => rfl
  · split
    · rfl
    · rfl

theorem perform_frame (o : Signal) (s : Desk) {task : PaymentTask} (htask : WritesEvents task) :
    (perform config host o s task).1.db =
      { s.db with
        paymentWebhookEvents := (perform config host o s task).1.db.paymentWebhookEvents } := by
  cases task with
  | record delivery =>
      rw [perform]
      split
      · rfl
      · rfl
      · rfl
  | store delivery stale =>
      simp only [perform]
      split
      · rfl
      · split
        · rfl
        · rfl
  | audit delivery stale =>
      rw [perform]
      split
      · rfl
      · split
        · rfl
        · rfl
  | settleSuccessful delivery reference =>
      rw [perform]
      split
      · rfl
      · rfl
      · rfl
  | settleFailed delivery reference =>
      rw [perform]
      split
      · rfl
      · rfl
      · rfl
  | close delivery outcome => exact close_frame o s delivery outcome
  | other _ => exact htask.elim
  | confirm _ _ _ _ _ => exact htask.elim
  | startExternal _ _ _ => exact htask.elim
  | charge _ _ _ => exact htask.elim
  | markProcessing _ _ _ => exact htask.elim
  | deposit _ _ => exact htask.elim
  | markFailed _ _ => exact htask.elim

/-! ## Steps -/

theorem Expects.perform (h₀ : Awaits start x reference) (h : Expects start x reference s.db)
    (ht : Concerns x reference s task) :
    Expects start x reference (perform config host o s task).1.db := by
  have hquiet : WritesEvents task → Expects start x reference
      (Platform.perform config host o s task).1.db := by
    intro htask
    rw [perform_frame o s htask]
    exact h.of_eq rfl rfl rfl
  cases task with
  | deposit delivery i =>
      obtain ⟨-, rfl⟩ := ht
      rw [Platform.perform]
      split
      · exact h
      · exact h
      · next hsettle => exact h.settle h₀ hsettle
  | markFailed delivery i =>
      obtain ⟨-, rfl⟩ := ht
      rw [Platform.perform]
      split
      · exact h
      · exact h.failIntent _
  | record _ => exact hquiet trivial
  | store _ _ => exact hquiet trivial
  | audit _ _ => exact hquiet trivial
  | settleSuccessful _ _ => exact hquiet trivial
  | settleFailed _ _ => exact hquiet trivial
  | close _ _ => exact hquiet trivial
  | other _ => exact ht.elim
  | confirm _ _ _ _ _ => exact ht.elim
  | startExternal _ _ _ => exact ht.elim
  | charge _ _ _ => exact ht.elim
  | markProcessing _ _ _ => exact ht.elim

/-- A deposit that is booked stays so. -/
theorem CreditedOnce.perform (hcredited : CreditedOnce start x s.db.ledger)
    (h₀ : Awaits start x reference) (h : Expects start x reference s.db)
    (ht : Concerns x reference s task) :
    CreditedOnce start x (perform config host o s task).1.db.ledger := by
  have hquiet : WritesEvents task →
      CreditedOnce start x (Platform.perform config host o s task).1.db.ledger := by
    intro htask
    rw [perform_frame o s htask]
    exact hcredited
  cases task with
  | deposit delivery i =>
      obtain ⟨-, rfl⟩ := ht
      rw [Platform.perform]
      split
      · exact hcredited
      · exact hcredited
      · next hsettle => exact h.credited_of_settle h₀ hsettle
  | markFailed delivery i =>
      rw [Platform.perform]
      split
      · exact hcredited
      · exact hcredited
  | record _ => exact hquiet trivial
  | store _ _ => exact hquiet trivial
  | audit _ _ => exact hquiet trivial
  | settleSuccessful _ _ => exact hquiet trivial
  | settleFailed _ _ => exact hquiet trivial
  | close _ _ => exact hquiet trivial
  | other _ => exact ht.elim
  | confirm _ _ _ _ _ => exact ht.elim
  | startExternal _ _ _ => exact ht.elim
  | charge _ _ _ => exact ht.elim
  | markProcessing _ _ _ => exact ht.elim

/-- What is written on the row of an event leaves it the row of the event. -/
theorem heard_markEvent {eventId : String} {f : PaymentWebhookEvent → PaymentWebhookEvent}
    (keep : ∀ {a b : PaymentWebhookEvent}, Schema.Clash (f a) b → Schema.Clash a b)
    (hf : ∀ e, isEvent (deliveryId reference) (f e) = isEvent (deliveryId reference) e) :
    Heard (markEvent db eventId f keep) reference ↔ Heard db reference := by
  constructor
  · rintro ⟨e, he, hevent⟩
    obtain ⟨e₀, he₀, rfl⟩ := List.mem_map.mp he
    refine ⟨e₀, he₀, ?_⟩
    split at hevent
    · rw [← hf]
      exact hevent
    · exact hevent
  · rintro ⟨e, he, hevent⟩
    refine ⟨_, List.mem_map_of_mem he, ?_⟩
    split
    · rw [hf]
      exact hevent
    · exact hevent

theorem heard_closeEvent (now : Timestamp) (db : Db) (eventId : String)
    (outcome : Except ServiceError SettlementOutcome) :
    Heard (closeEvent now db eventId outcome) reference ↔ Heard db reference := by
  rcases outcome with e | outcome
  · rw [closeEvent]
    exact heard_markEvent _ fun _ ↦ rfl
  · cases outcome with
    | unmatched => exact Iff.rfl
    | _ =>
        rw [closeEvent]
        · exact heard_markEvent _ fun _ ↦ rfl
        · exact nofun

theorem heard_close (o : Signal) (s : Desk) (delivery : Delivery)
    (outcome : Except ServiceError SettlementOutcome) :
    Heard (close o s delivery outcome).1.db reference ↔ Heard s.db reference := by
  unfold close
  split
  · exact Iff.rfl
  · split
    · exact Iff.rfl
    · exact heard_closeEvent _ _ _ _
  · split
    · exact Iff.rfl
    · exact heard_closeEvent _ _ _ _

/-- What is heard of the payment after a step: what was heard before, and the delivery that the step
stored. -/
theorem heard_perform (ht : Concerns x reference s task) :
    (Heard s.db reference → Heard (perform config host o s task).1.db reference) ∧
      (Heard (perform config host o s task).1.db reference → Heard s.db reference ∨
        ∃ delivery stale, task = .store delivery stale ∧ o.fault = none ∧
          eventFits (newEvent host (o.told.ctx.uuid 1) delivery.event delivery.payloadHash
            delivery.signature stale) ∧
          (perform config host o s task).2 = some (.audit delivery stale)) := by
  have hsame : (perform config host o s task).1.db.paymentWebhookEvents = s.db.paymentWebhookEvents →
      (Heard s.db reference → Heard (perform config host o s task).1.db reference) ∧
      (Heard (perform config host o s task).1.db reference → Heard s.db reference ∨
        ∃ delivery stale, task = .store delivery stale ∧ o.fault = none ∧
          eventFits (newEvent host (o.told.ctx.uuid 1) delivery.event delivery.payloadHash
            delivery.signature stale) ∧
          (perform config host o s task).2 = some (.audit delivery stale)) := by
    intro heq
    rw [Heard, Heard, heq]
    exact ⟨id, .inl⟩
  cases task with
  | record delivery =>
      apply hsame
      rw [perform]
      split
      · rfl
      · rfl
      · rfl
  | store delivery stale =>
      by_cases hfails : o.fault.isSome ∨ ¬ eventFits (newEvent host (o.told.ctx.uuid 1) delivery.event
          delivery.payloadHash delivery.signature stale)
      · apply hsame
        simp only [perform, if_pos hfails]
      · rw [not_or, not_not, Bool.not_eq_true, Option.isSome_eq_false_iff,
          Option.isNone_iff_eq_none] at hfails
        cases hins : s.db.paymentWebhookEvents.insert (newEvent host (o.told.ctx.uuid 1)
            delivery.event delivery.payloadHash delivery.signature stale) with
        | none =>
            apply hsame
            simp only [perform, hins]
            split
            · rfl
            · rfl
        | some events =>
            simp only [perform, hins, hfails.1, hfails.2, Option.isSome_none, Bool.false_eq_true,
              not_true_eq_false, or_self, if_false]
            constructor
            · rintro ⟨e, he, hevent⟩
              exact ⟨e, Table.rows_of_insert hins ▸ List.mem_append_left _ he, hevent⟩
            · intro _
              exact .inr ⟨delivery, stale, rfl, trivial, hfails.2, rfl⟩
  | audit delivery stale =>
      apply hsame
      rw [perform]
      split
      · rfl
      · split
        · rfl
        · rfl
  | settleSuccessful delivery r =>
      apply hsame
      rw [perform]
      split
      · rfl
      · rfl
      · rfl
  | deposit delivery i =>
      apply hsame
      rw [perform]
      split
      · rfl
      · rfl
      · next hsettle => exact (settleDeposit_frame hsettle).2.1
  | settleFailed delivery r =>
      apply hsame
      rw [perform]
      split
      · rfl
      · rfl
      · rfl
  | markFailed delivery i =>
      apply hsame
      rw [perform]
      split
      · rfl
      · rfl
  | close delivery outcome =>
      have hiff : Heard (close o s delivery outcome).1.db reference ↔ Heard s.db reference :=
        heard_close o s delivery outcome
      exact ⟨hiff.mpr, fun h ↦ .inl (hiff.mp h)⟩
  | other _ => exact ht.elim
  | confirm _ _ _ _ _ => exact ht.elim
  | startExternal _ _ _ => exact ht.elim
  | charge _ _ _ => exact ht.elim
  | markProcessing _ _ _ => exact ht.elim

/-- The task that a step leaves belongs to the same delivery. -/
theorem concerns_perform (h : Expects start x reference s.db) (ht : Concerns x reference s task)
    {task' : PaymentTask} (hnext : (perform config host o s task).2 = some task') :
    Concerns x reference (perform config host o s task).1 task' := by
  have hheard : Heard s.db reference → Heard (perform config host o s task).1.db reference :=
    (heard_perform ht).1
  cases task with
  | record delivery =>
      rw [perform] at hnext
      split at hnext
      · cases hnext
      · cases hnext
      · cases hnext
        exact ht
  | store delivery stale =>
      simp only [perform] at hnext ⊢
      split at hnext
      · cases hnext
      · next hgoes =>
          rw [if_neg hgoes]
          split at hnext
          · cases hnext
          · next hins =>
              cases hnext
              refine ⟨ht, _, Table.mem_of_insert hins, ?_⟩
              rw [isEvent, newEvent, ht.eventId]
              exact decide_eq_true ⟨rfl, rfl⟩
  | audit delivery stale =>
      rw [perform] at hnext
      split at hnext
      · cases hnext
      · split at hnext
        · cases hnext
        · cases hnext
          have hheard' := hheard ht.2
          unfold applied
          rw [ht.1.kind, ht.1.reference_eq]
          dsimp only
          split
          · exact ⟨⟨ht.1, hheard'⟩, rfl⟩
          · exact ⟨⟨ht.1, hheard'⟩, rfl⟩
  | settleSuccessful delivery r =>
      obtain ⟨⟨habout, hbefore⟩, rfl⟩ := ht
      have hheard' := hheard hbefore
      rw [perform] at hnext
      split at hnext
      · cases hnext
        exact ⟨habout, hheard'⟩
      · cases hnext
        exact ⟨habout, hheard'⟩
      · next intent _ hfind =>
          dsimp only at hnext
          split at hnext
          · cases hnext
            exact ⟨habout, hheard'⟩
          · cases hnext
            exact ⟨⟨habout, hheard'⟩, h.id_of_find hfind⟩
  | deposit delivery i =>
      have hheard' := hheard ht.1.2
      rw [perform] at hnext
      split at hnext
      · cases hnext
        exact ⟨ht.1.1, hheard'⟩
      · cases hnext
        exact ⟨ht.1.1, hheard'⟩
      · cases hnext
        exact ⟨ht.1.1, hheard'⟩
  | settleFailed delivery r =>
      obtain ⟨⟨habout, hbefore⟩, rfl⟩ := ht
      have hheard' := hheard hbefore
      rw [perform] at hnext
      split at hnext
      · cases hnext
        exact ⟨habout, hheard'⟩
      · cases hnext
        exact ⟨habout, hheard'⟩
      · next intent _ hfind =>
          dsimp only at hnext
          split at hnext
          · cases hnext
            exact ⟨habout, hheard'⟩
          · cases hnext
            exact ⟨⟨habout, hheard'⟩, h.id_of_find hfind⟩
  | markFailed delivery i =>
      have hheard' := hheard ht.1.2
      rw [perform] at hnext
      split at hnext
      · cases hnext
        exact ⟨ht.1.1, hheard'⟩
      · cases hnext
        exact ⟨ht.1.1, hheard'⟩
  | close delivery outcome =>
      have hheard' := hheard ht.2
      rw [perform] at hnext
      unfold close at hnext
      split at hnext
      · cases hnext
      · split at hnext
        · cases hnext
          exact ⟨ht.1, hheard'⟩
        · cases hnext
      · split at hnext
        · cases hnext
        · cases hnext
  | other _ => exact ht.elim
  | confirm _ _ _ _ _ => exact ht.elim
  | startExternal _ _ _ => exact ht.elim
  | charge _ _ _ => exact ht.elim
  | markProcessing _ _ _ => exact ht.elim

/-- The tasks of other deliveries are still about the payment. -/
theorem Concerns.mono {s' : Desk} (h : Concerns x reference s task)
    (hheard : Heard s.db reference → Heard s'.db reference) : Concerns x reference s' task := by
  cases task with
  | record _ => exact h
  | store _ _ => exact h
  | audit _ _ => exact ⟨h.1, hheard h.2⟩
  | close _ _ => exact ⟨h.1, hheard h.2⟩
  | settleSuccessful _ _ => exact ⟨⟨h.1.1, hheard h.1.2⟩, h.2⟩
  | settleFailed _ _ => exact ⟨⟨h.1.1, hheard h.1.2⟩, h.2⟩
  | deposit _ _ => exact ⟨⟨h.1.1, hheard h.1.2⟩, h.2⟩
  | markFailed _ _ => exact ⟨⟨h.1.1, hheard h.1.2⟩, h.2⟩
  | other _ => exact h.elim
  | confirm _ _ _ _ _ => exact h.elim
  | startExternal _ _ _ => exact h.elim
  | charge _ _ _ => exact h.elim
  | markProcessing _ _ _ => exact h.elim

/-! ## At most once -/

/-- Only deliveries about the payment arrive. -/
def Arrives (reference : String) (_ : Desk) : PaymentTask → Prop
  | .record delivery => IsAbout reference delivery
  | _ => False

instance (reference : String) (s : Desk) : (task : PaymentTask) → Decidable (Arrives reference s task)
  | .record delivery => inferInstanceAs (Decidable (IsAbout reference delivery))
  | .other _ | .confirm .. | .startExternal .. | .charge .. | .markProcessing .. | .store ..
  | .audit .. | .settleSuccessful .. | .deposit .. | .settleFailed .. | .markFailed .. | .close .. =>
      inferInstanceAs (Decidable False)

theorem holds_opening (h₀ : Awaits start x reference) :
    Pool.Holds (fun s ↦ Expects start x reference s.db) (Concerns x reference)
      ⟨.opening start, []⟩ := by
  refine ⟨h₀.expects, ?_⟩
  rintro t ⟨⟩

/-- One move of the deliveries about a payment. -/
theorem holds_advance (h₀ : Awaits start x reference) {p : Pool Desk PaymentTask}
    {takes : Signal → Desk → PaymentTask → Prop}
    (h : p.Holds (fun s ↦ Expects start x reference s.db) (Concerns x reference))
    (m : Move PaymentTask Signal) (hm : Pool.Admitted (Arrives reference) takes p m) :
    (p.advance (perform config host) m).Holds (fun s ↦ Expects start x reference s.db)
      (Concerns x reference) := by
  refine h.advance m hm ?_ ?_
  · intro s task _ harrives
    cases task with
    | record _ => exact harrives
    | _ => exact harrives.elim
  · intro o s task hs ht _
    refine ⟨hs.perform h₀ ht, fun task' hnext ↦ concerns_perform hs ht hnext, fun u hu ↦ ?_⟩
    exact hu.mono (heard_perform ht).1

/-- **A payment is credited at most once**, whatever is delivered about it, in whatever order, and
whatever fails or stops. -/
theorem credited_at_most_once (h₀ : Awaits start x reference) {q : Pool Desk PaymentTask}
    {takes : Signal → Desk → PaymentTask → Prop}
    (h : Reaches (Pool.advance (perform config host)) (Pool.Admitted (Arrives reference) takes)
      ⟨.opening start, []⟩ q) :
    q.shared.db.ledger.transactions = start.ledger.transactions ∨
      CreditedOnce start x q.shared.db.ledger := by
  have hholds := h.invariant
    (I := Pool.Holds (fun s ↦ Expects start x reference s.db) (Concerns x reference))
    (holds_opening h₀) fun p m hp hm ↦ holds_advance h₀ hp m hm
  exact hholds.shared.ledger

/-! ## Once -/

/-- The deposit of the intent can be booked: its accounts are there, the ledger takes its posting, and
no intent points to the posting already. -/
def CanBook (ctx : Ctx) (db : Db) (x : PaymentIntent) : Prop :=
  match accountsFor db x.userId x.currency with
  | .error _ => False
  | .ok found =>
      (db.ledger.postWithin (ctx.uuid 0) (depositPosting x found)).isOk = true ∧
        ∀ i ∈ db.paymentIntents.rows, i.ledgerTransactionId ≠ some (ctx.uuid 0)

instance (ctx : Ctx) (db : Db) (x : PaymentIntent) : Decidable (CanBook ctx db x) := by
  unfold CanBook
  split
  · infer_instance
  · infer_instance

/-- The task of the delivery that stored the row, until the deposit is booked. -/
def Settling : PaymentTask → Prop
  | .audit delivery stale => stale = false ∧ ¬ Declined delivery
  | .settleSuccessful .. | .deposit .. => True
  | _ => False

instance : (task : PaymentTask) → Decidable (Settling task)
  | .audit delivery stale => inferInstanceAs (Decidable (stale = false ∧ ¬ Declined delivery))
  | .settleSuccessful .. | .deposit .. => inferInstanceAs (Decidable True)
  | .other _ | .confirm .. | .startExternal .. | .charge .. | .markProcessing .. | .record _
  | .store .. | .settleFailed .. | .markFailed .. | .close .. => inferInstanceAs (Decidable False)

/-- The delivery that stores the row is fresh and says that the payment succeeded, and no step of its
settlement fails. -/
def TakesSettling (host : Host) (x : PaymentIntent) (reference : String) (o : Signal) (s : Desk) :
    PaymentTask → Prop
  | .store delivery stale =>
      (∀ e ∈ s.db.paymentWebhookEvents.rows, e.id ≠ o.told.ctx.uuid 1) ∧
        (¬ Heard s.db reference → o.fault = none →
          eventFits (newEvent host (o.told.ctx.uuid 1) delivery.event delivery.payloadHash
            delivery.signature stale) → stale = false ∧ ¬ Declined delivery)
  | .audit .. | .settleSuccessful .. => o.fault = none
  | .deposit .. => o.fault = none ∧ CanBook o.told.ctx s.db x
  | _ => True

instance (x : PaymentIntent) (reference : String) (o : Signal) (s : Desk) :
    (task : PaymentTask) → Decidable (TakesSettling host x reference o s task)
  | .store delivery stale => inferInstanceAs (Decidable (_ ∧ (¬ Heard s.db reference →
      o.fault = none → eventFits (newEvent host (o.told.ctx.uuid 1) delivery.event
        delivery.payloadHash delivery.signature stale) → stale = false ∧ ¬ Declined delivery)))
  | .audit .. | .settleSuccessful .. => inferInstanceAs (Decidable (o.fault = none))
  | .deposit .. => inferInstanceAs (Decidable (o.fault = none ∧ CanBook o.told.ctx s.db x))
  | .other _ | .confirm .. | .startExternal .. | .charge .. | .markProcessing .. | .record _
  | .settleFailed .. | .markFailed .. | .close .. => inferInstanceAs (Decidable True)

/-- The move does not stop the delivery that is being settled. -/
def KeepsSettling (p : Pool Desk PaymentTask) : Move PaymentTask Signal → Prop
  | .stop i => ∀ task ∈ p.threads[i]?, ¬ Settling task
  | _ => True

instance (p : Pool Desk PaymentTask) : (m : Move PaymentTask Signal) → Decidable (KeepsSettling p m)
  | .stop i => inferInstanceAs (Decidable (∀ task ∈ p.threads[i]?, ¬ Settling task))
  | .spawn _ | .run .. => inferInstanceAs (Decidable True)

/-- A delivery about the payment arrives, takes a step or stops, and the one that stored the row goes
through. -/
def Delivers (host : Host) (x : PaymentIntent) (reference : String) (p : Pool Desk PaymentTask)
    (m : Move PaymentTask Signal) : Prop :=
  Pool.Admitted (Arrives reference) (TakesSettling host x reference) p m ∧ KeepsSettling p m

instance (x : PaymentIntent) (reference : String) (p : Pool Desk PaymentTask)
    (m : Move PaymentTask Signal) : Decidable (Delivers host x reference p m) :=
  inferInstanceAs (Decidable (_ ∧ _))

/-- A deposit that can be booked and is not, is settled. -/
theorem Expects.exists_settle (h : Expects start x reference db) (h₀ : Awaits start x reference)
    {ctx : Ctx} (hbook : CanBook ctx db x) (hnot : ¬ CreditedOnce start x db.ledger) :
    ∃ outcome db', settleDeposit ctx db x.id = .ok (outcome, db') := by
  have hsame := h.ledger.resolve_right hnot
  cases hfind : db.paymentIntents.find? fun i ↦ i.id = x.id with
  | none =>
      refine ⟨.unmatched, db, ?_⟩
      rw [settleDeposit, hfind]
      rfl
  | some current =>
      obtain ⟨hterms, hsettled⟩ := h.intent_of_find hfind
      have hunsettled : current.status ≠ .succeeded := fun hst ↦ hnot (hsettled hst)
      have huser : current.userId = x.userId := congrArg IntentTerms.userId hterms
      have hcurrency : current.currency = x.currency := congrArg IntentTerms.currency hterms
      unfold CanBook at hbook
      split at hbook
      · exact hbook.elim
      · next accounts haccounts =>
          obtain ⟨hposts, hfresh⟩ := hbook
          cases hpost : db.ledger.postWithin (ctx.uuid 0) (depositPosting x accounts) with
          | error e =>
              rw [hpost] at hposts
              cases hposts
          | ok posted =>
              obtain ⟨posting, ledger⟩ := posted
              have hid : posting.id = ctx.uuid 0 := by
                cases (postWithin_eq_ok hpost).2 with
                | replayed existing mem key _ _ =>
                    exact absurd key (h₀.unposted existing (hsame ▸ mem))
                | appended _ _ answer => rw [answer]
              have hposting : depositPosting current accounts = depositPosting x accounts := by
                rw [depositPosting_congr hterms]
              obtain ⟨db', hdeposit⟩ := exists_postDeposit (Table.mem_of_find? hfind)
                (by rw [huser, hcurrency, haccounts]) (by rw [hposting, hpost])
                (fun i hi ↦ hid ▸ hfresh i hi)
              refine ⟨.settled current.id, db', ?_⟩
              rw [settleDeposit, hfind]
              dsimp only
              rw [if_neg hunsettled, hdeposit]

/-- The delivery that stored the row goes on to book the deposit. -/
theorem settling_perform (h₀ : Awaits start x reference) (h : Expects start x reference s.db)
    (ht : Concerns x reference s task) (htakes : TakesSettling host x reference o s task)
    (hw : Settling task) :
    CreditedOnce start x (perform config host o s task).1.db.ledger ∨
      ∃ task', (perform config host o s task).2 = some task' ∧ Settling task' := by
  cases task with
  | audit delivery stale =>
      obtain ⟨rfl, hpaid⟩ := hw
      have hfault : o.fault = none := htakes
      refine .inr ⟨.settleSuccessful delivery reference, ?_, trivial⟩
      simp only [perform, hfault, Option.isSome_none, Bool.false_eq_true, if_false]
      rw [applied, ht.1.kind, ht.1.reference_eq]
      exact congrArg some (if_neg hpaid)
  | settleSuccessful delivery r =>
      obtain ⟨-, rfl⟩ := ht
      have hfault : o.fault = none := htakes
      obtain ⟨x', hx', hterms, href, hsettled⟩ := h.intent
      cases hfind : s.db.paymentIntents.find? fun i ↦ i.providerReference = some r with
      | none => exact absurd href (by simpa using Table.not_of_find?_eq_none hfind hx')
      | some intent =>
          by_cases hst : intent.status = .succeeded
          · have heq : intent = x' := intent_eq_of_id (Table.mem_of_find? hfind) hx'
              ((h.id_of_find hfind).trans (congrArg IntentTerms.id hterms).symm)
            have htask : WritesEvents (.settleSuccessful delivery r) := trivial
            refine .inl ?_
            rw [perform_frame o s htask]
            exact hsettled (heq ▸ hst)
          · refine .inr ⟨.deposit delivery intent.id, ?_, trivial⟩
            simp only [perform, hfault, hfind, hst, if_false]
  | deposit delivery i =>
      have hcredited : CreditedOnce start x s.db.ledger →
          CreditedOnce start x (perform config host o s (.deposit delivery i)).1.db.ledger :=
        fun hdone ↦ hdone.perform h₀ h ht
      obtain ⟨-, rfl⟩ := ht
      obtain ⟨hfault, hbook⟩ := htakes
      by_cases hdone : CreditedOnce start x s.db.ledger
      · exact .inl (hcredited hdone)
      · obtain ⟨outcome, db', hsettle⟩ := h.exists_settle h₀ hbook hdone
        refine .inl ?_
        simp only [perform, hfault, hsettle]
        exact h.credited_of_settle h₀ hsettle
  | record _ => exact hw.elim
  | store _ _ => exact hw.elim
  | settleFailed _ _ => exact hw.elim
  | markFailed _ _ => exact hw.elim
  | close _ _ => exact hw.elim
  | other _ => exact hw.elim
  | confirm _ _ _ _ _ => exact hw.elim
  | startExternal _ _ _ => exact hw.elim
  | charge _ _ _ => exact hw.elim
  | markProcessing _ _ _ => exact hw.elim

/-- A delivery that a step acknowledges was heard before. -/
theorem acknowledged_perform (ht : Concerns x reference s task)
    (htakes : TakesSettling host x reference o s task) :
    (perform config host o s task).1.acknowledged = s.acknowledged ∨ Heard s.db reference := by
  cases task with
  | record delivery =>
      rw [perform]
      split
      · exact .inl rfl
      · next e _ hfind =>
          refine .inr ⟨e, Table.mem_of_find? hfind, ?_⟩
          rw [← ht.eventId]
          exact Table.prop_of_find? hfind
      · exact .inl rfl
  | store delivery stale =>
      simp only [perform]
      split
      · exact .inl rfl
      · split
        · next hclash =>
            -- The identifier is new, so what clashes is the event.
            refine .inr ?_
            obtain ⟨e, he, hclash⟩ : ∃ e ∈ s.db.paymentWebhookEvents.rows, Schema.Clash e
                (newEvent host (o.told.ctx.uuid 1) delivery.event delivery.payloadHash
                  delivery.signature stale) := by
              by_contra hnone
              have hfresh : ∀ e ∈ s.db.paymentWebhookEvents.rows, ¬ Schema.Clash e
                  (newEvent host (o.told.ctx.uuid 1) delivery.event delivery.payloadHash
                    delivery.signature stale) := fun e he hc ↦ hnone ⟨e, he, hc⟩
              rw [Table.insert, dif_pos hfresh] at hclash
              cases hclash
            rcases hclash with hid | ⟨-, hsame⟩
            · exact absurd hid (htakes.1 e he)
            · refine ⟨e, he, ?_⟩
              rw [Option.some.injEq, Prod.mk.injEq] at hsame
              exact decide_eq_true ⟨hsame.1, hsame.2.trans ht.eventId⟩
        · exact .inl rfl
  | audit delivery stale => exact .inr ht.2
  | settleSuccessful delivery r => exact .inr ht.1.2
  | deposit delivery i => exact .inr ht.1.2
  | settleFailed delivery r => exact .inr ht.1.2
  | markFailed delivery i => exact .inr ht.1.2
  | close delivery outcome => exact .inr ht.2
  | other _ => exact ht.elim
  | confirm _ _ _ _ _ => exact ht.elim
  | startExternal _ _ _ => exact ht.elim
  | charge _ _ _ => exact ht.elim
  | markProcessing _ _ _ => exact ht.elim

/-- What carries a payment through its deliveries: what was acknowledged was stored, and what was
stored is booked or about to be. -/
structure Settles (start : Db) (x : PaymentIntent) (reference : String) (p : Pool Desk PaymentTask) :
    Prop where
  holds : p.Holds (fun s ↦ Expects start x reference s.db) (Concerns x reference)
  heard : p.shared.acknowledged ≠ [] → Heard p.shared.db reference
  pending : Heard p.shared.db reference →
    p.Pending (fun s ↦ CreditedOnce start x s.db.ledger) Settling

theorem Settles.advance (h₀ : Awaits start x reference) {p : Pool Desk PaymentTask}
    (h : Settles start x reference p) (m : Move PaymentTask Signal)
    (hm : Delivers host x reference p m) :
    Settles start x reference (p.advance (perform config host) m) := by
  have hpending : p.Pending (fun s ↦ CreditedOnce start x s.db.ledger) Settling →
      (p.advance (perform config host) m).Pending
        (fun s ↦ CreditedOnce start x s.db.ledger) Settling := by
    intro hp
    refine hp.advance m ?_ ?_ ?_
    · rintro i o t rfl hi hdone
      exact hdone.perform h₀ h.holds.shared (h.holds.threads t (List.mem_of_getElem? hi))
    · rintro i o t rfl hi hworks
      exact settling_perform h₀ h.holds.shared (h.holds.threads t (List.mem_of_getElem? hi))
        (hm.1 t hi) hworks
    · rintro i t rfl hi
      exact hm.2 t hi
  refine ⟨holds_advance h₀ h.holds m hm.1, ?_, ?_⟩
  · rcases m with t | ⟨i, o⟩ | i
    · exact h.heard
    · rw [Pool.advance]
      split
      · exact h.heard
      · next t hi =>
          have ht := h.holds.threads t (List.mem_of_getElem? hi)
          intro hacknowledged
          refine (heard_perform ht).1 ?_
          rcases acknowledged_perform ht (hm.1 t hi) with hsame | hheard
          · exact h.heard (hsame ▸ hacknowledged)
          · exact hheard
    · exact h.heard
  · intro hheard
    rcases m with t | ⟨i, o⟩ | i
    · exact hpending (h.pending hheard)
    · cases hi : p.threads[i]? with
      | none =>
          rw [Pool.advance, hi] at hheard
          exact hpending (h.pending hheard)
      | some t =>
          have hstate : (p.advance (perform config host) (.run i o)).shared =
              (perform config host o p.shared t).1 := by rw [Pool.advance, hi]
          rw [hstate] at hheard
          -- Either the payment had been heard of, or this step stored the row.
          by_cases hbefore : Heard p.shared.db reference
          · exact hpending (h.pending hbefore)
          · have ht := h.holds.threads t (List.mem_of_getElem? hi)
            obtain ⟨delivery, stale, rfl, hfault, hfits, hnext⟩ :=
              ((heard_perform ht).2 hheard).resolve_left hbefore
            refine .inr ⟨.audit delivery stale, ?_, (hm.1 _ hi).2 hbefore hfault hfits⟩
            rw [Pool.advance, hi]
            exact List.mem_append_right _ (Option.mem_toList.mpr hnext)
    · exact hpending (h.pending hheard)

/-- **A payment is credited once.**  Whatever is delivered about a top-up, in whatever order, the wallet
is credited at most once.  When the delivery that stored the row is fresh, says that the payment
succeeded and goes through, then as soon as a fresh delivery of a payment that succeeded has been
acknowledged, the wallet is credited or that settlement is under way. -/
theorem webhook_credits_once (h₀ : Awaits start x reference) {q : Pool Desk PaymentTask}
    (h : Reaches (Pool.advance (perform config host)) (Delivers host x reference)
      ⟨.opening start, []⟩ q) :
    (q.shared.db.ledger.transactions = start.ledger.transactions ∨
      CreditedOnce start x q.shared.db.ledger) ∧
    ((∃ a ∈ q.shared.acknowledged, a.stale = false ∧
        a.event.declaredType ≠ some "FAILED_TRANSACTION") →
      CreditedOnce start x q.shared.db.ledger ∨ ∃ task ∈ q.threads, Settling task) := by
  have hopening : Settles start x reference ⟨.opening start, []⟩ :=
    ⟨holds_opening h₀, fun hne ↦ absurd rfl hne, fun hheard ↦ absurd hheard h₀.unheard⟩
  have hsettles := h.invariant (I := Settles start x reference) hopening
    fun p m hp hm ↦ hp.advance h₀ m hm
  constructor
  · exact hsettles.holds.shared.ledger
  · rintro ⟨a, ha, -⟩
    exact hsettles.pending (hsettles.heard (List.ne_nil_of_mem ha))

section Sample

/-- The transfer of the sample arrived. -/
def samplePaid : Delivery := sampleDelivery "SUCCESSFUL_TRANSACTION" "REF-1"

/-- Two deliveries at once: one of them stores the row, and is settled while the other is acknowledged. -/
def sampleTwice : List (Move PaymentTask Signal) :=
  [.spawn (.record samplePaid), .spawn (.record samplePaid)] ++
    (List.range 8).map fun k ↦ .run 0 (sampleSignal (10 + k) "")

/-- The first delivery says that the transfer failed, and the second that it arrived. -/
def sampleDeclinedFirst : List (Move PaymentTask Signal) :=
  sampleDelivering 0 10 (sampleDelivery "FAILED_TRANSACTION" "REF-1") ++
    sampleDelivering 0 20 samplePaid

/-- The settlement of the first delivery fails for a moment. -/
def sampleFaulted : List (Move PaymentTask Signal) :=
  [.spawn (.record samplePaid)] ++ (List.range 4).map (fun k ↦ .run 0 (sampleSignal (10 + k) "")) ++
    [.run 0 { sampleSignal 14 "" with fault := some (.plain "timeout") }, .run 0 (sampleSignal 15 "")]

/-- The delivery is repeated. -/
def sampleRedelivered : List (Move PaymentTask Signal) := sampleDelivering 0 20 samplePaid

theorem awaits_sampleProcessing : Awaits sampleProcessing sampleAwaited "REF-1" where
  mem := by decide +kernel
  topUp := rfl
  processing := rfl
  reference_eq := rfl
  unheard := by decide +kernel
  unposted := by decide +kernel

end Sample

/-- Two deliveries at once, and one deposit. -/
theorem webhook_credits_once_sample :
    (((samplePaymentRun sampleProcessing sampleTwice).shared.db.ledger.transactions =
        sampleProcessing.ledger.transactions ∨
      CreditedOnce sampleProcessing sampleAwaited
        (samplePaymentRun sampleProcessing sampleTwice).shared.db.ledger) ∧
    ((∃ a ∈ (samplePaymentRun sampleProcessing sampleTwice).shared.acknowledged, a.stale = false ∧
        a.event.declaredType ≠ some "FAILED_TRANSACTION") →
      CreditedOnce sampleProcessing sampleAwaited
          (samplePaymentRun sampleProcessing sampleTwice).shared.db.ledger ∨
        ∃ task ∈ (samplePaymentRun sampleProcessing sampleTwice).threads, Settling task)) ∧
    (samplePaymentRun sampleProcessing sampleTwice).shared.acknowledged.length = 2 ∧
    (samplePaymentRun sampleProcessing sampleTwice).threads.length = 0 := by
  have hrun : Reaches (Pool.advance (perform sampleConfig sampleFullHost))
      (Delivers sampleFullHost sampleAwaited "REF-1") ⟨.opening sampleProcessing, []⟩
      (samplePaymentRun sampleProcessing sampleTwice) := reaches_of_allAdmitted (by decide +kernel)
  exact ⟨webhook_credits_once awaits_sampleProcessing hrun, by decide +kernel, by decide +kernel⟩

/-- It is not the case that every payment that is delivered fresh is credited: not when the first
delivery said that the payment failed, even if no step fails, and not when the first settlement failed
for a moment and the delivery is repeated. -/
theorem delivered_payment_lost :
    (¬ ∀ (config : BillConfig) (host : Host) (start : Db) (x : PaymentIntent) (reference : String)
      (q : Pool Desk PaymentTask), Awaits start x reference →
      Reaches (Pool.advance (perform config host))
        (Pool.Admitted (Arrives reference) fun o _ _ ↦ o.fault = none) ⟨.opening start, []⟩ q →
      q.threads = [] → (∃ a ∈ q.shared.acknowledged, a.stale = false ∧
        a.event.declaredType ≠ some "FAILED_TRANSACTION") →
      CreditedOnce start x q.shared.db.ledger) ∧
    ¬ ∀ (config : BillConfig) (host : Host) (start : Db) (x : PaymentIntent) (reference : String)
      (p q : Pool Desk PaymentTask), Awaits start x reference →
      Reaches (Pool.advance (perform config host))
        (Pool.Admitted (Arrives reference) fun _ _ _ ↦ True) ⟨.opening start, []⟩ p →
      p.threads = [] →
      Reaches (Pool.advance (perform config host))
        (Pool.Admitted (Arrives reference) fun o _ _ ↦ o.fault = none) p q →
      q.threads = [] → (∃ a ∈ q.shared.acknowledged.drop p.shared.acknowledged.length,
        a.stale = false ∧ a.event.declaredType ≠ some "FAILED_TRANSACTION") →
      CreditedOnce start x q.shared.db.ledger := by
  have hlost : ∀ {q : Pool Desk PaymentTask}, q.shared.db.ledger.transactions.rows.length = 0 →
      ¬ CreditedOnce sampleProcessing sampleAwaited q.shared.db.ledger := by
    rintro q hnone ⟨id, accounts, -, hrows⟩
    rw [hrows, List.length_append, List.length_singleton] at hnone
    omega
  constructor
  · intro h
    have hrun : Reaches (Pool.advance (perform sampleConfig sampleFullHost))
        (Pool.Admitted (Arrives "REF-1") fun o _ _ ↦ o.fault = none) ⟨.opening sampleProcessing, []⟩
        (samplePaymentRun sampleProcessing sampleDeclinedFirst) :=
      reaches_of_allAdmitted (by decide +kernel)
    have hdone : (samplePaymentRun sampleProcessing sampleDeclinedFirst).threads.isEmpty = true := by
      decide +kernel
    refine hlost ?_ (h sampleConfig sampleFullHost sampleProcessing sampleAwaited "REF-1" _
      awaits_sampleProcessing hrun (List.isEmpty_iff.mp hdone) (by decide +kernel))
    decide +kernel
  · intro h
    have hrun : Reaches (Pool.advance (perform sampleConfig sampleFullHost))
        (Pool.Admitted (Arrives "REF-1") fun _ _ _ ↦ True) ⟨.opening sampleProcessing, []⟩
        (samplePaymentRun sampleProcessing sampleFaulted) :=
      reaches_of_allAdmitted (by decide +kernel)
    have hrun' : Reaches (Pool.advance (perform sampleConfig sampleFullHost))
        (Pool.Admitted (Arrives "REF-1") fun o _ _ ↦ o.fault = none)
        (samplePaymentRun sampleProcessing sampleFaulted)
        (samplePaymentRun sampleProcessing (sampleFaulted ++ sampleRedelivered)) := by
      rw [samplePaymentRun, samplePaymentRun, List.foldl_append]
      exact reaches_of_allAdmitted (by decide +kernel)
    have hdone : (samplePaymentRun sampleProcessing sampleFaulted).threads.isEmpty = true := by
      decide +kernel
    have hdone' : (samplePaymentRun sampleProcessing
        (sampleFaulted ++ sampleRedelivered)).threads.isEmpty = true := by
      decide +kernel
    refine hlost ?_ (h sampleConfig sampleFullHost sampleProcessing sampleAwaited "REF-1" _ _
      awaits_sampleProcessing hrun (List.isEmpty_iff.mp hdone) hrun' (List.isEmpty_iff.mp hdone')
      (by decide +kernel))
    decide +kernel

end AjoCloud.Platform
