import AjoCloud.Platform.Bills
import AjoCloud.Platform.Webhooks

/-!
# Payments under way

`confirm` looks at the intent, has the PIN verified, and then either opens the transaction that pays
from the wallet or asks the provider for a charge and writes down its reference.  A webhook is looked
up, recorded, and applied to the intent that is found by its reference.  Between any two of these
steps any other request may run.  A `PaymentTask` is such a request, or any other.
-/

namespace AjoCloud.Platform

open Lib Ledger Payments Bills Webhooks

/-! ## Steps -/

/-- A charge that the provider created for an intent. -/
structure Charge where
  intentId : Uuid
  providerReference : String
  /-- The reference was written on the intent. -/
  stored : Bool
deriving DecidableEq

/-- A delivery that was acknowledged. -/
structure Acknowledged where
  kind : MonnifyEventKind
  event : ExtractedMonnifyEvent
  stale : Bool

/-- The database, with what the provider knows: the charges it made and the deliveries it made. -/
structure Desk where
  db : Db
  charges : List Charge
  acknowledged : List Acknowledged

/-- A delivery on its way: the event, and what is written about it. -/
structure Delivery where
  kind : MonnifyEventKind
  event : ExtractedMonnifyEvent
  payloadHash : String
  signature : Option String

/-- A request about intents, or any other. -/
inductive PaymentTask where
  /-- Any other request. -/
  | other (task : Task)
  /-- `confirm`, before it reads the intent. -/
  | confirm (userId intentId : Uuid) (method : PaymentMethod) (idempotencyKey : String)
      (customerReference : Option String)
  /-- `startExternal`, before it reads the intent. -/
  | startExternal (userId intentId : Uuid) (method : PaymentMethod)
  /-- `startExternal`, before it asks for the charge. -/
  | charge (userId : Uuid) (intent : PaymentIntent) (method : PaymentMethod)
  /-- `startExternal`, before it writes down the charge. -/
  | markProcessing (intentId : Uuid) (method : PaymentMethod) (providerReference : String)
  /-- `record`, before it looks the event up. -/
  | record (delivery : Delivery)
  /-- `record`, before it stores the event. -/
  | store (delivery : Delivery) (stale : Bool)
  /-- `record`, before it writes the audit entry of the stored event. -/
  | audit (delivery : Delivery) (stale : Bool)
  /-- `settleSuccessful`, before it looks the intent up. -/
  | settleSuccessful (delivery : Delivery) (providerReference : String)
  /-- `settleSuccessful`, before its transaction. -/
  | deposit (delivery : Delivery) (intentId : Uuid)
  /-- `settleFailed`, before it looks the intent up. -/
  | settleFailed (delivery : Delivery) (providerReference : String)
  /-- `settleFailed`, before it writes. -/
  | markFailed (delivery : Delivery) (intentId : Uuid)
  /-- `record`, once the settlement service has answered or thrown. -/
  | close (delivery : Delivery) (outcome : Except ServiceError SettlementOutcome)

/-- What a step is told. -/
structure Signal where
  told : Told
  /-- The customer reference and the PIN are right. -/
  verified : Bool
  provider : PaymentProvider
  /-- The database step fails for a passing reason. -/
  fault : Option ServiceError

/-- The reference was written. -/
def markStored (intentId : Uuid) (providerReference : String) (c : Charge) : Charge :=
  if c.intentId = intentId ∧ c.providerReference = providerReference then { c with stored := true }
  else c

/-- The delivery is acknowledged. -/
def Desk.acknowledge (s : Desk) (delivery : Delivery) (stale : Bool) : Desk :=
  { s with acknowledged := s.acknowledged ++ [⟨delivery.kind, delivery.event, stale⟩] }

/-- What `applyToLedger` does with an event that was stored. -/
def applied (delivery : Delivery) : PaymentTask :=
  match delivery.kind, truthy delivery.event.providerReference with
  | .transactionCompletion, some reference =>
      if delivery.event.declaredType = some "FAILED_TRANSACTION" then
        .settleFailed delivery reference
      else .settleSuccessful delivery reference
  | _, _ => .close delivery (.ok .unmatched)

/-- What `applyToLedger` writes on the row of the event. -/
def closeEvent (now : Timestamp) (db : Db) (eventId : String) :
    Except ServiceError SettlementOutcome → Db
  | .ok .unmatched => db
  | .ok _ => markEvent db eventId (fun e ↦ { e with status := .processed, processedAt := some now })
      fun h ↦ h
  | .error _ => markEvent db eventId
      (fun e ↦ { e with failureReason := some "Ledger posting failed; awaiting retry" }) fun h ↦ h

/-- The last step of `record`. -/
def close (o : Signal) (s : Desk) (delivery : Delivery) :
    Except ServiceError SettlementOutcome → Desk × Option PaymentTask
  | .ok .unmatched => (s.acknowledge delivery false, none)
  | .ok outcome =>
      match o.fault with
      | some e => (s, some (.close delivery (.error e)))
      | none =>
          ({ s with db := closeEvent o.told.ctx.now s.db delivery.event.eventId (.ok outcome)
              }.acknowledge delivery false, none)
  | .error e =>
      match o.fault with
      | some _ => (s, none)
      | none =>
          ({ s with db := closeEvent o.told.ctx.now s.db delivery.event.eventId (.error e)
              }.acknowledge delivery false, none)

variable (config : BillConfig) (host : Host)

/-- One step of a task. -/
def perform (o : Signal) (s : Desk) : PaymentTask → Desk × Option PaymentTask
  | .other task =>
      ({ s with db := (exec config o.told s.db task).1 },
        (exec config o.told s.db task).2.map .other)
  | .confirm userId intentId method key customerReference =>
      match s.db.paymentIntents.find? fun i ↦ i.id = intentId ∧ i.userId = userId with
      | none => (s, none)
      | some intent =>
          (s, if isPayable intent.status intent.expiresAt o.told.ctx.now ∧
              method ∈ (targets config intent.targetType).methods ∧ o.verified then
            some (if settlesSynchronously method then
              .other (.pay userId intentId key customerReference)
            else .startExternal userId intentId method)
          else none)
  | .startExternal userId intentId method =>
      match s.db.paymentIntents.find? fun i ↦ i.id = intentId ∧ i.userId = userId with
      | none => (s, none)
      | some intent => (s, some (.charge userId intent method))
  | .charge userId intent method =>
      match (targets config intent.targetType).resolve o.told.ctx s.db userId intent.targetId
          (storedRequest (targets config intent.targetType) intent.amountMinor) with
      | .error _ => (s, none)
      | .ok target =>
          match o.provider.charge method
              (chargeRequest o.told.ctx s.db intent target.description) with
          | .error _ => (s, none)
          | .ok charge =>
              ({ s with charges := s.charges ++ [⟨intent.id, charge.providerReference, false⟩] },
                some (.markProcessing intent.id method charge.providerReference))
  | .markProcessing intentId method reference =>
      match s.db.paymentIntents.update (fun i ↦ i.id = intentId)
          (markCharged o.told.ctx method reference) with
      | none => (s, none)
      | some paymentIntents =>
          ({ s with
            db := { s.db with paymentIntents := paymentIntents }
            charges := s.charges.map (markStored intentId reference) }, none)
  | .record delivery =>
      match o.fault, s.db.paymentWebhookEvents.find? (isEvent delivery.event.eventId) with
      | some _, _ => (s, none)
      | none, some _ =>
          (s.acknowledge delivery
            (!isWithinTimestampTolerance host delivery.event.timestamp o.told.ctx.now), none)
      | none, none =>
          (s, some (.store delivery
            (!isWithinTimestampTolerance host delivery.event.timestamp o.told.ctx.now)))
  | .store delivery stale =>
      let row := newEvent host (o.told.ctx.uuid 1) delivery.event delivery.payloadHash
        delivery.signature stale
      if o.fault.isSome ∨ ¬ eventFits row then (s, none)
      else
        match s.db.paymentWebhookEvents.insert row with
        | none => (s.acknowledge delivery stale, none)
        | some paymentWebhookEvents =>
            ({ s with db := { s.db with paymentWebhookEvents := paymentWebhookEvents } },
              some (.audit delivery stale))
  | .audit delivery stale =>
      if o.fault.isSome then (s, none)
      else if stale then (s.acknowledge delivery stale, none)
      else (s, some (applied delivery))
  | .settleSuccessful delivery reference =>
      match o.fault, s.db.paymentIntents.find? fun i ↦ i.providerReference = some reference with
      | some e, _ => (s, some (.close delivery (.error e)))
      | none, none => (s, some (.close delivery (.ok .unmatched)))
      | none, some intent =>
          (s, some (if intent.status = .succeeded then
            .close delivery (.ok (.alreadySettled intent.id)) else .deposit delivery intent.id))
  | .deposit delivery intentId =>
      match o.fault, settleDeposit o.told.ctx s.db intentId with
      | some e, _ | none, .error e => (s, some (.close delivery (.error e)))
      | none, .ok (outcome, db) => ({ s with db := db }, some (.close delivery (.ok outcome)))
  | .settleFailed delivery reference =>
      match o.fault, s.db.paymentIntents.find? fun i ↦ i.providerReference = some reference with
      | some e, _ => (s, some (.close delivery (.error e)))
      | none, none => (s, some (.close delivery (.ok .unmatched)))
      | none, some intent =>
          (s, some (if intent.status = .succeeded then
            .close delivery (.ok (.alreadySettled intent.id)) else .markFailed delivery intent.id))
  | .markFailed delivery intentId =>
      match o.fault with
      | some e => (s, some (.close delivery (.error e)))
      | none =>
          ({ s with db := failIntent s.db intentId "Provider reported a failure" },
            some (.close delivery (.ok (.failed intentId))))
  | .close delivery outcome => close o s delivery outcome

/-! ## Requests that nothing interrupts -/

/-- What is left when a task takes its steps one after the other. -/
def finish (o : Signal) : Nat → Desk × Option PaymentTask → Desk
  | _, (s, none) => s
  | 0, (s, some _) => s
  | n + 1, (s, some task) => finish o n (perform config host o s task)

@[simp] theorem finish_none (o : Signal) (n : Nat) (s : Desk) :
    finish config host o n (s, none) = s := by
  cases n with
  | zero => rfl
  | succ n => rfl

@[simp] theorem finish_some (o : Signal) (n : Nat) (s : Desk) (task : PaymentTask) :
    finish config host o (n + 1) (s, some task) = finish config host o n (perform config host o s task) :=
  rfl

/-- The target of an intent that its user can see. -/
theorem targetOf_eq {db : Db} {userId intentId : Uuid} {intent : PaymentIntent}
    (hfind : (db.paymentIntents.find? fun i ↦ i.id = intentId ∧ i.userId = userId) = some intent) :
    targetOf config db intentId = some (targets config intent.targetType) := by
  have hp := Table.prop_of_find? hfind
  simp only [decide_eq_true_eq] at hp
  rw [targetOf]
  cases hid : db.paymentIntents.find? fun i ↦ i.id = intentId with
  | none =>
      have hnot := Table.not_of_find?_eq_none hid (Table.mem_of_find? hfind)
      exact absurd hp.1 (by simpa using hnot)
  | some i =>
      have hi : i.id = intentId := by simpa using Table.prop_of_find? hid
      rw [intent_eq_of_id (Table.mem_of_find? hid) (Table.mem_of_find? hfind) (hi.trans hp.1.symm)]
      rfl

/-- `startExternal` is its three steps, with nothing between them. -/
theorem startExternal_eq (o : Signal) (s : Desk) (userId intentId : Uuid) (method : PaymentMethod) :
    (finish config host o 3 (s, some (.startExternal userId intentId method))).db =
      step config s.db (.startExternal o.told.ctx o.provider userId intentId method) := by
  cases hfind : s.db.paymentIntents.find? fun i ↦ i.id = intentId ∧ i.userId = userId with
  | none =>
      simp only [finish_some, finish_none, perform, step, startExternal, hfind]
      split
      · rfl
      · rfl
  | some intent =>
      simp only [finish_some, perform, step, targetOf_eq config hfind, startExternal, hfind, orThrow,
        bind, Except.bind]
      rcases (targets config intent.targetType).resolve o.told.ctx s.db userId intent.targetId
        (storedRequest (targets config intent.targetType) intent.amountMinor) with e | target
      · rfl
      · dsimp only
        rcases o.provider.charge method (chargeRequest o.told.ctx s.db intent target.description)
          with e | charge
        · rfl
        · simp only [finish_some, perform]
          unfold markCharged
          cases s.db.paymentIntents.update (fun i ↦ i.id = intent.id) fun i ↦
              { i with
                status := .processing
                method := some method
                providerReference := some charge.providerReference
                confirmedAt := some o.told.ctx.now } with
          | none => rfl
          | some paymentIntents => rfl

theorem finish_close {o : Signal} (n : Nat) (s : Desk) (delivery : Delivery)
    (outcome : Except ServiceError SettlementOutcome) (hfault : o.fault = none) :
    (finish config host o (n + 1) (s, some (.close delivery outcome))).db =
      closeEvent o.told.ctx.now s.db delivery.event.eventId outcome := by
  rw [finish_some, perform]
  rcases outcome with e | outcome
  · rw [close, hfault, finish_none]
    rfl
  · cases outcome with
    | unmatched =>
        rw [close, finish_none]
        rfl
    | _ =>
        simp only [close, hfault, finish_none]
        rfl

/-- What `applyToLedger` does with a payment: the row of the event says how it was settled. -/
theorem applyToLedger_eq (ctx : Ctx) (db : Db) {event : ExtractedMonnifyEvent} {reference : String}
    (href : truthy event.providerReference = some reference) :
    applyToLedger ctx db .transactionCompletion event =
      match settle ctx db event reference with
      | .ok (outcome, db') => closeEvent ctx.now db' event.eventId (.ok outcome)
      | .error e => closeEvent ctx.now db event.eventId (.error e) := by
  simp only [applyToLedger, href]
  rcases settle ctx db event reference with e | ⟨outcome, db'⟩
  · rfl
  · cases outcome with
    | _ => rfl

/-- `settleFailed` is its two steps, with nothing between them. -/
theorem settleFailed_eq {o : Signal} (s : Desk) (delivery : Delivery) (reference : String)
    (hfault : o.fault = none) :
    (finish config host o 3 (s, some (.settleFailed delivery reference))).db =
      closeEvent o.told.ctx.now (settleFailed s.db reference "Provider reported a failure").2
        delivery.event.eventId
        (.ok (settleFailed s.db reference "Provider reported a failure").1) := by
  simp only [finish_some config host o 2, perform, hfault, settleFailed]
  cases s.db.paymentIntents.find? fun i ↦ i.providerReference = some reference with
  | none => exact finish_close config host 1 s delivery _ hfault
  | some intent =>
      dsimp only
      split
      · exact finish_close config host 1 s delivery _ hfault
      · simp only [finish_some config host o 1, perform, hfault]
        exact finish_close config host 0 _ delivery _ hfault

/-- `settleSuccessful` is its two steps, with nothing between them. -/
theorem settleSuccessful_eq {o : Signal} (s : Desk) (delivery : Delivery) (reference : String)
    (hfault : o.fault = none) :
    (finish config host o 3 (s, some (.settleSuccessful delivery reference))).db =
      match settleSuccessful o.told.ctx s.db reference with
      | .ok (outcome, db') => closeEvent o.told.ctx.now db' delivery.event.eventId (.ok outcome)
      | .error e => closeEvent o.told.ctx.now s.db delivery.event.eventId (.error e) := by
  simp only [finish_some config host o 2, perform, hfault, settleSuccessful]
  cases s.db.paymentIntents.find? fun i ↦ i.providerReference = some reference with
  | none => exact finish_close config host 1 s delivery _ hfault
  | some intent =>
      dsimp only
      split
      · exact finish_close config host 1 s delivery _ hfault
      · simp only [finish_some config host o 1, perform, hfault]
        rcases settleDeposit o.told.ctx s.db intent.id with e | ⟨outcome, db⟩
        · exact finish_close config host 0 s delivery _ hfault
        · exact finish_close config host 0 _ delivery _ hfault

/-- `applyToLedger` is its steps, with nothing between them. -/
theorem applied_eq {o : Signal} (s : Desk) (delivery : Delivery) (hfault : o.fault = none) :
    (finish config host o 3 (s, some (applied delivery))).db =
      applyToLedger o.told.ctx s.db delivery.kind delivery.event := by
  unfold applied
  split
  · next reference hkind href =>
      rw [hkind, applyToLedger_eq _ _ href, settle]
      split
      · exact settleFailed_eq config host s delivery reference hfault
      · exact settleSuccessful_eq config host s delivery reference hfault
  · next hnot =>
      rw [finish_close config host 2 s delivery _ hfault]
      unfold applyToLedger
      split
      · next reference hkind href => exact (hnot reference hkind href).elim
      · rfl

/-- `record` is its steps, with nothing between them. -/
theorem record_eq {o : Signal} (s : Desk) {kind : MonnifyEventKind} {payload : Json}
    {rawBody : ByteArray} {event : ExtractedMonnifyEvent} (signature : Option String)
    (hextract : extractMonnifyEvent payload kind (host.sha256 rawBody) = .ok event)
    (hfault : o.fault = none) :
    (finish config host o 6 (s, some (.record ⟨kind, event, host.sha256 rawBody, signature⟩))).db =
      committed s.db (Webhooks.record host o.told.ctx s.db kind payload rawBody signature) := by
  simp only [Webhooks.record, hextract, bind, Except.bind, finish_some config host o 5, perform,
    hfault]
  cases s.db.paymentWebhookEvents.find? (isEvent event.eventId) with
  | some e => rfl
  | none =>
      simp only [finish_some config host o 4, perform, hfault, require, Option.isSome_none,
        Bool.false_eq_true, false_or]
      by_cases hfits : eventFits (newEvent host (o.told.ctx.uuid 1) event (host.sha256 rawBody)
        signature (!isWithinTimestampTolerance host event.timestamp o.told.ctx.now))
      · simp only [hfits, not_true_eq_false, if_false, if_true]
        cases s.db.paymentWebhookEvents.insert _ with
        | none =>
            rw [finish_none]
            rfl
        | some events =>
            simp only [finish_some config host o 3, perform, hfault, Option.isSome_none,
              Bool.false_eq_true, if_false]
            split
            · rw [finish_none]
              rfl
            · exact applied_eq config host _ _ hfault
      · simp only [hfits, not_false_eq_true, if_true, if_false]
        rw [finish_none]
        rfl

/-! ## What a step writes -/

variable {config host}

/-- The call that the step of a task makes. -/
def PaymentTask.toCall (o : Signal) : PaymentTask → Option Call
  | .other task => task.toCall o.told
  | .deposit _ intentId => if o.fault.isNone then some (.settleDeposit o.told.ctx intentId) else none
  | .markFailed _ intentId =>
      if o.fault.isNone then some (.failIntent intentId "Provider reported a failure") else none
  | .confirm .. | .startExternal .. | .charge .. | .markProcessing .. | .record .. | .store ..
  | .audit .. | .settleSuccessful .. | .settleFailed .. | .close .. => none

/-- What a step wrote. -/
inductive Wrote (config : BillConfig) (o : Signal) (task : PaymentTask) (db db' : Db) : Prop
  | /-- The rows of webhook events, at most. -/
    events (ledger : db'.ledger = db.ledger) (kept : records db' = records db)
  | call (call : Call) (made : task.toCall o = some call) (after : db' = step config db call)
  | /-- The charge of an external payment. -/
    charge (intentId : Uuid) (method : PaymentMethod) (reference : String)
      (writes : task = .markProcessing intentId method reference)
      (ledger : db'.ledger = db.ledger)
      (intents : db'.paymentIntents.rows = db.paymentIntents.rows.map fun i ↦
        if i.id = intentId then markCharged o.told.ctx method reference i else i)
      (after : records db' = { records db with intents := db'.paymentIntents })

theorem closeEvent_kept (now : Timestamp) (db : Db) (eventId : String)
    (outcome : Except ServiceError SettlementOutcome) :
    (closeEvent now db eventId outcome).ledger = db.ledger ∧
      records (closeEvent now db eventId outcome) = records db := by
  rcases outcome with e | outcome
  · exact ⟨rfl, rfl⟩
  · cases outcome with
    | _ => exact ⟨rfl, rfl⟩

theorem close_kept (o : Signal) (s : Desk) (delivery : Delivery)
    (outcome : Except ServiceError SettlementOutcome) :
    (close o s delivery outcome).1.db.ledger = s.db.ledger ∧
      records (close o s delivery outcome).1.db = records s.db := by
  unfold close
  split
  · exact ⟨rfl, rfl⟩
  · split
    · exact ⟨rfl, rfl⟩
    · exact closeEvent_kept _ _ _ _
  · split
    · exact ⟨rfl, rfl⟩
    · exact closeEvent_kept _ _ _ _

/-- A step writes on webhook events, makes one call, or writes a charge down. -/
theorem perform_wrote (o : Signal) (s : Desk) (task : PaymentTask) :
    Wrote config o task s.db (perform config host o s task).1.db := by
  cases task with
  | other task =>
      rw [perform, exec_fst]
      cases hcall : task.toCall o.told with
      | none => exact .events rfl rfl
      | some call => exact .call call hcall rfl
  | confirm userId intentId method key customerReference =>
      rw [perform]
      split
      · exact .events rfl rfl
      · exact .events rfl rfl
  | startExternal userId intentId method =>
      rw [perform]
      split
      · exact .events rfl rfl
      · exact .events rfl rfl
  | charge userId intent method =>
      rw [perform]
      split
      · exact .events rfl rfl
      · split
        · exact .events rfl rfl
        · exact .events rfl rfl
  | markProcessing intentId method reference =>
      rw [perform]
      split
      · exact .events rfl rfl
      · next paymentIntents hupdate =>
          refine .charge intentId method reference rfl rfl ?_ rfl
          rw [Table.rows_of_update hupdate]
          simp only [decide_eq_true_eq]
  | record delivery =>
      rw [perform]
      split
      · exact .events rfl rfl
      · exact .events rfl rfl
      · exact .events rfl rfl
  | store delivery stale =>
      simp only [perform]
      split
      · exact .events rfl rfl
      · split
        · exact .events rfl rfl
        · exact .events rfl rfl
  | audit delivery stale =>
      rw [perform]
      split
      · exact .events rfl rfl
      · split
        · exact .events rfl rfl
        · exact .events rfl rfl
  | settleSuccessful delivery reference =>
      rw [perform]
      split
      · exact .events rfl rfl
      · exact .events rfl rfl
      · exact .events rfl rfl
  | deposit delivery intentId =>
      rw [perform]
      split
      · exact .events rfl rfl
      · exact .events rfl rfl
      · next outcome db hfault hsettle =>
          refine .call (.settleDeposit o.told.ctx intentId) ?_ ?_
          · rw [PaymentTask.toCall, hfault]
            rfl
          · rw [step, hsettle]
            rfl
  | settleFailed delivery reference =>
      rw [perform]
      split
      · exact .events rfl rfl
      · exact .events rfl rfl
      · exact .events rfl rfl
  | markFailed delivery intentId =>
      rw [perform]
      split
      · exact .events rfl rfl
      · next hfault =>
          refine .call (.failIntent intentId "Provider reported a failure") ?_ rfl
          rw [PaymentTask.toCall, hfault]
          rfl
  | close delivery outcome =>
      rw [perform]
      obtain ⟨hledger, hrecords⟩ := close_kept o s delivery outcome
      exact .events hledger hrecords

/-- Payments start, take steps that are allowed and stop, in any order. -/
abbrev Flows (config : BillConfig) (host : Host) (takes : Signal → Desk → PaymentTask → Prop) :
    Pool Desk PaymentTask → Pool Desk PaymentTask → Prop :=
  Reaches (Pool.advance (perform config host)) (Pool.Admitted (fun _ _ ↦ True) takes)

/-- Nothing has been charged or delivered yet. -/
def Desk.opening (db : Db) : Desk := ⟨db, [], []⟩

section Sample

/-- What a step is told, with a provider that answers with the reference. -/
def sampleSignal (n : Nat) (reference : String) : Signal :=
  ⟨⟨sampleCtx n, none⟩, true, ⟨fun _ ↦ .ok ⟨reference⟩, fun _ ↦ .ok ⟨reference⟩⟩, none⟩

/-- A move of another request. -/
def sampleOther : Move Task Told → Move PaymentTask Signal
  | .spawn task => .spawn (.other task)
  | .run i o => .run i ⟨o, true, sampleProvider, none⟩
  | .stop i => .stop i

/-- The first member asks to add money. -/
def sampleAsking : List (Move PaymentTask Signal) :=
  [.spawn (.other (.call (.createIntent (sampleCtx 1) .walletTopup (.ofNat 1) ⟨none, some 100000⟩
    "top-up"))), .run 0 (sampleSignal 1 "")]

/-- The first member confirms it with a transfer. -/
def sampleConfirm : PaymentTask := .confirm (.ofNat 1) (.ofNat 1000) .transfer "confirm" none

/-- The confirmation goes through, and the provider names the charge. -/
def sampleConfirming : List (Move PaymentTask Signal) :=
  [.spawn sampleConfirm, .run 0 (sampleSignal 2 ""), .run 0 (sampleSignal 3 ""),
    .run 0 (sampleSignal 4 "REF-1"), .run 0 (sampleSignal 5 "")]

/-- Two confirmations find the intent awaiting confirmation, and one of them goes through. -/
def sampleTwoConfirming : List (Move PaymentTask Signal) :=
  [.spawn sampleConfirm, .spawn sampleConfirm, .run 0 (sampleSignal 2 ""),
    .run 0 (sampleSignal 3 ""), .run 0 (sampleSignal 4 ""), .run 1 (sampleSignal 5 "REF-1"),
    .run 1 (sampleSignal 6 "")]

/-- The other one goes through as well. -/
def sampleSecondConfirming : List (Move PaymentTask Signal) :=
  [.run 0 (sampleSignal 20 ""), .run 0 (sampleSignal 21 "REF-2"), .run 0 (sampleSignal 22 "")]

/-- A delivery about the charge with the reference. -/
def sampleDelivery (declaredType reference : String) : Delivery where
  kind := .transactionCompletion
  event := extractFrom (.object [("eventType", .string declaredType),
    ("eventData", .object [("transactionReference", .string reference)])]) .transactionCompletion ""
  payloadHash := "digest"
  signature := none

/-- The delivery arrives, and goes through at the given place. -/
def sampleDelivering (i n : Nat) (delivery : Delivery) : List (Move PaymentTask Signal) :=
  .spawn (.record delivery) :: (List.range 6).map fun k ↦ .run i (sampleSignal (n + k) "")

/-- Where the moves lead. -/
def samplePaymentRun (start : Db) (moves : List (Move PaymentTask Signal)) : Pool Desk PaymentTask :=
  moves.foldl (Pool.advance (perform sampleConfig sampleFullHost)) ⟨.opening start, []⟩

/-- Further moves lead on. -/
theorem flows_append {takes : Signal → Desk → PaymentTask → Prop} {start : Db}
    (moves : List (Move PaymentTask Signal)) {moves' : List (Move PaymentTask Signal)}
    (h : AllAdmitted (Pool.advance (perform sampleConfig sampleFullHost))
      (Pool.Admitted (fun _ _ ↦ True) takes) (samplePaymentRun start moves) moves') :
    Flows sampleConfig sampleFullHost takes (samplePaymentRun start moves)
      (samplePaymentRun start (moves ++ moves')) := by
  rw [samplePaymentRun, samplePaymentRun, List.foldl_append]
  exact reaches_of_allAdmitted h

end Sample

end AjoCloud.Platform
