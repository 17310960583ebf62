import AjoCloud.Platform.Payments
import AjoCloud.Platform.Records

/-!
# Charges

An intent has room for one reference.  `startExternal` asks for a charge and writes its reference on
the intent, over whatever is there.  As long as it finds the room empty, the reference of every charge
that was written down stays on its intent, and a webhook that carries it finds the intent.
-/

namespace AjoCloud.Platform

open Lib Ledger Payments Bills Webhooks

variable {config : BillConfig} {host : Host} {db db' : Db} {call : Call}

/-! ## References -/

/-- The reference is on the intent. -/
def HoldsReference (db : Db) (intentId : Uuid) (reference : String) : Prop :=
  ∃ i ∈ db.paymentIntents.rows, i.id = intentId ∧ i.providerReference = some reference

/-- The intent is there, and no reference is on it. -/
def Uncharged (db : Db) (intentId : Uuid) : Prop :=
  ∃ i ∈ db.paymentIntents.rows, i.id = intentId ∧ i.providerReference = none

/-- The call asks for a charge and writes it down, all at once. -/
def WritesCharge : Call → Prop
  | .startExternal .. => True
  | _ => False

instance : (call : Call) → Decidable (WritesCharge call)
  | .startExternal .. => inferInstanceAs (Decidable True)
  | .send .. | .withdraw .. | .ajo _ | .createIntent .. | .settleFromWallet .. | .settleDeposit ..
  | .failIntent .. | .reserveBill .. | .applyProviderResult .. | .markUncertain ..
  | .cancelSubscription .. | .award .. | .elsewhere _ => inferInstanceAs (Decidable False)

theorem Became.reference {x x' : PaymentIntent} (h : Became config db db' call x x')
    (hcall : ¬ WritesCharge call) : x'.providerReference = x.providerReference := by
  cases h with
  | left left =>
      cases left with
      | same => rfl
      | charged _ _ _ _ _ asked =>
          rw [asked] at hcall
          exact absurd trivial hcall
      | failed _ _ => rfl
      | synced _ _ _ _ _ _ reference => exact reference
  | paid _ _ _ _ _ _ _ _ _ _ _ => rfl
  | banked _ _ _ _ _ _ => rfl

theorem HoldsReference.of_intents {intentId : Uuid} {reference : String}
    (h : HoldsReference db intentId reference) (hintents : Intents config db db' call)
    (hcall : ¬ WritesCharge call) : HoldsReference db' intentId reference := by
  obtain ⟨x, hx, hid, href⟩ := h
  obtain ⟨x', hx', hbecame⟩ := hintents.exists_of_mem hx
  exact ⟨x', hx', hbecame.id_eq.trans hid, (hbecame.reference hcall).trans href⟩

/-! ## Charges -/

/-- The reference of every charge that was written down is on its intent. -/
def ChargesHeld (s : Desk) : Prop :=
  ∀ c ∈ s.charges, c.stored = true → HoldsReference s.db c.intentId c.providerReference

/-- The step finds the room for its reference empty.  A confirmation asks for its charge in one step
and writes it down in another. -/
def TakesUncharged (o : Signal) (s : Desk) (task : PaymentTask) : Prop :=
  (∀ call ∈ task.toCall o, ¬ WritesCharge call) ∧
    match task with
    | .markProcessing intentId _ _ => Uncharged s.db intentId
    | _ => True

instance (db : Db) (intentId : Uuid) : Decidable (Uncharged db intentId) :=
  inferInstanceAs (Decidable (∃ i ∈ db.paymentIntents.rows,
    i.id = intentId ∧ i.providerReference = none))

instance (o : Signal) (s : Desk) : (task : PaymentTask) → Decidable (TakesUncharged o s task)
  | .markProcessing intentId _ _ => inferInstanceAs (Decidable (_ ∧ Uncharged s.db intentId))
  | .other _ | .confirm .. | .startExternal .. | .charge .. | .record .. | .store .. | .audit ..
  | .settleSuccessful .. | .deposit .. | .settleFailed .. | .markFailed .. | .close .. =>
      inferInstanceAs (Decidable (_ ∧ True))

theorem close_charges (o : Signal) (s : Desk) (delivery : Delivery)
    (outcome : Except ServiceError SettlementOutcome) :
    (close o s delivery outcome).1.charges = s.charges := by
  unfold close
  split
  · rfl
  · split
    · rfl
    · rfl
  · split
    · rfl
    · rfl

/-- A charge was there, is new, or was written down by the step. -/
theorem mem_charges_perform {o : Signal} {s : Desk} {task : PaymentTask} {c : Charge}
    (hc : c ∈ (perform config host o s task).1.charges) :
    c ∈ s.charges ∨ c.stored = false ∨ ∃ intentId method reference,
      task = .markProcessing intentId method reference ∧
        (perform config host o s task).1.db.paymentIntents.rows = s.db.paymentIntents.rows.map
          (fun i ↦ if i.id = intentId then markCharged o.told.ctx method reference i else i) ∧
        ∃ c₀ ∈ s.charges, c = markStored intentId reference c₀ := by
  cases task with
  | other task => exact .inl hc
  | confirm userId intentId method key customerReference =>
      rw [perform] at hc
      split at hc
      · exact .inl hc
      · exact .inl hc
  | startExternal userId intentId method =>
      rw [perform] at hc
      split at hc
      · exact .inl hc
      · exact .inl hc
  | charge userId intent method =>
      rw [perform] at hc
      split at hc
      · exact .inl hc
      · split at hc
        · exact .inl hc
        · rcases List.mem_append.mp hc with hc | hc
          · exact .inl hc
          · rw [List.mem_singleton.mp hc]
            exact .inr (.inl rfl)
  | markProcessing intentId method reference =>
      rw [perform] at hc ⊢
      split at hc
      · exact .inl hc
      · next paymentIntents hupdate =>
          obtain ⟨c₀, hc₀, rfl⟩ := List.mem_map.mp hc
          refine .inr (.inr ⟨intentId, method, reference, rfl, ?_, c₀, hc₀, rfl⟩)
          refine (Table.rows_of_update hupdate).trans ?_
          simp only [decide_eq_true_eq]
  | record delivery =>
      rw [perform] at hc
      split at hc
      · exact .inl hc
      · exact .inl hc
      · exact .inl hc
  | store delivery stale =>
      simp only [perform] at hc
      split at hc
      · exact .inl hc
      · split at hc
        · exact .inl hc
        · exact .inl hc
  | audit delivery stale =>
      rw [perform] at hc
      split at hc
      · exact .inl hc
      · split at hc
        · exact .inl hc
        · exact .inl hc
  | settleSuccessful delivery reference =>
      rw [perform] at hc
      split at hc
      · exact .inl hc
      · exact .inl hc
      · exact .inl hc
  | deposit delivery intentId =>
      rw [perform] at hc
      split at hc
      · exact .inl hc
      · exact .inl hc
      · exact .inl hc
  | settleFailed delivery reference =>
      rw [perform] at hc
      split at hc
      · exact .inl hc
      · exact .inl hc
      · exact .inl hc
  | markFailed delivery intentId =>
      rw [perform] at hc
      split at hc
      · exact .inl hc
      · exact .inl hc
  | close delivery outcome =>
      rw [perform, close_charges] at hc
      exact .inl hc

/-- A reference stays where it is. -/
theorem HoldsReference.perform {o : Signal} {s : Desk} {task : PaymentTask} {intentId : Uuid}
    {reference : String} (h : HoldsReference s.db intentId reference) (ht : TakesUncharged o s task) :
    HoldsReference (perform config host o s task).1.db intentId reference := by
  have hwrote : Wrote config o task s.db (Platform.perform config host o s task).1.db :=
    perform_wrote o s task
  cases hwrote with
  | events _ kept =>
      have hsame : (Platform.perform config host o s task).1.db.paymentIntents =
        s.db.paymentIntents := congrArg Records.intents kept
      rw [HoldsReference, hsame]
      exact h
  | call call made after =>
      rw [after]
      exact h.of_intents (step_effect config s.db call).intents (ht.1 call made)
  | charge charged method reference' writes _ intents _ =>
      subst writes
      obtain ⟨i, hi, hid, href⟩ := h
      obtain ⟨x, hx, hxid, hxref⟩ := ht.2
      -- The charge is written on another intent.
      have hne : i.id ≠ charged := by
        intro heq
        rw [intent_eq_of_id hi hx (heq.trans hxid.symm), hxref] at href
        cases href
      refine ⟨i, ?_, hid, href⟩
      rw [intents]
      exact List.mem_map.mpr ⟨i, hi, if_neg hne⟩

theorem ChargesHeld.perform {o : Signal} {s : Desk} {task : PaymentTask} (h : ChargesHeld s)
    (ht : TakesUncharged o s task) : ChargesHeld (perform config host o s task).1 := by
  intro c hc hstored
  rcases mem_charges_perform hc with hold | hnew | ⟨intentId, method, reference, rfl, hrows, c₀, hc₀, rfl⟩
  · exact (h c hold hstored).perform ht
  · rw [hnew] at hstored
    cases hstored
  · by_cases hwritten : c₀.intentId = intentId ∧ c₀.providerReference = reference
    · obtain ⟨rfl, rfl⟩ := hwritten
      obtain ⟨x, hx, hid, -⟩ := ht.2
      rw [markStored, if_pos ⟨rfl, rfl⟩]
      refine ⟨markCharged o.told.ctx method c₀.providerReference x, ?_, hid, rfl⟩
      rw [hrows]
      exact List.mem_map.mpr ⟨x, hx, if_pos hid⟩
    · rw [markStored, if_neg hwritten] at hstored ⊢
      exact (h c₀ hc₀ hstored).perform ht

/-! ## Webhooks that find no intent -/

/-- A webhook that carries the reference and looks its intent up in the one state finds no intent, or
finds none when it settles in the other. -/
def EndsUnmatched (config : BillConfig) (host : Host) (s s' : Desk) (reference : String) : Prop :=
  ∃ o delivery,
    (perform config host o s (.settleSuccessful delivery reference)).2 =
      some (.close delivery (.ok .unmatched)) ∨
    ∃ intentId o', (perform config host o s (.settleSuccessful delivery reference)).2 =
        some (.deposit delivery intentId) ∧
      (perform config host o' s' (.deposit delivery intentId)).2 =
        some (.close delivery (.ok .unmatched))

/-- No step loses an intent. -/
theorem keeps_intent {o : Signal} {s : Desk} {task : PaymentTask} {intentId : Uuid}
    (h : ∃ i ∈ s.db.paymentIntents.rows, i.id = intentId) :
    ∃ i ∈ (perform config host o s task).1.db.paymentIntents.rows, i.id = intentId := by
  obtain ⟨i, hi, hid⟩ := h
  have hwrote : Wrote config o task s.db (perform config host o s task).1.db := perform_wrote o s task
  cases hwrote with
  | events _ kept =>
      have hsame : (perform config host o s task).1.db.paymentIntents = s.db.paymentIntents :=
        congrArg Records.intents kept
      exact ⟨i, hsame ▸ hi, hid⟩
  | call call _ after =>
      rw [after]
      obtain ⟨i', hi', hbecame⟩ := (step_effect config s.db call).intents.exists_of_mem hi
      exact ⟨i', hi', hbecame.id_eq.trans hid⟩
  | charge charged method reference _ _ intents _ =>
      rw [intents]
      refine ⟨_, List.mem_map_of_mem hi, ?_⟩
      split
      · exact hid
      · exact hid

/-- A deposit finds its intent when there is one. -/
theorem settleDeposit_ne_unmatched {ctx : Ctx} {intentId : Uuid}
    (h : ∃ i ∈ db.paymentIntents.rows, i.id = intentId) :
    settleDeposit ctx db intentId ≠ .ok (.unmatched, db') := by
  obtain ⟨i, hi, hid⟩ := h
  intro hsettle
  unfold settleDeposit at hsettle
  split at hsettle
  · next hnone => exact absurd hid (by simpa using Table.not_of_find?_eq_none hnone hi)
  · split at hsettle
    · cases hsettle
    · simp only [postDeposit, bind_eq_ok, pure_eq_ok] at hsettle
      obtain ⟨_, -, _, -, _, -, hanswer⟩ := hsettle
      cases hanswer

/-- A reference that is on an intent is found. -/
theorem lookup_ne {o : Signal} {s : Desk} {delivery : Delivery} {intentId : Uuid}
    {reference : String} (h : HoldsReference s.db intentId reference) :
    (perform config host o s (.settleSuccessful delivery reference)).2 ≠
      some (.close delivery (.ok .unmatched)) := by
  obtain ⟨i, hi, -, href⟩ := h
  intro hlookup
  rw [perform] at hlookup
  split at hlookup
  · cases hlookup
  · next hnone => exact absurd href (by simpa using Table.not_of_find?_eq_none hnone hi)
  · dsimp only at hlookup
    split at hlookup
    · cases hlookup
    · cases hlookup

/-- What a lookup found is stored. -/
theorem exists_of_lookup {o : Signal} {s : Desk} {delivery : Delivery} {reference : String}
    {intentId : Uuid} (h : (perform config host o s (.settleSuccessful delivery reference)).2 =
      some (.deposit delivery intentId)) : ∃ i ∈ s.db.paymentIntents.rows, i.id = intentId := by
  rw [perform] at h
  split at h
  · cases h
  · cases h
  · next intent _ hfind =>
      dsimp only at h
      split at h
      · cases h
      · cases h
        exact ⟨intent, Table.mem_of_find? hfind, rfl⟩

/-- A settlement that has its intent does not lose it. -/
theorem deposit_ne {o : Signal} {s : Desk} {delivery : Delivery} {intentId : Uuid}
    (h : ∃ i ∈ s.db.paymentIntents.rows, i.id = intentId) :
    (perform config host o s (.deposit delivery intentId)).2 ≠
      some (.close delivery (.ok .unmatched)) := by
  intro hdeposit
  rw [perform] at hdeposit
  split at hdeposit
  · cases hdeposit
  · cases hdeposit
  · next hsettle =>
      cases hdeposit
      exact settleDeposit_ne_unmatched h hsettle

/-- **No charge is orphaned.**  In every run in which every reference finds the room for it empty, a
webhook that carries the reference of a charge that was written down never ends as UNMATCHED, whatever
happens between its steps. -/
theorem charges_stay_matched {start : Db} {threads : List PaymentTask} {p q : Pool Desk PaymentTask}
    {takes : Signal → Desk → PaymentTask → Prop}
    (h : Flows config host TakesUncharged ⟨.opening start, threads⟩ p)
    (h' : Flows config host takes p q) :
    ∀ c ∈ p.shared.charges, c.stored = true →
      ¬ EndsUnmatched config host p.shared q.shared c.providerReference := by
  have hheld : ChargesHeld p.shared := by
    refine Pool.invariant_of_steps (S := ChargesHeld) h (by rintro c ⟨⟩) ?_
    intro o s task hs ht
    exact hs.perform ht
  rintro c hc hstored ⟨o, delivery, hlookup | ⟨intentId, o', hlookup, hdeposit⟩⟩
  · exact lookup_ne (hheld c hc hstored) hlookup
  · refine deposit_ne ?_ hdeposit
    refine Pool.invariant_of_steps (S := fun s ↦ ∃ i ∈ s.db.paymentIntents.rows, i.id = intentId) h'
      (exists_of_lookup hlookup) ?_
    intro o s task hs _
    exact keeps_intent hs

section Sample

/-- The transfer arrives. -/
def sampleArriving : List (Move PaymentTask Signal) :=
  sampleDelivering 0 10 (sampleDelivery "SUCCESSFUL_TRANSACTION" "REF-1")

/-- Two confirmations ask for a charge, and both write its reference down. -/
def sampleOverwritten : List (Move PaymentTask Signal) :=
  sampleAsking ++ sampleTwoConfirming ++ sampleSecondConfirming

end Sample

/-- One confirmation, and its transfer. -/
theorem charges_stay_matched_sample :
    (∀ c ∈ (samplePaymentRun samplePlatform (sampleAsking ++ sampleConfirming)).shared.charges,
      c.stored = true → ¬ EndsUnmatched sampleConfig sampleFullHost
        (samplePaymentRun samplePlatform (sampleAsking ++ sampleConfirming)).shared
        (samplePaymentRun samplePlatform (sampleAsking ++ sampleConfirming ++ sampleArriving)).shared
        c.providerReference) ∧
    (samplePaymentRun samplePlatform (sampleAsking ++ sampleConfirming)).shared.charges =
      [⟨.ofNat 1000, "REF-1", true⟩] := by
  have hrun : Flows sampleConfig sampleFullHost TakesUncharged ⟨.opening samplePlatform, []⟩
      (samplePaymentRun samplePlatform (sampleAsking ++ sampleConfirming)) :=
    reaches_of_allAdmitted (by decide +kernel)
  have hrun' : Flows sampleConfig sampleFullHost TakesUncharged
      (samplePaymentRun samplePlatform (sampleAsking ++ sampleConfirming))
      (samplePaymentRun samplePlatform (sampleAsking ++ sampleConfirming ++ sampleArriving)) :=
    flows_append (sampleAsking ++ sampleConfirming) (by decide +kernel)
  exact ⟨charges_stay_matched hrun hrun', by decide +kernel⟩

/-- It is not the case that every charge stays matched: two confirmations pass the check, and the
second reference is written over the first. -/
theorem charge_orphaned :
    ¬ ∀ (config : BillConfig) (host : Host) (start : Db) (p : Pool Desk PaymentTask),
      Flows config host (fun _ _ _ ↦ True) ⟨.opening start, []⟩ p →
      ∀ c ∈ p.shared.charges, c.stored = true →
        (∀ c' ∈ p.shared.charges, c'.providerReference = c.providerReference → c' = c) →
        ¬ EndsUnmatched config host p.shared p.shared c.providerReference := by
  intro h
  have hrun : Flows sampleConfig sampleFullHost (fun _ _ _ ↦ True) ⟨.opening samplePlatform, []⟩
      (samplePaymentRun samplePlatform sampleOverwritten) :=
    reaches_of_allAdmitted (by decide +kernel)
  have hcharges : (samplePaymentRun samplePlatform sampleOverwritten).shared.charges =
      [⟨.ofNat 1000, "REF-1", true⟩, ⟨.ofNat 1000, "REF-2", true⟩] := by decide +kernel
  have hlost : ((samplePaymentRun samplePlatform sampleOverwritten).shared.db.paymentIntents.find?
      fun i ↦ i.providerReference = some "REF-1").isNone = true := by decide +kernel
  have hmatched := h sampleConfig sampleFullHost samplePlatform _ hrun
  rw [hcharges] at hmatched
  refine hmatched ⟨.ofNat 1000, "REF-1", true⟩ (by simp) rfl (by decide) ?_
  refine ⟨sampleSignal 30 "", sampleDelivery "SUCCESSFUL_TRANSACTION" "REF-1", .inl ?_⟩
  rw [perform, Option.isNone_iff_eq_none.mp hlost]
  rfl

end AjoCloud.Platform
