import AjoCloud.Platform.Payments
import AjoCloud.Platform.Records
import AjoCloud.Platform.Reserves

/-!
# Terminal intents

An intent that has succeeded, failed or been cancelled is done with.  Three writes do not look at
the status they replace: the write of `startExternal`, the write of `settleFailed`, and, for an intent
that has failed, the transaction of `settleSuccessful`.  As long as none of them meets another terminal
status than the one it writes, no step changes a terminal status, and what has been posted for an intent
agrees with its status.
-/

namespace AjoCloud.Platform

open Lib Ledger Payments Bills Webhooks

variable {config : BillConfig} {host : Host} {db db' : Db} {call : Call}

/-! ## Terminal statuses -/

/-- The call does not replace a terminal status. -/
def SparesTerminal (db : Db) : Call → Prop
  | .startExternal _ _ _ intentId _ =>
      ∀ i ∈ db.paymentIntents.rows, i.id = intentId → isTerminal i.status = false
  | .failIntent intentId _ =>
      ∀ i ∈ db.paymentIntents.rows, i.id = intentId → i.status ≠ .succeeded ∧ i.status ≠ .cancelled
  | .settleDeposit _ intentId =>
      ∀ i ∈ db.paymentIntents.rows, i.id = intentId → i.status ≠ .failed ∧ i.status ≠ .cancelled
  | _ => True

instance (db : Db) : (call : Call) → Decidable (SparesTerminal db call)
  | .startExternal _ _ _ intentId _ => inferInstanceAs (Decidable
      (∀ i ∈ db.paymentIntents.rows, i.id = intentId → isTerminal i.status = false))
  | .failIntent intentId _ => inferInstanceAs (Decidable
      (∀ i ∈ db.paymentIntents.rows, i.id = intentId → i.status ≠ .succeeded ∧ i.status ≠ .cancelled))
  | .settleDeposit _ intentId => inferInstanceAs (Decidable
      (∀ i ∈ db.paymentIntents.rows, i.id = intentId → i.status ≠ .failed ∧ i.status ≠ .cancelled))
  | .send .. | .withdraw .. | .ajo _ | .createIntent .. | .settleFromWallet .. | .reserveBill ..
  | .applyProviderResult .. | .markUncertain .. | .cancelSubscription .. | .award ..
  | .elsewhere _ => inferInstanceAs (Decidable True)

/-- Every terminal intent is still there, with the status it had. -/
def KeepsTerminal (db db' : Db) : Prop :=
  ∀ x ∈ db.paymentIntents.rows, isTerminal x.status = true →
    ∃ x' ∈ db'.paymentIntents.rows, x'.id = x.id ∧ x'.status = x.status

theorem KeepsTerminal.of_eq (h : db'.paymentIntents = db.paymentIntents) : KeepsTerminal db db' := by
  intro x hx _
  exact ⟨x, h ▸ hx, rfl, rfl⟩

theorem KeepsTerminal.trans {db'' : Db} (h : KeepsTerminal db db') (h' : KeepsTerminal db' db'') :
    KeepsTerminal db db'' := by
  intro x hx hterminal
  obtain ⟨x', hx', hid, hst⟩ := h x hx hterminal
  obtain ⟨x'', hx'', hid', hst'⟩ := h' x' hx' (hst ▸ hterminal)
  exact ⟨x'', hx'', hid'.trans hid, hst'.trans hst⟩

/-- A terminal intent comes out of such a call with its status. -/
theorem Became.status_eq {x x' : PaymentIntent} (h : Became config db db' call x x')
    (hx : x ∈ db.paymentIntents.rows) (hs : SparesTerminal db call)
    (hterminal : isTerminal x.status = true) : x'.status = x.status := by
  cases h with
  | left left =>
      cases left with
      | same => rfl
      | charged _ _ _ _ _ asked =>
          rw [asked] at hs
          exact nomatch hterminal.symm.trans (hs x hx rfl)
      | failed _ asked =>
          rw [asked] at hs
          obtain ⟨hsucceeded, hcancelled⟩ := hs x hx rfl
          -- Of the terminal statuses, only the one that is written is left.
          have hfailed : x.status = .failed := by
            simpa [isTerminal, hsucceeded, hcancelled] using hterminal
          exact hfailed.symm
      | synced _ _ _ processing _ _ _ =>
          rw [processing] at hterminal
          cases hterminal
  | paid _ _ _ _ _ _ _ _ _ _ done =>
      rw [done.unpaid] at hterminal
      cases hterminal
  | banked _ _ _ _ done asked =>
      rw [asked] at hs
      obtain ⟨hfailed, hcancelled⟩ := hs x hx rfl
      rw [isTerminal, decide_eq_false done.unsettled, decide_eq_false hfailed,
        decide_eq_false hcancelled] at hterminal
      cases hterminal

/-- A call that does not replace a terminal status keeps them all. -/
theorem Intents.keepsTerminal (h : Intents config db db' call) (hs : SparesTerminal db call) :
    KeepsTerminal db db' := by
  intro x hx hterminal
  obtain ⟨x', hx', hbecame⟩ := h.exists_of_mem hx
  exact ⟨x', hx', hbecame.id_eq, hbecame.status_eq hx hs hterminal⟩

/-! ## Posted intents -/

/-- The intent's deposit is posted, or its debit for a target that is done at once. -/
def IsSettled (config : BillConfig) (ledger : Ledger) (x : PaymentIntent) : Prop :=
  (∃ t ∈ ledger.transactions.rows, t.idempotencyKey = depositKey x.id) ∨
    (targets config x.targetType).completesLater = false ∧
      ∃ key, ∃ t ∈ ledger.transactions.rows, t.idempotencyKey = intentKey x.id key

/-- What has been posted for an intent agrees with its status. -/
structure Concluded (config : BillConfig) (db : Db) : Prop where
  owned : KeysOwned db
  settled : ∀ x ∈ db.paymentIntents.rows, IsSettled config db.ledger x → x.status = .succeeded

/-- A new transaction under the key of a confirmation is the payment of its intent. -/
theorem Effect.paid_of_key (h : Effect config db db' call) {t : LedgerTransaction}
    (ht : t ∈ db'.ledger.transactions.rows) (hold : t ∉ db.ledger.transactions.rows) {i : Uuid}
    {key : String} (hkey : t.idempotencyKey = intentKey i key) :
    ∃ ctx posting, ∃ intent ∈ db.paymentIntents.rows, intent.id = i ∧
      db'.paymentIntents.rows = db.paymentIntents.rows.map fun x ↦
        if x.id = intent.id then markSettled ctx (targets config intent.targetType) posting x else x := by
  obtain hopened | ⟨o, mid, id, command, posting, hmakes, -⟩ := h.makes
  · rw [hopened.transactions] at ht
    exact absurd ht hold
  have hnew : t = postedTransaction id command := by
    cases (postWithin_eq_ok hmakes.post).2 with
    | replayed _ _ _ _ same =>
        rw [same, hmakes.opens.transactions] at ht
        exact absurd ht hold
    | appended _ created _ =>
        rw [(createTransaction_eq_ok created).2.2.2.2, hmakes.opens.transactions] at ht
        exact List.mem_singleton.mp ((List.mem_append.mp ht).resolve_left hold)
  have ho : o = .confirmation i key := by
    refine Origin.key_inj (hmakes.key.symm.trans ?_)
    rw [hnew] at hkey
    exact hkey
  have hperforms := hmakes.performs
  rw [ho] at hperforms
  -- Only a confirmation of the intent posts its payment.
  cases hperforms with
  | settleIntent =>
      cases h with
      | idle opens _ =>
          rw [opens.transactions] at ht
          exact absurd ht hold
      | created _ ledger _ _ _ =>
          rw [ledger] at ht
          exact absurd ht hold
      | paid ctx _ intent _ _ _ _ _ _ posting _ done asked =>
          cases asked with
          | contribution _ => exact ⟨_, posting, intent, done.mem, rfl, done.intents⟩
  | settleFromWallet =>
      cases h with
      | idle opens _ =>
          rw [opens.transactions] at ht
          exact absurd ht hold
      | created _ ledger _ _ _ =>
          rw [ledger] at ht
          exact absurd ht hold
      | paid ctx _ intent _ _ _ _ _ _ posting _ done asked =>
          cases asked with
          | payment => exact ⟨_, posting, intent, done.mem, rfl, done.intents⟩

/-- An intent that was settled before is settled, and its status is kept. -/
theorem Concluded.of_old (h : Concluded config db) (hintents : Intents config db db' call)
    (hkeeps : KeepsTerminal db db') {x' : PaymentIntent} (hx' : x' ∈ db'.paymentIntents.rows)
    (hsettled : IsSettled config db.ledger x') : x'.status = .succeeded := by
  rcases hintents.cases hx' with ⟨x, hx, hbecame⟩ | ⟨-, -, hnew⟩
  · have htype : x'.targetType = x.targetType := congrArg IntentTerms.targetType hbecame.same.1
    rw [IsSettled, hbecame.id_eq, htype] at hsettled
    have hst := h.settled x hx hsettled
    obtain ⟨y, hy, hid, hkept⟩ := hkeeps x hx (by rw [hst]; rfl)
    rw [intent_eq_of_id hx' hy (hbecame.id_eq.trans hid.symm), hkept]
    exact hst
  · -- A posting for the intent would have had the intent before.
    rcases hsettled with ⟨t, ht, hkey⟩ | ⟨-, key, t, ht, hkey⟩
    · obtain ⟨y, hy, hid⟩ := h.owned t ht (.deposit x'.id) hkey
      exact absurd hid (hnew y hy)
    · obtain ⟨y, hy, hid, -⟩ := h.owned t ht (.confirmation x'.id key) hkey
      exact absurd hid (hnew y hy)

theorem Concluded.step (h : Concluded config db) (ha : Apart db call) (hs : SparesTerminal db call) :
    Concluded config (step config db call) := by
  have howned : KeysOwned (Platform.step config db call) := h.owned.step ha
  have heffect := step_effect config db call
  generalize Platform.step config db call = db' at howned heffect ⊢
  have hkeeps := heffect.intents.keepsTerminal hs
  refine ⟨howned, fun x' hx' hsettled ↦ ?_⟩
  rcases hsettled with ⟨t, ht, hkey⟩ | ⟨hnow, key, t, ht, hkey⟩
  · by_cases hold : t ∈ db.ledger.transactions.rows
    · exact h.of_old heffect.intents hkeeps hx' (.inl ⟨t, hold, hkey⟩)
    · obtain ⟨ctx, intent, wallet, accounts, posting, hbanked, hid, -⟩ :=
        heffect.banked_of_key ht hold hkey
      rw [hbanked.deposited.intents] at hx'
      obtain ⟨y, hy, rfl⟩ := List.mem_map.mp hx'
      by_cases hyid : y.id = intent.id
      · rw [if_pos hyid]
        rfl
      · rw [if_neg hyid] at hid
        exact absurd hid.symm hyid
  · by_cases hold : t ∈ db.ledger.transactions.rows
    · exact h.of_old heffect.intents hkeeps hx' (.inr ⟨hnow, key, t, hold, hkey⟩)
    · obtain ⟨ctx, posting, intent, hmem, hid, hrows⟩ := heffect.paid_of_key ht hold hkey
      rw [hrows] at hx'
      obtain ⟨y, hy, rfl⟩ := List.mem_map.mp hx'
      by_cases hyid : y.id = intent.id
      · rw [if_pos hyid] at hnow ⊢
        have hlater : (targets config y.targetType).completesLater = false := hnow
        rw [intent_eq_of_id hy hmem hyid] at hlater
        rw [markSettled, hlater]
        rfl
      · rw [if_neg hyid] at hid
        exact absurd hid.symm hyid

/-! ## Runs -/

/-- The rest of the platform keeps to its own records. -/
def KeepsApart (o : Signal) (s : Desk) (task : PaymentTask) : Prop :=
  ∀ call ∈ task.toCall o, Apart s.db call

/-- The step replaces no terminal status, and the rest of the platform keeps to its own records. -/
def TakesSparing (o : Signal) (s : Desk) (task : PaymentTask) : Prop :=
  (∀ call ∈ task.toCall o, Apart s.db call ∧ SparesTerminal s.db call) ∧
    match task with
    | .markProcessing intentId _ _ =>
        ∀ i ∈ s.db.paymentIntents.rows, i.id = intentId → isTerminal i.status = false
    | _ => True

instance (o : Signal) (s : Desk) (task : PaymentTask) : Decidable (KeepsApart o s task) :=
  inferInstanceAs (Decidable (∀ call ∈ task.toCall o, Apart s.db call))

instance (o : Signal) (s : Desk) : (task : PaymentTask) → Decidable (TakesSparing o s task)
  | .markProcessing intentId _ _ => inferInstanceAs (Decidable (_ ∧
      ∀ i ∈ s.db.paymentIntents.rows, i.id = intentId → isTerminal i.status = false))
  | .other _ | .confirm .. | .startExternal .. | .charge .. | .record .. | .store .. | .audit ..
  | .settleSuccessful .. | .deposit .. | .settleFailed .. | .markFailed .. | .close .. =>
      inferInstanceAs (Decidable (_ ∧ True))

/-- Every allowed step keeps terminal statuses. -/
theorem keepsTerminal_perform {o : Signal} {s : Desk} {task : PaymentTask}
    (ht : TakesSparing o s task) : KeepsTerminal s.db (perform config host o s task).1.db := by
  have hwrote : Wrote config o task s.db (perform config host o s task).1.db := perform_wrote o s task
  cases hwrote with
  | events _ kept => exact .of_eq (congrArg Records.intents kept)
  | call call made after =>
      rw [after]
      exact (step_effect config s.db call).intents.keepsTerminal (ht.1 call made).2
  | charge intentId method reference writes _ intents _ =>
      subst writes
      have hintents : Intents config s.db (perform config host o s _).1.db
        (.startExternal o.told.ctx o.provider intentId intentId method) := .of_charge intents
      exact hintents.keepsTerminal ht.2

theorem KeysOwned.of_grows (h : KeysOwned db) (hledger : db'.ledger = db.ledger)
    (hgrows : Grows (records db) (records db')) : KeysOwned db' := by
  intro t ht o hkey
  rw [hledger] at ht
  exact (h t ht o hkey).mono hgrows

theorem Concluded.perform {o : Signal} {s : Desk} {task : PaymentTask}
    (h : Concluded config s.db) (ht : TakesSparing o s task) :
    Concluded config (perform config host o s task).1.db := by
  have hkeeps : KeepsTerminal s.db (Platform.perform config host o s task).1.db :=
    keepsTerminal_perform ht
  have hwrote : Wrote config o task s.db (Platform.perform config host o s task).1.db :=
    perform_wrote o s task
  cases hwrote with
  | events ledger kept =>
      refine ⟨h.owned.of_grows ledger (kept ▸ .refl _), fun x hx hsettled ↦ ?_⟩
      have hintents : Intents config s.db (Platform.perform config host o s task).1.db
        (.failIntent x.id "") := .of_eq (congrArg Records.intents kept)
      exact h.of_old hintents hkeeps hx (ledger ▸ hsettled)
  | call call made after =>
      rw [after]
      exact h.step (ht.1 call made).1 (ht.1 call made).2
  | charge intentId method reference writes ledger intents after =>
      refine ⟨h.owned.of_grows ledger ?_, fun x hx hsettled ↦ ?_⟩
      · rw [after]
        exact { Grows.refl (records s.db) with
          intents := intents_of_map intents (fun _ ↦ rfl) fun _ ↦ nofun }
      · rw [ledger] at hsettled
        have hintents : Intents config s.db (Platform.perform config host o s task).1.db
          (.startExternal o.told.ctx o.provider intentId intentId method) := .of_charge intents
        exact h.of_old hintents hkeeps hx hsettled

/-- **Terminal intents stay terminal.**  In every run in which the writes that do not look at the
status meet no other terminal status than the one they write, a terminal status never changes, and an
intent whose deposit is posted, or whose debit is posted for a target that is done at once, has
succeeded. -/
theorem terminal_intents_stay {start : Db} {threads : List PaymentTask} {p q : Pool Desk PaymentTask}
    (h₀ : Untouched start) (h : Flows config host TakesSparing ⟨.opening start, threads⟩ p)
    (h' : Flows config host TakesSparing p q) :
    KeepsTerminal p.shared.db q.shared.db ∧
      ∀ x ∈ p.shared.db.paymentIntents.rows, IsSettled config p.shared.db.ledger x →
        x.status = .succeeded := by
  constructor
  · refine Pool.invariant_of_steps (S := fun s ↦ KeepsTerminal p.shared.db s.db) h' (.of_eq rfl) ?_
    intro o s task hs ht
    exact hs.trans (keepsTerminal_perform ht)
  · have hconcluded : Concluded config p.shared.db := by
      refine Pool.invariant_of_steps (S := fun s ↦ Concluded config s.db) h ?_ ?_
      · refine ⟨fun t ht ↦ ?_, fun x hx ↦ ?_⟩
        · simp [Desk.opening, h₀.transactions] at ht
        · simp [Desk.opening, h₀.intents] at hx
      · intro o s task hs ht
        exact hs.perform ht
    exact hconcluded.settled

section Sample

/-- The transfer is confirmed, and it arrives. -/
def sampleArrived : List (Move PaymentTask Signal) :=
  sampleAsking ++ sampleConfirming ++ sampleDelivering 0 10 (sampleDelivery "SUCCESSFUL_TRANSACTION" "REF-1")

/-- The intent is confirmed again, and the delivery is repeated as a failure. -/
def sampleRepeated : List (Move PaymentTask Signal) :=
  [.spawn sampleConfirm, .run 0 (sampleSignal 20 "")] ++
    sampleDelivering 0 30 (sampleDelivery "FAILED_TRANSACTION" "REF-1")

/-- The transfer arrives while a second confirmation is under way. -/
def sampleOvertaken : List (Move PaymentTask Signal) :=
  sampleAsking ++ sampleTwoConfirming ++
    sampleDelivering 1 10 (sampleDelivery "SUCCESSFUL_TRANSACTION" "REF-1")

/-- A bill is paid from the wallet, and the provider refuses it. -/
def sampleDeclined : List (Move PaymentTask Signal) :=
  (sampleFunding ++ samplePaying).map sampleOther ++ [sampleOther (.run 0 (sampleTold 7 .failed))]

theorem untouched_samplePlatform : Untouched samplePlatform := ⟨rfl, rfl, rfl, rfl⟩

end Sample

/-- The transfer arrived, and is confirmed and delivered once more. -/
theorem terminal_intents_stay_sample :
    (KeepsTerminal (samplePaymentRun samplePlatform sampleArrived).shared.db
        (samplePaymentRun samplePlatform (sampleArrived ++ sampleRepeated)).shared.db ∧
      ∀ x ∈ (samplePaymentRun samplePlatform sampleArrived).shared.db.paymentIntents.rows,
        IsSettled sampleConfig (samplePaymentRun samplePlatform sampleArrived).shared.db.ledger x →
        x.status = .succeeded) ∧
    (samplePaymentRun samplePlatform sampleArrived).shared.db.paymentIntents.rows.map (·.status) =
      [.succeeded] := by
  have hrun : Flows sampleConfig sampleFullHost TakesSparing ⟨.opening samplePlatform, []⟩
      (samplePaymentRun samplePlatform sampleArrived) := reaches_of_allAdmitted (by decide +kernel)
  have hrun' : Flows sampleConfig sampleFullHost TakesSparing
      (samplePaymentRun samplePlatform sampleArrived)
      (samplePaymentRun samplePlatform (sampleArrived ++ sampleRepeated)) :=
    flows_append sampleArrived (by decide +kernel)
  exact ⟨terminal_intents_stay untouched_samplePlatform hrun hrun', by decide +kernel⟩

/-- It is not the case that terminal intents stay terminal, whatever the order of the steps, nor
that an intent with a posting never ends failed or in process: a confirmation that was overtaken
reopens its intent, and a bill that was refused has failed. -/
theorem terminal_intent_reopened :
    (¬ ∀ (config : BillConfig) (host : Host) (start : Db) (p q : Pool Desk PaymentTask),
      Untouched start → Flows config host KeepsApart ⟨.opening start, []⟩ p →
      Flows config host KeepsApart p q → KeepsTerminal p.shared.db q.shared.db) ∧
    ¬ ∀ (config : BillConfig) (host : Host) (start : Db) (q : Pool Desk PaymentTask),
      Untouched start → Flows config host KeepsApart ⟨.opening start, []⟩ q → q.threads = [] →
      ∀ x ∈ q.shared.db.paymentIntents.rows, ∀ t ∈ q.shared.db.ledger.transactions.rows, ∀ key,
        t.idempotencyKey = depositKey x.id ∨ t.idempotencyKey = intentKey x.id key →
        x.status ≠ .failed ∧ x.status ≠ .processing := by
  constructor
  · intro h
    have hrun : Flows sampleConfig sampleFullHost KeepsApart ⟨.opening samplePlatform, []⟩
        (samplePaymentRun samplePlatform sampleOvertaken) :=
      reaches_of_allAdmitted (by decide +kernel)
    have hrun' : Flows sampleConfig sampleFullHost KeepsApart
        (samplePaymentRun samplePlatform sampleOvertaken)
        (samplePaymentRun samplePlatform (sampleOvertaken ++ sampleSecondConfirming)) :=
      flows_append sampleOvertaken (by decide +kernel)
    have hreopened : ∃ x ∈ (samplePaymentRun samplePlatform
          sampleOvertaken).shared.db.paymentIntents.rows, isTerminal x.status = true ∧
        ∀ x' ∈ (samplePaymentRun samplePlatform
          (sampleOvertaken ++ sampleSecondConfirming)).shared.db.paymentIntents.rows,
          x'.id = x.id → x'.status ≠ x.status := by decide +kernel
    obtain ⟨x, hx, hterminal, hchanged⟩ := hreopened
    obtain ⟨x', hx', hid, hst⟩ :=
      h sampleConfig sampleFullHost samplePlatform _ _ untouched_samplePlatform hrun hrun' x hx hterminal
    exact hchanged x' hx' hid hst
  · intro h
    have hrun : Flows sampleConfig sampleFullHost KeepsApart ⟨.opening sampleBillers, []⟩
        (samplePaymentRun sampleBillers sampleDeclined) :=
      reaches_of_allAdmitted (by decide +kernel)
    have hfailed : ∃ x ∈ (samplePaymentRun sampleBillers
          sampleDeclined).shared.db.paymentIntents.rows,
        (∃ t ∈ (samplePaymentRun sampleBillers sampleDeclined).shared.db.ledger.transactions.rows,
          t.idempotencyKey = intentKey x.id "pay") ∧ x.status = .failed := by decide +kernel
    have hdone : (samplePaymentRun sampleBillers sampleDeclined).threads.isEmpty = true := by
      decide +kernel
    obtain ⟨x, hx, ⟨t, ht, hkey⟩, hst⟩ := hfailed
    exact (h sampleConfig sampleFullHost sampleBillers _ untouched_sampleBillers hrun
      (List.isEmpty_iff.mp hdone) x hx t ht "pay" (.inr hkey)).1 hst

end AjoCloud.Platform
