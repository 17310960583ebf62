import AjoCloud.Ajo.Turns
import AjoCloud.Auth.TransactionPin
import AjoCloud.Platform.Debits
import AjoCloud.Platform.Payments
import AjoCloud.Platform.Solvency

/-!
# What the PIN authorises

Sending, withdrawing and confirming an intent have the PIN verified first, and open their transaction
afterwards; in between any other request may run.  A `Visit` is such a request, or one that is served
without a PIN, and keeps the users whose PIN it has had verified.
-/

namespace AjoCloud.Platform

open Lib Ledger Payments Bills

/-! ## Steps -/

/-- What a request does once the PIN was right. -/
inductive Guarded where
  /-- Nothing: the request only asked about the PIN. -/
  | nothing
  | send (dto : Wallets.SendToWalletDto) (idempotencyKey : String)
  | withdraw (dto : Wallets.WithdrawDto) (idempotencyKey : String)
  | settleFromWallet (intentId : Uuid) (idempotencyKey : String) (customerReference : Option String)
  | startExternal (intentId : Uuid) (method : PaymentMethod)
  | setPin (pin : String)

/-- A request of a member, or any other. -/
inductive MemberTask where
  /-- Any other request. -/
  | other (task : PaymentTask)
  /-- `send`, before it looks at the amount. -/
  | send (userId : Uuid) (dto : Wallets.SendToWalletDto) (pin idempotencyKey : String)
  /-- `withdraw`, before it looks at the amount. -/
  | withdraw (userId : Uuid) (dto : Wallets.WithdrawDto) (pin idempotencyKey : String)
  /-- `confirm`, before it reads the intent. -/
  | confirm (userId intentId : Uuid) (method : PaymentMethod) (pin idempotencyKey : String)
      (customerReference : Option String)
  /-- `setPin`, before it reads the row. -/
  | setPin (userId : Uuid) (pin : String) (currentPin : Option String)
  /-- `verifyPin`, before it reads the row. -/
  | verifyPin (userId : Uuid) (pin : String) (next : Guarded)
  /-- `verifyPin`, before Argon2id; the row was read at `readAt`. -/
  | comparePin (userId : Uuid) (existing : TransactionPin) (readAt : Timestamp) (pin : String)
      (next : Guarded)
  /-- The PIN was right. -/
  | authorised (userId : Uuid) (next : Guarded)
  /-- `setPin`, before it stores the digest. -/
  | storePin (userId : Uuid) (pin : String)

/-- A request with the users whose PIN it has had verified. -/
structure Visit where
  task : MemberTask
  verified : List Uuid

/-- What a step is told. -/
structure Inputs where
  signal : Signal
  /-- Argon2id, with the salt of this step. -/
  hash : String → String

/-- The request goes on, having verified what it had. -/
def Visit.goOn (v : Visit) (task : MemberTask) : Visit := ⟨task, v.verified⟩

/-- The step of another request. -/
def Visit.serve (v : Visit) (served : Desk × Option PaymentTask) : Desk × Option Visit :=
  (served.1, served.2.map fun task ↦ v.goOn (.other task))

/-- What follows the PIN, before its transaction. -/
def Guarded.toTask (o : Inputs) (userId : Uuid) : Guarded → Option PaymentTask
  | .nothing | .setPin _ => none
  | .send dto key => some (.other (.call (.send o.signal.told.ctx userId dto key)))
  | .withdraw dto key => some (.other (.call (.withdraw o.signal.told.ctx userId dto key)))
  | .settleFromWallet intentId key customerReference =>
      some (.other (.pay userId intentId key customerReference))
  | .startExternal intentId method => some (.startExternal userId intentId method)

section Steps

variable (config : BillConfig) (host : Webhooks.Host) (verify : String → String → Bool)

/-- The PIN is asked for, unless the request was refused before. -/
def Visit.askPin (v : Visit) (userId : Uuid) (pin : String) (next : Guarded) :
    Except ServiceError Unit → Option Visit
  | .ok _ => some (v.goOn (.verifyPin userId pin next))
  | .error _ => none

/-- One step of a request. -/
def act (o : Inputs) (s : Desk) (v : Visit) : Desk × Option Visit :=
  match v.task with
  | .other task => v.serve (perform config host o.signal s task)
  | .send userId dto pin key =>
      (s, v.askPin userId pin (.send dto key) (Wallets.assertPayableAmount dto.amountMinor))
  | .withdraw userId dto pin key =>
      (s, v.askPin userId pin (.withdraw dto key) (Wallets.assertPayableAmount dto.amountMinor))
  | .confirm userId intentId method pin key customerReference =>
      match s.db.paymentIntents.find? fun i ↦ i.id = intentId ∧ i.userId = userId with
      | none => (s, none)
      | some intent =>
          -- `o.signal.verified` is the answer of `verifyConfirmation`, which comes before the PIN.
          (s, if isPayable intent.status intent.expiresAt o.signal.told.ctx.now ∧
              method ∈ (targets config intent.targetType).methods ∧ o.signal.verified then
            some (v.goOn (.verifyPin userId pin (if settlesSynchronously method then
              .settleFromWallet intentId key customerReference else .startExternal intentId method)))
          else none)
  | .setPin userId pin currentPin =>
      match Auth.assertUsablePin pin, Auth.pinOf s.db userId, truthy currentPin with
      | .error _, _, _ => (s, none)
      | .ok _, none, _ => (s, some (v.goOn (.storePin userId pin)))
      | .ok _, some _, none => (s, none)
      | .ok _, some _, some current => (s, some (v.goOn (.verifyPin userId current (.setPin pin))))
  | .verifyPin userId pin next =>
      match Auth.readPin o.signal.told.ctx.now s.db userId with
      | .error _ => (s, none)
      | .ok existing =>
          (s, some (v.goOn (.comparePin userId existing o.signal.told.ctx.now pin next)))
  | .comparePin userId existing readAt pin next =>
      match Auth.concludePin verify readAt s.db userId existing pin with
      | (db, .error _) => ({ s with db := db }, none)
      | (db, .ok _) => ({ s with db := db }, some ⟨.authorised userId next, userId :: v.verified⟩)
  | .authorised userId (.setPin pin) => (s, some (v.goOn (.storePin userId pin)))
  | .authorised userId next =>
      match next.toTask o userId with
      | none => (s, none)
      | some task => v.serve (perform config host o.signal s task)
  | .storePin userId pin =>
      match Auth.storePin o.signal.told.ctx s.db userId (o.hash pin) with
      | .error _ => (s, none)
      | .ok db => ({ s with db := db }, none)

end Steps

/-! ## Requests -/

/-- The calls that no route makes on its own: they follow a PIN, or the route was removed. -/
def isSpend : Call → Bool
  | .send .. | .withdraw .. | .settleFromWallet .. | .ajo (.settleIntent ..) | .reserveBill .. => true
  | _ => false

/-- No step of the request is one that has to follow a PIN. -/
def isQuiet : PaymentTask → Bool
  | .other (.call call) => !isSpend call
  | .other (.pay ..) | .other (.create ..) | .confirm .. => false
  | _ => true

/-- How requests begin: with nothing verified, and at the beginning. -/
def Visit.isRequest (v : Visit) : Bool :=
  v.verified.isEmpty && match v.task with
    | .other task => isQuiet task
    | .send .. | .withdraw .. | .confirm .. | .setPin .. | .verifyPin _ _ .nothing => true
    | _ => false

/-- The call that the step of a request makes. -/
def Visit.toCall (o : Inputs) (v : Visit) : Option Call :=
  match v.task with
  | .other task => task.toCall o.signal
  | .authorised userId next => (next.toTask o userId).bind (·.toCall o.signal)
  | _ => none

/-- The call pays a new contribution from the wallet, directly. -/
def Contributes (db : Db) (wallet : Wallet) : Call → Prop
  | .ajo (.payContribution _ userId _ scheduleId dto) =>
      ContributesFrom db userId scheduleId dto.idempotencyKey wallet
  | _ => False

/-- The step pays no new contribution directly. -/
def NoneContributed (o : Inputs) (s : Desk) (v : Visit) : Prop :=
  ∀ call ∈ v.toCall o, ∀ w ∈ s.db.wallets.rows, ¬ Contributes s.db w call

instance (db : Db) (wallet : Wallet) : (call : Call) → Decidable (Contributes db wallet call)
  | .ajo (.payContribution _ userId _ scheduleId dto) =>
      inferInstanceAs (Decidable (ContributesFrom db userId scheduleId dto.idempotencyKey wallet))
  | .ajo (.settleIntent ..) | .settleFromWallet .. | .ajo (.createIntent ..)
  | .ajo (.executePayout ..) | .ajo (.createSwap ..) | .ajo (.approveSwap ..)
  | .ajo (.rejectSwap ..) | .ajo (.assignStatus ..) | .send .. | .withdraw .. | .createIntent ..
  | .startExternal .. | .settleDeposit .. | .failIntent .. | .reserveBill ..
  | .applyProviderResult .. | .markUncertain .. | .cancelSubscription .. | .award ..
  | .elsewhere _ => inferInstanceAs (Decidable False)

instance (o : Inputs) (s : Desk) (v : Visit) : Decidable (NoneContributed o s v) :=
  inferInstanceAs (Decidable (∀ call ∈ v.toCall o, ∀ w ∈ s.db.wallets.rows,
    ¬ Contributes s.db w call))

variable {config : BillConfig} {host : Webhooks.Host} {verify : String → String → Bool} {o : Inputs}
  {s : Desk} {v v' : Visit} {call : Call}

theorem isSpend_of_quiet {o : Signal} {task : PaymentTask} (h : isQuiet task = true)
    (hcall : task.toCall o = some call) : isSpend call = false := by
  cases task with
  | other task =>
      cases task with
      | call call =>
          cases hcall
          exact Bool.not_eq_true' _ ▸ h
      | pay => cases h
      | create => cases h
      | complete => cases hcall
      | reconcile => cases hcall
      | await paymentId userId asks =>
          simp only [PaymentTask.toCall, Task.toCall] at hcall
          split at hcall
          · cases hcall
            rfl
          · cases hcall
            rfl
      | inquire paymentId actorUserId =>
          obtain ⟨_, -, rfl⟩ := Option.map_eq_some_iff.mp hcall
          rfl
  | deposit delivery intentId =>
      simp only [PaymentTask.toCall, Option.ite_none_right_eq_some] at hcall
      obtain ⟨-, hcall⟩ := hcall
      cases hcall
      rfl
  | markFailed delivery intentId =>
      simp only [PaymentTask.toCall, Option.ite_none_right_eq_some] at hcall
      obtain ⟨-, hcall⟩ := hcall
      cases hcall
      rfl
  | _ => cases hcall

/-- What follows the step of a bill needs no PIN. -/
theorem quiet_exec {o : Told} {db : Db} {task task' : Task}
    (h : (exec config o db task).2 = some task') : isQuiet (.other task') = true := by
  cases task with
  | call call => cases h
  | pay userId intentId key customerReference =>
      rw [exec] at h
      split at h
      · cases h
      · split at h
        · cases h
        · obtain ⟨-, h⟩ := Option.ite_none_right_eq_some.mp h
          cases h
          rfl
  | complete userId intentId customerReference =>
      rw [exec] at h
      split at h
      · cases h
      · obtain ⟨-, h⟩ := Option.ite_none_right_eq_some.mp h
        cases h
        rfl
  | create validation userId key hash dto =>
      rw [exec] at h
      split at h
      · cases h
      · obtain ⟨-, h⟩ := Option.ite_none_right_eq_some.mp h
        cases h
        rfl
  | await => cases h
  | reconcile actorUserId paymentId =>
      rw [exec] at h
      split at h
      · cases h
      · obtain ⟨-, h⟩ := Option.ite_none_right_eq_some.mp h
        cases h
        rfl
  | inquire paymentId actorUserId =>
      rw [exec] at h
      split at h
      · cases h
      · cases h

/-- What follows the step of a request needs no PIN, unless the step confirms an intent. -/
theorem quiet_perform {o : Signal} {task task' : PaymentTask}
    (hconfirm : ∀ userId intentId method key reference,
      task ≠ .confirm userId intentId method key reference)
    (h : (perform config host o s task).2 = some task') : isQuiet task' = true := by
  cases task with
  | other task =>
      obtain ⟨task'', hexec, rfl⟩ := Option.map_eq_some_iff.mp h
      exact quiet_exec hexec
  | confirm userId intentId method key reference => exact absurd rfl (hconfirm _ _ _ _ _)
  | startExternal userId intentId method =>
      rw [perform] at h
      split at h
      · cases h
      · cases h
        rfl
  | charge userId intent method =>
      rw [perform] at h
      split at h
      · cases h
      · split at h
        · cases h
        · cases h
          rfl
  | markProcessing intentId method reference =>
      rw [perform] at h
      split at h
      · cases h
      · cases h
  | record delivery =>
      rw [perform] at h
      split at h
      · cases h
      · cases h
      · cases h
        rfl
  | store delivery stale =>
      simp only [perform] at h
      split at h
      · cases h
      · split at h
        · cases h
        · cases h
          rfl
  | audit delivery stale =>
      rw [perform] at h
      split at h
      · cases h
      · split at h
        · cases h
        · cases h
          unfold applied
          split
          · split
            · rfl
            · rfl
          · rfl
  | settleSuccessful delivery reference =>
      rw [perform] at h
      split at h
      · cases h
        rfl
      · cases h
        rfl
      · cases h
        split
        · rfl
        · rfl
  | deposit delivery intentId =>
      rw [perform] at h
      split at h
      · cases h
        rfl
      · cases h
        rfl
      · cases h
        rfl
  | settleFailed delivery reference =>
      rw [perform] at h
      split at h
      · cases h
        rfl
      · cases h
        rfl
      · cases h
        split
        · rfl
        · rfl
  | markFailed delivery intentId =>
      rw [perform] at h
      split at h
      · cases h
        rfl
      · cases h
        rfl
  | close delivery outcome =>
      rw [perform] at h
      unfold close at h
      split at h
      · cases h
      · split at h
        · cases h
          rfl
        · cases h
      · split at h
        · cases h
        · cases h

/-! ## The right to spend -/

/-- Whatever the request may still spend, the PIN of the user was verified for; and the PIN that is being
compared is the user's own, and was not locked. -/
def Rightful (v : Visit) : Prop :=
  match v.task with
  | .other task => isQuiet task = true
  | .comparePin userId existing readAt _ _ =>
      existing.userId = userId ∧ Auth.isPinLocked existing.lockedUntil readAt = false
  | .authorised userId _ => userId ∈ v.verified
  | _ => True

theorem rightful_of_isRequest (h : v.isRequest = true) : Rightful v := by
  rcases v with ⟨task, verified⟩
  cases task with
  | other task =>
      simp only [Visit.isRequest, Bool.and_eq_true] at h
      exact h.2
  | authorised userId next => simp [Visit.isRequest] at h
  | comparePin userId existing readAt pin next => simp [Visit.isRequest] at h
  | _ => trivial

/-- How a request goes on. -/
inductive Follows (verify : String → String → Bool) (v v' : Visit) : Prop
  | /-- Having verified what it had. -/
    on (same : v'.verified = v.verified) (right : Rightful v')
  | /-- The PIN was compared, and right. -/
    compared (userId : Uuid) (existing : TransactionPin) (readAt : Timestamp) (pin : String)
      (next : Guarded) (asked : v.task = .comparePin userId existing readAt pin next)
      (right : verify existing.pinHash pin = true)
      (after : v' = ⟨.authorised userId next, userId :: v.verified⟩)

theorem follows_serve {o : Signal} {task : PaymentTask}
    (hconfirm : ∀ userId intentId method key reference,
      task ≠ .confirm userId intentId method key reference)
    (h : (v.serve (perform config host o s task)).2 = some v') : Follows verify v v' := by
  obtain ⟨task', hperform, rfl⟩ := Option.map_eq_some_iff.mp h
  exact .on rfl (quiet_perform hconfirm hperform)

theorem follows_askPin {userId : Uuid} {pin : String} {next : Guarded}
    {checked : Except ServiceError Unit} (h : v.askPin userId pin next checked = some v') :
    Follows verify v v' := by
  rcases checked with e | u
  · cases h
  · cases h
    exact .on rfl trivial

theorem act_follows (h : Rightful v) (hact : (act config host verify o s v).2 = some v') :
    Follows verify v v' := by
  rcases v with ⟨task, verified⟩
  cases task with
  | other task =>
      refine follows_serve (fun _ _ _ _ _ heq ↦ ?_) hact
      subst heq
      cases h
  | send userId dto pin key => exact follows_askPin hact
  | withdraw userId dto pin key => exact follows_askPin hact
  | confirm userId intentId method pin key reference =>
      simp only [act] at hact
      split at hact
      · cases hact
      · obtain ⟨-, hact⟩ := Option.ite_none_right_eq_some.mp hact
        cases hact
        exact .on rfl trivial
  | setPin userId pin currentPin =>
      simp only [act] at hact
      split at hact
      · cases hact
      · cases hact
        exact .on rfl trivial
      · cases hact
      · cases hact
        exact .on rfl trivial
  | verifyPin userId pin next =>
      simp only [act] at hact
      split at hact
      · cases hact
      · next existing hread =>
          cases hact
          exact .on rfl (Auth.readPin_eq_ok hread).2
  | comparePin userId existing readAt pin next =>
      simp only [act] at hact
      split at hact
      · cases hact
      · next db u hconclude =>
          cases hact
          exact .compared userId existing readAt pin next rfl
            (Auth.verify_of_concludePin (congrArg Prod.snd hconclude)) rfl
  | authorised userId next =>
      cases next with
      | nothing => cases hact
      | setPin pin =>
          cases hact
          exact .on rfl trivial
      | _ =>
          refine follows_serve ?_ hact
          intro _ _ _ _ _ heq
          cases heq
  | storePin userId pin =>
      simp only [act] at hact
      split at hact
      · cases hact
      · cases hact

theorem Follows.rightful (h : Follows verify v v') : Rightful v' := by
  cases h with
  | on _ right => exact right
  | compared userId _ _ _ _ _ _ after =>
      rw [after]
      exact List.mem_cons_self

theorem Follows.verified_cases (h : Follows verify v v') (hright : Rightful v) {userId : Uuid}
    (hverified : userId ∈ v'.verified) :
    userId ∈ v.verified ∨ ∃ existing readAt pin next,
      v.task = .comparePin userId existing readAt pin next ∧ existing.userId = userId ∧
        Auth.isPinLocked existing.lockedUntil readAt = false ∧
        verify existing.pinHash pin = true := by
  cases h with
  | on same _ => exact .inl (same ▸ hverified)
  | compared user existing readAt pin next asked right after =>
      rw [after] at hverified
      rcases List.mem_cons.mp hverified with rfl | hverified
      · rw [Rightful, asked] at hright
        exact .inr ⟨existing, readAt, pin, next, asked, hright.1, hright.2, right⟩
      · exact .inl hverified

/-! ## What a step posts -/

/-- A step makes its call, or leaves the ledger. -/
theorem act_posts (o : Inputs) (s : Desk) (v : Visit) :
    (act config host verify o s v).1.db.ledger = s.db.ledger ∨
      ∃ call, v.toCall o = some call ∧ (act config host verify o s v).1.db = step config s.db call := by
  have hserve : ∀ task, (v.serve (perform config host o.signal s task)).1.db.ledger = s.db.ledger ∨
      ∃ call, task.toCall o.signal = some call ∧
        (v.serve (perform config host o.signal s task)).1.db = step config s.db call := by
    intro task
    have hwrote : Wrote config o.signal task s.db (perform config host o.signal s task).1.db :=
      perform_wrote o.signal s task
    cases hwrote with
    | events ledger _ => exact .inl ledger
    | call call made after => exact .inr ⟨call, made, after⟩
    | charge _ _ _ _ ledger _ _ => exact .inl ledger
  rcases v with ⟨task, verified⟩
  cases task with
  | other task => exact hserve task
  | send userId dto pin key => exact .inl rfl
  | withdraw userId dto pin key => exact .inl rfl
  | confirm userId intentId method pin key reference =>
      simp only [act]
      split
      · exact .inl rfl
      · exact .inl rfl
  | setPin userId pin currentPin =>
      simp only [act]
      split
      · exact .inl rfl
      · exact .inl rfl
      · exact .inl rfl
      · exact .inl rfl
  | verifyPin userId pin next =>
      simp only [act]
      split
      · exact .inl rfl
      · exact .inl rfl
  | comparePin userId existing readAt pin next =>
      have hpins := Auth.concludePin_pinsOnly verify readAt s.db userId existing pin
      simp only [act]
      split
      · next db e hconclude =>
          rw [hconclude] at hpins
          exact .inl hpins.ledger
      · next db u hconclude =>
          rw [hconclude] at hpins
          exact .inl hpins.ledger
  | authorised userId next =>
      cases next with
      | nothing => exact .inl rfl
      | setPin pin => exact .inl rfl
      | send dto key => exact hserve _
      | withdraw dto key => exact hserve _
      | settleFromWallet intentId key reference => exact hserve _
      | startExternal intentId method => exact hserve _
  | storePin userId pin =>
      simp only [act]
      split
      · exact .inl rfl
      · next db hstore => exact .inl (Auth.storePin_pinsOnly hstore).ledger

/-- The user on whose money a rightful step goes out had the PIN verified, unless the step pays a new
contribution directly. -/
theorem verified_of_takesFrom (h : Rightful v) (hnone : NoneContributed o s v)
    (hcall : v.toCall o = some call) {userId : Uuid} {w : Wallet}
    (htakes : TakesFrom s.db call userId w.id) : userId ∈ v.verified := by
  have hcontributes := hnone call hcall
  rcases v with ⟨task, verified⟩
  cases task with
  | other task =>
      have hspend := isSpend_of_quiet h hcall
      generalize hid : w.id = walletId at htakes
      cases htakes with
      | sent => cases hspend
      | withdrew => cases hspend
      | reserved => cases hspend
      | contributed wallet mem contributes => exact absurd contributes (hcontributes wallet mem)
      | confirmed intent asked =>
          cases asked with
          | payment => cases hspend
          | contribution _ => cases hspend
  | authorised user next =>
      have huser : userId = user := by
        cases next with
        | nothing => cases hcall
        | setPin pin => cases hcall
        | startExternal intentId method => cases hcall
        | send dto key =>
            cases hcall
            generalize w.id = walletId at htakes
            cases htakes with
            | sent => rfl
            | confirmed intent asked => cases asked
        | withdraw dto key =>
            cases hcall
            generalize w.id = walletId at htakes
            cases htakes with
            | withdrew => rfl
            | confirmed intent asked => cases asked
        | settleFromWallet intentId key reference =>
            cases hcall
            generalize w.id = walletId at htakes
            cases htakes with
            | confirmed intent asked =>
                cases asked
                rfl
      exact huser ▸ h
  | _ => cases hcall

/-- What the step of a request posts takes money out of the wallet of the member it was posted for only
after the PIN of that member was verified by the request. -/
def PinGiven (config : BillConfig) (host : Webhooks.Host) (verify : String → String → Bool)
    (p : Pool Desk Visit) (m : Move Visit Inputs) : Prop :=
  ∀ i o v, m = .run i o → p.threads[i]? = some v →
    ∀ t ∈ (act config host verify o p.shared v).1.db.ledger.transactions.rows,
      t ∉ p.shared.db.ledger.transactions.rows →
      ∀ w ∈ p.shared.db.wallets.rows, t.initiatedByUserId = some w.userId →
        TakesOut (act config host verify o p.shared v).1.db.ledger t w.id → w.userId ∈ v.verified

/-- Whoever counts as verified after a step did so before, or the step compared the PIN with the user's
own, which was not locked, and found it right. -/
def PinRight (config : BillConfig) (host : Webhooks.Host) (verify : String → String → Bool)
    (p : Pool Desk Visit) (m : Move Visit Inputs) : Prop :=
  ∀ i o v v', m = .run i o → p.threads[i]? = some v →
    (act config host verify o p.shared v).2 = some v' → ∀ userId ∈ v'.verified,
      userId ∈ v.verified ∨ ∃ existing readAt pin next,
        v.task = .comparePin userId existing readAt pin next ∧ existing.userId = userId ∧
          Auth.isPinLocked existing.lockedUntil readAt = false ∧
          verify existing.pinHash pin = true

theorem pinRight_of_rightful {p : Pool Desk Visit} (m : Move Visit Inputs)
    (hp : ∀ v ∈ p.threads, Rightful v) : PinRight config host verify p m := by
  rintro i o v v' rfl hi hact userId hverified
  have hright := hp v (List.mem_of_getElem? hi)
  exact (act_follows hright hact).verified_cases hright hverified

theorem pinGiven_of_rightful {p : Pool Desk Visit} {m : Move Visit Inputs}
    (hp : ∀ v ∈ p.threads, Rightful v)
    (hm : Pool.Admitted (fun _ v ↦ v.isRequest = true) NoneContributed p m) :
    PinGiven config host verify p m := by
  rintro i o v rfl hi t ht hnew w hw huser htakes
  have hright := hp v (List.mem_of_getElem? hi)
  have hnone : NoneContributed o p.shared v := hm v hi
  have hposts : (act config host verify o p.shared v).1.db.ledger = p.shared.db.ledger ∨ _ :=
    act_posts o p.shared v
  rcases hposts with hledger | ⟨call, hcall, hstep⟩
  · rw [hledger] at ht
    exact absurd ht hnew
  · rw [hstep] at ht htakes
    obtain ⟨userId, hinitiated, hfrom⟩ := takesFrom_of_takesOut ⟨ht, hnew⟩ htakes
    rw [huser] at hinitiated
    cases hinitiated
    exact verified_of_takesFrom hright hnone hcall hfrom

/-- Every request that is under way is rightful. -/
theorem rightful_of_reaches {p q : Pool Desk Visit} {takes : Inputs → Desk → Visit → Prop}
    (hrun : Reaches (Pool.advance (act config host verify))
      (Pool.Admitted (fun _ v ↦ v.isRequest = true) takes) p q)
    (hp : ∀ v ∈ p.threads, Rightful v) : ∀ v ∈ q.threads, Rightful v := by
  have hholds : Pool.Holds (fun _ ↦ True) (fun _ v ↦ Rightful v) q := by
    refine Pool.invariant_of_guarantees hrun ⟨trivial, hp⟩ (fun _ v _ h ↦ rightful_of_isRequest h) ?_
    intro o s v _ hright _
    exact ⟨trivial, fun v' hv' ↦ (act_follows hright hv').rightful, fun u hu ↦ hu⟩
  exact hholds.threads

/-- In every run in which no new contribution is paid directly, everything that is posted for a member
and takes money out of the member's own wallet is posted by a request that had verified the member's
PIN before. -/
theorem spend_authorised {start : Desk} {history : List (Pool Desk Visit × Move Visit Inputs)}
    {q : Pool Desk Visit}
    (hrun : Traced (Pool.advance (act config host verify))
      (Pool.Admitted (fun _ v ↦ v.isRequest = true) NoneContributed) ⟨start, []⟩ history q) :
    ∀ x ∈ history, PinGiven config host verify x.1 x.2 ∧ PinRight config host verify x.1 x.2 := by
  induction hrun with
  | start =>
      intro x hx
      cases hx
  | call run m hm ih =>
      intro x hx
      rcases List.mem_append.mp hx with hx | hx
      · exact ih x hx
      · rw [List.mem_singleton.mp hx]
        have hright := rightful_of_reaches run.reaches fun v hv ↦ by cases hv
        exact ⟨pinGiven_of_rightful hright hm, pinRight_of_rightful m hright⟩

section Sample

/-- A digest that shows the PIN. -/
def sampleHash (pin : String) : String := "$argon2id$" ++ pin

/-- The PIN is right when the digest shows it. -/
def sampleVerify (pinHash pin : String) : Bool := pinHash = sampleHash pin

/-- What the `n`-th step is told; the provider's answers are not asked for. -/
def sampleInputs (n : Nat) : Inputs where
  signal := ⟨⟨⟨1000, fun k ↦ .ofNat (1000 * n + k)⟩, none⟩, true, sampleProvider, none⟩
  hash := sampleHash

/-- The sample group, before any request. -/
def sampleMembers : Pool Desk Visit := ⟨⟨Ajo.sampleGroup, [], []⟩, []⟩

/-- A request comes in and takes `n` steps, from the `k`-th on. -/
def sampleVisit (task : MemberTask) (k n : Nat) : List (Move Visit Inputs) :=
  .spawn ⟨task, []⟩ :: (List.range n).map fun j ↦ .run 0 (sampleInputs (k + j))

/-- The first member sets a PIN, opens an intent for the first round, and confirms it with the PIN. -/
def sampleConfirmed : List (Move Visit Inputs) :=
  sampleVisit (.setPin (.ofNat 1) "1357" none) 1 2 ++
    sampleVisit (.other (.other (.call (.createIntent (sampleCtx 3) .ajoContribution (.ofNat 1)
      ⟨some (Ajo.sampleContribution 1 1).id, some 100⟩ "create-key")))) 3 1 ++
    sampleVisit (.confirm (.ofNat 1) (.ofNat 3000) .wallet "1357" "confirm-key" none) 4 4

/-- The first member pays for the first round directly. -/
def sampleDirect : Visit :=
  ⟨.other (.other (.call (.ajo (.payContribution (sampleCtx 1) (.ofNat 1) (.ofNat 30)
    (Ajo.sampleContribution 1 1).id ⟨100, "pay"⟩)))), []⟩

/-- Where the moves lead from the sample group. -/
def sampleVisited (moves : List (Move Visit Inputs)) : Pool Desk Visit :=
  moves.foldl (Pool.advance (act sampleConfig sampleFullHost sampleVerify)) sampleMembers

end Sample

/-- The first member's confirmation takes the money, after the PIN. -/
theorem spend_authorised_sample :
    (sampleVisited sampleConfirmed).shared.db.contributions.rows.length = 1 ∧ ∃ history,
      Traced (Pool.advance (act sampleConfig sampleFullHost sampleVerify))
        (Pool.Admitted (fun _ v ↦ v.isRequest = true) NoneContributed) sampleMembers history
        (sampleVisited sampleConfirmed) ∧
      ∀ x ∈ history, PinGiven sampleConfig sampleFullHost sampleVerify x.1 x.2 ∧
        PinRight sampleConfig sampleFullHost sampleVerify x.1 x.2 := by
  have hrun : Reaches (Pool.advance (act sampleConfig sampleFullHost sampleVerify))
      (Pool.Admitted (fun _ v ↦ v.isRequest = true) NoneContributed) sampleMembers
      (sampleVisited sampleConfirmed) := reaches_of_allAdmitted (by decide +kernel)
  obtain ⟨history, htraced⟩ := hrun.exists_traced
  exact ⟨by decide +kernel, history, htraced, spend_authorised htraced⟩

/-- A contribution that is paid directly takes the member's money without the PIN. -/
theorem spend_unauthorised :
    ¬ ∀ config host verify start history q,
      Traced (Pool.advance (act config host verify))
        (Pool.Admitted (fun _ v ↦ v.isRequest = true) fun _ _ _ ↦ True) ⟨start, []⟩ history q →
      ∀ x ∈ history, PinGiven config host verify x.1 x.2 := by
  intro h
  have harrived : Traced (Pool.advance (act sampleConfig sampleFullHost sampleVerify))
      (Pool.Admitted (fun _ v ↦ v.isRequest = true) fun _ _ _ ↦ True) sampleMembers
      [(sampleMembers, .spawn sampleDirect)] ⟨sampleMembers.shared, [sampleDirect]⟩ :=
    .call .start (Move.spawn sampleDirect) (by decide)
  have hgiven := h sampleConfig sampleFullHost sampleVerify sampleMembers.shared _ _
    (harrived.call (.run 0 (sampleInputs 1)) fun _ _ ↦ trivial)
    (⟨sampleMembers.shared, [sampleDirect]⟩, .run 0 (sampleInputs 1)) (by simp)
  have htaken : ∃ t ∈ (act sampleConfig sampleFullHost sampleVerify (sampleInputs 1)
        sampleMembers.shared sampleDirect).1.db.ledger.transactions.rows,
      t ∉ sampleMembers.shared.db.ledger.transactions.rows ∧
      ∃ w ∈ sampleMembers.shared.db.wallets.rows, t.initiatedByUserId = some w.userId ∧
        TakesOut (act sampleConfig sampleFullHost sampleVerify (sampleInputs 1)
          sampleMembers.shared sampleDirect).1.db.ledger t w.id := by
    decide +kernel
  obtain ⟨t, ht, hnew, w, hw, huser, htakes⟩ := htaken
  cases hgiven 0 (sampleInputs 1) sampleDirect rfl rfl t ht hnew w hw huser htakes

end AjoCloud.Platform
