import AjoCloud.Lib.Tickets
import AjoCloud.Notifications.System

/-!
# Messages are sent once and accounted for

A provider is asked at most once under a dedupe key, whatever calls overlap: the row that has the key is
the permission to ask, and only one call can have inserted it.  What is recorded of a message agrees with
what the provider answered, and nobody is told that a message was sent that no provider took.
-/

namespace AjoCloud.Notifications

open Lib Devices ServiceError

variable {o : Told} {w w' : World} {t : Task} {t' : Option Task} {p q : Pool World Task}

/-! ## Asked once -/

/-- The permission to ask a provider is drawn by inserting the row, and used by asking. -/
def tickets : Tickets World Task String where
  held
    | .send input _ => some input.dedupeKey
    | _ => none
  drawn w key := ∃ n ∈ w.mail.notifications.rows, n.dedupeKey = some key
  used w := w.asked.map (·.input.dedupeKey)

/-- Nothing is held by a call that is at none of the steps that speak of a row. -/
theorem held_of_idle (h : t.idle = true) : tickets.held t = none := by
  cases t with
  | send input id => cases h
  | _ => rfl

/-- Every step handles its permission as it should. -/
theorem turn_of_happens (h : Happens o w t w' t') : tickets.Turn w t w' t' := by
  cases h with
  | elsewhere t same handles next =>
      refine .keeps (congrArg (List.map _) same.asked) fun k hk ↦ ?_
      obtain ⟨u, hu, hheld⟩ := Option.bind_eq_some_iff.mp hk
      rw [held_of_idle (next u hu)] at hheld
      cases hheld
  | answered t input known => exact .keeps rfl fun k hk ↦ by cases hk
  | created input stored =>
      have hrow := Table.insert_eq_some.mp stored
      refine .draws input.dedupeKey rfl rfl ?_ ⟨_, Table.mem_of_insert stored, rfl⟩
      rintro ⟨n, hn, hkey⟩
      exact hrow.1 n hn (.inr ⟨Option.isSome_of_eq_some hkey, hkey⟩)
  | accepted input id result answer taken => exact .spends input.dedupeKey rfl (List.map_append ..) rfl
  | refused input id => exact .spends input.dedupeKey rfl (List.map_append ..) rfl
  | sent input id result written => exact .keeps rfl fun k hk ↦ by cases hk
  | unrecorded input id result => exact .keeps rfl fun k hk ↦ by cases hk
  | failed input id written => exact .keeps rfl fun k hk ↦ by cases hk
  | entered input rendered stored => exact .keeps rfl fun k hk ↦ by cases hk
  | found userId mem unread => exact .keeps rfl fun k hk ↦ by cases hk
  | read t p which => exact .keeps rfl fun k hk ↦ by cases hk

/-- At the start nobody has a permission. -/
theorem sound_empty : tickets.Sound ⟨.empty, []⟩ := ⟨.nil, fun k hk ↦ by cases hk⟩

/-- No provider is asked twice under one key. -/
theorem asked_nodup (h : Runs ⟨.empty, []⟩ q) : (q.shared.asked.map (·.input.dedupeKey)).Nodup := by
  have hsound : tickets.Sound q := by
    refine Tickets.sound_of_reaches h sound_empty ?_ ?_ ?_
    · intro s t hstart
      cases t with
      | send input id => cases hstart
      | _ => rfl
    · exact fun o s t ↦ turn_of_happens (exec_happens o s t)
    · rintro o s t k ⟨n, hn, hkey⟩
      obtain ⟨n', hn', hsame⟩ := (exec_happens o s t).exists_frozen hn
      exact ⟨n', hn', (dedupeKey_of_frozen hsame).trans hkey⟩
  exact (List.nodup_append.mp hsound.nodup).2.1

/-! ## What is recorded -/

/-- What is recorded of a row agrees with what its provider answered. -/
inductive Recorded (w : World) (n : Notification) : Prop
  /-- An entry of the inbox, which no provider delivers. -/
  | entry (channel : n.channel = .inApp)
  /-- Not concluded. -/
  | unconcluded (status : n.status = .pending) (sentAt : n.sentAt = none)
      (attempts : ∀ d ∈ w.mail.deliveries.rows, d.notificationId ≠ n.id)
  | sent (a : Asked) (asked : a ∈ w.asked) (key : n.dedupeKey = some a.input.dedupeKey)
      (result : SendResult) (answer : a.answer = some result) (accepted : result.accepted = true)
      (d : NotificationDelivery) (attempt : d ∈ w.mail.deliveries.rows) (of : d.notificationId = n.id)
      (recorded : d.status = .sent ∧ d.provider = result.provider ∧
        d.providerReference = some result.providerReference)
      (status : n.status = .sent) (sentAt : n.sentAt = d.sentAt ∧ d.sentAt.isSome)
  | failed (d : NotificationDelivery) (attempt : d ∈ w.mail.deliveries.rows) (of : d.notificationId = n.id)
      (recorded : d.status = .failed ∧ d.providerReference = none)
      (status : n.status = .failed) (sentAt : n.sentAt = none)

/-- The row of a message that is being sent. -/
def HasRow (w : World) (input : NotificationInput) (id : Uuid) : Prop :=
  ∃ n ∈ w.mail.notifications.rows, n.id = id ∧ n.dedupeKey = some input.dedupeKey ∧ n.channel ≠ .inApp

/-- What a call knows of its message. -/
def Knows (w : World) : Task → Prop
  | .send input id | .recordFailed input id => HasRow w input id
  | .recordSent input id result => HasRow w input id ∧ result.accepted = true ∧
      ∃ a ∈ w.asked, a.input = input ∧ a.answer = some result
  | _ => True

/-- A message was sent as far as its key is concerned: some provider took one that has it, or it is in the
inbox. -/
def SentUnder (w : World) (key : String) : Prop :=
  (∃ a ∈ w.asked, a.input.dedupeKey = key ∧ a.accepted = true) ∨
    ∃ n ∈ w.mail.notifications.rows, n.channel = .inApp ∧ n.dedupeKey = some key

/-- The records agree with each other, and with what was told. -/
structure Accounted (w : World) : Prop where
  rows : ∀ n ∈ w.mail.notifications.rows, Recorded w n
  attempts : ∀ d ∈ w.mail.deliveries.rows, d.attemptNumber = 1 ∧
    ∃ n ∈ w.mail.notifications.rows, n.id = d.notificationId ∧ n.channel ≠ .inApp
  told : ∀ input reference, (input, .sent reference) ∈ w.told → SentUnder w input.dedupeKey

/-! ### What others leave of it -/

/-- What happens elsewhere: requests and attempts are only added, and no row is taken away. -/
structure Onward (w w' : World) : Prop where
  asked : ∀ a ∈ w.asked, a ∈ w'.asked
  deliveries : ∀ d ∈ w.mail.deliveries.rows, d ∈ w'.mail.deliveries.rows
  rows : ∀ n ∈ w.mail.notifications.rows, ∃ n' ∈ w'.mail.notifications.rows, frozen n' = frozen n

theorem onward_of_happens (h : Happens o w t w' t') : Onward w w' := by
  refine ⟨fun a ha ↦ ?_, fun d hd ↦ ?_, fun n hn ↦ h.exists_frozen hn⟩
  · cases h with
    | elsewhere t same handles next => exact same.asked ▸ ha
    | accepted input id result answer taken => exact List.mem_append_left _ ha
    | refused input id => exact List.mem_append_left _ ha
    | _ => exact ha
  · cases h with
    | elsewhere t same handles next => exact same.deliveries ▸ hd
    | sent input id result written =>
        exact (conclude_eq_ok written).2.1 ▸ List.mem_append_left _ hd
    | failed input id written =>
        exact (conclude_eq_ok written).2.1 ▸ List.mem_append_left _ hd
    | _ => exact hd

theorem HasRow.onward {input : NotificationInput} {id : Uuid} (h : HasRow w input id)
    (ho : Onward w w') : HasRow w' input id := by
  obtain ⟨n, hn, hid, hkey, hchannel⟩ := h
  obtain ⟨n', hn', hsame⟩ := ho.rows n hn
  exact ⟨n', hn', (id_of_frozen hsame).trans hid, (dedupeKey_of_frozen hsame).trans hkey, channel_of_frozen hsame ▸ hchannel⟩

theorem SentUnder.onward {key : String} (h : SentUnder w key) (ho : Onward w w') : SentUnder w' key := by
  rcases h with ⟨a, ha, hkey, htaken⟩ | ⟨n, hn, hchannel, hkey⟩
  · exact .inl ⟨a, ho.asked a ha, hkey, htaken⟩
  · obtain ⟨n', hn', hsame⟩ := ho.rows n hn
    exact .inr ⟨n', hn', (channel_of_frozen hsame).trans hchannel, (dedupeKey_of_frozen hsame).trans hkey⟩

theorem Knows.onward (h : Knows w t) (ho : Onward w w') : Knows w' t := by
  cases t with
  | send input id => exact HasRow.onward h ho
  | recordFailed input id => exact HasRow.onward h ho
  | recordSent input id result =>
      obtain ⟨hrow, haccepted, a, ha, hinput, hanswer⟩ := h
      exact ⟨hrow.onward ho, haccepted, a, ho.asked a ha, hinput, hanswer⟩
  | _ => exact h

/-- What is recorded of a row stays, as long as the row keeps its status and no attempt is added to it. -/
theorem Recorded.onward {n n' : Notification} (h : Recorded w n) (ho : Onward w w')
    (hsame : frozen n' = frozen n) (hstatus : n'.status = n.status) (hsent : n'.sentAt = n.sentAt)
    (hnew : ∀ d ∈ w'.mail.deliveries.rows, d ∉ w.mail.deliveries.rows → d.notificationId ≠ n.id) :
    Recorded w' n' := by
  cases h with
  | entry channel => exact .entry ((channel_of_frozen hsame).trans channel)
  | unconcluded status sentAt attempts =>
      refine .unconcluded (hstatus.trans status) (hsent.trans sentAt) fun d hd ↦ ?_
      rw [id_of_frozen hsame]
      by_cases hold : d ∈ w.mail.deliveries.rows
      · exact attempts d hold
      · exact hnew d hd hold
  | sent a asked key result answer accepted d attempt of recorded status sentAt =>
      exact .sent a (ho.asked a asked) ((dedupeKey_of_frozen hsame).trans key) result answer accepted d
        (ho.deliveries d attempt) (of.trans (id_of_frozen hsame).symm) recorded (hstatus.trans status)
        ⟨hsent.trans sentAt.1, sentAt.2⟩
  | failed d attempt of recorded status sentAt =>
      exact .failed d (ho.deliveries d attempt) (of.trans (id_of_frozen hsame).symm) recorded
        (hstatus.trans status) (hsent.trans sentAt)

/-! ### One step -/

/-- A row that is added leaves the rest as it was recorded. -/
theorem rows_of_insert {notifications : Table Notification} {r : Notification}
    (hi : ∀ n ∈ w.mail.notifications.rows, Recorded w n)
    (stored : w.mail.notifications.insert r = some notifications)
    (hr : Recorded (w.withNotifications notifications) r)
    (ho : Onward w (w.withNotifications notifications)) :
    ∀ n ∈ notifications.rows, Recorded (w.withNotifications notifications) n := by
  intro n hn
  rw [Table.rows_of_insert stored] at hn
  rcases List.mem_append.mp hn with hn | hn
  · exact (hi n hn).onward ho rfl rfl rfl fun d hd hnot ↦ absurd hd hnot
  · rw [List.mem_singleton.mp hn]
    exact hr

/-- Concluding a message records it anew, and leaves the others as they were recorded. -/
theorem rows_of_conclude {input : NotificationInput} {id : Uuid} {write : Notification → Notification}
    {d : NotificationDelivery} {mail : Mail} (hi : Accounted w) (hrow : HasRow w input id)
    (written : conclude id write d w.mail = .ok mail) (hd : d.notificationId = id ∧ d.attemptNumber = 1)
    (hw' : w'.mail = mail) (ho : Onward w w')
    (hnew : ∀ n ∈ w.mail.notifications.rows, n.id = id → n.dedupeKey = some input.dedupeKey →
      n.sentAt = none → Recorded w' (write n)) :
    ∀ n ∈ w'.mail.notifications.rows, Recorded w' n := by
  obtain ⟨hrows, hdeliveries, hfresh, -, -⟩ := conclude_eq_ok written
  obtain ⟨n₀, hn₀, hid₀, hkey₀, hchannel₀⟩ := hrow
  intro n' hn'
  rw [hw', hrows] at hn'
  obtain ⟨n, hn, rfl⟩ := List.mem_map.mp hn'
  by_cases hid : n.id = id
  · rw [if_pos hid]
    obtain rfl : n = n₀ := w.mail.notifications.eq_of_clash hn hn₀ (.inl (hid.trans hid₀.symm))
    refine hnew n hn hid hkey₀ ?_
    -- It was not concluded before: the attempt would have clashed with the one that is there.
    have hnone : ∀ x ∈ w.mail.deliveries.rows, x.notificationId ≠ n.id := by
      intro x hx hof
      refine hfresh x hx (.inr ⟨rfl, ?_⟩)
      show some (x.notificationId, x.attemptNumber) = some (d.notificationId, d.attemptNumber)
      rw [hof, hid, hd.1, hd.2, (hi.attempts x hx).1]
    cases hi.rows n hn with
    | entry channel => exact absurd channel hchannel₀
    | unconcluded status sentAt attempts => exact sentAt
    | sent a asked key result answer accepted x attempt of recorded status sentAt =>
        exact absurd of (hnone x attempt)
    | failed x attempt of recorded status sentAt => exact absurd of (hnone x attempt)
  · rw [if_neg hid]
    refine (hi.rows n hn).onward ho rfl rfl rfl fun x hx hnot ↦ ?_
    rw [hw', hdeliveries] at hx
    rcases List.mem_append.mp hx with hx | hx
    · exact absurd hx hnot
    · rw [List.mem_singleton.mp hx, hd.1]
      exact fun heq ↦ hid heq.symm

/-- The attempts after a message was concluded. -/
theorem attempts_of_conclude {input : NotificationInput} {id : Uuid}
    {write : Notification → Notification} {d : NotificationDelivery} {mail : Mail} (hi : Accounted w)
    (hrow : HasRow w input id) (written : conclude id write d w.mail = .ok mail)
    (hd : d.notificationId = id ∧ d.attemptNumber = 1) (hw' : w'.mail = mail) (ho : Onward w w') :
    ∀ x ∈ w'.mail.deliveries.rows, x.attemptNumber = 1 ∧
      ∃ n ∈ w'.mail.notifications.rows, n.id = x.notificationId ∧ n.channel ≠ .inApp := by
  intro x hx
  rw [hw', (conclude_eq_ok written).2.1] at hx
  rcases List.mem_append.mp hx with hx | hx
  · obtain ⟨hnumber, n, hn, hid, hchannel⟩ := hi.attempts x hx
    obtain ⟨n', hn', hsame⟩ := ho.rows n hn
    exact ⟨hnumber, n', hn', (id_of_frozen hsame).trans hid, channel_of_frozen hsame ▸ hchannel⟩
  · obtain ⟨n, hn, hid, -, hchannel⟩ := hrow.onward ho
    rw [List.mem_singleton.mp hx]
    exact ⟨hd.2, n, hn, hid.trans hd.1.symm, hchannel⟩

/-- What is recorded of the rows stays when neither they nor the attempts are written. -/
theorem Accounted.rows_onward (hi : Accounted w) (ho : Onward w w')
    (hn : w'.mail.notifications = w.mail.notifications) (hd : w'.mail.deliveries = w.mail.deliveries) :
    ∀ n ∈ w'.mail.notifications.rows, Recorded w' n := fun n hmem ↦
  (hi.rows n (hn ▸ hmem)).onward ho rfl rfl rfl fun _ hnew hold ↦ absurd (hd ▸ hnew) hold

/-- What was told stays true. -/
theorem Accounted.told_onward (hi : Accounted w) (ho : Onward w w') {input : NotificationInput}
    {reference : String} (h : (input, .sent reference) ∈ w.told) : SentUnder w' input.dedupeKey :=
  (hi.told input reference h).onward ho

/-- The attempts stay those of their rows. -/
theorem Accounted.attempts_onward (hi : Accounted w) (ho : Onward w w')
    (hd : w'.mail.deliveries = w.mail.deliveries) :
    ∀ x ∈ w'.mail.deliveries.rows, x.attemptNumber = 1 ∧
      ∃ n ∈ w'.mail.notifications.rows, n.id = x.notificationId ∧ n.channel ≠ .inApp := by
  intro x hx
  obtain ⟨hnumber, n, hn, hid, hchannel⟩ := hi.attempts x (hd ▸ hx)
  obtain ⟨n', hn', hsame⟩ := ho.rows n hn
  exact ⟨hnumber, n', hn', (id_of_frozen hsame).trans hid, channel_of_frozen hsame ▸ hchannel⟩

/-- A message that counts as sent was sent under its key. -/
theorem sentUnder_of_status (hi : Accounted w) {n : Notification} (hn : n ∈ w.mail.notifications.rows)
    {key : String} (hkey : n.dedupeKey = some key) (h : n.status = .sent ∨ n.status = .delivered) :
    SentUnder w key := by
  cases hi.rows n hn with
  | entry channel => exact .inr ⟨n, hn, channel, hkey⟩
  | unconcluded status sentAt attempts =>
      rw [status] at h
      rcases h with h | h <;> cases h
  | sent a asked key' result answer accepted d attempt of recorded status sentAt =>
      refine .inl ⟨a, asked, Option.some.inj (key'.symm.trans hkey), ?_⟩
      rw [Asked.accepted, answer]
      exact accepted
  | failed d attempt of recorded status sentAt =>
      rw [status] at h
      rcases h with h | h <;> cases h

/-- Every step keeps the accounts, and its call knows of its message what it has to. -/
theorem accounted_of_happens (h : Happens o w t w' t') (hi : Accounted w) (hk : Knows w t) :
    Accounted w' := by
  have ho := onward_of_happens h
  cases h with
  | elsewhere t same handles next =>
      exact ⟨hi.rows_onward ho same.notifications same.deliveries,
        hi.attempts_onward ho same.deliveries,
        fun input reference htold ↦ hi.told_onward ho (same.told ▸ htold)⟩
  | answered t input known =>
      refine ⟨hi.rows_onward ho rfl rfl, hi.attempts, fun input' reference htold ↦ ?_⟩
      rcases List.mem_append.mp htold with htold | htold
      · exact hi.told_onward ho htold
      · obtain ⟨rfl, houtcome⟩ := Prod.mk.inj (List.mem_singleton.mp htold)
        rcases known with ⟨reason, rfl⟩ | ⟨existing, hexisting, hkey, rfl⟩
        · cases houtcome
        · unfold deduplicated at houtcome
          split at houtcome
          · next hstatus => exact sentUnder_of_status hi hexisting hkey hstatus
          · cases houtcome
  | created input stored =>
      refine ⟨rows_of_insert hi.rows stored ?_ ho, hi.attempts_onward ho rfl,
        fun input' reference htold ↦ hi.told_onward ho htold⟩
      refine .unconcluded rfl rfl fun d hd hof ↦ ?_
      obtain ⟨-, n, hn, hid, -⟩ := hi.attempts d hd
      exact (Table.insert_eq_some.mp stored).1 n hn (.inl (hid.trans hof))
  | accepted input id result answer taken =>
      exact ⟨hi.rows_onward ho rfl rfl, hi.attempts, fun input' reference htold ↦ hi.told_onward ho htold⟩
  | refused input id =>
      exact ⟨hi.rows_onward ho rfl rfl, hi.attempts, fun input' reference htold ↦ hi.told_onward ho htold⟩
  | sent input id result written =>
      obtain ⟨hrow, haccepted, a, ha, rfl, hanswer⟩ := hk
      refine ⟨rows_of_conclude hi hrow written ⟨rfl, rfl⟩ rfl ho ?_,
        attempts_of_conclude hi hrow written ⟨rfl, rfl⟩ rfl ho, fun input' reference htold ↦ ?_⟩
      · intro n hn hid hkey hsent
        refine .sent a ha hkey result hanswer haccepted (sentDelivery o.ctx id result) ?_ hid.symm
          ⟨rfl, rfl, rfl⟩ rfl ⟨rfl, rfl⟩
        exact (conclude_eq_ok written).2.1 ▸ List.mem_append_right _ (List.mem_singleton_self _)
      · rcases List.mem_append.mp htold with htold | htold
        · exact hi.told_onward ho htold
        · obtain ⟨rfl, -⟩ := Prod.mk.inj (List.mem_singleton.mp htold)
          refine .inl ⟨a, ha, rfl, ?_⟩
          rw [Asked.accepted, hanswer]
          exact haccepted
  | unrecorded input id result => exact hi
  | failed input id written =>
      refine ⟨rows_of_conclude hi hk written ⟨rfl, rfl⟩ rfl ho ?_,
        attempts_of_conclude hi hk written ⟨rfl, rfl⟩ rfl ho, fun input' reference htold ↦ ?_⟩
      · intro n hn hid hkey hsent
        refine .failed (failedDelivery o.ctx id input.providerName) ?_ hid.symm ⟨rfl, rfl⟩ rfl hsent
        exact (conclude_eq_ok written).2.1 ▸ List.mem_append_right _ (List.mem_singleton_self _)
      · rcases List.mem_append.mp htold with htold | htold
        · exact hi.told_onward ho htold
        · cases (Prod.mk.inj (List.mem_singleton.mp htold)).2
  | entered input rendered stored =>
      exact ⟨rows_of_insert hi.rows stored (.entry rfl) ho, hi.attempts_onward ho rfl,
        fun input' reference htold ↦ hi.told_onward ho htold⟩
  | found userId mem unread => exact hi
  | read t p which =>
      refine ⟨fun n' hn' ↦ ?_, hi.attempts_onward ho rfl,
        fun input' reference htold ↦ hi.told_onward ho htold⟩
      obtain ⟨n, hn, rfl⟩ := List.mem_map.mp hn'
      split
      · exact (hi.rows n hn).onward ho rfl rfl rfl fun d hd hnot ↦ absurd hd hnot
      · exact (hi.rows n hn).onward ho rfl rfl rfl fun d hd hnot ↦ absurd hd hnot

/-- How the call goes on, it knows of its message what it has to. -/
theorem knows_of_happens (h : Happens o w t w' t') (hk : Knows w t) : ∀ u, t' = some u → Knows w' u := by
  have ho := onward_of_happens h
  intro u hu
  cases h with
  | elsewhere t same handles next =>
      have hidle := next u hu
      cases u with
      | send input id => cases hidle
      | recordSent input id result => cases hidle
      | recordFailed input id => cases hidle
      | _ => trivial
  | created input stored =>
      cases hu
      refine ⟨_, Table.mem_of_insert stored, rfl, rfl, ?_⟩
      show input.channel ≠ .inApp
      rcases input.outgoing with hchannel | hchannel
      · simp [hchannel]
      · simp [hchannel]
  | accepted input id result answer taken =>
      cases hu
      exact ⟨HasRow.onward hk ho, taken, _, List.mem_append_right _ (List.mem_singleton_self _), rfl, answer⟩
  | refused input id =>
      cases hu
      exact HasRow.onward hk ho
  | unrecorded input id result =>
      cases hu
      exact hk.1
  | entered input rendered stored =>
      cases hu
      trivial
  | found userId mem unread =>
      cases hu
      trivial
  | _ => cases hu

/-- In every run the records agree, and every call knows of its message what it has to. -/
theorem accounted (h : Runs ⟨.empty, []⟩ q) : Pool.Holds Accounted Knows q := by
  refine Pool.invariant_of_guarantees (S := Accounted) (T := Knows) h ?_ ?_ ?_
  · exact ⟨⟨fun _ hn ↦ (List.not_mem_nil hn).elim, fun _ hd ↦ (List.not_mem_nil hd).elim,
      fun _ _ htold ↦ (List.not_mem_nil htold).elim⟩, fun _ ht ↦ (List.not_mem_nil ht).elim⟩
  · intro s t _ harrives
    cases t with
    | send input id => cases harrives
    | recordSent input id result => cases harrives
    | recordFailed input id => cases harrives
    | _ => trivial
  · intro o s t hs ht _
    have hstep := exec_happens o s t
    exact ⟨accounted_of_happens hstep hs ht, knows_of_happens hstep ht,
      fun u hu ↦ hu.onward (onward_of_happens hstep)⟩

/-! ## The two results -/

/-- The attempts to deliver a message. -/
def attemptsOf (mail : Mail) (n : Notification) : List NotificationDelivery :=
  mail.deliveries.findMany fun d ↦ d.notificationId = n.id

/-- The only attempt to deliver a message. -/
theorem attemptsOf_eq_singleton (hi : Accounted w) {n : Notification} {d : NotificationDelivery}
    (hd : d ∈ w.mail.deliveries.rows) (hof : d.notificationId = n.id) :
    attemptsOf w.mail n = [d] := by
  have hmem : ∀ x, x ∈ attemptsOf w.mail n ↔ x ∈ [d] := by
    intro x
    rw [attemptsOf, Table.mem_findMany, List.mem_singleton, decide_eq_true_eq]
    constructor
    · rintro ⟨hx, hxof⟩
      refine w.mail.deliveries.eq_of_clash hx hd (.inr ⟨rfl, ?_⟩)
      show some (x.notificationId, x.attemptNumber) = some (d.notificationId, d.attemptNumber)
      rw [hxof, hof, (hi.attempts x hx).1, (hi.attempts d hd).1]
    · rintro rfl
      exact ⟨hd, hof⟩
  have hnodup : (attemptsOf w.mail n).Nodup := w.mail.deliveries.nodup.filter _
  exact ((List.perm_ext_iff_of_nodup hnodup (List.nodup_singleton d)).mpr hmem).eq_singleton

/-- **A message goes out at most once, and nobody is told otherwise.**  Whatever calls overlap, no provider
of mail or SMS is asked twice under one dedupe key; and a caller who is told that a message was sent can
rely on it: the one request under the key was accepted, or the key is that of an entry in the inbox. -/
theorem deliver_at_most_once (h : Runs ⟨.empty, []⟩ q) :
    (q.shared.asked.map (·.input.dedupeKey)).Nodup ∧
      ∀ input reference, (input, .sent reference) ∈ q.shared.told →
        (∃ a ∈ q.shared.asked, a.input.dedupeKey = input.dedupeKey ∧ a.accepted = true ∧
          ∀ b ∈ q.shared.asked, b.input.dedupeKey = input.dedupeKey → b = a) ∨
        ∃ n ∈ q.shared.mail.notifications.rows, n.channel = .inApp ∧ n.dedupeKey = some input.dedupeKey := by
  have hnodup := asked_nodup h
  refine ⟨hnodup, fun input reference htold ↦ ?_⟩
  refine ((accounted h).shared.told input reference htold).imp_left ?_
  rintro ⟨a, ha, hkey, haccepted⟩
  refine ⟨a, ha, hkey, haccepted, fun b hb hbkey ↦ ?_⟩
  exact List.inj_on_of_nodup_map hnodup hb ha (hbkey.trans hkey.symm)

/-- **What is recorded of a message is what became of it.**  Whatever calls overlap, a message by mail or SMS
is pending and has no attempt, or it has exactly one, and its status is that of the attempt; it is sent only
if a provider accepted it under its key, with the reference that the provider gave. -/
theorem deliveries_agree (h : Runs ⟨.empty, []⟩ q) {n : Notification}
    (hn : n ∈ q.shared.mail.notifications.rows) (hout : n.channel ≠ .inApp) :
    (n.status = .pending ∧ n.sentAt = none ∧ attemptsOf q.shared.mail n = []) ∨
      (∃ d, attemptsOf q.shared.mail n = [d] ∧ n.status = .failed ∧ d.status = .failed ∧
        n.sentAt = none) ∨
      ∃ d, attemptsOf q.shared.mail n = [d] ∧ n.status = .sent ∧ d.status = .sent ∧
        n.sentAt = d.sentAt ∧ ∃ a ∈ q.shared.asked, n.dedupeKey = some a.input.dedupeKey ∧
          ∃ result, a.answer = some result ∧ result.accepted = true ∧ d.provider = result.provider ∧
            d.providerReference = some result.providerReference := by
  have hi := (accounted h).shared
  cases hi.rows n hn with
  | entry channel => exact absurd channel hout
  | unconcluded status sentAt attempts =>
      refine .inl ⟨status, sentAt, List.filter_eq_nil_iff.mpr fun d hd ↦ ?_⟩
      simpa using attempts d hd
  | sent a asked key result answer accepted d attempt of recorded status sentAt =>
      refine .inr (.inr ⟨d, attemptsOf_eq_singleton hi attempt of, status, recorded.1, sentAt.1, a, asked,
        key, result, answer, accepted, recorded.2⟩)
  | failed d attempt of recorded status sentAt =>
      exact .inr (.inl ⟨d, attemptsOf_eq_singleton hi attempt of, status, recorded.1, sentAt⟩)

/-! ### Two calls with one key -/

section Sample

/-- A receipt. -/
def sampleInput : NotificationInput where
  userId := .ofNat 1
  destination := "ada@example.com"
  template := "password-reset"
  channel := .email
  templateVersion := 1
  storedPayload := []
  dedupeKey := "reset:1"
  providerName := "resend"
  outgoing := .inl rfl

/-- The provider takes what it is asked. -/
def sampleTold (n : Nat) : Told :=
  ⟨⟨0, fun i ↦ .ofNat (n + i)⟩, sampleClock, none, some ⟨"resend", "re_1", true⟩, fun _ ↦ .failed, false⟩

/-- The second call looks for the row while the first one is asking, and a third comes afterwards. -/
def sampleMoves : List (Move Task Told) :=
  [.spawn (.deliver sampleInput), .spawn (.deliver sampleInput), .run 0 (sampleTold 1),
    .run 0 (sampleTold 2), .run 0 (sampleTold 3), .run 1 (sampleTold 4), .run 1 (sampleTold 5),
    .run 0 (sampleTold 6), .run 0 (sampleTold 7), .spawn (.deliver sampleInput), .run 0 (sampleTold 8),
    .run 0 (sampleTold 9)]

/-- Where they end. -/
def sampleEnd : Pool World Task := sampleMoves.foldl (Pool.advance exec) ⟨.empty, []⟩

theorem runs_sampleEnd : Runs ⟨.empty, []⟩ sampleEnd := reaches_of_allAdmitted (by decide)

theorem deliver_at_most_once_sample :
    sampleEnd.shared.told.map (·.2) = [.failed, .sent "re_1",
      .sent "deduplicated:00000000-0000-0000-0000-000000000004"] ∧
    (sampleEnd.shared.asked.map (·.input.dedupeKey)).Nodup ∧
    ((∃ a ∈ sampleEnd.shared.asked, a.input.dedupeKey = "reset:1" ∧ a.accepted = true ∧
        ∀ b ∈ sampleEnd.shared.asked, b.input.dedupeKey = "reset:1" → b = a) ∨
      ∃ n ∈ sampleEnd.shared.mail.notifications.rows, n.channel = .inApp ∧
        n.dedupeKey = some "reset:1") := by
  refine ⟨by decide, (deliver_at_most_once runs_sampleEnd).1, ?_⟩
  exact (deliver_at_most_once runs_sampleEnd).2 sampleInput "re_1" (by decide)

theorem deliveries_agree_sample :
    ∃ n ∈ sampleEnd.shared.mail.notifications.rows, n.status = .sent ∧
      ∃ d, attemptsOf sampleEnd.shared.mail n = [d] ∧ d.providerReference = some "re_1" := by
  have hstored : ∃ n ∈ sampleEnd.shared.mail.notifications.rows, n.channel ≠ .inApp ∧
      n.status = .sent ∧ attemptsOf sampleEnd.shared.mail n ≠ [] ∧
        ∀ d ∈ attemptsOf sampleEnd.shared.mail n, d.providerReference = some "re_1" := by decide
  obtain ⟨n, hn, hout, hstatus, hsome, hreference⟩ := hstored
  refine ⟨n, hn, hstatus, ?_⟩
  rcases deliveries_agree runs_sampleEnd hn hout with
    ⟨-, -, hnil⟩ | ⟨d, hd, -⟩ | ⟨d, hd, -⟩
  · exact absurd hnil hsome
  · exact ⟨d, hd, hreference d (hd ▸ List.mem_singleton_self d)⟩
  · exact ⟨d, hd, hreference d (hd ▸ List.mem_singleton_self d)⟩

end Sample

end AjoCloud.Notifications
