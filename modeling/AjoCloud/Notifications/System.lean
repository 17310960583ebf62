import AjoCloud.Lib.Threads
import AjoCloud.Notifications.Preferences
import AjoCloud.Notifications.Push

/-!
# The notification service, step by step

`TransactionalNotificationService`, `NotificationFeedService`, `DevicesService` and the update of
preferences as threads over the same tables.  Each statement and each call of a provider is a step, and
other calls may run in between; only transactions are one step.
-/

namespace AjoCloud.Notifications

open Lib Devices ServiceError

/-! ## What is asked for -/

/-- What `sendEmail` and `sendSms` hand to `deliver`, with the message rendered. -/
structure NotificationInput where
  userId : Uuid
  destination : String
  template : String
  channel : NotificationChannel
  templateVersion : Nat
  storedPayload : List (String × String)
  dedupeKey : String
  providerName : String
  /-- There is no other caller. -/
  outgoing : channel = .email ∨ channel = .sms
deriving DecidableEq

/-- What `notify` is given. -/
structure NotifyInput where
  userId : Uuid
  template : String
  vars : Variables
  storedPayload : List (String × String)
  dedupeKey : String
deriving DecidableEq

/-- What a provider of mail or SMS answers. -/
structure SendResult where
  provider : String
  providerReference : String
  accepted : Bool
deriving DecidableEq

/-- `NotificationDeliveryOutcome`. -/
inductive NotificationDeliveryOutcome where
  | sent (providerReference : String)
  | failed
  | suppressed (reason : SuppressionReason)
deriving DecidableEq

/-! ## The state -/

/-- A request to a provider of mail or SMS, with what came of it; nothing when it threw. -/
structure Asked where
  input : NotificationInput
  answer : Option SendResult
deriving DecidableEq

/-- The provider took the message. -/
def Asked.accepted (a : Asked) : Bool := a.answer.any (·.accepted)

/-- A request to Expo. -/
structure Pushed where
  userId : Uuid
  tokens : List String
  title : String
  body : String
  deepLink : Option String
deriving DecidableEq

/-- The tables, what the providers were asked, and what the callers of `deliver` were told. -/
structure World where
  mail : Mail
  asked : List Asked
  pushed : List Pushed
  told : List (NotificationInput × NotificationDeliveryOutcome)

/-- Nothing has happened. -/
def World.empty : World := ⟨.empty, [], [], []⟩

/-- What a step learns from outside. -/
structure Told where
  ctx : Ctx
  clock : Clock
  /-- The timezone of the profile of whoever asks. -/
  profileTimezone : Option String
  answer : Option SendResult
  expo : Nat → ExpoAnswer
  /-- The statement fails, as when the connection is lost.  It is asked for where the code goes on all the
  same; elsewhere a statement that fails ends its call, as if the step had never been taken. -/
  fault : Bool

/-! ## The threads -/

/-- Where a call is. -/
inductive Task where
  | register (userId : Uuid) (dto : RegisterDeviceDto)
  | deregister (userId deviceId : Uuid)
  | clearDevice (deviceId : Uuid)
  | updatePreferences (userId : Uuid) (updates : List UpdateNotificationPreferenceDto)
  | markRead (userId notificationId : Uuid)
  | writeRead (notificationId : Uuid)
  | markAllRead (userId : Uuid)
  /-- `deliver`, before its first statement. -/
  | deliver (input : NotificationInput)
  | lookUp (input : NotificationInput)
  | create (input : NotificationInput)
  /-- The row is there; the provider is asked next. -/
  | send (input : NotificationInput) (notificationId : Uuid)
  | recordSent (input : NotificationInput) (notificationId : Uuid) (result : SendResult)
  | recordFailed (input : NotificationInput) (notificationId : Uuid)
  /-- `notify`, before its first statement. -/
  | notify (input : NotifyInput)
  | createInApp (input : NotifyInput) (rendered : RenderedPushTemplate)
  | checkPush (input : NotifyInput) (rendered : RenderedPushTemplate)
  | readTokens (input : NotifyInput) (rendered : RenderedPushTemplate)
  | push (input : NotifyInput) (rendered : RenderedPushTemplate) (tokens : List String)
  | release (tokens : List String)

/-! ## `deliver` -/

/-- The caller is told what became of the message. -/
def World.tell (w : World) (input : NotificationInput) (outcome : NotificationDeliveryOutcome) : World :=
  { w with told := w.told ++ [(input, outcome)] }

/-- The row that has the key. -/
def byDedupeKey (notifications : Table Notification) (dedupeKey : String) : Option Notification :=
  notifications.find? fun n ↦ n.dedupeKey = some dedupeKey

/-- What a caller is told of a message that is there already. -/
def deduplicated (existing : Notification) : NotificationDeliveryOutcome :=
  if existing.status = .sent ∨ existing.status = .delivered then
    .sent ("deduplicated:" ++ existing.id.toString)
  else .failed

/-- The row of a message that is about to be sent. -/
def newNotification (ctx : Ctx) (input : NotificationInput) : Notification where
  id := ctx.uuid 0
  userId := input.userId
  channel := input.channel
  template := input.template
  templateVersion := input.templateVersion
  status := .pending
  payload := input.storedPayload
  dedupeKey := some input.dedupeKey
  title := none
  body := none
  deepLink := none
  readAt := none
  sentAt := none
  createdAt := ctx.now

/-- The attempt that was accepted. -/
def sentDelivery (ctx : Ctx) (notificationId : Uuid) (result : SendResult) : NotificationDelivery where
  id := ctx.uuid 0
  notificationId := notificationId
  provider := result.provider
  providerReference := some result.providerReference
  status := .sent
  attemptNumber := 1
  failureCode := none
  failureReason := none
  sentAt := some ctx.now

/-- The attempt that was not. -/
def failedDelivery (ctx : Ctx) (notificationId : Uuid) (providerName : String) : NotificationDelivery where
  id := ctx.uuid 0
  notificationId := notificationId
  provider := providerName
  providerReference := none
  status := .failed
  attemptNumber := 1
  failureCode := some "DELIVERY_UNAVAILABLE"
  failureReason := some "Transactional notification delivery was not accepted"
  sentAt := none

/-- The transaction that concludes a message: its row and its delivery are written together. -/
def conclude (notificationId : Uuid) (write : Notification → Notification)
    (delivery : NotificationDelivery) (mail : Mail) : Except ServiceError Mail := do
  let notifications ← updateRow mail.notifications (fun n ↦ n.id = notificationId) write
  let deliveries ← insertRow mail.deliveries delivery
  pure { mail with notifications := notifications, deliveries := deliveries }

/-- `status: SENT, sentAt`. -/
def markSent (now : Timestamp) (n : Notification) : Notification :=
  { n with status := .sent, sentAt := some now }

/-- `status: FAILED`. -/
def markFailed (n : Notification) : Notification := { n with status := .failed }

/-! ## `notify` -/

/-- The entry in the inbox. -/
def inAppNotification (ctx : Ctx) (input : NotifyInput) (rendered : RenderedPushTemplate) :
    Notification where
  id := ctx.uuid 0
  userId := input.userId
  channel := .inApp
  template := input.template
  templateVersion := rendered.version
  status := .sent
  payload := input.storedPayload
  dedupeKey := some (input.dedupeKey ++ ":in-app")
  title := some rendered.title
  body := some rendered.body
  deepLink := given rendered.deepLink
  readAt := none
  sentAt := some ctx.now
  createdAt := ctx.now

/-! ## `NotificationFeedService` -/

/-- The row is one of the user's inbox. -/
def isEntry (userId : Uuid) (n : Notification) : Bool := n.userId = userId && n.channel = .inApp

/-- `readAt: new Date()`. -/
def markRead (now : Timestamp) (n : Notification) : Notification := { n with readAt := some now }

theorem clash_markRead {now : Timestamp} {a b : Notification} (h : Schema.Clash (markRead now a) b) :
    Schema.Clash a b := h

/-- `unreadCount`. -/
def unreadCount (userId : Uuid) (notifications : Table Notification) : Nat :=
  (notifications.findMany fun n ↦ isEntry userId n && n.readAt.isNone).length

/-! ## The steps -/

/-- The world with other devices. -/
def World.withDevices (w : World) (devices : Table Device) : World :=
  { w with mail := { w.mail with devices := devices } }

/-- The world with other notifications. -/
def World.withNotifications (w : World) (notifications : Table Notification) : World :=
  { w with mail := { w.mail with notifications := notifications } }

/-- The world with other preferences. -/
def World.withPreferences (w : World) (preferences : Table NotificationPreference) : World :=
  { w with mail := { w.mail with preferences := preferences } }

/-- What is done when a step is taken; a call that throws is over. -/
def exec (o : Told) (w : World) : Task → World × Option Task
  | .register userId dto =>
      (w.withDevices (committed w.mail.devices (register o.ctx userId dto w.mail.devices)), none)
  | .deregister userId deviceId =>
      (w, (findDevice userId deviceId w.mail.devices).toOption.map .clearDevice)
  | .clearDevice deviceId => (w.withDevices (clearDevice deviceId w.mail.devices), none)
  | .updatePreferences userId updates =>
      (w.withPreferences (committed w.mail.preferences
        (updatePreferences o.ctx o.profileTimezone userId updates w.mail.preferences)), none)
  | .markRead userId notificationId =>
      match w.mail.notifications.find? fun n ↦ n.id = notificationId && isEntry userId n with
      | some n => (w, if n.readAt.isSome then none else some (.writeRead n.id))
      | none => (w, none)
  | .writeRead notificationId =>
      (w.withNotifications (w.mail.notifications.modify (fun n ↦ n.id = notificationId)
        (markRead o.ctx.now) clash_markRead), none)
  | .markAllRead userId =>
      (w.withNotifications (w.mail.notifications.modify (fun n ↦ isEntry userId n && n.readAt.isNone)
        (markRead o.ctx.now) clash_markRead), none)
  | .deliver input =>
      match suppressionFor o.clock o.ctx.now input.userId input.template input.channel
        w.mail.preferences with
      | .error _ => (w, none)
      | .ok (some reason) => (w.tell input (.suppressed reason), none)
      | .ok none => (w, some (.lookUp input))
  | .lookUp input =>
      match byDedupeKey w.mail.notifications input.dedupeKey with
      | some existing => (w.tell input (deduplicated existing), none)
      | none => (w, some (.create input))
  | .create input =>
      match w.mail.notifications.insert (newNotification o.ctx input) with
      | some notifications =>
          if o.fault then (w, none)
          else (w.withNotifications notifications, some (.send input (o.ctx.uuid 0)))
      | none => (w, none)
  | .send input notificationId =>
      ({ w with asked := w.asked ++ [⟨input, o.answer⟩] },
        match o.answer with
        | some result =>
            if result.accepted then some (.recordSent input notificationId result)
            else some (.recordFailed input notificationId)
        | none => some (.recordFailed input notificationId))
  | .recordSent input notificationId result =>
      match conclude notificationId (markSent o.ctx.now) (sentDelivery o.ctx notificationId result)
        w.mail with
      | .ok mail =>
          if o.fault then (w, some (.recordFailed input notificationId))
          else ({ w with mail := mail }.tell input (.sent result.providerReference), none)
      | .error _ => (w, some (.recordFailed input notificationId))
  | .recordFailed input notificationId =>
      match conclude notificationId markFailed
        (failedDelivery o.ctx notificationId input.providerName) w.mail with
      | .ok mail => if o.fault then (w, none) else ({ w with mail := mail }.tell input .failed, none)
      | .error _ => (w, none)
  | .notify input =>
      match renderPushTemplate input.template input.vars with
      | none => (w, none)
      | some rendered =>
          match suppressionFor o.clock o.ctx.now input.userId input.template .inApp
            w.mail.preferences with
          | .error _ => (w, none)
          | .ok (some _) => (w, some (.checkPush input rendered))
          | .ok none => (w, some (.createInApp input rendered))
  | .createInApp input rendered =>
      -- Whatever goes wrong here is caught, and the push is still tried.
      match w.mail.notifications.insert (inAppNotification o.ctx input rendered) with
      | some notifications =>
          if o.fault then (w, some (.checkPush input rendered))
          else (w.withNotifications notifications, some (.checkPush input rendered))
      | none => (w, some (.checkPush input rendered))
  | .checkPush input rendered =>
      match suppressionFor o.clock o.ctx.now input.userId input.template .push w.mail.preferences with
      | .ok none => (w, some (.readTokens input rendered))
      | _ => (w, none)
  | .readTokens input rendered =>
      match pushTokensFor input.userId w.mail.devices with
      | [] => (w, none)
      | tokens => (w, some (.push input rendered tokens))
  | .push input rendered tokens =>
      ({ w with pushed := w.pushed ++
          [⟨input.userId, tokens, rendered.title, rendered.body, given rendered.deepLink⟩] },
        some (.release (((sendPush o.expo tokens).filter (·.unregistered)).map (·.token))))
  | .release [] => (w, none)
  | .release (token :: tokens) =>
      (w.withDevices (releaseUnregisteredToken token w.mail.devices), some (.release tokens))

/-- The calls that arrive from outside. -/
def Task.arrives : Task → Bool
  | .register .. | .deregister .. | .updatePreferences .. | .markRead .. | .markAllRead .. | .deliver ..
  | .notify .. => true
  | _ => false

/-- Some order of the steps of some calls leads from one state to the other. -/
abbrev Runs : Pool World Task → Pool World Task → Prop :=
  Reaches (Pool.advance exec) (Pool.Admitted (fun _ t ↦ t.arrives = true) fun _ _ _ ↦ True)

/-- What a concluded message leaves in the tables. -/
theorem conclude_eq_ok {id : Uuid} {write : Notification → Notification} {d : NotificationDelivery}
    {mail mail' : Mail} (h : conclude id write d mail = .ok mail') :
    mail'.notifications.rows = mail.notifications.rows.map (fun n ↦ if n.id = id then write n else n) ∧
      mail'.deliveries.rows = mail.deliveries.rows ++ [d] ∧
      (∀ x ∈ mail.deliveries.rows, ¬ Schema.Clash x d) ∧
      mail'.devices = mail.devices ∧ mail'.preferences = mail.preferences := by
  simp only [conclude, bind_eq_ok, pure_eq_ok] at h
  obtain ⟨notifications, hnotifications, deliveries, hdeliveries, rfl⟩ := h
  refine ⟨?_, insertRow_eq_ok hdeliveries, not_clash_of_insertRow hdeliveries, rfl, rfl⟩
  simpa using updateRow_eq_ok hnotifications

/-! ## What a step can do to the messages -/

variable {o : Told} {w w' : World} {t : Task} {t' : Option Task}

/-- The call is at none of the steps that speak of a row. -/
def Task.idle : Task → Bool
  | .send .. | .recordSent .. | .recordFailed .. | .writeRead .. => false
  | _ => true

/-- The messages are as they were, and so is what was said of them. -/
structure SameMessages (w w' : World) : Prop where
  notifications : w'.mail.notifications = w.mail.notifications
  deliveries : w'.mail.deliveries = w.mail.deliveries
  asked : w'.asked = w.asked
  told : w'.told = w.told

theorem SameMessages.refl (w : World) : SameMessages w w := ⟨rfl, rfl, rfl, rfl⟩

theorem SameMessages.devices (w : World) (devices : Table Device) :
    SameMessages w (w.withDevices devices) := ⟨rfl, rfl, rfl, rfl⟩

theorem SameMessages.preferences (w : World) (preferences : Table NotificationPreference) :
    SameMessages w (w.withPreferences preferences) := ⟨rfl, rfl, rfl, rfl⟩

theorem devices_withDevices (w : World) (devices : Table Device) :
    (w.withDevices devices).mail.devices = devices := rfl

/-- What a step does to the devices. -/
inductive Handles (o : Told) (w : World) : Task → World → Prop
  | nothing (t : Task) {w' : World} (same : w'.mail.devices = w.mail.devices) : Handles o w t w'
  | registers (userId : Uuid) (dto : RegisterDeviceDto) {w' : World}
      (done : w'.mail.devices = committed w.mail.devices (register o.ctx userId dto w.mail.devices)) :
      Handles o w (.register userId dto) w'
  | drops (t : Task) (p : Device → Bool) {w' : World}
      (done : w'.mail.devices = w.mail.devices.modify p dropToken clash_dropToken) : Handles o w t w'

/-- What a step does to the messages. -/
inductive Happens (o : Told) (w : World) : Task → World → Option Task → Prop
  | elsewhere (t : Task) {w' : World} {t' : Option Task} (same : SameMessages w w')
      (handles : Handles o w t w') (next : ∀ u, t' = some u → u.idle = true) : Happens o w t w' t'
  | answered (t : Task) (input : NotificationInput) {outcome : NotificationDeliveryOutcome}
      (known : (∃ reason, outcome = .suppressed reason) ∨
        ∃ existing ∈ w.mail.notifications.rows, existing.dedupeKey = some input.dedupeKey ∧
          outcome = deduplicated existing) : Happens o w t (w.tell input outcome) none
  | created (input : NotificationInput) {notifications : Table Notification}
      (stored : w.mail.notifications.insert (newNotification o.ctx input) = some notifications) :
      Happens o w (.create input) (w.withNotifications notifications)
        (some (.send input (o.ctx.uuid 0)))
  | accepted (input : NotificationInput) (id : Uuid) (result : SendResult)
      (answer : o.answer = some result) (taken : result.accepted = true) :
      Happens o w (.send input id) { w with asked := w.asked ++ [⟨input, o.answer⟩] }
        (some (.recordSent input id result))
  | refused (input : NotificationInput) (id : Uuid) :
      Happens o w (.send input id) { w with asked := w.asked ++ [⟨input, o.answer⟩] }
        (some (.recordFailed input id))
  | sent (input : NotificationInput) (id : Uuid) (result : SendResult) {mail : Mail}
      (written : conclude id (markSent o.ctx.now) (sentDelivery o.ctx id result) w.mail = .ok mail) :
      Happens o w (.recordSent input id result)
        ({ w with mail := mail }.tell input (.sent result.providerReference)) none
  | unrecorded (input : NotificationInput) (id : Uuid) (result : SendResult) :
      Happens o w (.recordSent input id result) w (some (.recordFailed input id))
  | failed (input : NotificationInput) (id : Uuid) {mail : Mail}
      (written : conclude id markFailed (failedDelivery o.ctx id input.providerName) w.mail = .ok mail) :
      Happens o w (.recordFailed input id) ({ w with mail := mail }.tell input .failed) none
  | entered (input : NotifyInput) (rendered : RenderedPushTemplate) {notifications : Table Notification}
      (stored : w.mail.notifications.insert (inAppNotification o.ctx input rendered) =
        some notifications) :
      Happens o w (.createInApp input rendered) (w.withNotifications notifications)
        (some (.checkPush input rendered))
  | found (userId : Uuid) {n : Notification} (mem : n ∈ w.mail.notifications.rows)
      (unread : n.readAt = none) : Happens o w (.markRead userId n.id) w (some (.writeRead n.id))
  | read (t : Task) (p : Notification → Bool)
      (which : (∃ id, t = .writeRead id ∧ p = fun n : Notification ↦ n.id = id) ∨
        ∃ userId, t = .markAllRead userId ∧ p = fun n : Notification ↦ isEntry userId n && n.readAt.isNone) :
      Happens o w t (w.withNotifications (w.mail.notifications.modify p (markRead o.ctx.now)
        clash_markRead)) none

/-- Every step does one of these things. -/
theorem exec_happens (o : Told) (w : World) (t : Task) :
    Happens o w t (exec o w t).1 (exec o w t).2 := by
  have hquiet {t : Task} {u : Task} (hu : u.idle = true) : Happens o w t w (some u) :=
    .elsewhere t (.refl w) (.nothing t rfl) fun _ heq ↦ Option.some.inj heq ▸ hu
  have hover {t : Task} : Happens o w t w none :=
    .elsewhere t (.refl w) (.nothing t rfl) fun _ heq ↦ by cases heq
  cases t with
  | register userId dto => 
      exact .elsewhere _ (.devices w _) (.registers userId dto (devices_withDevices w _)) fun _ heq ↦ by cases heq
  | deregister userId deviceId =>
      refine .elsewhere _ (.refl w) (.nothing _ rfl) fun u heq ↦ ?_
      obtain ⟨_, -, rfl⟩ := Option.map_eq_some_iff.mp heq
      rfl
  | clearDevice deviceId =>
      simp only [exec]
      exact .elsewhere _ (.devices w _) (.drops _ _ (devices_withDevices w _)) fun _ heq ↦ by cases heq
  | updatePreferences userId updates =>
      exact .elsewhere _ (.preferences w _) (.nothing _ rfl) fun _ heq ↦ by cases heq
  | markRead userId notificationId =>
      simp only [exec]
      split
      · next n hfind =>
          have hid : n.id = notificationId := by
            have hprop := Table.prop_of_find? hfind
            simp only [Bool.and_eq_true, decide_eq_true_eq] at hprop
            exact hprop.1
          subst hid
          cases hread : n.readAt with
          | some readAt => exact hover
          | none => exact .found userId (Table.mem_of_find? hfind) hread
      · exact hover
  | writeRead notificationId => exact .read _ _ (.inl ⟨notificationId, rfl, rfl⟩)
  | markAllRead userId => exact .read _ _ (.inr ⟨userId, rfl, rfl⟩)
  | deliver input =>
      simp only [exec]
      split
      · exact hover
      · exact .answered _ input (.inl ⟨_, rfl⟩)
      · exact hquiet rfl
  | lookUp input =>
      simp only [exec]
      split
      · next existing hfind =>
          refine .answered _ input (.inr ⟨existing, Table.mem_of_find? hfind, ?_, rfl⟩)
          simpa using Table.prop_of_find? hfind
      · exact hquiet rfl
  | create input =>
      simp only [exec]
      split
      · next notifications hinsert =>
          split
          · exact hover
          · exact .created input hinsert
      · exact hover
  | send input id =>
      simp only [exec]
      split
      · next result hanswer =>
          split
          · next htaken => exact .accepted input id result hanswer htaken
          · exact .refused input id
      · exact .refused input id
  | recordSent input id result =>
      simp only [exec]
      split
      · next mail hmail =>
          split
          · exact .unrecorded input id result
          · exact .sent input id result hmail
      · exact .unrecorded input id result
  | recordFailed input id =>
      simp only [exec]
      split
      · next mail hmail =>
          split
          · exact hover
          · exact .failed input id hmail
      · exact hover
  | notify input =>
      simp only [exec]
      split
      · exact hover
      · split
        · exact hover
        · exact hquiet rfl
        · exact hquiet rfl
  | createInApp input rendered =>
      simp only [exec]
      split
      · next notifications hinsert =>
          split
          · exact hquiet rfl
          · exact .entered input rendered hinsert
      · exact hquiet rfl
  | checkPush input rendered =>
      simp only [exec]
      split
      · exact hquiet rfl
      · exact hover
  | readTokens input rendered =>
      simp only [exec]
      split
      · exact hover
      · exact hquiet rfl
  | push input rendered tokens =>
      refine .elsewhere _ ⟨rfl, rfl, rfl, rfl⟩ (.nothing _ rfl) fun u heq ↦ ?_
      cases heq
      rfl
  | release tokens =>
      cases tokens with
      | nil => exact hover
      | cons token tokens =>
          simp only [exec]
          refine .elsewhere _ (.devices w _) (.drops _ _ (devices_withDevices w _)) fun u heq ↦ ?_
          cases heq
          rfl

/-- What a step does to the messages and what it does to the devices go together. -/
theorem exec_handles (o : Told) (w : World) (t : Task) : Handles o w t (exec o w t).1 := by
  have h := exec_happens o w t
  generalize (exec o w t).1 = w' at h ⊢
  generalize (exec o w t).2 = t' at h
  cases h with
  | elsewhere t same handles next => exact handles
  | sent input id result written => exact .nothing _ (conclude_eq_ok written).2.2.2.1
  | failed input id written => exact .nothing _ (conclude_eq_ok written).2.2.2.1
  | _ => exact .nothing _ rfl

/-! ### What a row keeps -/

/-- The columns of a row that are written once. -/
def frozen (n : Notification) : Notification := { n with status := .pending, sentAt := none, readAt := none }

theorem map_frozen_ite {rows : List Notification} {p : Notification → Prop} [DecidablePred p]
    {write : Notification → Notification} (h : ∀ n, frozen (write n) = frozen n) :
    (rows.map fun n ↦ if p n then write n else n).map frozen = rows.map frozen := by
  rw [List.map_map]
  refine List.map_congr_left fun n _ ↦ ?_
  rw [Function.comp_apply]
  split
  · exact h n
  · rfl

/-- A step adds at most one row, at the end and with the time of the step, and rewrites of the others only
what became of the message. -/
theorem Happens.grown (h : Happens o w t w' t') :
    w'.mail.notifications.rows.map frozen = w.mail.notifications.rows.map frozen ∨
      ∃ n, n.createdAt = o.ctx.now ∧ w'.mail.notifications.rows.map frozen =
        w.mail.notifications.rows.map frozen ++ [frozen n] := by
  cases h with
  | elsewhere t same handles next => exact .inl (congrArg (·.rows.map frozen) same.notifications)
  | created input stored =>
      refine .inr ⟨newNotification o.ctx input, rfl, ?_⟩
      exact (congrArg (List.map frozen) (Table.rows_of_insert stored)).trans (List.map_append ..)
  | entered input rendered stored =>
      refine .inr ⟨inAppNotification o.ctx input rendered, rfl, ?_⟩
      exact (congrArg (List.map frozen) (Table.rows_of_insert stored)).trans (List.map_append ..)
  | sent input id result written =>
      exact .inl ((congrArg _ (conclude_eq_ok written).1).trans (map_frozen_ite fun _ ↦ rfl))
  | failed input id written =>
      exact .inl ((congrArg _ (conclude_eq_ok written).1).trans (map_frozen_ite fun _ ↦ rfl))
  | read t p which => exact .inl (map_frozen_ite fun _ ↦ rfl)
  | _ => exact .inl rfl

/-- No step takes a row away. -/
theorem Happens.exists_frozen (h : Happens o w t w' t') {n : Notification}
    (hn : n ∈ w.mail.notifications.rows) :
    ∃ n' ∈ w'.mail.notifications.rows, frozen n' = frozen n := by
  refine List.mem_map.mp ?_
  rcases h.grown with hrows | ⟨new, -, hrows⟩
  · exact hrows ▸ List.mem_map_of_mem hn
  · exact hrows ▸ List.mem_append_left _ (List.mem_map_of_mem hn)

theorem id_of_frozen {n n' : Notification} (h : frozen n' = frozen n) : n'.id = n.id :=
  congrArg (·.id) h

theorem dedupeKey_of_frozen {n n' : Notification} (h : frozen n' = frozen n) :
    n'.dedupeKey = n.dedupeKey := congrArg (·.dedupeKey) h

theorem channel_of_frozen {n n' : Notification} (h : frozen n' = frozen n) : n'.channel = n.channel :=
  congrArg (·.channel) h

end AjoCloud.Notifications
