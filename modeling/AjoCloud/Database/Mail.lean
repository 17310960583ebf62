import AjoCloud.Database.Basic

/-!
# The rows of notifications

The installations that may receive a push notification, what the users want to hear about, and what was
sent to them.
-/

namespace AjoCloud

open Lib

/-! ## Devices -/

/-- An installation of the app, as one user has registered it. -/
structure Device where
  id : Uuid
  userId : Uuid
  fingerprint : String
  name : String
  platform : Option String
  /-- Where Expo delivers to, while the installation can be reached. -/
  pushToken : Option String
  pushTokenAt : Option Timestamp
  pushDeclinedAt : Option Timestamp
  appVersion : Option String
  trustedAt : Option Timestamp
  lastSeenAt : Timestamp
  createdAt : Timestamp
deriving DecidableEq

instance : Schema Device := (Schema.primary fun d : Device ↦ d.id).unique fun d ↦
  some (d.userId, d.fingerprint)

/-! ## Preferences -/

/-- `NotificationChannel`. -/
inductive NotificationChannel where
  | email
  | sms
  | push
  | inApp
deriving DecidableEq, Repr

/-- What a user wants to hear about a topic on a channel, and when not. -/
structure NotificationPreference where
  id : Uuid
  userId : Uuid
  channel : NotificationChannel
  topic : String
  enabled : Bool
  quietHoursStartMinutes : Option Int
  quietHoursEndMinutes : Option Int
  timezone : String
deriving DecidableEq

instance : Schema NotificationPreference := (Schema.primary fun p : NotificationPreference ↦ p.id).unique
  fun p ↦ some (p.userId, p.channel, p.topic)

/-! ## Notifications -/

/-- `NotificationStatus`. -/
inductive NotificationStatus where
  | pending
  | sent
  | delivered
  | failed
  | read
deriving DecidableEq, Repr

/-- A message to a user. -/
structure Notification where
  id : Uuid
  userId : Uuid
  channel : NotificationChannel
  template : String
  templateVersion : Nat
  status : NotificationStatus
  payload : List (String × String)
  dedupeKey : Option String
  title : Option String
  body : Option String
  deepLink : Option String
  readAt : Option Timestamp
  sentAt : Option Timestamp
  createdAt : Timestamp
deriving DecidableEq

instance : Schema Notification := (Schema.primary fun n : Notification ↦ n.id).unique (·.dedupeKey)

/-- `NotificationDeliveryStatus`, as far as it is written. -/
inductive NotificationDeliveryStatus where
  | sent
  | failed
deriving DecidableEq, Repr

/-- An attempt to deliver a message; the column `attemptNumber` keeps its default. -/
structure NotificationDelivery where
  id : Uuid
  notificationId : Uuid
  provider : String
  providerReference : Option String
  status : NotificationDeliveryStatus
  attemptNumber : Nat
  failureCode : Option String
  failureReason : Option String
  sentAt : Option Timestamp
deriving DecidableEq

instance : Schema NotificationDelivery := (Schema.primary fun d : NotificationDelivery ↦ d.id).unique
  fun d ↦ some (d.notificationId, d.attemptNumber)

/-- The tables of notifications. -/
structure Mail where
  devices : Table Device
  preferences : Table NotificationPreference
  notifications : Table Notification
  deliveries : Table NotificationDelivery

/-- No rows. -/
def Mail.empty : Mail := ⟨.empty, .empty, .empty, .empty⟩

end AjoCloud
