import AjoCloud.Database.Mail

/-!
# When a notification is sent

`notification-topics.ts` and `notification-policy.ts`: which topic governs a template, and whether a
preference lets a message on that topic through now.
-/

namespace AjoCloud.Notifications

open Lib

/-! ## `notification-topics.ts` -/

def NOTIFICATION_TOPICS : List String :=
  ["ajo.contribution", "ajo.payout", "ajo.membership", "akawo.progress", "food.distribution",
    "bills.receipt", "wallet.activity", "kyc.status"]

/-- The templates that no preference holds back. -/
def ALWAYS_SEND : List String :=
  ["account-verification-email", "sign-in-code", "welcome", "password-reset", "password-reset-sms",
    "password-changed", "new-login-alert", "device-added", "account-locked", "staff-invite"]

/-- The topic of each of the other templates. -/
def TEMPLATE_TOPICS : List (String × String) :=
  [("kyc-approved", "kyc.status"),
    ("kyc-rejected", "kyc.status"),
    ("wallet-funded", "wallet.activity"),
    ("withdrawal-processed", "wallet.activity"),
    ("ajo-contribution-due", "ajo.contribution"),
    ("ajo-contribution-missed", "ajo.contribution"),
    ("ajo-payout-sent", "ajo.payout"),
    ("ajo-group-invite", "ajo.membership"),
    ("food-distribution-ready", "food.distribution"),
    ("akawo-goal-progress", "akawo.progress"),
    ("akawo-goal-reached", "akawo.progress"),
    ("bill-payment-receipt", "bills.receipt")]

/-- `isNotificationTopic`. -/
def isNotificationTopic (value : String) : Bool := NOTIFICATION_TOPICS.contains value

/-- `isAlwaysSent`. -/
def isAlwaysSent (template : String) : Bool := ALWAYS_SEND.contains template

/-- `topicForTemplate`: `none` is for the templates that are always sent. -/
def topicForTemplate (template : String) : Except ServiceError (Option String) :=
  if isAlwaysSent template then .ok none
  else match TEMPLATE_TOPICS.lookup template with
    | some topic => .ok (some topic)
    | none =>
        .error (.plain ("Template \"" ++ template ++ "\" is not mapped to a notification topic"))

/-- A template is governed by a topic of the catalogue, unless it is always sent. -/
theorem isNotificationTopic_of_topicForTemplate {template topic : String}
    (h : topicForTemplate template = .ok (some topic)) : isNotificationTopic topic = true := by
  have hcatalogue : ∀ entry ∈ TEMPLATE_TOPICS, isNotificationTopic entry.2 = true := by decide
  rw [topicForTemplate] at h
  split at h
  · cases h
  · split at h
    · next hlookup =>
        cases h
        obtain ⟨l₁, l₂, hrows, -⟩ := List.lookup_eq_some_iff.mp hlookup
        exact hcatalogue (template, topic) (hrows ▸ by simp)
    · cases h

/-! ## `notification-policy.ts` -/

/-- `isWithinQuietHours`. -/
def isWithinQuietHours (localMinuteOfDay : Int) (startMinute endMinute : Option Int) : Bool :=
  match startMinute, endMinute with
  | some startMinute, some endMinute =>
      if startMinute = endMinute then true
      else if startMinute < endMinute then
        startMinute ≤ localMinuteOfDay && localMinuteOfDay < endMinute
      else startMinute ≤ localMinuteOfDay || localMinuteOfDay < endMinute
  | _, _ => false

/-- What `Intl.DateTimeFormat` shows of an instant in a timezone, the hour and the minute; it throws for
a name that is no timezone. -/
abbrev Clock := String → Timestamp → Option (Int × Int)

/-- `localMinuteOfDay`. -/
def localMinuteOfDay (clock : Clock) (at_ : Timestamp) (timezone : String) : Except ServiceError Int :=
  match clock timezone at_ with
  | some (hour, minute) => .ok (hour % 24 * 60 + minute)
  | none => .error (.plain ("Invalid time zone specified: " ++ timezone))

/-- `SuppressionReason`. -/
inductive SuppressionReason where
  | disabled
  | quietHours
deriving DecidableEq, Repr

/-- `decideDelivery`, by the reason it gives for not sending. -/
def decideDelivery (clock : Clock) (topic : Option String) (preference : Option NotificationPreference)
    (now : Timestamp) : Except ServiceError (Option SuppressionReason) :=
  match topic, preference with
  | some _, some preference =>
      if preference.enabled = false then .ok (some .disabled)
      else if preference.quietHoursStartMinutes.isSome ∧ preference.quietHoursEndMinutes.isSome then do
        let minute ← localMinuteOfDay clock now preference.timezone
        if isWithinQuietHours minute preference.quietHoursStartMinutes preference.quietHoursEndMinutes then
          pure (some .quietHours)
        else pure none
      else .ok none
  | _, _ => .ok none

/-- `isValidQuietHours`; the minutes are whole numbers. -/
def isValidQuietHours (startMinutes endMinutes : Option Int) : Bool :=
  match startMinutes, endMinutes with
  | none, none => true
  | some start, some finish =>
      [start, finish].all fun value ↦ 0 ≤ value && value < 24 * 60
  | _, _ => false

/-- `suppressionFor`, for the preference that is stored. -/
def suppressionFor (clock : Clock) (now : Timestamp) (userId : Uuid) (template : String)
    (channel : NotificationChannel) (preferences : Table NotificationPreference) :
    Except ServiceError (Option SuppressionReason) := do
  match ← topicForTemplate template with
  | none => pure none
  | some topic =>
      decideDelivery clock (some topic)
        (preferences.find? fun p ↦ p.userId = userId && p.channel = channel && p.topic = topic) now

end AjoCloud.Notifications
