import AjoCloud.Lib.Upsert
import AjoCloud.Notifications.Policy

/-!
# Notification preferences

`NotificationPreferencesService`.  The settings screen is the whole grid of topics and channels, with the
choice of the user where one is stored and the default where none is; what it shows is what a delivery
obeys.
-/

namespace AjoCloud.Notifications

open Lib ServiceError

/-- `SETTABLE_CHANNELS`. -/
def SETTABLE_CHANNELS : List NotificationChannel := [.push, .inApp, .email, .sms]

def DEFAULT_TIMEZONE : String := "Africa/Lagos"

/-- `NotificationPreferenceView`. -/
structure NotificationPreferenceView where
  topic : String
  channel : NotificationChannel
  enabled : Bool
  quietHoursStartMinutes : Option Int
  quietHoursEndMinutes : Option Int
  timezone : String
deriving DecidableEq

/-- A change of one cell, as the DTO lets it through. -/
structure UpdateNotificationPreferenceDto where
  topic : String
  channel : NotificationChannel
  enabled : Bool
  quietHoursStartMinutes : Option Int
  quietHoursEndMinutes : Option Int
  timezone : Option String
  /-- `@IsEnum(NOTIFICATION_TOPICS)`. -/
  isTopic : isNotificationTopic topic = true

/-- The row is the choice of the user for this cell. -/
def isCell (userId : Uuid) (channel : NotificationChannel) (topic : String)
    (p : NotificationPreference) : Bool :=
  p.userId = userId && p.channel = channel && p.topic = topic

/-- What the screen shows of a cell, for the row that is stored. -/
def viewOf (timezone topic : String) (channel : NotificationChannel) :
    Option NotificationPreference → NotificationPreferenceView
  | some p => ⟨topic, channel, p.enabled, p.quietHoursStartMinutes, p.quietHoursEndMinutes, p.timezone⟩
  | none => ⟨topic, channel, true, none, none, timezone⟩

/-- `list`, for the timezone of the profile.  The rows are fetched once, and searched for each cell. -/
def listPreferences (profileTimezone : Option String) (userId : Uuid)
    (preferences : Table NotificationPreference) : List NotificationPreferenceView :=
  let stored := preferences.findMany fun p ↦ p.userId = userId && SETTABLE_CHANNELS.contains p.channel
  let timezone := profileTimezone.getD DEFAULT_TIMEZONE
  NOTIFICATION_TOPICS.flatMap fun topic ↦ SETTABLE_CHANNELS.map fun channel ↦
    viewOf timezone topic channel (stored.find? fun p ↦ p.topic = topic && p.channel = channel)

/-- The checks of `update`. -/
def assertUpdate (update : UpdateNotificationPreferenceDto) : Except ServiceError Unit := do
  require (isValidQuietHours update.quietHoursStartMinutes update.quietHoursEndMinutes)
    (unprocessable "Quiet hours need both a start and an end, or neither")
  require (SETTABLE_CHANNELS.contains update.channel)
    (unprocessable "That channel cannot be configured yet")

/-- What `update` writes into a row. -/
def writeCell (timezone : String) (update : UpdateNotificationPreferenceDto)
    (p : NotificationPreference) : NotificationPreference :=
  { p with
    enabled := update.enabled
    timezone := update.timezone.getD timezone
    quietHoursStartMinutes := update.quietHoursStartMinutes
    quietHoursEndMinutes := update.quietHoursEndMinutes }

theorem clash_writeCell {timezone : String} {update : UpdateNotificationPreferenceDto}
    {a b : NotificationPreference} (h : Schema.Clash (writeCell timezone update a) b) :
    Schema.Clash a b := h

/-- What `update` stores for a cell that has no row. -/
def createCell (timezone : String) (id userId : Uuid) (update : UpdateNotificationPreferenceDto) :
    NotificationPreference :=
  ⟨id, userId, update.channel, update.topic, update.enabled, update.quietHoursStartMinutes,
    update.quietHoursEndMinutes, update.timezone.getD timezone⟩

/-- The upsert of one change. -/
def upsertCell (timezone : String) (id userId : Uuid) (update : UpdateNotificationPreferenceDto)
    (preferences : Table NotificationPreference) : Except ServiceError (Table NotificationPreference) :=
  (orThrow (preferences.upsert (isCell userId update.channel update.topic)
    (createCell timezone id userId update) (writeCell timezone update) clash_writeCell)
    (.database .uniqueConstraint)).map (·.2)

/-- The transaction of `update`: the changes are applied one after the other, all or none. -/
def upsertCells (ctx : Ctx) (timezone : String) (userId : Uuid) :
    Nat → List UpdateNotificationPreferenceDto → Table NotificationPreference →
      Except ServiceError (Table NotificationPreference)
  | _, [], preferences => pure preferences
  | n, update :: updates, preferences => do
      let preferences ← upsertCell timezone (ctx.uuid n) userId update preferences
      upsertCells ctx timezone userId (n + 1) updates preferences

/-- `update`, without the audit log it ends with. -/
def updatePreferences (ctx : Ctx) (profileTimezone : Option String) (userId : Uuid)
    (updates : List UpdateNotificationPreferenceDto) (preferences : Table NotificationPreference) :
    Except ServiceError (List NotificationPreferenceView × Table NotificationPreference) := do
  updates.forM assertUpdate
  let preferences ← upsertCells ctx (profileTimezone.getD DEFAULT_TIMEZONE) userId 0 updates preferences
  pure (listPreferences profileTimezone userId preferences, preferences)

variable {ctx : Ctx} {profileTimezone : Option String} {timezone : String} {id userId user : Uuid}
  {channel : NotificationChannel} {topic : String} {update : UpdateNotificationPreferenceDto}
  {updates : List UpdateNotificationPreferenceDto} {preferences preferences' : Table NotificationPreference}
  {views : List NotificationPreferenceView} {n : Nat}

/-! ## The choice for a cell -/

/-- What is stored for a cell, but for the identifier of the row. -/
structure Choice where
  enabled : Bool
  quietHoursStartMinutes : Option Int
  quietHoursEndMinutes : Option Int
  timezone : String
deriving DecidableEq

/-- What a row chooses. -/
def choiceOf (p : NotificationPreference) : Choice :=
  ⟨p.enabled, p.quietHoursStartMinutes, p.quietHoursEndMinutes, p.timezone⟩

/-- What a change chooses. -/
def choiceFor (timezone : String) (update : UpdateNotificationPreferenceDto) : Choice :=
  ⟨update.enabled, update.quietHoursStartMinutes, update.quietHoursEndMinutes,
    update.timezone.getD timezone⟩

/-- The row of a cell. -/
def cell (preferences : Table NotificationPreference) (userId : Uuid) (channel : NotificationChannel)
    (topic : String) : Option NotificationPreference := preferences.find? (isCell userId channel topic)

/-- The choices as a function of the user and the cell. -/
def choices (preferences : Table NotificationPreference) (userId : Uuid) (channel : NotificationChannel)
    (topic : String) : Option Choice := (cell preferences userId channel topic).map choiceOf

/-- The change is one of this cell. -/
def Targets (update : UpdateNotificationPreferenceDto) (channel : NotificationChannel) (topic : String) :
    Prop := update.channel = channel ∧ update.topic = topic

instance : Decidable (Targets update channel topic) :=
  inferInstanceAs (Decidable (update.channel = channel ∧ update.topic = topic))

/-- What the changes choose for a cell: the last of them that is one of it. -/
def chosen (timezone : String) (updates : List UpdateNotificationPreferenceDto)
    (channel : NotificationChannel) (topic : String) : Option Choice :=
  (updates.reverse.find? fun update ↦ Targets update channel topic).map (choiceFor timezone)

theorem isCell_iff {p : NotificationPreference} :
    isCell userId channel topic p = true ↔ p.userId = userId ∧ p.channel = channel ∧ p.topic = topic := by
  simp only [isCell, Bool.and_eq_true, decide_eq_true_eq, and_assoc]

theorem clash_of_isCell {a b : NotificationPreference} (ha : isCell userId channel topic a = true)
    (hb : isCell userId channel topic b = true) : Schema.Clash a b := by
  obtain ⟨rfl, rfl, rfl⟩ := isCell_iff.mp ha
  obtain ⟨huser, hchannel, htopic⟩ := isCell_iff.mp hb
  refine .inr ⟨rfl, ?_⟩
  show some (a.userId, a.channel, a.topic) = some (b.userId, b.channel, b.topic)
  rw [huser, hchannel, htopic]

theorem cell_eq_some {p : NotificationPreference} :
    cell preferences userId channel topic = some p ↔
      p ∈ preferences.rows ∧ isCell userId channel topic p = true := by
  constructor
  · exact fun h ↦ ⟨Table.mem_of_find? h, Table.prop_of_find? h⟩
  · rintro ⟨hp, hcell⟩
    exact preferences.find?_eq_some_of_mem hp hcell fun x _ hx ↦ clash_of_isCell hx hcell

/-- An upsert changes the choice for its own cell, and no other. -/
theorem choices_upsertCell (h : upsertCell timezone id userId update preferences = .ok preferences') :
    choices preferences' user channel topic =
      if user = userId ∧ Targets update channel topic then some (choiceFor timezone update)
      else choices preferences user channel topic := by
  obtain ⟨⟨r, t⟩, hupsert, rfl⟩ : ∃ x, preferences.upsert (isCell userId update.channel update.topic)
      (createCell timezone id userId update) (writeCell timezone update) clash_writeCell = some x ∧
        x.2 = preferences' := by
    revert h
    unfold upsertCell
    cases preferences.upsert (isCell userId update.channel update.topic)
      (createCell timezone id userId update) (writeCell timezone update) clash_writeCell with
    | none => rintro ⟨⟩
    | some x =>
        intro h
        exact ⟨x, rfl, by cases h; rfl⟩
  have hdone := Table.upserted hupsert (fun a b ↦ clash_of_isCell) (isCell_iff.mpr ⟨rfl, rfl, rfl⟩)
    fun x hx ↦ hx
  have hr : choiceOf r = choiceFor timezone update := by
    obtain rfl | ⟨r₀, -, rfl, -⟩ := hdone.origin
    · rfl
    · rfl
  by_cases hown : user = userId ∧ Targets update channel topic
  · obtain ⟨rfl, rfl, rfl⟩ := hown
    have hcell : cell t user update.channel update.topic = some r :=
      cell_eq_some.mpr ⟨(hdone.mem_iff r).mpr (.inl rfl), hdone.picked⟩
    rw [if_pos ⟨rfl, rfl, rfl⟩, choices, hcell, Option.map_some, hr]
  · rw [if_neg hown, choices, choices]
    congr 1
    -- A row of another cell is not the row that is written.
    have hother : ∀ x, isCell user channel topic x = true →
        isCell userId update.channel update.topic x = false := by
      intro x hx
      rw [Bool.eq_false_iff]
      intro hw
      obtain ⟨rfl, rfl, rfl⟩ := isCell_iff.mp hx
      obtain ⟨huser, hchannel, htopic⟩ := isCell_iff.mp hw
      exact hown ⟨huser, hchannel.symm, htopic.symm⟩
    refine Option.ext fun x ↦ ?_
    rw [cell_eq_some, cell_eq_some, hdone.mem_iff]
    constructor
    · rintro ⟨rfl | ⟨hx, -⟩, hcell⟩
      · exact absurd hdone.picked (by simp [hother x hcell])
      · exact ⟨hx, hcell⟩
    · rintro ⟨hx, hcell⟩
      exact ⟨.inr ⟨hx, hother x hcell⟩, hcell⟩

/-- After a batch a cell holds what the last change of it chose, and what it held when none was one of
it. -/
theorem choices_upsertCells (h : upsertCells ctx timezone userId n updates preferences = .ok preferences') :
    choices preferences' user channel topic =
      if user = userId then
        (chosen timezone updates channel topic).or (choices preferences user channel topic)
      else choices preferences user channel topic := by
  induction updates generalizing n preferences with
  | nil =>
      cases h
      simp [chosen]
  | cons update updates ih =>
      rw [upsertCells, bind_eq_ok] at h
      obtain ⟨next, hfirst, hrest⟩ := h
      rw [ih hrest, choices_upsertCell hfirst]
      by_cases huser : user = userId
      · simp only [huser, true_and, if_true, chosen, List.reverse_cons, List.find?_append,
          List.find?_singleton]
        cases updates.reverse.find? fun update ↦ Targets update channel topic with
        | some last => rfl
        | none =>
            by_cases htargets : Targets update channel topic
            · simp [htargets]
            · simp [htargets]
      · simp [huser]

/-! ## The screen and the delivery -/

/-- The cell of the screen. -/
def shown (views : List NotificationPreferenceView) (channel : NotificationChannel) (topic : String) :
    Option NotificationPreferenceView :=
  views.find? fun view ↦ view.topic = topic && view.channel = channel

/-- Why a message is held back, by what the screen shows of its cell. -/
def heldBack (clock : Clock) (now : Timestamp) (view : NotificationPreferenceView) :
    Except ServiceError (Option SuppressionReason) :=
  if view.enabled = false then .ok (some .disabled)
  else if view.quietHoursStartMinutes.isSome ∧ view.quietHoursEndMinutes.isSome then do
    let minute ← localMinuteOfDay clock now view.timezone
    if isWithinQuietHours minute view.quietHoursStartMinutes view.quietHoursEndMinutes then
      pure (some .quietHours)
    else pure none
  else .ok none

/-- Searching the rows of the user for a cell finds the row of the cell. -/
theorem find?_stored :
    (preferences.findMany fun p ↦ p.userId = userId && SETTABLE_CHANNELS.contains p.channel).find?
        (fun p ↦ p.topic = topic && p.channel = channel) = cell preferences userId channel topic := by
  have hsettable : ∀ channel, SETTABLE_CHANNELS.contains channel = true := by
    intro channel
    cases channel <;> decide
  rw [Table.findMany, List.find?_filter, cell, Table.find?]
  congr 1
  funext p
  simp only [hsettable, Bool.and_true, isCell]
  rw [Bool.eq_iff_iff]
  simp only [Bool.and_eq_true, decide_eq_true_eq]
  tauto

/-- The screen shows every cell of the catalogue, as it is stored. -/
theorem shown_listPreferences (htopic : isNotificationTopic topic = true) :
    shown (listPreferences profileTimezone userId preferences) channel topic =
      some (viewOf (profileTimezone.getD DEFAULT_TIMEZONE) topic channel
        (cell preferences userId channel topic)) := by
  have hmem : topic ∈ NOTIFICATION_TOPICS := List.contains_iff_mem.mp htopic
  have hfind : ∀ topics : List String, topic ∈ topics →
      (topics.flatMap fun topic ↦ SETTABLE_CHANNELS.map fun channel ↦
        viewOf (profileTimezone.getD DEFAULT_TIMEZONE) topic channel
          (cell preferences userId channel topic)).find?
        (fun view ↦ view.topic = topic && view.channel = channel) =
        some (viewOf (profileTimezone.getD DEFAULT_TIMEZONE) topic channel
          (cell preferences userId channel topic)) := by
    intro topics hmem
    have hview (topic : String) (channel : NotificationChannel) (p : Option NotificationPreference) :
        (viewOf (profileTimezone.getD DEFAULT_TIMEZONE) topic channel p).topic = topic ∧
          (viewOf (profileTimezone.getD DEFAULT_TIMEZONE) topic channel p).channel = channel := by
      cases p <;> exact ⟨rfl, rfl⟩
    induction topics with
    | nil => cases hmem
    | cons first topics ih =>
        rw [List.flatMap_cons, List.find?_append]
        by_cases hfirst : first = topic
        · subst hfirst
          rw [Option.or_eq_some_iff]
          left
          simp only [SETTABLE_CHANNELS, List.map_cons, List.map_nil, List.find?_cons, (hview _ _ _).1,
            (hview _ _ _).2, decide_true, Bool.true_and]
          cases channel <;> rfl
        · rw [ih ((List.mem_cons.mp hmem).resolve_left fun heq ↦ hfirst heq.symm), Option.or_eq_right_of_none]
          simp [List.find?_eq_none, (hview _ _ _).1, hfirst]
  simp only [shown, listPreferences, find?_stored]
  exact hfind _ hmem

/-- The screen shows no more of a row than what it chooses. -/
theorem viewOf_congr {p p' : Option NotificationPreference} (h : p.map choiceOf = p'.map choiceOf) :
    viewOf timezone topic channel p = viewOf timezone topic channel p' := by
  cases p with
  | none =>
      rw [Option.map_none, eq_comm, Option.map_eq_none_iff] at h
      rw [h]
  | some p =>
      rw [Option.map_some, eq_comm, Option.map_eq_some_iff] at h
      obtain ⟨p', rfl, hsame⟩ := h
      simp only [choiceOf, Choice.mk.injEq] at hsame
      obtain ⟨henabled, hstart, hend, hzone⟩ := hsame
      simp only [viewOf, henabled, hstart, hend, hzone]

/-- What holds a message back is what the screen shows of its cell. -/
theorem suppressionFor_eq {clock : Clock} {now : Timestamp} {template : String}
    (htemplate : topicForTemplate template = .ok (some topic)) :
    suppressionFor clock now userId template channel preferences =
      heldBack clock now (viewOf timezone topic channel (cell preferences userId channel topic)) := by
  rw [suppressionFor, bind_of_eq_ok htemplate]
  show decideDelivery clock (some topic) (cell preferences userId channel topic) now = _
  cases cell preferences userId channel topic with
  | none => rfl
  | some p => rfl

/-- **What the settings show is what a delivery obeys.**  After an update every cell of the screen shows the
last change that was made to it, or what it showed before, and a message on its topic and channel is held
back exactly as the cell says; nobody else's messages are affected. -/
theorem delivery_obeys_settings
    (h : updatePreferences ctx profileTimezone userId updates preferences = .ok (views, preferences'))
    {template : String} (htemplate : topicForTemplate template = .ok (some topic)) (clock : Clock)
    (now : Timestamp) (channel : NotificationChannel) :
    (∃ view, shown views channel topic = some view ∧
      suppressionFor clock now userId template channel preferences' = heldBack clock now view ∧
      (∀ choice, chosen (profileTimezone.getD DEFAULT_TIMEZONE) updates channel topic = some choice →
        view = ⟨topic, channel, choice.enabled, choice.quietHoursStartMinutes, choice.quietHoursEndMinutes,
          choice.timezone⟩) ∧
      (chosen (profileTimezone.getD DEFAULT_TIMEZONE) updates channel topic = none →
        shown (listPreferences profileTimezone userId preferences) channel topic = some view)) ∧
    ∀ user, user ≠ userId →
      suppressionFor clock now user template channel preferences' =
        suppressionFor clock now user template channel preferences := by
  simp only [updatePreferences, bind_eq_ok, pure_eq_ok, Prod.mk.injEq] at h
  obtain ⟨-, -, stored, hstored, rfl, rfl⟩ := h
  have htopic := isNotificationTopic_of_topicForTemplate htemplate
  have hchoices (user : Uuid) : choices stored user channel topic =
      if user = userId then
        (chosen (profileTimezone.getD DEFAULT_TIMEZONE) updates channel topic).or
          (choices preferences user channel topic)
      else choices preferences user channel topic := choices_upsertCells hstored
  refine ⟨⟨_, shown_listPreferences htopic, suppressionFor_eq htemplate, ?_, ?_⟩, fun user huser ↦ ?_⟩
  · intro choice hchosen
    have hown := hchoices userId
    rw [if_pos rfl, hchosen, Option.some_or, choices, Option.map_eq_some_iff] at hown
    obtain ⟨p, hp, rfl⟩ := hown
    rw [hp]
    rfl
  · intro hchosen
    have hown := hchoices userId
    rw [if_pos rfl, hchosen, Option.none_or] at hown
    rw [shown_listPreferences htopic, viewOf_congr hown]
  · have hother := hchoices user
    rw [if_neg huser] at hother
    have hheld (preferences : Table NotificationPreference) :
        suppressionFor clock now user template channel preferences =
          heldBack clock now (viewOf "" topic channel (cell preferences user channel topic)) :=
      suppressionFor_eq htemplate
    rw [hheld, hheld, viewOf_congr hother]

/-! ### A topic that is switched off -/

section Sample

theorem isNotificationTopic_payout : isNotificationTopic "ajo.payout" = true := by decide

/-- No mail about payouts. -/
def sampleUpdate : UpdateNotificationPreferenceDto :=
  ⟨"ajo.payout", .email, false, none, none, none, isNotificationTopic_payout⟩

/-- A clock that shows one zone. -/
def sampleClock : Clock := fun timezone now ↦
  if timezone = DEFAULT_TIMEZONE then some (now / 3600000 % 24, now / 60000 % 60) else none

theorem delivery_obeys_settings_sample :
    ∃ views preferences, updatePreferences ⟨0, Uuid.ofNat⟩ none (.ofNat 1) [sampleUpdate] .empty =
      .ok (views, preferences) ∧ ∃ view, shown views .email "ajo.payout" = some view ∧
        view.enabled = false ∧
        suppressionFor sampleClock 0 (.ofNat 1) "ajo-payout-sent" .email preferences =
          heldBack sampleClock 0 view := by
  have hok : ∃ x, updatePreferences ⟨0, Uuid.ofNat⟩ none (.ofNat 1) [sampleUpdate] .empty = .ok x :=
    exists_eq_ok_iff.mpr (by decide)
  obtain ⟨⟨views, preferences⟩, h⟩ := hok
  have htemplate : topicForTemplate "ajo-payout-sent" = .ok (some "ajo.payout") := rfl
  obtain ⟨⟨view, hshown, hheld, hview, -⟩, -⟩ :=
    delivery_obeys_settings h htemplate sampleClock 0 .email
  refine ⟨views, preferences, h, view, hshown, ?_, hheld⟩
  rw [hview _ rfl]
  rfl

end Sample

end AjoCloud.Notifications
