import AjoCloud.Devices.Registry

/-!
# Push notifications

`push-templates.ts`, and `ExpoPushProvider`, which asks Expo for at most a hundred tokens at a time.  Expo
answers a request with tickets, and which token a ticket is for is told by its position only.
-/

namespace AjoCloud.Notifications

/-! ## `push-templates.ts` -/

/-- The variables of a template. -/
abbrev Variables := List (String × String)

/-- `RenderedPushTemplate`. -/
structure RenderedPushTemplate where
  title : String
  body : String
  version : Nat
  deepLink : Option String
deriving DecidableEq

/-- `text`: a variable that is missing is an empty text. -/
def text (vars : Variables) (key : String) : String := (vars.lookup key).getD ""

/-- `PUSH_TEMPLATES`. -/
def PUSH_TEMPLATES : List (String × (Variables → RenderedPushTemplate)) :=
  [("ajo-contribution-due", fun vars ↦ {
      title := "Contribution due"
      body := "Your " ++ text vars "groupName" ++ " contribution of " ++ text vars "amount" ++
        " is due " ++ text vars "dueDate" ++ "."
      version := 1
      deepLink := some "/(tabs)/ajo" }),
    ("ajo-contribution-missed", fun vars ↦ {
      title := "Contribution missed"
      body := "You missed a contribution for " ++ text vars "groupName" ++ "."
      version := 1
      deepLink := some "/(tabs)/ajo" }),
    ("ajo-payout-sent", fun vars ↦ {
      title := "Your payout was sent"
      body := text vars "amount" ++ " was sent for your " ++ text vars "groupName" ++ " payout."
      version := 1
      deepLink := some "/(tabs)/ajo" }),
    ("ajo-group-invite", fun vars ↦ {
      title := "Group invitation"
      body := "You were invited to join " ++ text vars "groupName" ++ "."
      version := 1
      deepLink := some "/(tabs)/ajo" }),
    ("food-distribution-ready", fun vars ↦ {
      title := "Your food is ready"
      body := "Collection for " ++ text vars "programmeName" ++ " is ready."
      version := 1
      deepLink := some "/(tabs)/food" }),
    ("akawo-goal-progress", fun vars ↦ {
      title := "Savings progress"
      body := "You are " ++ text vars "progress" ++ " of the way to " ++ text vars "goalName" ++ "."
      version := 1
      deepLink := some "/(tabs)/akawo" }),
    ("akawo-goal-reached", fun vars ↦ {
      title := "Goal reached"
      body := "You reached your " ++ text vars "goalName" ++ " goal."
      version := 1
      deepLink := some "/(tabs)/akawo" }),
    ("bill-payment-receipt", fun vars ↦ {
      title := "Bill paid"
      body := "Your " ++ text vars "billerName" ++ " payment of " ++ text vars "amount" ++
        " went through."
      version := 1
      deepLink := some "/(tabs)/bills" }),
    ("wallet-funded", fun vars ↦ {
      title := "Wallet funded"
      body := text vars "amount" ++ " was added to your wallet."
      version := 1
      deepLink := some "/(tabs)/home" }),
    ("withdrawal-processed", fun vars ↦ {
      title := "Withdrawal sent"
      body := text vars "amount" ++ " is on its way to your bank."
      version := 1
      deepLink := some "/(tabs)/home" }),
    ("kyc-approved", fun _ ↦ {
      title := "Verification complete"
      body := "Your identity has been verified."
      version := 1
      deepLink := some "/(tabs)/profile" }),
    ("kyc-rejected", fun _ ↦ {
      title := "Verification needs attention"
      body := "We could not verify your identity. Open the app to see what is needed."
      version := 1
      deepLink := some "/(tabs)/profile" })]

/-- `renderPushTemplate`. -/
def renderPushTemplate (template : String) (vars : Variables) : Option RenderedPushTemplate :=
  (PUSH_TEMPLATES.lookup template).map fun render ↦ render vars

/-! ## `ExpoPushProvider` -/

/-- `MAX_BATCH`. -/
def MAX_BATCH : Nat := 100

/-- `ExpoTicket`, with the error of its details. -/
structure ExpoTicket where
  status : Option String
  id : Option String
  error : Option String
deriving DecidableEq

/-- What became of one request to Expo. -/
inductive ExpoAnswer where
  /-- `fetch` threw, or the answer is no JSON. -/
  | failed
  /-- The response is not `ok`. -/
  | rejected
  /-- The `data` of the answer, where there is one; an entry may be null. -/
  | tickets (data : Option (List (Option ExpoTicket)))

/-- `PushTokenResult`. -/
structure PushTokenResult where
  token : String
  accepted : Bool
  unregistered : Bool
  ticketId : Option String
  failureReason : Option String
deriving DecidableEq

/-- What the ticket at a token's position says of the token. -/
def ticketResult (token : String) : Option ExpoTicket → PushTokenResult
  | none => ⟨token, false, false, none, some "PUSH_NO_TICKET"⟩
  | some ticket =>
      if ticket.status = some "ok" then ⟨token, true, false, Devices.given ticket.id, none⟩
      else
        let unregistered := ticket.error = some "DeviceNotRegistered"
        ⟨token, false, unregistered, none,
          some (if unregistered then "DEVICE_NOT_REGISTERED" else "PUSH_REJECTED")⟩

/-- What the answer to a request says of the token at a position in it. -/
def resultAt (answer : ExpoAnswer) (token : String) (position : Nat) : PushTokenResult :=
  match answer with
  | .failed | .rejected => ⟨token, false, false, none, some "PUSH_TRANSPORT_FAILED"⟩
  | .tickets data => ticketResult token ((data.getD [])[position]?.join)

/-- `sendBatch`. -/
def sendBatch (answer : ExpoAnswer) (tokens : List String) : List PushTokenResult :=
  tokens.mapIdx fun position token ↦ resultAt answer token position

/-- `send`, where `answers k` is what became of request number `k`. -/
def sendPush (answers : Nat → ExpoAnswer) (tokens : List String) : List PushTokenResult :=
  (List.range ((tokens.length + (MAX_BATCH - 1)) / MAX_BATCH)).flatMap fun k ↦
    sendBatch (answers k) ((tokens.drop (k * MAX_BATCH)).take MAX_BATCH)

/-! ### One result for each token -/

/-- The results of the first requests are those of the tokens that were in them. -/
theorem flatMap_sendBatch (answers : Nat → ExpoAnswer) (tokens : List String) (n : Nat) :
    ((List.range n).flatMap fun k ↦
      sendBatch (answers k) ((tokens.drop (k * MAX_BATCH)).take MAX_BATCH)) =
    (tokens.take (n * MAX_BATCH)).mapIdx fun i token ↦
      resultAt (answers (i / MAX_BATCH)) token (i % MAX_BATCH) := by
  induction n with
  | zero => simp
  | succ n ih =>
      have hsplit : tokens.take ((n + 1) * MAX_BATCH) =
          tokens.take (n * MAX_BATCH) ++ (tokens.drop (n * MAX_BATCH)).take MAX_BATCH := by
        rw [Nat.add_mul, Nat.one_mul, List.take_add]
      rw [List.range_succ, List.flatMap_append, ih, hsplit, List.mapIdx_append, List.flatMap_singleton]
      congr 1
      rw [sendBatch]
      by_cases hfull : n * MAX_BATCH ≤ tokens.length
      · -- The tokens of this request come right after those of the requests before it.
        have hlength : (tokens.take (n * MAX_BATCH)).length = n * MAX_BATCH :=
          List.length_take_of_le hfull
        rw [hlength]
        refine List.ext_getElem (by simp) fun i hi hi' ↦ ?_
        have hbatch : i < MAX_BATCH := by
          rw [List.length_mapIdx, List.length_take] at hi
          omega
        have hdiv : (i + n * MAX_BATCH) / MAX_BATCH = n := by
          rw [Nat.add_mul_div_right _ _ (by decide), Nat.div_eq_of_lt hbatch, Nat.zero_add]
        have hmod : (i + n * MAX_BATCH) % MAX_BATCH = i := by
          rw [Nat.add_mul_mod_self_right, Nat.mod_eq_of_lt hbatch]
        rw [List.getElem_mapIdx, List.getElem_mapIdx, hdiv, hmod]
      · rw [List.drop_eq_nil_of_le (by omega)]
        simp

/-- **Every token gets its own ticket.**  However many requests are made, the results are those of the
tokens in their order, and the one for a token is what the request that it was in answered at its place. -/
theorem sendPush_by_position (answers : Nat → ExpoAnswer) (tokens : List String) :
    sendPush answers tokens =
      tokens.mapIdx fun i token ↦ resultAt (answers (i / MAX_BATCH)) token (i % MAX_BATCH) := by
  have hall : tokens.take ((tokens.length + (MAX_BATCH - 1)) / MAX_BATCH * MAX_BATCH) = tokens := by
    refine List.take_of_length_le ?_
    simp only [MAX_BATCH]
    omega
  rw [sendPush, flatMap_sendBatch, hall]

end AjoCloud.Notifications
