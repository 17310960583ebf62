import AjoCloud.Payments.Settlement
import AjoCloud.Webhooks.Events

/-!
# Webhook deliveries

`MonnifySignatureGuard`, `MonnifyWebhooksService` and the routes of `MonnifyWebhooksController`.  A
delivery is verified, recorded, and then applied to the ledger; an error while it is applied leaves
the record behind.
-/

namespace AjoCloud.Webhooks

open Lib Payments

/-- The library functions a delivery goes through. -/
structure Host where
  /-- The hexadecimal SHA-256 of the bytes. -/
  sha256 : ByteArray → String
  /-- The hexadecimal HMAC-SHA512 of the bytes under the key, in lower case. -/
  hmacSha512 : String → ByteArray → String
  /-- `Date.parse`, with nothing for `NaN`. -/
  dateParse : String → Option Timestamp

/-- The settings of the webhooks. -/
structure WebhookConfig where
  monnifyWebhooksEnabled : Bool
  monnifyWebhookSecret : Option String

/-- A request on a webhook route. -/
structure WebhookRequest where
  payload : Json
  rawBody : Option ByteArray
  /-- The values of the `monnify-signature` header. -/
  signatures : List String

/-! ## Signatures -/

/-- `verifyMonnifySignature`.  Texts with the same bytes have the same length, so the comparison of
lengths before it decides nothing more; digests have no letters but a to f. -/
def verifyMonnifySignature (host : Host) (rawBody : ByteArray) (suppliedSignature : Option String)
    (secret : String) : Bool :=
  match truthy suppliedSignature with
  | none => false
  | some supplied =>
      secret ≠ "" && toLowerCase (trim supplied) = host.hmacSha512 secret rawBody

/-- `MonnifySignatureGuard.canActivate`, with the body it lets through. -/
def canActivate (host : Host) (config : WebhookConfig) (request : WebhookRequest) :
    Except ServiceError ByteArray := do
  require (config.monnifyWebhooksEnabled = true)
    (.http .serviceUnavailable "Webhook endpoint is not enabled")
  let secret ← orThrow (truthy config.monnifyWebhookSecret)
    (.http .serviceUnavailable "Webhook endpoint is not enabled")
  let rawBody ← orThrow request.rawBody (.http .unauthorized "Invalid webhook signature")
  require (verifyMonnifySignature host rawBody request.signatures.head? secret = true)
    (.http .unauthorized "Invalid webhook signature")
  pure rawBody

/-- `WEBHOOK_TIMESTAMP_TOLERANCE_MS`. -/
def webhookTimestampToleranceMs : Int := 5 * 60 * 1000

/-- `isWithinTimestampTolerance`. -/
def isWithinTimestampTolerance (host : Host) (timestamp : Option String) (now : Timestamp) : Bool :=
  match (truthy timestamp).bind host.dateParse with
  | none => true
  | some parsed => |now - parsed| ≤ webhookTimestampToleranceMs

/-! ## Recording and applying -/

/-- `PROVIDER`. -/
def monnify : String := "monnify"

/-- The row of an event. -/
def isEvent (eventId : String) (e : PaymentWebhookEvent) : Bool :=
  e.provider = monnify ∧ e.providerEventId = eventId

/-- The row a delivery is recorded in. -/
def newEvent (host : Host) (id : Uuid) (event : ExtractedMonnifyEvent) (payloadHash : String)
    (signature : Option String) (stale : Bool) : PaymentWebhookEvent where
  id := id
  provider := monnify
  providerEventId := event.eventId
  payloadHash := payloadHash
  signatureHash := (truthy signature).map fun s ↦ host.sha256 s.toUTF8
  status := if stale then .failed else .pending
  failureReason := if stale then some "Event timestamp outside tolerance" else none
  processedAt := none

/-- The columns can hold the row. -/
def eventFits (e : PaymentWebhookEvent) : Prop :=
  fitsVarChar 191 e.providerEventId ∧ fitsVarChar 128 e.payloadHash ∧
    fitsVarChar 128 (e.signatureHash.getD "")

instance (e : PaymentWebhookEvent) : Decidable (eventFits e) := by
  unfold eventFits
  infer_instance

/-- Write on the row of an event. -/
def markEvent (db : Db) (eventId : String) (f : PaymentWebhookEvent → PaymentWebhookEvent)
    (keep : ∀ {a b : PaymentWebhookEvent}, Schema.Clash (f a) b → Schema.Clash a b) : Db :=
  { db with paymentWebhookEvents := db.paymentWebhookEvents.modify (isEvent eventId) f keep }

/-- What the settlement service is asked to do with an event. -/
def settle (ctx : Ctx) (db : Db) (event : ExtractedMonnifyEvent) (providerReference : String) :
    Except ServiceError (SettlementOutcome × Db) :=
  if event.declaredType = some "FAILED_TRANSACTION" then
    .ok (settleFailed db providerReference "Provider reported a failure")
  else settleSuccessful ctx db providerReference

/-- `MonnifyWebhooksService.applyToLedger`. -/
def applyToLedger (ctx : Ctx) (db : Db) (kind : MonnifyEventKind) (event : ExtractedMonnifyEvent) :
    Db :=
  match kind, truthy event.providerReference with
  | .transactionCompletion, some providerReference =>
      match settle ctx db event providerReference with
      | .ok (.unmatched, db) => db
      | .ok (_, db) =>
          markEvent db event.eventId
            (fun e ↦ { e with status := .processed, processedAt := some ctx.now }) fun h ↦ h
      | .error _ =>
          markEvent db event.eventId
            (fun e ↦ { e with failureReason := some "Ledger posting failed; awaiting retry" })
            fun h ↦ h
  | _, _ => db

/-- `WebhookAcknowledgement`. -/
structure WebhookAcknowledgement where
  firstDelivery : Bool
deriving DecidableEq

/-- `MonnifyWebhooksService.record`. -/
def record (host : Host) (ctx : Ctx) (db : Db) (kind : MonnifyEventKind) (payload : Json)
    (rawBody : ByteArray) (signature : Option String) :
    Except ServiceError (WebhookAcknowledgement × Db) := do
  let payloadHash := host.sha256 rawBody
  let event ← extractMonnifyEvent payload kind payloadHash
  let stale := !isWithinTimestampTolerance host event.timestamp ctx.now
  match db.paymentWebhookEvents.find? (isEvent event.eventId) with
  | some _ => pure (⟨false⟩, db)
  | none =>
      let row := newEvent host (ctx.uuid 1) event payloadHash signature stale
      require (eventFits row) (.database .valueTooLong)
      match db.paymentWebhookEvents.insert row with
      | none => pure (⟨false⟩, db)
      | some paymentWebhookEvents =>
          let db := { db with paymentWebhookEvents := paymentWebhookEvents }
          pure (⟨true⟩, if stale then db else applyToLedger ctx db kind event)

/-- The routes of `MonnifyWebhooksController`: the guard, and then `record`. -/
def handle (host : Host) (config : WebhookConfig) (ctx : Ctx) (db : Db) (kind : MonnifyEventKind)
    (request : WebhookRequest) : Except ServiceError (WebhookAcknowledgement × Db) := do
  let rawBody ← canActivate host config request
  record host ctx db kind request.payload rawBody request.signatures.head?

end AjoCloud.Webhooks
