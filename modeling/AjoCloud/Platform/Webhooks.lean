import AjoCloud.Platform.Deposits
import AjoCloud.Webhooks.Service

/-!
# Deliveries

A delivery is a run of the platform: the event is recorded, an intent is settled or failed, and the
event is marked.  What a settlement books is the intent's; the amount and the currency that were
extracted from the payload are recorded and not compared with anything.
-/

namespace AjoCloud.Platform

open Lib Ledger Payments Webhooks

variable {config : Bills.BillConfig} {host : Host} {settings : WebhookConfig} {ctx : Ctx}
  {db db' : Db} {kind : MonnifyEventKind}

/-! ## Deliveries are runs -/

/-- One call is a run. -/
theorem reaches_step (config : Bills.BillConfig) (db : Db) (call : Call) :
    Reaches (step config) anyCall db (step config db call) := (Reaches.refl db).call call trivial

/-- Writing other tables is a run. -/
theorem reaches_of_eq (config : Bills.BillConfig) (db db' : Db) (hledger : db'.ledger = db.ledger)
    (hintents : db'.paymentIntents = db.paymentIntents) :
    Reaches (step config) anyCall db db' := by
  let change : Elsewhere :=
    ⟨fun d ↦ { db' with ledger := d.ledger, paymentIntents := d.paymentIntents },
      fun d ↦ .refl d.ledger, fun _ ↦ rfl⟩
  have hstep : step config db (.elsewhere change) = db' := by
    show { db' with ledger := db.ledger, paymentIntents := db.paymentIntents } = db'
    rw [← hledger, ← hintents]
  exact hstep ▸ reaches_step config db (.elsewhere change)

theorem settle_reaches {event : ExtractedMonnifyEvent} {reference : String}
    {outcome : SettlementOutcome} (h : settle ctx db event reference = .ok (outcome, db')) :
    Reaches (step config) anyCall db db' := by
  unfold settle at h
  split at h
  · unfold settleFailed at h
    split at h
    · cases h
      exact .refl db
    · next intent _ =>
        split at h
        · cases h
          exact .refl db
        · cases h
          exact reaches_step config db (.failIntent intent.id "Provider reported a failure")
  · obtain ⟨rfl, -⟩ | ⟨intent, -, -, hsettle⟩ := settleSuccessful_cases h
    · exact .refl _
    · have hstep : step config db (.settleDeposit ctx intent.id) = db' := by
        rw [step, hsettle, committed_ok]
      exact hstep ▸ reaches_step config db (.settleDeposit ctx intent.id)

/-- To the ledger and the intents, a delivery does what the settlement does, or nothing. -/
theorem applyToLedger_cases (ctx : Ctx) (db : Db) (kind : MonnifyEventKind)
    (event : ExtractedMonnifyEvent) :
    ∃ mid, (mid = db ∨ ∃ reference outcome, settle ctx db event reference = .ok (outcome, mid)) ∧
      (applyToLedger ctx db kind event).ledger = mid.ledger ∧
      (applyToLedger ctx db kind event).paymentIntents = mid.paymentIntents := by
  unfold applyToLedger
  split
  · split
    · next hsettle => exact ⟨_, .inr ⟨_, _, hsettle⟩, rfl, rfl⟩
    · next hsettle => exact ⟨_, .inr ⟨_, _, hsettle⟩, rfl, rfl⟩
    · exact ⟨db, .inl rfl, rfl, rfl⟩
  · exact ⟨db, .inl rfl, rfl, rfl⟩

theorem applyToLedger_reaches (db : Db) (event : ExtractedMonnifyEvent) :
    Reaches (step config) anyCall db (applyToLedger ctx db kind event) := by
  obtain ⟨mid, rfl | ⟨_, _, hsettle⟩, hledger, hintents⟩ := applyToLedger_cases ctx db kind event
  · exact reaches_of_eq config _ _ hledger hintents
  · exact (settle_reaches hsettle).trans (reaches_of_eq config _ _ hledger hintents)

/-- What `record` did: it left the ledger and the intents as they were, and perhaps applied the
event that it extracted. -/
theorem record_eq_ok {payload : Json} {rawBody : ByteArray} {signature : Option String}
    {ack : WebhookAcknowledgement}
    (h : record host ctx db kind payload rawBody signature = .ok (ack, db')) :
    ∃ event mid, extractMonnifyEvent payload kind (host.sha256 rawBody) = .ok event ∧
      mid.ledger = db.ledger ∧ mid.paymentIntents = db.paymentIntents ∧
      (db' = mid ∨ db' = applyToLedger ctx mid kind event) := by
  rw [record, bind_eq_ok] at h
  obtain ⟨event, hextract, h⟩ := h
  split at h
  · cases h
    exact ⟨event, db, hextract, rfl, rfl, .inl rfl⟩
  · rw [bind_eq_ok] at h
    obtain ⟨-, -, h⟩ := h
    split at h
    · cases h
      exact ⟨event, db, hextract, rfl, rfl, .inl rfl⟩
    · next events _ =>
        cases h
        refine ⟨event, { db with paymentWebhookEvents := events }, hextract, rfl, rfl, ?_⟩
        split
        · exact .inl rfl
        · exact .inr rfl

theorem record_reaches {payload : Json} {rawBody : ByteArray} {signature : Option String}
    {ack : WebhookAcknowledgement}
    (h : record host ctx db kind payload rawBody signature = .ok (ack, db')) :
    Reaches (step config) anyCall db db' := by
  obtain ⟨event, mid, -, hledger, hintents, hdb'⟩ := record_eq_ok h
  have hmid := reaches_of_eq config db mid hledger hintents
  rcases hdb' with rfl | rfl
  · exact hmid
  · exact hmid.trans (applyToLedger_reaches mid event)

/-! ## What a delivery settles -/

/-- The intent was open before and is settled after. -/
structure SettledBy (db db' : Db) (x x' : PaymentIntent) : Prop where
  mem : x ∈ db.paymentIntents.rows
  unsettled : x.status ≠ .succeeded
  stored : x' ∈ db'.paymentIntents.rows
  id : x'.id = x.id
  settled : x'.status = .succeeded

instance (db db' : Db) (x x' : PaymentIntent) : Decidable (SettledBy db db' x x') :=
  decidable_of_iff (x ∈ db.paymentIntents.rows ∧ x.status ≠ .succeeded ∧
      x' ∈ db'.paymentIntents.rows ∧ x'.id = x.id ∧ x'.status = .succeeded)
    ⟨fun ⟨h₁, h₂, h₃, h₄, h₅⟩ ↦ ⟨h₁, h₂, h₃, h₄, h₅⟩,
      fun h ↦ ⟨h.mem, h.unsettled, h.stored, h.id, h.settled⟩⟩

/-- The settlement of the intent is a deposit, and it names the posting. -/
def DepositedBy (ctx : Ctx) (db db' : Db) (x x' : PaymentIntent) : Prop :=
  ∃ accounts posting, Deposited ctx db x db' accounts posting ∧
    x'.ledgerTransactionId = some posting.id

section Settled

variable {x x' : PaymentIntent}

/-- A row that is the same as before was not settled. -/
theorem SettledBy.not_mem (h : SettledBy db db' x x') : x' ∉ db.paymentIntents.rows := by
  intro hmem
  have heq := intent_eq_of_id hmem h.mem h.id
  exact h.unsettled (heq ▸ h.settled)

theorem SettledBy.deposited {intent : PaymentIntent} {accounts : DepositAccounts}
    {posting : LedgerReference} (h : SettledBy db db' x x')
    (hd : Deposited ctx db intent db' accounts posting) : DepositedBy ctx db db' x x' := by
  have hstored := h.stored
  rw [hd.intents, List.mem_map] at hstored
  obtain ⟨y, hy, hyx⟩ := hstored
  split at hyx
  · next hyid =>
      have hyintent := intent_eq_of_id hy hd.mem hyid
      have hxid : x'.id = y.id := hyx ▸ rfl
      have hxy : x = y := intent_eq_of_id h.mem hy (h.id.symm.trans hxid)
      subst hxy hyintent hyx
      exact ⟨accounts, posting, hd, rfl⟩
  · exact absurd (hyx ▸ hy) h.not_mem

theorem SettledBy.not_failIntent {intentId : Uuid} {reason : String}
    (h : SettledBy db (failIntent db intentId reason) x x') : False := by
  obtain ⟨y, hy, hyx⟩ := List.mem_map.mp h.stored
  split at hyx
  · have hsettled := h.settled
    rw [← hyx] at hsettled
    cases hsettled
  · exact h.not_mem (hyx ▸ hy)

theorem settle_settled {event : ExtractedMonnifyEvent} {reference : String}
    {outcome : SettlementOutcome} (hsettle : settle ctx db event reference = .ok (outcome, db'))
    (h : SettledBy db db' x x') : DepositedBy ctx db db' x x' := by
  unfold settle at hsettle
  split at hsettle
  · unfold settleFailed at hsettle
    split at hsettle
    · cases hsettle
      exact absurd h.stored h.not_mem
    · split at hsettle
      · cases hsettle
        exact absurd h.stored h.not_mem
      · cases hsettle
        exact h.not_failIntent.elim
  · obtain ⟨rfl, -⟩ | ⟨_, _, _, -, -, hd⟩ := settleSuccessful_eq_ok hsettle
    · exact absurd h.stored h.not_mem
    · exact h.deposited hd

/-- Whatever a delivery settles, it settles by a deposit. -/
theorem applyToLedger_settled {event : ExtractedMonnifyEvent}
    (h : SettledBy db (applyToLedger ctx db kind event) x x') :
    DepositedBy ctx db (applyToLedger ctx db kind event) x x' := by
  obtain ⟨mid, hmid, hledger, hintents⟩ := applyToLedger_cases ctx db kind event
  have hsettled : SettledBy db mid x x' := ⟨h.mem, h.unsettled, hintents ▸ h.stored, h.id, h.settled⟩
  rcases hmid with rfl | ⟨_, _, hsettle⟩
  · exact absurd hsettled.stored hsettled.not_mem
  · obtain ⟨accounts, posting, hd, hposting⟩ := settle_settled hsettle hsettled
    exact ⟨accounts, posting, ⟨hd.mem, hd.found, hledger ▸ hd.post, hintents ▸ hd.intents⟩, hposting⟩

theorem record_settled {payload : Json} {rawBody : ByteArray} {signature : Option String}
    {ack : WebhookAcknowledgement}
    (hrecord : record host ctx db kind payload rawBody signature = .ok (ack, db'))
    (h : SettledBy db db' x x') : DepositedBy ctx db db' x x' := by
  obtain ⟨event, mid, -, hledger, hintents, hdb'⟩ := record_eq_ok hrecord
  have hsettled : SettledBy mid db' x x' := ⟨hintents ▸ h.mem, h.unsettled, h.stored, h.id, h.settled⟩
  rcases hdb' with rfl | rfl
  · exact absurd hsettled.stored hsettled.not_mem
  · obtain ⟨accounts, posting, hd, hposting⟩ := applyToLedger_settled hsettled
    exact ⟨accounts, posting,
      ⟨h.mem, hledger ▸ hd.found, hledger ▸ hd.post, hintents ▸ hd.intents⟩, hposting⟩

end Settled

/-! ## What a delivery verified -/

/-- What was booked as received is at most the amount in the payload, and the payload's currency is
the intent's. -/
def CreditsVerified (ledger : Ledger) (t : LedgerTransaction) (event : ExtractedMonnifyEvent)
    (currency : String) : Prop :=
  (∃ a, event.amountMinor = some a ∧ legsOn ledger t .debit .providerPayable ≤ a) ∧
    event.currency = some currency

/-- The payload is about as much as the intent asks for, in the same currency. -/
def Covers (event : ExtractedMonnifyEvent) (x : PaymentIntent) : Prop :=
  (∃ a, event.amountMinor = some a ∧ x.amountMinor ≤ a) ∧ event.currency = some x.currency

/-- A delivery that is acknowledged came with a body, and an event was extracted. -/
theorem handle_eq_ok {request : WebhookRequest} {ack : WebhookAcknowledgement}
    (h : handle host settings ctx db kind request = .ok (ack, db')) :
    ∃ rawBody event, request.rawBody = some rawBody ∧
      extractMonnifyEvent request.payload kind (host.sha256 rawBody) = .ok event ∧
      record host ctx db kind request.payload rawBody request.signatures.head? = .ok (ack, db') := by
  simp only [handle, canActivate, bind_eq_ok, require_eq_ok, orThrow_eq_ok, pure_eq_ok,
    exists_const] at h
  obtain ⟨rawBody, ⟨-, secret, -, body, hbody, -, rfl⟩, hrecord⟩ := h
  obtain ⟨event, -, hevent, -⟩ := record_eq_ok hrecord
  exact ⟨body, event, hbody, hevent, hrecord⟩

/-- **A delivery credits what it verified exactly when the payload covers the intent.**  The posting
that settles an intent is the intent's own, whatever amount and currency the payload carries. -/
theorem credits_verified_iff_covers {start : Db} {request : WebhookRequest}
    {ack : WebhookAcknowledgement} {x x' : PaymentIntent}
    (hstart : start.ledger.transactions.rows = [])
    (hrun : Reaches (step config) anyCall start db)
    (hhandle : handle host settings ctx db .transactionCompletion request = .ok (ack, db'))
    (hsettled : SettledBy db db' x x') :
    ∃ rawBody event, request.rawBody = some rawBody ∧
      extractMonnifyEvent request.payload .transactionCompletion (host.sha256 rawBody) = .ok event ∧
      ∃ t ∈ db'.ledger.transactions.rows, x'.ledgerTransactionId = some t.id ∧
        (CreditsVerified db'.ledger t event x.currency ↔ Covers event x) := by
  obtain ⟨rawBody, event, hbody, hevent, hrecord⟩ := handle_eq_ok hhandle
  refine ⟨rawBody, event, hbody, hevent, ?_⟩
  obtain ⟨accounts, posting, hd, hposting⟩ := record_settled hrecord hsettled
  obtain ⟨t, ht, htid, htkey⟩ := exists_key_of_postWithin hd.post
  refine ⟨t, ht, hposting.trans (congrArg some htid.symm), ?_⟩
  -- The posting under the deposit's key is the deposit of the intent, here and in every run.
  have hrecorded : Reaches (step config) anyCall db db' := record_reaches hrecord
  obtain ⟨z, hz, hzid, id, found, hfound, rfl⟩ :=
    depositsBooked_of_reaches hstart (hrun.trans hrecorded) t ht x.id htkey
  have hterms := terms_eq_of_keeps (keepsTerms_of_reaches hrecorded) hsettled.mem hz hzid
  have hamount : z.amountMinor = x.amountMinor := congrArg IntentTerms.amountMinor hterms
  rw [CreditsVerified, Covers, legsOn_deposit_provider z id hfound, hamount]

/-! ### Two deliveries for one intent -/

section Sample

/-- The platform when the first member's transfer is awaited. -/
def sampleProcessing : Db := (sampleCalls.take 2).foldl (step sampleConfig) samplePlatform

/-- The intent of the transfer. -/
def sampleAwaited : PaymentIntent :=
  { sampleIntent samplePlatform 0 with
    status := .processing
    method := some .transfer
    providerReference := some "REF-1"
    confirmedAt := some 1000 }

/-- The intent once it is settled. -/
def sampleDeposited : PaymentIntent :=
  { sampleAwaited with
    status := .succeeded
    ledgerTransactionId := some (.ofNat 3000)
    settledAt := some 1000 }

/-- A payload for the transfer. -/
def samplePayload (amountPaid currency : String) : Json :=
  .object [("eventType", .string "SUCCESSFUL_TRANSACTION"),
    ("eventData", .object [("transactionReference", .string "REF-1"),
      ("amountPaid", .string amountPaid), ("currency", .string currency)])]

/-- The bytes of the payload. -/
def sampleBody (amountPaid currency : String) : ByteArray :=
  ("\x7b\"eventType\":\"SUCCESSFUL_TRANSACTION\",\"eventData\":" ++
    "\x7b\"transactionReference\":\"REF-1\",\"amountPaid\":\"" ++ amountPaid ++
    "\",\"currency\":\"" ++ currency ++ "\"\x7d\x7d").toUTF8

/-- A signed request with the payload. -/
def sampleRequest (amountPaid currency signature : String) : WebhookRequest :=
  ⟨samplePayload amountPaid currency, some (sampleBody amountPaid currency), [signature]⟩

/-- The library functions on one body and its signature, which has 128 digits. -/
def sampleHost (bodyHash signature signatureHash : String) : Host where
  sha256 := fun bytes ↦ if bytes.size = 128 then signatureHash else bodyHash
  hmacSha512 := fun _ _ ↦ signature
  dateParse := fun _ ↦ none

/-- The webhooks are enabled. -/
def sampleSettings : WebhookConfig := ⟨true, some "secret"⟩

/-- The signature of the payload with the whole amount. -/
def sampleFullSignature : String :=
  String.ofList (hexDigits 128
    (0x8edeb2d843f934329e58efac40efb86ca5790cd6eb54d3f8556e83a29abd2866 * 2 ^ 256 +
      0x29cc919f70cc67e161ad7692547331af529acd98409143f32a0367cf58692d23))

/-- The library functions on that payload. -/
def sampleFullHost : Host :=
  sampleHost "2d808b92446e84d25af2dacf82f2bfb2dd9ebcf0c11cd15c490b20763b9e6376"
    sampleFullSignature
    "603c49ba398077da1ac92dfef63662be5c97650e17d7b31ba64f44d631a7432f"

/-- The signature of the payload with less, in another currency. -/
def sampleShortSignature : String :=
  String.ofList (hexDigits 128
    (0x4ef5cf00f3473d649a302fe8b0c0cca19321435eda855942c9848a0f07db4bbb * 2 ^ 256 +
      0x99829eb983f19faee90c3da3f0bf18fd97f3f66dfddba9c9f55594cf63dc7709))

/-- The library functions on that payload. -/
def sampleShortHost : Host :=
  sampleHost "6537b0e1dd94f38a185af2a0769c16309d99116b300e9ca32a7fa070727d10f7"
    sampleShortSignature
    "c2a7e5e14a2c0320a2e2514061205b7fc24bbac7578d15a4ccfe008fd62fb08a"

/-- The delivery of the whole amount. -/
def sampleFull : Except ServiceError (WebhookAcknowledgement × Db) :=
  handle sampleFullHost sampleSettings (sampleCtx 3) sampleProcessing .transactionCompletion
    (sampleRequest "1000.00" "NGN" sampleFullSignature)

/-- The delivery of less, in another currency. -/
def sampleShort : Except ServiceError (WebhookAcknowledgement × Db) :=
  handle sampleShortHost sampleSettings (sampleCtx 3) sampleProcessing .transactionCompletion
    (sampleRequest "1.00" "USD" sampleShortSignature)

/-- What holds of the sixteen digits holds of every digit of a text. -/
theorem forall_mem_hexDigits {p : Char → Prop} (h : ∀ d < 16, p (Nat.digitChar d)) {n a : Nat} :
    ∀ c ∈ hexDigits n a, p c := by
  induction n generalizing a with
  | zero => simp [hexDigits]
  | succ n ih =>
      intro c hc
      rw [hexDigits, List.mem_append, List.mem_singleton] at hc
      rcases hc with hc | rfl
      · exact ih c hc
      · exact h (a % 16) (Nat.mod_lt a (by decide))

/-- Nothing is trimmed from a text without white space. -/
theorem trim_of_forall {cs : List Char} (h : ∀ c ∈ cs, isSpace c = false) :
    trim (String.ofList cs) = String.ofList cs := by
  have hdrop : ∀ cs : List Char, (∀ c ∈ cs, isSpace c = false) → cs.dropWhile isSpace = cs := by
    intro cs hcs
    cases cs with
    | nil => rfl
    | cons c cs => rw [List.dropWhile_cons_of_neg (by simp [hcs c List.mem_cons_self])]
  rw [trim, String.toList_ofList, hdrop cs h, hdrop cs.reverse fun c hc ↦ h c (List.mem_reverse.mp hc),
    List.reverse_reverse]

/-- A text of hexadecimal digits is compared as it is written. -/
theorem toLowerCase_trim_hexDigits (n a : Nat) :
    toLowerCase (trim (String.ofList (hexDigits n a))) = String.ofList (hexDigits n a) := by
  have hspace : ∀ c ∈ hexDigits n a, isSpace c = false := forall_mem_hexDigits (by decide)
  have hlower : ∀ c ∈ hexDigits n a, c.toLower = c := forall_mem_hexDigits (by decide)
  rw [trim_of_forall hspace, toLowerCase, String.toList_ofList, List.map_congr_left hlower, List.map_id']

/-- The guard lets the body of a signed request through. -/
theorem handle_signed (bodyHash signatureHash amountPaid currency : String) (digest : Nat)
    (kind : MonnifyEventKind) :
    handle (sampleHost bodyHash (String.ofList (hexDigits 128 digest)) signatureHash) sampleSettings
        (sampleCtx 3) sampleProcessing kind
        (sampleRequest amountPaid currency (String.ofList (hexDigits 128 digest))) =
      record (sampleHost bodyHash (String.ofList (hexDigits 128 digest)) signatureHash) (sampleCtx 3)
        sampleProcessing kind (samplePayload amountPaid currency) (sampleBody amountPaid currency)
        (some (String.ofList (hexDigits 128 digest))) := by
  have hne : String.ofList (hexDigits 128 digest) ≠ "" := by
    intro h
    have hlength := congrArg String.length h
    rw [String.length_ofList, length_hexDigits] at hlength
    exact absurd hlength (by decide)
  have hverify : verifyMonnifySignature
      (sampleHost bodyHash (String.ofList (hexDigits 128 digest)) signatureHash)
      (sampleBody amountPaid currency) (some (String.ofList (hexDigits 128 digest))) "secret" = true := by
    simp [verifyMonnifySignature, truthy, Option.filter, hne, toLowerCase_trim_hexDigits, sampleHost]
  have hguard : canActivate (sampleHost bodyHash (String.ofList (hexDigits 128 digest)) signatureHash)
      sampleSettings (sampleRequest amountPaid currency (String.ofList (hexDigits 128 digest))) =
        .ok (sampleBody amountPaid currency) := by
    simp [canActivate, sampleSettings, sampleRequest, truthy, Option.filter, require, orThrow, hverify,
      bind, Except.bind, pure, Except.pure]
  rw [handle, hguard]
  rfl

/-- What is extracted from that payload. -/
def sampleShortEvent : ExtractedMonnifyEvent :=
  extractFrom (samplePayload "1.00" "USD") .transactionCompletion
    (sampleShortHost.sha256 (sampleBody "1.00" "USD"))

/-- The delivery of the whole amount, past the guard. -/
def sampleFullRecord : Except ServiceError (WebhookAcknowledgement × Db) :=
  record sampleFullHost (sampleCtx 3) sampleProcessing .transactionCompletion
    (samplePayload "1000.00" "NGN") (sampleBody "1000.00" "NGN") (some sampleFullSignature)

theorem sampleFull_eq : sampleFull = sampleFullRecord := handle_signed _ _ _ _ _ _

/-- The delivery of less, past the guard. -/
def sampleShortRecord : Except ServiceError (WebhookAcknowledgement × Db) :=
  record sampleShortHost (sampleCtx 3) sampleProcessing .transactionCompletion
    (samplePayload "1.00" "USD") (sampleBody "1.00" "USD") (some sampleShortSignature)

theorem sampleShort_eq : sampleShort = sampleShortRecord := handle_signed _ _ _ _ _ _

/-- What the delivery leaves is computed without the spelling of the signature. -/
instance : Decidable (sampleFull.map (·.1) = .ok ⟨true⟩ ∧
    SettledBy sampleProcessing (committed sampleProcessing sampleFull) sampleAwaited sampleDeposited) :=
  decidable_of_iff (sampleFullRecord.map (·.1) = .ok ⟨true⟩ ∧
    SettledBy sampleProcessing (committed sampleProcessing sampleFullRecord) sampleAwaited
      sampleDeposited) (by rw [sampleFull_eq])

/-- The same for the other delivery, and for what it credits. -/
instance : Decidable (sampleShort.map (·.1) = .ok ⟨true⟩ ∧
    SettledBy sampleProcessing (committed sampleProcessing sampleShort) sampleAwaited
      sampleDeposited ∧
    ∃ t ∈ (committed sampleProcessing sampleShort).ledger.transactions.rows,
      sampleDeposited.ledgerTransactionId = some t.id ∧
      legsOn (committed sampleProcessing sampleShort).ledger t .credit .walletAvailable = 100000 ∧
      100 < legsOn (committed sampleProcessing sampleShort).ledger t .debit .providerPayable) :=
  decidable_of_iff (sampleShortRecord.map (·.1) = .ok ⟨true⟩ ∧
    SettledBy sampleProcessing (committed sampleProcessing sampleShortRecord) sampleAwaited
      sampleDeposited ∧
    ∃ t ∈ (committed sampleProcessing sampleShortRecord).ledger.transactions.rows,
      sampleDeposited.ledgerTransactionId = some t.id ∧
      legsOn (committed sampleProcessing sampleShortRecord).ledger t .credit .walletAvailable = 100000 ∧
      100 < legsOn (committed sampleProcessing sampleShortRecord).ledger t .debit .providerPayable)
    (by rw [sampleShort_eq])

end Sample

/-- The whole amount was paid, and the deposit credits what was verified. -/
theorem credits_verified_sample :
    ∃ rawBody event, (sampleRequest "1000.00" "NGN" sampleFullSignature).rawBody = some rawBody ∧
      extractMonnifyEvent (sampleRequest "1000.00" "NGN" sampleFullSignature).payload
        .transactionCompletion (sampleFullHost.sha256 rawBody) = .ok event ∧
      ∃ t ∈ (committed sampleProcessing sampleFull).ledger.transactions.rows,
        sampleDeposited.ledgerTransactionId = some t.id ∧
          (CreditsVerified (committed sampleProcessing sampleFull).ledger t event
            sampleAwaited.currency ↔ Covers event sampleAwaited) := by
  have hsample : sampleFull.map (·.1) = .ok ⟨true⟩ ∧
      SettledBy sampleProcessing (committed sampleProcessing sampleFull) sampleAwaited
        sampleDeposited := by decide +kernel
  have hempty : samplePlatform.ledger.transactions.rows = [] := rfl
  have hhandle : handle sampleFullHost sampleSettings (sampleCtx 3) sampleProcessing
      .transactionCompletion (sampleRequest "1000.00" "NGN" sampleFullSignature) =
        .ok (⟨true⟩, committed sampleProcessing sampleFull) := eq_ok_committed _ hsample.1
  exact credits_verified_iff_covers hempty (reaches_foldl _ _ _) hhandle hsample.2

/-- Less was paid, in another currency, and the whole amount is credited. -/
theorem delivery_credits_unverified :
    extractMonnifyEvent (samplePayload "1.00" "USD") .transactionCompletion
        (sampleShortHost.sha256 (sampleBody "1.00" "USD")) = .ok sampleShortEvent ∧
      sampleShort.map (·.1) = .ok ⟨true⟩ ∧
      SettledBy sampleProcessing (committed sampleProcessing sampleShort) sampleAwaited
        sampleDeposited ∧
      ∃ t ∈ (committed sampleProcessing sampleShort).ledger.transactions.rows,
        sampleDeposited.ledgerTransactionId = some t.id ∧
        legsOn (committed sampleProcessing sampleShort).ledger t .credit .walletAvailable = 100000 ∧
        ¬ CreditsVerified (committed sampleProcessing sampleShort).ledger t sampleShortEvent
          sampleAwaited.currency := by
  have hevent : sampleShortEvent.amountMinor = some 100 := by decide +kernel
  have hsample : sampleShort.map (·.1) = .ok ⟨true⟩ ∧
      SettledBy sampleProcessing (committed sampleProcessing sampleShort) sampleAwaited
        sampleDeposited ∧
      ∃ t ∈ (committed sampleProcessing sampleShort).ledger.transactions.rows,
        sampleDeposited.ledgerTransactionId = some t.id ∧
        legsOn (committed sampleProcessing sampleShort).ledger t .credit .walletAvailable = 100000 ∧
        100 < legsOn (committed sampleProcessing sampleShort).ledger t .debit .providerPayable := by
    decide +kernel
  obtain ⟨hack, hsettled, t, ht, hid, hwallet, hprovider⟩ := hsample
  refine ⟨rfl, hack, hsettled, t, ht, hid, hwallet, ?_⟩
  rintro ⟨⟨a, ha, hle⟩, -⟩
  rw [hevent, Option.some.injEq] at ha
  omega

end AjoCloud.Platform
