import AjoCloud.Kyc.Threads

/-!
# Documents under seal

What becomes of an uploaded document: it is read from base64, sealed, stored, and opened again for a
reviewer.  `Kyc.Threads` follows the rows that staging reads; here are the columns beside them.
-/

namespace AjoCloud.Kyc

open Lib ServiceError

/-! ## Base64 -/

/-- Groups of six bits; the last ones are filled up with zeros. -/
def sextets : List UInt8 → List Nat
  | a :: b :: c :: rest =>
      a.toNat / 4 :: (a.toNat % 4 * 16 + b.toNat / 16) :: (b.toNat % 16 * 4 + c.toNat / 64) ::
        c.toNat % 64 :: sextets rest
  | [a, b] => [a.toNat / 4, a.toNat % 4 * 16 + b.toNat / 16, b.toNat % 16 * 4]
  | [a] => [a.toNat / 4, a.toNat % 4 * 16]
  | [] => []

/-- The character of six bits. -/
def base64Char (n : Nat) : Char :=
  if n < 26 then Char.ofNat (n + 65)
  else if n < 52 then Char.ofNat (n + 71)
  else if n < 62 then Char.ofNat (n - 4)
  else if n = 62 then '+'
  else '/'

/-- `bytes.toString('base64')`. -/
def toBase64 (bytes : List UInt8) : String :=
  String.ofList ((sextets bytes).map base64Char ++
    List.replicate ((3 - bytes.length % 3) % 3) '=')

theorem lt_of_mem_sextets {bytes : List UInt8} {n : Nat} (h : n ∈ sextets bytes) : n < 64 := by
  fun_induction sextets bytes with
  | case1 a b c rest ih =>
      have ha := a.toNat_lt
      have hb := b.toNat_lt
      have hc := c.toNat_lt
      simp only [List.mem_cons] at h
      rcases h with rfl | rfl | rfl | rfl | h
      · omega
      · omega
      · omega
      · omega
      · exact ih h
  | case2 a b =>
      have ha := a.toNat_lt
      have hb := b.toNat_lt
      simp only [List.mem_cons, List.not_mem_nil, or_false] at h
      omega
  | case3 a =>
      have ha := a.toNat_lt
      simp only [List.mem_cons, List.not_mem_nil, or_false] at h
      omega
  | case4 => cases h

/-- The bytes are put together again. -/
theorem bytesOf_sextets (bytes : List UInt8) : bytesOf (sextets bytes) = bytes := by
  have hbyte : ∀ (n : Nat) (b : UInt8), n % 256 = b.toNat → UInt8.ofNat n = b := by
    intro n b h
    rw [← UInt8.toNat_inj, UInt8.toNat_ofNat', h]
  fun_induction sextets bytes with
  | case1 a b c rest ih =>
      have ha := a.toNat_lt
      have hb := b.toNat_lt
      have hc := c.toNat_lt
      rw [bytesOf, ih, hbyte _ a (by omega), hbyte _ b (by omega), hbyte _ c (by omega)]
  | case2 a b =>
      have ha := a.toNat_lt
      have hb := b.toNat_lt
      rw [bytesOf, hbyte _ a (by omega), hbyte _ b (by omega)]
  | case3 a =>
      have ha := a.toNat_lt
      rw [bytesOf, hbyte _ a (by omega)]
  | case4 => rfl

/-- Every character is read as what it was written for. -/
theorem sixBits_base64Char {n : Nat} (h : n < 64) : sixBits (base64Char n) = some n ∧ base64Char n ≠ '=' := by
  have hall : ∀ n : Fin 64, sixBits (base64Char n) = some n.val ∧ base64Char n ≠ '=' := by decide
  exact hall ⟨n, h⟩

/-- **What was written as base64 is read back.** -/
theorem fromBase64_toBase64 (bytes : List UInt8) : fromBase64 (toBase64 bytes).toList = bytes := by
  have hread : ((sextets bytes).map base64Char).filterMap sixBits = sextets bytes := by
    rw [List.filterMap_map]
    exact (List.filterMap_congr fun n hn ↦ (sixBits_base64Char (lt_of_mem_sextets hn)).1).trans
      List.filterMap_some
  have hstop : ((toBase64 bytes).toList.takeWhile (· ≠ '=')) = (sextets bytes).map base64Char := by
    rw [toBase64, String.toList_ofList, List.takeWhile_append_of_pos]
    · cases h : (3 - bytes.length % 3) % 3 with
      | zero => simp
      | succ k => simp [List.replicate_succ]
    · intro c hc
      obtain ⟨n, hn, rfl⟩ := List.mem_map.mp hc
      exact decide_eq_true (sixBits_base64Char (lt_of_mem_sextets hn)).2
  rw [fromBase64, hstop, hread, bytesOf_sextets]

/-! ## Seals -/

def FORMAT_VERSION : UInt8 := 1
def IV_BYTES : Nat := 12
def TAG_BYTES : Nat := 16

/-- What a deployment seals its documents with. -/
structure Vault where
  /-- `aes-256-gcm`: the ciphertext and the tag, for a key, an initialisation vector and a text. -/
  encrypt : List UInt8 → List UInt8 → List UInt8 → List UInt8 × List UInt8
  /-- Its inverse, for a key, an initialisation vector, a tag and a ciphertext. -/
  decrypt : List UInt8 → List UInt8 → List UInt8 → List UInt8 → Option (List UInt8)
  /-- `hkdfSync('sha256', secret, salt, info, 32)`. -/
  hkdf : String → String → String → List UInt8
  /-- `sha256` in hexadecimal. -/
  sha256 : List UInt8 → String
  /-- `TOKEN_PEPPER`. -/
  tokenPepper : String

/-- What the cipher is relied on for. -/
structure Vault.Works (vault : Vault) : Prop where
  opens : ∀ key iv plain,
    vault.decrypt key iv (vault.encrypt key iv plain).2 (vault.encrypt key iv plain).1 = some plain
  tag : ∀ key iv plain, (vault.encrypt key iv plain).2.length = TAG_BYTES

/-- `randomBytes(12)`. -/
abbrev Iv := { iv : List UInt8 // iv.length = IV_BYTES }

/-- `documentKey`. -/
def documentKey (vault : Vault) : List UInt8 := vault.hkdf vault.tokenPepper "ajocloud" "kyc-document-v1"

/-- `contentDigest`. -/
def contentDigest (vault : Vault) (bytes : List UInt8) : String := vault.sha256 bytes

/-- `encryptDocument`: the version, the initialisation vector, the tag and the ciphertext. -/
def encryptDocument (vault : Vault) (iv : Iv) (plain key : List UInt8) : List UInt8 :=
  FORMAT_VERSION :: (iv.val ++ (vault.encrypt key iv.val plain).2 ++ (vault.encrypt key iv.val plain).1)

/-- `decryptDocument`. -/
def decryptDocument (vault : Vault) (sealedBytes key : List UInt8) : Except ServiceError (List UInt8) := do
  require (sealedBytes.head? = some FORMAT_VERSION) (.plain "Unknown document format")
  let iv := (sealedBytes.drop 1).take IV_BYTES
  let tag := (sealedBytes.drop (1 + IV_BYTES)).take TAG_BYTES
  orThrow (vault.decrypt key iv tag (sealedBytes.drop (1 + IV_BYTES + TAG_BYTES)))
    (.plain "Unsupported state or unable to authenticate data")

variable {vault : Vault}

/-- The parts are found where they were put. -/
theorem decryptDocument_parts {key iv tag body plain : List UInt8} (hiv : iv.length = IV_BYTES)
    (htag : tag.length = TAG_BYTES) (hopens : vault.decrypt key iv tag body = some plain) :
    decryptDocument vault (FORMAT_VERSION :: (iv ++ tag ++ body)) key = .ok plain := by
  have hskip : ∀ n, (FORMAT_VERSION :: (iv ++ (tag ++ body))).drop (1 + n) = (iv ++ (tag ++ body)).drop n :=
    fun n ↦ by rw [Nat.add_comm, List.drop_succ_cons]
  have hiv₁ : (iv ++ (tag ++ body)).take IV_BYTES = iv := List.take_left' hiv
  have hiv₂ : (iv ++ (tag ++ body)).drop IV_BYTES = tag ++ body := List.drop_left' hiv
  have htag₁ : (tag ++ body).take TAG_BYTES = tag := List.take_left' htag
  have htag₂ : (tag ++ body).drop TAG_BYTES = body := List.drop_left' htag
  rw [decryptDocument, List.append_assoc, require_of (by rfl), Nat.add_assoc, hskip, hskip,
    ← List.drop_drop, hiv₂, htag₁, htag₂]
  simp only [List.drop_succ_cons, List.drop_zero]
  rw [hiv₁]
  exact orThrow_eq_ok.mpr hopens

/-- **What was sealed opens again.** -/
theorem decryptDocument_encryptDocument (hworks : vault.Works) (iv : Iv) (plain key : List UInt8) :
    decryptDocument vault (encryptDocument vault iv plain key) key = .ok plain :=
  decryptDocument_parts iv.property (hworks.tag key iv.val plain) (hworks.opens key iv.val plain)

/-! ## The archive -/

/-- The columns of a document that staging does not read. -/
structure DocumentColumns where
  id : Uuid
  kycProfileId : Uuid
  type : String
  contentHash : String
  contentType : Option String
  sizeBytes : Nat
  ciphertext : Option (List UInt8)
deriving DecidableEq

/-- What an upload stores. -/
def documentColumns (vault : Vault) (iv : Iv) (id kycProfileId : Uuid) (dto : UploadIdentityDocumentDto)
    (bytes : List UInt8) : DocumentColumns where
  id := id
  kycProfileId := kycProfileId
  type := dto.type
  contentHash := contentDigest vault bytes
  contentType := some dto.contentType
  sizeBytes := bytes.length
  ciphertext := some (encryptDocument vault iv bytes (documentKey vault))

/-- Verification, with the sealed documents; and what no row keeps, the uploads that were asked for. -/
structure Archive where
  verification : Verification
  columns : List DocumentColumns
  received : List (Uuid × UploadIdentityDocumentDto)

/-- What a step of the archive is told. -/
structure Draw where
  told : Told
  iv : Iv

/-- The columns that a step adds. -/
def newColumns (vault : Vault) (o : Draw) (v : Verification) : Thread → List DocumentColumns
  | .documentResult _ dto kycProfileId =>
      match storeDocument o.told.ctx kycProfileId dto.type v.db, inspectDocument dto.data dto.contentType with
      | .ok (document, _), .ok bytes => [documentColumns vault o.iv document.id kycProfileId dto bytes]
      | _, _ => []
  | _ => []

/-- The upload that a request begins with. -/
def Thread.asked : Thread → List (Uuid × UploadIdentityDocumentDto)
  | .document userId dto => [(userId, dto)]
  | _ => []

/-- One step of a request. -/
def archive (host : Host) (vault : Vault) (o : Draw) (s : Archive) (t : Thread) : Archive × Option Thread :=
  (⟨(exec host o.told s.verification t).1, s.columns ++ newColumns vault o s.verification t,
    s.received ++ t.asked⟩, (exec host o.told s.verification t).2)

/-- What a reviewer is shown. -/
structure DocumentView where
  id : Uuid
  type : String
  contentType : String
  data : String
deriving DecidableEq

/-- `getDocument`. -/
def getDocument (vault : Vault) (s : Archive) (kycProfileId documentId : Uuid) :
    Except ServiceError DocumentView := do
  let missing := notFound "Document was not found"
  let document ← orThrow (s.columns.find? fun c ↦ c.id = documentId && c.kycProfileId = kycProfileId) missing
  let ciphertext ← orThrow document.ciphertext missing
  let contentType ← orThrow (document.contentType.filter (· ≠ "")) missing
  let plain ← decryptDocument vault ciphertext (documentKey vault)
  pure ⟨document.id, document.type, contentType, toBase64 plain⟩

/-! ## What an upload passes -/

/-- A file that is accepted is not empty and not too large, and begins as its type says. -/
theorem inspectDocument_eq_ok {base64 declaredType : String} {bytes : List UInt8}
    (h : inspectDocument base64 declaredType = .ok bytes) :
    bytes = fromBase64 (withoutDataUrl base64.toList) ∧ bytes ≠ [] ∧ bytes.length ≤ MAX_DOCUMENT_BYTES ∧
      ∃ signature, (declaredType, signature) ∈ SIGNATURES ∧ signature.isPrefixOf bytes = true := by
  simp only [inspectDocument] at h
  split at h
  · cases h
  · next hempty =>
      split at h
      · cases h
      · next hlarge =>
          split at h
          · cases h
          · next detected hdetected =>
              split at h
              · cases h
              · next hsame =>
                  cases h
                  rw [not_not] at hsame
                  refine ⟨rfl, fun hnil ↦ hempty (by rw [hnil]; rfl), not_lt.mp hlarge, detected.2, ?_, ?_⟩
                  · rw [← hsame]
                    exact List.mem_of_find?_eq_some hdetected
                  · simpa using List.find?_some hdetected

theorem declaredType_ne_empty {base64 declaredType : String} {bytes : List UInt8}
    (h : inspectDocument base64 declaredType = .ok bytes) : declaredType ≠ "" := by
  obtain ⟨-, -, -, signature, hsignature, -⟩ := inspectDocument_eq_ok h
  rintro rfl
  simp [SIGNATURES] at hsignature

/-! ## Every run -/

variable {host : Host} {o : Draw} {s s' : Archive} {t t' : Thread}

/-- Profiles stay, and stay their users'. -/
def ProfilesStay (db db' : Db) : Prop :=
  ∀ p ∈ db.kyc.profiles.rows, ∃ p' ∈ db'.kyc.profiles.rows, p'.id = p.id ∧ p'.userId = p.userId

theorem ProfilesStay.of_same {db db' : Db} (h : db'.kyc.profiles = db.kyc.profiles) : ProfilesStay db db' :=
  fun p hp ↦ ⟨p, h ▸ hp, rfl, rfl⟩

theorem ProfilesStay.of_insert {db db' : Db} {profile : KycProfile}
    (h : insertRow db.kyc.profiles profile = .ok db'.kyc.profiles) : ProfilesStay db db' := by
  intro p hp
  refine ⟨p, ?_, rfl, rfl⟩
  rw [insertRow_eq_ok h]
  exact List.mem_append_left _ hp

theorem ProfilesStay.of_update {db db' : Db} {picks : KycProfile → Bool} {write : KycProfile → KycProfile}
    (h : updateRow db.kyc.profiles picks write = .ok db'.kyc.profiles)
    (hwrite : ∀ p, (write p).id = p.id ∧ (write p).userId = p.userId) : ProfilesStay db db' := by
  intro p hp
  refine ⟨if picks p then write p else p, ?_, ?_⟩
  · rw [updateRow_eq_ok h]
    exact List.mem_map_of_mem hp
  · split
    · exact hwrite p
    · exact ⟨rfl, rfl⟩

/-- A step that stores no document leaves the documents alone, and every step leaves profiles their
users'. -/
theorem Effect.documents {told : Told} {v v' : Verification} (h : Effect host told v t v')
    (helsewhere : ∀ db', t = .elsewhere db' → Elsewhere v.db db') :
    ProfilesStay v.db v'.db ∧
      ((∀ userId dto kycProfileId, t ≠ .documentResult userId dto kycProfileId) →
        v'.db.kyc.documents = v.db.kyc.documents) := by
  cases h with
  | idle => exact ⟨.of_same rfl, fun _ ↦ rfl⟩
  | sent => exact ⟨.of_same rfl, fun _ ↦ rfl⟩
  | profileCreated _ _ h =>
      obtain ⟨_, hinsert, -, rfl⟩ := createProfile_eq_ok h
      exact ⟨.of_insert hinsert, fun _ ↦ rfl⟩
  | profileMarked _ hwrite h =>
      obtain ⟨_, hupdate, rfl⟩ := updateProfile_eq_ok h
      refine ⟨.of_update hupdate fun p ↦ ?_, fun _ ↦ rfl⟩
      rcases hwrite with rfl | rfl
      · exact ⟨rfl, rfl⟩
      · exact ⟨rfl, rfl⟩
  | accountLinked => exact ⟨.of_same rfl, fun _ ↦ rfl⟩
  | checkStored _ _ h =>
      obtain ⟨-, _, -, rfl⟩ := createCheck_eq_ok h
      exact ⟨.of_same rfl, fun _ ↦ rfl⟩
  | identityStored _ h =>
      obtain ⟨-, _, -, rfl⟩ := createCheck_eq_ok h
      exact ⟨.of_same rfl, fun _ ↦ rfl⟩
  | documentStored _ h hof =>
      obtain ⟨userId, dto, rfl, -⟩ := hof
      obtain ⟨_, _, -, hupdate, rfl⟩ := storeDocument_eq_ok h
      exact ⟨.of_update hupdate fun p ↦ ⟨rfl, rfl⟩, fun hother ↦ absurd rfl (hother _ _ _)⟩
  | detailsWritten _ h =>
      obtain ⟨_, -, rfl⟩ := updateUserProfile_eq_ok h
      exact ⟨.of_same rfl, fun _ ↦ rfl⟩
  | tierWritten h =>
      rename_i userId level existing db'
      cases existing with
      | none =>
          simp only [writeTier, bind_eq_ok, pure_eq_ok, Prod.mk.injEq] at h
          obtain ⟨⟨profile, db₁⟩, hcreate, -, rfl⟩ := h
          obtain ⟨_, hinsert, -, rfl⟩ := createProfile_eq_ok hcreate
          exact ⟨.of_insert hinsert, fun _ ↦ rfl⟩
      | some existing =>
          obtain ⟨_, hupdate, rfl⟩ := updateProfile_eq_ok h
          exact ⟨.of_update hupdate fun p ↦ ⟨rfl, rfl⟩, fun _ ↦ rfl⟩
  | decided h =>
      obtain ⟨_, _, _, _, -, -, -, hupdate, -, rfl⟩ := decideReview_eq_ok h
      exact ⟨.of_update hupdate fun p ↦ ⟨rfl, rfl⟩, fun _ ↦ rfl⟩
  | elsewhere =>
      have hsame := helsewhere _ rfl
      exact ⟨.of_same hsame.profiles, fun _ ↦ hsame.documents⟩

/-- An upload under way was asked for and can be read; once its profile is known, it is the user's. -/
def Uploading (s : Archive) : Thread → Prop
  | .documentProfile userId dto =>
      (userId, dto) ∈ s.received ∧ ∃ bytes, inspectDocument dto.data dto.contentType = .ok bytes
  | .documentResult userId dto kycProfileId =>
      ((userId, dto) ∈ s.received ∧ ∃ bytes, inspectDocument dto.data dto.contentType = .ok bytes) ∧
        ∃ p ∈ s.verification.db.kyc.profiles.rows, p.id = kycProfileId ∧ p.userId = userId
  | _ => True

/-- The profile that was found or made is the user's. -/
theorem mem_of_ensureKycProfile {ctx : Ctx} {userId : Uuid} {db db' : Db} {profile : KycProfile}
    (h : ensureKycProfile ctx userId db = .ok (profile, db')) :
    profile ∈ db'.kyc.profiles.rows ∧ profile.userId = userId := by
  unfold ensureKycProfile at h
  split at h
  · next hfind =>
      cases h
      exact ⟨Table.mem_of_find? hfind, by simpa using Table.prop_of_find? hfind⟩
  · obtain ⟨_, hinsert, rfl, rfl⟩ := createProfile_eq_ok h
    refine ⟨?_, rfl⟩
    rw [insertRow_eq_ok hinsert]
    exact List.mem_append_right _ (List.mem_singleton_self _)

/-- An upload goes on with what it has just passed. -/
theorem uploading_archive (h : Uploading s t) (hnext : (archive host vault o s t).2 = some t') :
    Uploading (archive host vault o s t).1 t' := by
  have hnext : (exec host o.told s.verification t).2 = some t' := hnext
  cases t with
  | document userId dto =>
      obtain ⟨_, hok, hgoes⟩ := Verification.next_of_read hnext
      cases hgoes
      simp only [assertDocumentReadable, bind_eq_ok, mapError_eq_ok] at hok
      obtain ⟨_, -, _, -, bytes, hbytes, -⟩ := hok
      exact ⟨List.mem_append_right _ (List.mem_singleton_self _), bytes, hbytes⟩
  | documentProfile userId dto =>
      obtain ⟨profile, db', hensure, hgoes, hdb⟩ := Verification.next_of_write hnext
      cases hgoes
      obtain ⟨hprofile, hown⟩ := mem_of_ensureKycProfile hensure
      refine ⟨⟨List.mem_append_left _ h.1, h.2⟩, profile, ?_, rfl, hown⟩
      rw [← hdb] at hprofile
      exact hprofile
  | identity | identityName | bank | address | addressSave =>
      obtain ⟨_, -, hgoes⟩ := Verification.next_of_read hnext
      cases hgoes
      trivial
  | identityProfile | bankProfile | addressProfile | bankAccount | bankResult | documentResult
  | hold | basicInfo | personalDetails =>
      obtain ⟨_, _, -, hgoes, -⟩ := Verification.next_of_write hnext
      cases hgoes
      trivial
  | exhausted | profile | syncWrite =>
      obtain ⟨_, _, -, hgoes, -⟩ := Verification.next_of_write hnext
      cases hgoes
  | identityBudget userId dto kycProfileId =>
      rcases next_of_budget hnext with rfl | ⟨_, rfl, -⟩
      · trivial
      · trivial
  | addressBudget userId dto kycProfileId =>
      rcases next_of_budget hnext with rfl | ⟨_, rfl, -⟩
      · trivial
      · trivial
  | identityLookup =>
      obtain ⟨_, -, hgoes⟩ := Verification.next_of_read hnext
      cases hgoes
      trivial
  | identityResult userId dto kycProfileId lookup profile outcome =>
      rcases next_of_storeIdentity hnext with rfl | rfl
      · trivial
      · trivial
  | addressResult userId dto kycProfileId ninCheck =>
      obtain ⟨_, _, -, hgoes, -⟩ := Verification.next_of_write hnext
      rcases next_of_afterAddress hgoes with rfl | rfl
      · trivial
      · trivial
  | status | sync | addressRecord | review =>
      cases hnext
      trivial
  | statusProfile | syncProfile =>
      rw [exec] at hnext
      split at hnext
      · cases hnext
        trivial
      · cases hnext
  | decide reviewerId kycProfileId decision reason tier seen =>
      rw [exec, next_of_storeDecision] at hnext
      cases hnext
  | elsewhere db' => cases hnext

/-- Where the columns of a document come from. -/
def FromUpload (vault : Vault) (s : Archive) (c : DocumentColumns) : Prop :=
  ∃ userId dto bytes iv, (userId, dto) ∈ s.received ∧ inspectDocument dto.data dto.contentType = .ok bytes ∧
    (∃ p ∈ s.verification.db.kyc.profiles.rows, p.id = c.kycProfileId ∧ p.userId = userId) ∧
    c = documentColumns vault iv c.id c.kycProfileId dto bytes

/-- Every document has its columns, and these are the seal of an upload. -/
structure Filed (vault : Vault) (s : Archive) : Prop where
  kept : ∀ d ∈ s.verification.db.kyc.documents.rows,
    ∃ c ∈ s.columns, c.id = d.id ∧ c.kycProfileId = d.kycProfileId ∧ c.type = d.type
  known : ∀ c ∈ s.columns, ∃ d ∈ s.verification.db.kyc.documents.rows, d.id = c.id
  unique : ∀ c ∈ s.columns, ∀ c' ∈ s.columns, c.id = c'.id → c = c'
  uploaded : ∀ c ∈ s.columns, FromUpload vault s c

/-- What is true of an upload stays true. -/
theorem FromUpload.mono {c : DocumentColumns} (h : FromUpload vault s c)
    (hstay : ProfilesStay s.verification.db s'.verification.db) (hreceived : s.received ⊆ s'.received) :
    FromUpload vault s' c := by
  obtain ⟨userId, dto, bytes, iv, hmem, hbytes, ⟨p, hp, hid, hown⟩, heq⟩ := h
  obtain ⟨p', hp', hid', hown'⟩ := hstay p hp
  exact ⟨userId, dto, bytes, iv, hreceived hmem, hbytes, ⟨p', hp', hid'.trans hid, hown'.trans hown⟩, heq⟩

theorem Uploading.mono {u : Thread} (h : Uploading s u)
    (hstay : ProfilesStay s.verification.db s'.verification.db) (hreceived : s.received ⊆ s'.received) :
    Uploading s' u := by
  cases u with
  | documentProfile userId dto => exact ⟨hreceived h.1, h.2⟩
  | documentResult userId dto kycProfileId =>
      obtain ⟨⟨hmem, hbytes⟩, p, hp, hid, hown⟩ := h
      obtain ⟨p', hp', hid', hown'⟩ := hstay p hp
      exact ⟨⟨hreceived hmem, hbytes⟩, p', hp', hid'.trans hid, hown'.trans hown⟩
  | _ => trivial

/-- What storing a document does to the rows: those before it may be superseded, and it comes last. -/
theorem rows_of_storeDocument {ctx : Ctx} {kycProfileId : Uuid} {type : String} {db db' : Db}
    {document : VerificationDocument} (h : storeDocument ctx kycProfileId type db = .ok (document, db')) :
    document.kycProfileId = kycProfileId ∧ document.type = type ∧ ProfilesStay db db' ∧
      (∀ d ∈ db.kyc.documents.rows, d.id ≠ document.id) ∧
      ∃ supersede : VerificationDocument → VerificationDocument,
        (∀ d, (supersede d).id = d.id ∧ (supersede d).kycProfileId = d.kycProfileId ∧
          (supersede d).type = d.type) ∧
        db'.kyc.documents.rows = db.kyc.documents.rows.map supersede ++ [document] := by
  simp only [storeDocument, bind_eq_ok, pure_eq_ok, Prod.mk.injEq] at h
  obtain ⟨documents, hinsert, profiles, hupdate, rfl, rfl⟩ := h
  have hrows := insertRow_eq_ok hinsert
  have hfresh := not_clash_of_insertRow hinsert
  rw [Table.rows_modify] at hrows hfresh
  refine ⟨rfl, rfl, .of_update hupdate fun p ↦ ⟨rfl, rfl⟩, fun d hd ↦ ?_, _, fun d ↦ ?_, hrows⟩
  · have hother := hfresh _ (List.mem_map_of_mem hd)
    split at hother
    · exact hother
    · exact hother
  · split
    · exact ⟨rfl, rfl, rfl⟩
    · exact ⟨rfl, rfl, rfl⟩

/-- A document is filed. -/
theorem Filed.store (h : Filed vault s) {ctx : Ctx} {userId kycProfileId : Uuid}
    {dto : UploadIdentityDocumentDto} {document : VerificationDocument} {bytes : List UInt8} (iv : Iv)
    (ht : Uploading s (.documentResult userId dto kycProfileId))
    (hbytes : inspectDocument dto.data dto.contentType = .ok bytes) {db' : Db}
    (hstore : storeDocument ctx kycProfileId dto.type s.verification.db = .ok (document, db'))
    (hdb : s'.verification.db = db') (hreceived : s.received ⊆ s'.received)
    (hcolumns : s'.columns = s.columns ++ [documentColumns vault iv document.id kycProfileId dto bytes]) :
    Filed vault s' := by
  obtain ⟨howner, htype, hstay, hfresh, supersede, hsame, hrows⟩ := rows_of_storeDocument hstore
  rw [← hdb] at hrows hstay
  have hdocument : document ∈ s'.verification.db.kyc.documents.rows := by
    rw [hrows]
    exact List.mem_append_right _ (List.mem_singleton_self _)
  have hnew : documentColumns vault iv document.id kycProfileId dto bytes ∈ s'.columns := by
    rw [hcolumns]
    exact List.mem_append_right _ (List.mem_singleton_self _)
  -- Nothing was filed under the identifier that was drawn.
  have hother : ∀ c ∈ s.columns, c.id ≠ document.id := by
    intro c hc heq
    obtain ⟨d, hd, hid⟩ := h.known c hc
    exact hfresh d hd (hid.trans heq)
  have hcases : ∀ c ∈ s'.columns, c ∈ s.columns ∨
      c = documentColumns vault iv document.id kycProfileId dto bytes := by
    intro c hc
    rw [hcolumns, List.mem_append, List.mem_singleton] at hc
    exact hc
  constructor
  · intro d hd
    rw [hrows, List.mem_append, List.mem_map, List.mem_singleton] at hd
    obtain ⟨d₀, hd₀, rfl⟩ | rfl := hd
    · obtain ⟨c, hc, hid, hprofile, hkind⟩ := h.kept d₀ hd₀
      refine ⟨c, ?_, hid.trans (hsame d₀).1.symm, hprofile.trans (hsame d₀).2.1.symm,
        hkind.trans (hsame d₀).2.2.symm⟩
      rw [hcolumns]
      exact List.mem_append_left _ hc
    · exact ⟨_, hnew, rfl, howner.symm, htype.symm⟩
  · intro c hc
    rcases hcases c hc with hold | rfl
    · obtain ⟨d, hd, hid⟩ := h.known c hold
      refine ⟨supersede d, ?_, (hsame d).1.trans hid⟩
      rw [hrows]
      exact List.mem_append_left _ (List.mem_map_of_mem hd)
    · exact ⟨document, hdocument, rfl⟩
  · intro c hc c' hc' heq
    rcases hcases c hc with hold | rfl
    · rcases hcases c' hc' with hold' | rfl
      · exact h.unique c hold c' hold' heq
      · exact absurd heq (hother c hold)
    · rcases hcases c' hc' with hold' | rfl
      · exact absurd heq.symm (hother c' hold')
      · rfl
  · intro c hc
    rcases hcases c hc with hold | rfl
    · exact (h.uploaded c hold).mono hstay hreceived
    · obtain ⟨⟨hmem, -⟩, p, hp, hid, hown⟩ := ht
      obtain ⟨p', hp', hid', hown'⟩ := hstay p hp
      exact ⟨userId, dto, bytes, iv, hreceived hmem, hbytes, ⟨p', hp', hid'.trans hid, hown'.trans hown⟩, rfl⟩

/-- Where no document is stored, what was filed stays. -/
theorem Filed.same (h : Filed vault s) (hdocuments : s'.verification.db.kyc.documents =
      s.verification.db.kyc.documents) (hcolumns : s'.columns = s.columns)
    (hstay : ProfilesStay s.verification.db s'.verification.db) (hreceived : s.received ⊆ s'.received) :
    Filed vault s' where
  kept := by
    rw [hdocuments, hcolumns]
    exact h.kept
  known := by
    rw [hdocuments, hcolumns]
    exact h.known
  unique := by
    rw [hcolumns]
    exact h.unique
  uploaded c hc := (h.uploaded c (hcolumns ▸ hc)).mono hstay hreceived

/-- Only storing a document adds columns. -/
theorem newColumns_of_ne {v : Verification}
    (h : ∀ userId dto kycProfileId, t ≠ .documentResult userId dto kycProfileId) :
    newColumns vault o v t = [] := by
  unfold newColumns
  split
  · exact absurd rfl (h _ _ _)
  · rfl

theorem filed_archive (h : Filed vault s) (ht : Uploading s t)
    (helsewhere : ∀ db', t = .elsewhere db' → Elsewhere s.verification.db db') :
    Filed vault (archive host vault o s t).1 := by
  obtain ⟨hstay, hsame⟩ := (exec_effect host o.told s.verification t).documents helsewhere
  have hreceived : s.received ⊆ (archive host vault o s t).1.received := List.subset_append_left _ _
  by_cases hresult : ∃ userId dto kycProfileId, t = .documentResult userId dto kycProfileId
  · obtain ⟨userId, dto, kycProfileId, rfl⟩ := hresult
    obtain ⟨bytes, hbytes⟩ := ht.1.2
    cases hstore : storeDocument o.told.ctx kycProfileId dto.type s.verification.db with
    | ok answer =>
        obtain ⟨document, db'⟩ := answer
        refine h.store o.iv ht hbytes hstore ?_ hreceived ?_
        · simp only [archive, exec, Verification.write, hstore]
        · simp only [archive, newColumns, hstore, hbytes]
    | error e =>
        refine h.same ?_ ?_ hstay hreceived
        · simp only [archive, exec, Verification.write, hstore]
        · simp only [archive, newColumns, hstore, List.append_nil]
  · have hother : ∀ userId dto kycProfileId, t ≠ .documentResult userId dto kycProfileId :=
      fun userId dto kycProfileId heq ↦ hresult ⟨userId, dto, kycProfileId, heq⟩
    refine h.same (hsame hother) ?_ hstay hreceived
    simp only [archive, newColumns_of_ne hother, List.append_nil]

/-- What a reviewer is shown of an upload. -/
theorem getDocument_of_find? (hworks : vault.Works) {c : DocumentColumns} {kycProfileId documentId : Uuid}
    {iv : Iv} {dto : UploadIdentityDocumentDto} {bytes : List UInt8}
    (hfind : s.columns.find? (fun c ↦ c.id = documentId && c.kycProfileId = kycProfileId) = some c)
    (hbytes : inspectDocument dto.data dto.contentType = .ok bytes)
    (hc : c = documentColumns vault iv c.id c.kycProfileId dto bytes) :
    getDocument vault s kycProfileId documentId = .ok ⟨c.id, dto.type, dto.contentType, toBase64 bytes⟩ := by
  have hciphertext : c.ciphertext = some (encryptDocument vault iv bytes (documentKey vault)) := by rw [hc]; rfl
  have htype : c.type = dto.type := by rw [hc]; rfl
  have hcontent : c.contentType.filter (· ≠ "") = some dto.contentType := by
    rw [hc]
    exact Option.filter_eq_some_iff.mpr ⟨rfl, decide_eq_true (declaredType_ne_empty hbytes)⟩
  simp only [getDocument, bind_eq_ok, orThrow_eq_ok, pure_eq_ok]
  refine ⟨c, hfind, _, hciphertext, _, hcontent, bytes, decryptDocument_encryptDocument hworks iv bytes _, ?_⟩
  rw [htype]

/-- A document that was asked for with success is filed. -/
theorem exists_of_getDocument {kycProfileId documentId : Uuid} {view : DocumentView}
    (h : getDocument vault s kycProfileId documentId = .ok view) :
    ∃ c ∈ s.columns, s.columns.find? (fun c ↦ c.id = documentId && c.kycProfileId = kycProfileId) = some c ∧
      c.id = documentId ∧ c.kycProfileId = kycProfileId := by
  simp only [getDocument, bind_eq_ok, orThrow_eq_ok] at h
  obtain ⟨c, hfind, -⟩ := h
  have hc := List.find?_some hfind
  rw [Bool.and_eq_true, decide_eq_true_eq, decide_eq_true_eq] at hc
  exact ⟨c, List.mem_of_find?_eq_some hfind, hfind, hc⟩

/-- **A reviewer is shown what was uploaded.**  However the requests of users and reviewers interleave,
every document that is stored, also one that was superseded, can be opened under its profile; and whatever
a reviewer is shown was uploaded by the user of that profile, byte for byte, and begins as the type that
it is shown under. -/
theorem reviewer_sees_upload (hworks : vault.Works) {start q : Pool Archive Thread}
    (hdocuments : start.shared.verification.db.kyc.documents.rows = []) (hcolumns : start.shared.columns = [])
    (hidle : start.threads = [])
    (hrun : Reaches (Pool.advance (archive host vault)) (Pool.Admitted (fun _ t ↦ t.isRequest = true)
      fun _ s t ↦ ∀ db', t = .elsewhere db' → Elsewhere s.verification.db db') start q) :
    (∀ d ∈ q.shared.verification.db.kyc.documents.rows, ∃ view,
        getDocument vault q.shared d.kycProfileId d.id = .ok view ∧ view.type = d.type) ∧
      ∀ kycProfileId documentId view, getDocument vault q.shared kycProfileId documentId = .ok view →
        ∃ userId dto, (userId, dto) ∈ q.shared.received ∧
          (∃ p ∈ q.shared.verification.db.kyc.profiles.rows, p.id = kycProfileId ∧ p.userId = userId) ∧
          view.type = dto.type ∧ view.contentType = dto.contentType ∧
          fromBase64 view.data.toList = fromBase64 (withoutDataUrl dto.data.toList) ∧
          ∃ signature, (view.contentType, signature) ∈ SIGNATURES ∧
            signature.isPrefixOf (fromBase64 view.data.toList) = true := by
  have hholds : Pool.Holds (Filed vault) Uploading q := by
    refine Pool.invariant_of_guarantees hrun ⟨⟨?_, ?_, ?_, ?_⟩, ?_⟩ ?_ ?_
    · simp [hdocuments]
    · simp [hcolumns]
    · simp [hcolumns]
    · simp [hcolumns]
    · simp [hidle]
    · intro s t _ hstarts
      cases t with
      | documentProfile | documentResult => cases hstarts
      | _ => trivial
    · intro o s t hs ht helsewhere
      have hstay := ((exec_effect host o.told s.verification t).documents helsewhere).1
      exact ⟨filed_archive hs ht helsewhere, fun t' hnext ↦ uploading_archive ht hnext,
        fun u hu ↦ hu.mono hstay (List.subset_append_left _ _)⟩
  have hfiled := hholds.shared
  constructor
  · intro d hd
    obtain ⟨c, hc, hid, howner, htype⟩ := hfiled.kept d hd
    obtain ⟨userId, dto, bytes, iv, -, hbytes, -, heq⟩ := hfiled.uploaded c hc
    have hfind : q.shared.columns.find? (fun c ↦ c.id = d.id && c.kycProfileId = d.kycProfileId) = some c := by
      cases hfind : q.shared.columns.find? (fun c ↦ c.id = d.id && c.kycProfileId = d.kycProfileId) with
      | none =>
          have hnot := List.find?_eq_none.mp hfind c hc
          exact absurd (by simp [hid, howner]) hnot
      | some c' =>
          have hc' := List.find?_some hfind
          rw [Bool.and_eq_true, decide_eq_true_eq, decide_eq_true_eq] at hc'
          rw [hfiled.unique c' (List.mem_of_find?_eq_some hfind) c hc (hc'.1.trans hid.symm)]
    refine ⟨_, getDocument_of_find? hworks hfind hbytes heq, ?_⟩
    rw [← htype, heq]
    rfl
  · intro kycProfileId documentId view hview
    obtain ⟨c, hc, hfind, -, rfl⟩ := exists_of_getDocument hview
    obtain ⟨userId, dto, bytes, iv, hmem, hbytes, howner, heq⟩ := hfiled.uploaded c hc
    rw [getDocument_of_find? hworks hfind hbytes heq] at hview
    cases hview
    obtain ⟨hread, -, -, signature, hsignature, hprefix⟩ := inspectDocument_eq_ok hbytes
    refine ⟨userId, dto, hmem, howner, rfl, rfl, ?_, signature, hsignature, ?_⟩
    · rw [fromBase64_toBase64, hread]
    · rw [fromBase64_toBase64]
      exact hprefix

/-! ### A photo of a NIN slip -/

section Sample

/-- The key that is derived from the pepper. -/
def sampleKey : List UInt8 :=
  [0xa6, 0x3c, 0xa5, 0x72, 0xa7, 0x32, 0xb6, 0x1b, 0xb3, 0x97, 0x33, 0x36, 0x7a, 0xb6, 0xcd, 0x45, 0x77,
    0x64, 0x02, 0xd1, 0x04, 0xdd, 0x64, 0x53, 0xac, 0x97, 0x22, 0x77, 0xf2, 0x20, 0x58, 0xa7]

def sampleIv : Iv := ⟨[1, 2, 3, 4, 5, 6, 7, 8, 9, 10, 11, 12], rfl⟩

/-- The beginning of every JPEG. -/
def samplePhoto : List UInt8 := [0xff, 0xd8, 0xff]

/-- The photo under that key. -/
def sampleBody : List UInt8 := [0xac, 0x0a, 0xef]

def sampleTag : List UInt8 :=
  [0x5c, 0x51, 0x7a, 0xe9, 0xeb, 0x63, 0xc1, 0x4d, 0x61, 0x1f, 0x7f, 0xda, 0xbe, 0x54, 0xef, 0xf9]

/-- The library functions on the photo; any other text is left as it is, with an empty tag. -/
def sampleVault : Vault where
  encrypt key iv plain :=
    if key = sampleKey ∧ iv = sampleIv ∧ plain = samplePhoto then (sampleBody, sampleTag)
    else (plain, List.replicate 16 0)
  decrypt key iv tag body :=
    if key = sampleKey ∧ iv = sampleIv ∧ tag = sampleTag ∧ body = sampleBody then some samplePhoto
    else if tag = List.replicate 16 0 then some body
    else none
  hkdf secret salt info :=
    if secret = "pepper" ∧ salt = "ajocloud" ∧ info = "kyc-document-v1" then sampleKey else []
  sha256 bytes :=
    if bytes = samplePhoto then "6e568e1f67fba258184c78181539e5e8fdee447e49bb706fc0ea34fbf12336a5" else ""
  tokenPepper := "pepper"

theorem sampleVault_works : sampleVault.Works where
  opens key iv plain := by
    simp only [sampleVault]
    split
    · next h => simp [h]
    · have hne : ¬ List.replicate 16 (0 : UInt8) = sampleTag := by decide
      rw [if_neg fun h ↦ hne h.2.2.1, if_pos rfl]
  tag key iv plain := by
    simp only [sampleVault]
    split
    · rfl
    · rfl

/-- The NIN has passed, and no document is there yet. -/
def documentWanted : KycTables := { verifiedUser with documents := .empty }

/-- What the step number `n` is told. -/
def sampleDraw (n : Nat) : Draw := ⟨sampleTold n true "Ada Obi", sampleIv⟩

/-- The archive before the upload. -/
def sampleArchive : Pool Archive Thread := ⟨⟨(samplePlatform documentWanted).shared, [], []⟩, []⟩

/-- The user uploads the photo, and the document is stored. -/
def sampleUpload : List (Move Thread Draw) :=
  [.spawn (.document (.ofNat 1) ⟨"NIN_SLIP", "image/jpeg", "/9j/"⟩), .run 0 (sampleDraw 1),
    .run 0 (sampleDraw 2), .run 0 (sampleDraw 3)]

def Thread.isElsewhere : Thread → Bool
  | .elsewhere _ => true
  | _ => false

end Sample

/-- The photo that the reviewer is shown is the one that was uploaded. -/
theorem reviewer_sees_upload_sample :
    ∃ view, getDocument sampleVault (sampleUpload.foldl (Pool.advance (archive sampleHost sampleVault))
        sampleArchive).shared (.ofNat 4) (.ofNat 1031) = .ok view ∧
      ∃ dto : UploadIdentityDocumentDto, dto.data = "/9j/" ∧
        fromBase64 view.data.toList = fromBase64 (withoutDataUrl dto.data.toList) := by
  have hrun : Reaches (Pool.advance (archive sampleHost sampleVault))
      (Pool.Admitted (fun _ t ↦ t.isRequest = true) fun _ _ t ↦ t.isElsewhere = false) sampleArchive
      (sampleUpload.foldl (Pool.advance (archive sampleHost sampleVault)) sampleArchive) :=
    reaches_of_allAdmitted (by decide +kernel)
  have hin : Reaches (Pool.advance (archive sampleHost sampleVault))
      (Pool.Admitted (fun _ t ↦ t.isRequest = true)
        fun _ s t ↦ ∀ db', t = .elsewhere db' → Elsewhere s.verification.db db') sampleArchive
      (sampleUpload.foldl (Pool.advance (archive sampleHost sampleVault)) sampleArchive) := by
    refine hrun.mono fun s m hm ↦ ?_
    cases m with
    | spawn t => exact hm
    | run i o =>
        intro t ht db' heq
        have hnot := hm t ht
        rw [heq] at hnot
        cases hnot
    | stop i => trivial
  have hview : getDocument sampleVault (sampleUpload.foldl (Pool.advance (archive sampleHost sampleVault))
      sampleArchive).shared (.ofNat 4) (.ofNat 1031) =
        .ok ⟨.ofNat 1031, "NIN_SLIP", "image/jpeg", "/9j/"⟩ := by decide +kernel
  obtain ⟨userId, dto, hmem, -, -, -, hsame, -⟩ :=
    (reviewer_sees_upload sampleVault_works rfl rfl rfl hin).2 _ _ _ hview
  have hreceived : (sampleUpload.foldl (Pool.advance (archive sampleHost sampleVault))
      sampleArchive).shared.received = [(.ofNat 1, ⟨"NIN_SLIP", "image/jpeg", "/9j/"⟩)] := rfl
  rw [hreceived, List.mem_singleton] at hmem
  obtain ⟨-, rfl⟩ := Prod.mk.inj hmem
  exact ⟨_, hview, _, rfl, hsame⟩

end AjoCloud.Kyc
