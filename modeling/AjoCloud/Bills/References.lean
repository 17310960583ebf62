import AjoCloud.Bills.Catalog

/-!
# References of a bill

`bill-reference.ts`, and what `BillPaymentsService` does with it: a customer's number is brought to one form,
the form is validated with the provider, and only its digest is kept.  A payment quotes the number again.
-/

namespace AjoCloud.Bills

open Lib ServiceError Provider

/-! ## The form -/

/-- What the handling of references takes from outside: the host's letter cases, and the HMAC of a reference
under the pepper. -/
structure ReferenceHost where
  toUpperCase : String → String
  toLowerCase : String → String
  digest : String → String

/-- The white space and the hyphens that a reference may be written with. -/
def isSeparator (c : Char) : Bool := isSpace c || c = '-'

/-- `raw.trim().replace(/[\s-]/g, '')`. -/
def compact (raw : String) : List Char := (trim raw).toList.filter (!isSeparator ·)

/-- `compact.replace(/^\+/, '')`. -/
def withoutPlus : List Char → List Char
  | '+' :: digits => digits
  | digits => digits

/-- `/^234\d{10}$/`. -/
def isInternational (digits : List Char) : Bool :=
  digits.take 3 = ['2', '3', '4'] && (digits.drop 3).length = 10 && (digits.drop 3).all Char.isDigit

/-- What a phone number is reduced to. -/
def localForm (digits : List Char) : List Char :=
  if isInternational digits then '0' :: digits.drop 3 else digits

/-- `normaliseBillReference`. -/
def normaliseBillReference (host : ReferenceHost) (kind : BillReferenceKind) (raw : String) : String :=
  match kind with
  | .phone => String.ofList (localForm (withoutPlus (compact raw)))
  | _ => host.toUpperCase (String.ofList (compact raw))

/-- `/^0[789][01]\d{8}$/`. -/
def isLocalPhone : List Char → Bool
  | '0' :: network :: block :: line =>
      ['7', '8', '9'].contains network && ['0', '1'].contains block && line.length = 8 &&
        line.all Char.isDigit
  | _ => false

/-- `/^\d{least,most}$/`. -/
def isDigits (least most : Nat) (reference : List Char) : Bool :=
  least ≤ reference.length && reference.length ≤ most && reference.all Char.isDigit

/-- `/^[A-Z0-9]{6,20}$/`. -/
def isAccountNumber (reference : List Char) : Bool :=
  6 ≤ reference.length && reference.length ≤ 20 && reference.all fun c ↦ c.isUpper || c.isDigit

/-- `billReferenceProblem`. -/
def billReferenceProblem (kind : BillReferenceKind) (reference : String) : Option String :=
  match kind with
  | .phone =>
      if isLocalPhone reference.toList then none
      else some "Enter an 11-digit Nigerian phone number, for example 08031234567."
  | .meter =>
      if isDigits 11 13 reference.toList then none else some "A meter number is 11 to 13 digits."
  | .smartcard =>
      if isDigits 10 12 reference.toList then none
      else some "A smartcard or IUC number is 10 to 12 digits."
  | .account =>
      if isAccountNumber reference.toList then none
      else some "An account number is 6 to 20 letters or digits."

/-! ## What is stored of a biller -/

/-- The word that is stored for a kind. -/
def kindWord : BillReferenceKind → String
  | .phone => "phone"
  | .meter => "meter"
  | .smartcard => "smartcard"
  | .account => "account"

/-- `BILL_REFERENCE_KINDS`. -/
def BILL_REFERENCE_KINDS : List BillReferenceKind := [.phone, .meter, .smartcard, .account]

/-- `defaultReferenceLabel`. -/
def defaultReferenceLabel : BillReferenceKind → String
  | .phone => "Phone number"
  | .meter => "Meter number"
  | .smartcard => "Smartcard number"
  | .account => "Account number"

/-- The kind that `referenceOf` finds; rows that were written earlier have none. -/
def referenceKind (catalogData : Option Json) : Option BillReferenceKind :=
  match catalogData.bind (·.property "referenceKind") with
  | some (.string word) => BILL_REFERENCE_KINDS.find? fun kind ↦ kindWord kind = word
  | _ => none

/-- The label that `referenceOf` finds. -/
def referenceLabel (catalogData : Option Json) : String :=
  match catalogData.bind (·.property "referenceLabel") with
  | some (.string label) => label
  | _ => ((referenceKind catalogData).map defaultReferenceLabel).getD "Customer reference"

/-- A biller, with what is stored of how it knows its customers. -/
structure StoredBiller extends BillBiller where
  catalogData : Option Json

instance : Schema StoredBiller :=
  (Schema.primary fun b ↦ b.id).unique fun b ↦ some (b.categoryId, b.providerCode)

/-- The tables that a validation reads, and the one it writes. -/
structure ReferenceStore where
  categories : Table CatalogCategory
  billers : Table StoredBiller
  products : Table BillProduct
  validations : Table BillCustomerValidation

/-! ## `BillPaymentsService` -/

/-- `normaliseReference`. -/
def normaliseReference (host : ReferenceHost) (kind : Option BillReferenceKind) (raw : String) : String :=
  match kind with
  | some kind => normaliseBillReference host kind raw
  | none => trim raw

/-- `mask`. -/
def mask (value : String) : String :=
  if textUnits value ≤ 4 then String.ofList (List.replicate (textUnits value) '*')
  else String.ofList (List.replicate (textUnits value - 4) '*' ++
    (takeUnits 4 value.toList.reverse).reverse)

/-- The request body of `validateCustomer`. -/
structure ValidateBillCustomerDto where
  billerId : Uuid
  productId : Option Uuid
  customerReference : String

/-- What the provider is asked. -/
structure ValidateBillCustomerInput where
  billerCode : String
  productCode : Option String
  customerReference : String

/-- What the provider answers. -/
structure ValidationAnswer where
  valid : Bool
  customerName : Option String
  providerReference : Option String

/-- The provider of bills, as far as validations go. -/
structure ValidationProvider where
  name : String
  validateCustomer : ValidateBillCustomerInput → Except ServiceError ValidationAnswer

/-- The packages that the body names: the active one of the biller. -/
def namedProducts (store : ReferenceStore) (billerId : Uuid) (productId : Option Uuid) : List BillProduct :=
  match productId with
  | some productId =>
      store.products.findMany fun p ↦ p.billerId = billerId ∧ p.id = productId ∧ p.status = .active
  | none => []

/-- `validateCustomer`, up to the row that it writes; the refusal is for a number that the provider does not
know. -/
def checkCustomer (host : ReferenceHost) (provider : ValidationProvider) (ctx : Ctx) (store : ReferenceStore)
    (userId : Uuid) (dto : ValidateBillCustomerDto) :
    Except ServiceError (BillCustomerValidation × ServiceError) := do
  let biller ← orThrow
    (store.billers.find? fun b ↦ b.id = dto.billerId ∧ b.status = .active ∧
      ∃ c ∈ store.categories.rows, c.id = b.categoryId ∧ c.provider = provider.name ∧ c.status = .active)
    (notFound "Biller was not found")
  let products := namedProducts store biller.id dto.productId
  require (dto.productId = none ∨ products.length = 1) (notFound "Biller product was not found")
  let kind := referenceKind biller.catalogData
  let customerReference := normaliseReference host kind dto.customerReference
  match kind.bind (billReferenceProblem · customerReference) with
  | some problem => .error (unprocessable problem)
  | none =>
      let result ← provider.validateCustomer
        ⟨biller.providerCode, products.head?.map (·.providerCode), customerReference⟩
      let validation : BillCustomerValidation :=
        { id := ctx.uuid 0
          userId := userId
          billerId := biller.id
          productId := dto.productId
          provider := provider.name
          customerReferenceDigest := host.digest customerReference
          customerReferenceMasked := mask customerReference
          verifiedCustomerName := truthy result.customerName
          valid := result.valid
          expiresAt := ctx.now + 15 * 60000 }
      require (fitsVarChar 64 provider.name ∧ fitsVarChar 191 (result.providerReference.getD "") ∧
        fitsVarChar 128 validation.customerReferenceDigest ∧
        fitsVarChar 64 validation.customerReferenceMasked ∧
        fitsVarChar 200 (result.customerName.getD "")) (.database .valueTooLong)
      pure (validation, unprocessable (biller.name ++ " did not recognise this " ++
        host.toLowerCase (referenceLabel biller.catalogData) ++ ". Check it and try again."))

/-- `validateCustomer`. -/
def validateCustomer (host : ReferenceHost) (provider : ValidationProvider) (ctx : Ctx)
    (store : ReferenceStore) (userId : Uuid) (dto : ValidateBillCustomerDto) :
    Except ServiceError BillCustomerValidation × ReferenceStore :=
  match checkCustomer host provider ctx store userId dto with
  | .error e => (.error e, store)
  | .ok (validation, refusal) =>
      match store.validations.insert validation with
      | none => (.error (.database .uniqueConstraint), store)
      | some validations =>
          (if validation.valid then .ok validation else .error refusal,
            { store with validations := validations })

/-- The kind by which the biller of a validation knows its customers. -/
def kindOfBiller (store : ReferenceStore) (billerId : Uuid) : Option BillReferenceKind :=
  referenceKind ((store.billers.find? fun b ↦ b.id = billerId).bind (·.catalogData))

/-- `verifyIntentReference`. -/
def verifyIntentReference (host : ReferenceHost) (store : ReferenceStore) (userId : Uuid)
    (validationId : Option Uuid) (customerReference : Option String) : Except ServiceError Unit := do
  let customerReference ← orThrow (truthy customerReference)
    (unprocessable "The number being paid for is missing")
  let validation ← orThrow
    (validationId.bind fun id ↦ store.validations.find? fun v ↦ v.id = id ∧ v.userId = userId)
    (notFound "This payment was not found")
  let normalised := normaliseReference host (kindOfBiller store validation.billerId) customerReference
  require (host.digest normalised = validation.customerReferenceDigest)
    (unprocessable "This number is not the one that was checked. Start the payment again.")

/-! ## Separators -/

section Form

variable {host : ReferenceHost} {kind : BillReferenceKind} {raw a b : String}

/-- What a text is without the white space and the hyphens in it. -/
def unseparated (text : String) : List Char := text.toList.filter (!isSeparator ·)

theorem compact_eq (raw : String) : compact raw = unseparated raw :=
  filter_trim (fun c hc ↦ by rw [isSeparator, hc]; rfl) raw

theorem isSeparator_eq_false {c : Char} (h : (c.isUpper || c.isDigit) = true) : isSeparator c = false := by
  obtain ⟨hlo, hhi⟩ := toNat_of_isUpper_or_isDigit h
  have hhyphen : c ≠ '-' := by
    rintro rfl
    exact absurd hlo (by decide)
  rw [isSeparator, isSpace_eq_false (by omega) (by omega), Bool.false_or]
  exact decide_eq_false hhyphen

theorem unseparated_ofList {text : List Char} (h : ∀ c ∈ text, (c.isUpper || c.isDigit) = true) :
    unseparated (String.ofList text) = text := by
  rw [unseparated, String.toList_ofList]
  exact List.filter_eq_self.mpr fun c hc ↦ by rw [isSeparator_eq_false (h c hc)]; rfl

/-! ## Forms that are accepted -/

/-- A local number is a zero and ten digits. -/
theorem local_of_isLocalPhone {digits : List Char} (h : isLocalPhone digits = true) :
    ∃ national, digits = '0' :: national ∧ national.length = 10 ∧ ∀ c ∈ national, c.isDigit = true := by
  unfold isLocalPhone at h
  split at h
  · next network block line =>
      simp only [Bool.and_eq_true, decide_eq_true_eq, List.all_eq_true] at h
      obtain ⟨⟨⟨hnetwork, hblock⟩, hlength⟩, hline⟩ := h
      have hfirst : ∀ c ∈ ['7', '8', '9'], c.isDigit = true := forall_mem_of_all (by decide)
      have hsecond : ∀ c ∈ ['0', '1'], c.isDigit = true := forall_mem_of_all (by decide)
      refine ⟨network :: block :: line, rfl, by rw [List.length_cons, List.length_cons, hlength], ?_⟩
      exact List.forall_mem_cons.mpr ⟨hfirst _ (List.contains_iff_mem.mp hnetwork),
        List.forall_mem_cons.mpr ⟨hsecond _ (List.contains_iff_mem.mp hblock), hline⟩⟩
  · cases h

/-- Forms that are accepted have upper-case letters and digits in them, and nothing else. -/
theorem forall_of_accepted {reference : String} (h : billReferenceProblem kind reference = none) :
    ∀ c ∈ reference.toList, (c.isUpper || c.isDigit) = true := by
  intro c hc
  have hdigit : c.isDigit = true → (c.isUpper || c.isDigit) = true := fun hdigit ↦ by
    rw [hdigit, Bool.or_true]
  cases kind with
  | phone =>
      have hphone : isLocalPhone reference.toList = true := by
        by_contra hnot
        rw [billReferenceProblem, if_neg hnot] at h
        cases h
      obtain ⟨national, heq, -, hdigits⟩ := local_of_isLocalPhone hphone
      rw [heq] at hc
      rcases List.mem_cons.mp hc with rfl | hc
      · rfl
      · exact hdigit (hdigits c hc)
  | meter =>
      by_cases hmeter : isDigits 11 13 reference.toList = true
      · rw [isDigits, Bool.and_eq_true, List.all_eq_true] at hmeter
        exact hdigit (hmeter.2 c hc)
      · rw [billReferenceProblem, if_neg hmeter] at h
        cases h
  | smartcard =>
      by_cases hcard : isDigits 10 12 reference.toList = true
      · rw [isDigits, Bool.and_eq_true, List.all_eq_true] at hcard
        exact hdigit (hcard.2 c hc)
      · rw [billReferenceProblem, if_neg hcard] at h
        cases h
  | account =>
      by_cases haccount : isAccountNumber reference.toList = true
      · rw [isAccountNumber, Bool.and_eq_true, List.all_eq_true] at haccount
        exact haccount.2 c hc
      · rw [billReferenceProblem, if_neg haccount] at h
        cases h

/-- A number that starts with a zero is as it should be. -/
theorem localForm_zero (national : List Char) : localForm ('0' :: national) = '0' :: national :=
  if_neg (by simp [isInternational])

/-- What the letter cases of the host do to a text of ASCII characters, and that digests do not
collide. -/
structure ReferenceHost.Lawful (host : ReferenceHost) : Prop where
  ascii : ∀ text, (∀ c ∈ text.toList, c.toNat < 128) → host.toUpperCase text = AjoCloud.toUpperCase text
  digest_injective : Function.Injective host.digest

/-- The form that is accepted is its own form. -/
theorem normalise_of_accepted (hhost : host.Lawful) {reference : String}
    (h : billReferenceProblem kind reference = none) :
    normaliseBillReference host kind reference = reference := by
  have hall := forall_of_accepted h
  have hcompact : compact reference = reference.toList := by
    rw [compact_eq, ← String.ofList_toList (s := reference), unseparated_ofList hall]
    exact (String.toList_ofList).symm
  have hupper : host.toUpperCase (String.ofList (compact reference)) = reference := by
    rw [hcompact, String.ofList_toList, hhost.ascii reference fun c hc ↦
      (toNat_of_isUpper_or_isDigit (hall c hc)).2.trans_lt (by decide), toUpperCase]
    have hmap : reference.toList.map Char.toUpper = reference.toList.map id :=
      List.map_congr_left fun c hc ↦ toUpper_of_toNat_le (toNat_of_isUpper_or_isDigit (hall c hc)).2
    rw [hmap, List.map_id, String.ofList_toList]
  cases kind with
  | phone =>
      have hphone : isLocalPhone reference.toList = true := by
        by_contra hnot
        rw [billReferenceProblem, if_neg hnot] at h
        cases h
      obtain ⟨national, heq, -, -⟩ := local_of_isLocalPhone hphone
      rw [normaliseBillReference, hcompact, heq, withoutPlus, localForm_zero, ← heq, String.ofList_toList]
      nofun
  | meter => exact hupper
  | smartcard => exact hupper
  | account => exact hupper

/-! ## Phone numbers -/

/-- How a national number is written: with a zero or the country's code before it, and perhaps a plus. -/
def writings (national : List Char) : List (List Char) :=
  [['0'] ++ national, ['+', '0'] ++ national, ['2', '3', '4'] ++ national, ['+', '2', '3', '4'] ++ national]

/-- The text is a writing of the ten digits, with separators anywhere. -/
structure Denotes (raw : String) (national : List Char) : Prop where
  length : national.length = 10
  digits : ∀ c ∈ national, c.isDigit = true
  written : unseparated raw ∈ writings national

variable {national : List Char}

theorem normalise_phone (host : ReferenceHost) (raw : String) :
    normaliseBillReference host .phone raw = String.ofList (localForm (withoutPlus (unseparated raw))) := by
  rw [← compact_eq]
  rfl

theorem localForm_international (hlength : national.length = 10)
    (hdigits : ∀ c ∈ national, c.isDigit = true) :
    localForm ('2' :: '3' :: '4' :: national) = '0' :: national :=
  if_pos (by simpa [isInternational, hlength] using hdigits)

/-- Every writing of a number has the same form. -/
theorem localForm_of_denotes (h : Denotes raw national) :
    localForm (withoutPlus (unseparated raw)) = '0' :: national := by
  have hinternational := localForm_international h.length h.digits
  have hwritten := h.written
  simp only [writings, List.mem_cons, List.not_mem_nil, or_false] at hwritten
  rcases hwritten with heq | heq | heq | heq
  · rw [heq]
    exact localForm_zero national
  · rw [heq]
    exact localForm_zero national
  · rw [heq]
    exact hinternational
  · rw [heq]
    exact hinternational

theorem withoutPlus_eq {text digits : List Char} (h : withoutPlus text = digits) :
    text = digits ∨ text = '+' :: digits := by
  unfold withoutPlus at h
  split at h
  · exact .inr (congrArg _ h)
  · exact .inl h

/-- Only the writings of a number have its form. -/
theorem denotes_of_localForm (hlength : national.length = 10) (hdigits : ∀ c ∈ national, c.isDigit = true)
    (h : localForm (withoutPlus (unseparated raw)) = '0' :: national) : Denotes raw national := by
  refine ⟨hlength, hdigits, ?_⟩
  simp only [writings, List.mem_cons, List.not_mem_nil, or_false]
  by_cases hinternational : isInternational (withoutPlus (unseparated raw)) = true
  · rw [localForm, if_pos hinternational, List.cons_inj_right] at h
    rw [isInternational, Bool.and_eq_true, Bool.and_eq_true, decide_eq_true_eq] at hinternational
    have hsplit := List.take_append_drop 3 (withoutPlus (unseparated raw))
    rw [hinternational.1.1, h] at hsplit
    rcases withoutPlus_eq hsplit.symm with heq | heq
    · exact .inr (.inr (.inl heq))
    · exact .inr (.inr (.inr heq))
  · rw [localForm, if_neg hinternational] at h
    rcases withoutPlus_eq h with heq | heq
    · exact .inl heq
    · exact .inr (.inl heq)

/-- A text whose form is accepted denotes a number. -/
theorem exists_denotes (h : billReferenceProblem .phone (normaliseBillReference host .phone raw) = none) :
    ∃ national, Denotes raw national := by
  rw [normalise_phone, billReferenceProblem, String.toList_ofList] at h
  have hphone : isLocalPhone (localForm (withoutPlus (unseparated raw))) = true := by
    by_contra hnot
    rw [if_neg hnot] at h
    cases h
  obtain ⟨national, heq, hlength, hdigits⟩ := local_of_isLocalPhone hphone
  exact ⟨national, denotes_of_localForm hlength hdigits heq⟩

/-- A text denotes one number. -/
theorem denotes_unique {national' : List Char} (h : Denotes raw national) (h' : Denotes raw national') :
    national = national' :=
  List.tail_eq_of_cons_eq ((localForm_of_denotes h).symm.trans (localForm_of_denotes h'))

/-- Two texts have the same form when they are the same behind the plus, or denote the same number. -/
theorem normalise_phone_eq_iff :
    normaliseBillReference host .phone a = normaliseBillReference host .phone b ↔
      withoutPlus (unseparated a) = withoutPlus (unseparated b) ∨
        ∃ national, Denotes a national ∧ Denotes b national := by
  rw [normalise_phone, normalise_phone, String.ofList_inj]
  have hten : ∀ {digits : List Char}, isInternational digits = true →
      (digits.drop 3).length = 10 ∧ ∀ c ∈ digits.drop 3, c.isDigit = true := by
    intro digits h
    rw [isInternational, Bool.and_eq_true, Bool.and_eq_true, decide_eq_true_eq, decide_eq_true_eq,
      List.all_eq_true] at h
    exact ⟨h.1.2, h.2⟩
  constructor
  · intro h
    by_cases ha : isInternational (withoutPlus (unseparated a)) = true
    · have hform : localForm (withoutPlus (unseparated a)) = _ := if_pos ha
      obtain ⟨hlength, hdigits⟩ := hten ha
      exact .inr ⟨_, denotes_of_localForm hlength hdigits hform,
        denotes_of_localForm hlength hdigits (h.symm.trans hform)⟩
    · by_cases hb : isInternational (withoutPlus (unseparated b)) = true
      · have hform : localForm (withoutPlus (unseparated b)) = _ := if_pos hb
        obtain ⟨hlength, hdigits⟩ := hten hb
        exact .inr ⟨_, denotes_of_localForm hlength hdigits (h.trans hform),
          denotes_of_localForm hlength hdigits hform⟩
      · rw [localForm, localForm, if_neg ha, if_neg hb] at h
        exact .inl h
  · rintro (h | ⟨national, ha, hb⟩)
    · rw [h]
    · rw [localForm_of_denotes ha, localForm_of_denotes hb]

end Form

/-! ## Validating and confirming -/

section Confirm

variable {host : ReferenceHost} {provider : ValidationProvider} {ctx : Ctx} {store later : ReferenceStore}
  {userId : Uuid} {dto : ValidateBillCustomerDto} {validation : BillCustomerValidation}

/-- The row that is written. -/
theorem row_of_checkCustomer {refusal : ServiceError}
    (h : checkCustomer host provider ctx store userId dto = .ok (validation, refusal)) :
    validation.userId = userId ∧ validation.billerId = dto.billerId ∧
      validation.customerReferenceDigest =
        host.digest (normaliseReference host (kindOfBiller store dto.billerId) dto.customerReference) := by
  obtain ⟨biller, hbiller, h⟩ := bind_eq_ok.mp h
  rw [orThrow_eq_ok] at hbiller
  obtain ⟨-, -, h⟩ := bind_eq_ok.mp h
  have hprop := Table.prop_of_find? hbiller
  have hid : biller.id = dto.billerId := (of_decide_eq_true hprop).1
  have hfound : store.billers.find? (fun b ↦ b.id = dto.billerId) = some biller :=
    store.billers.find?_eq_some_of_mem (Table.mem_of_find? hbiller) (decide_eq_true hid) fun b hb hsame ↦
      .inl ((of_decide_eq_true hsame).trans hid.symm)
  have hkind : kindOfBiller store dto.billerId = referenceKind biller.catalogData := by
    rw [kindOfBiller, hfound]
    rfl
  rw [hkind]
  dsimp only at h
  split at h
  · cases h
  · obtain ⟨result, -, h⟩ := bind_eq_ok.mp h
    obtain ⟨-, -, h⟩ := bind_eq_ok.mp h
    rw [pure_eq_ok, Prod.mk.injEq] at h
    obtain ⟨rfl, -⟩ := h
    exact ⟨rfl, hid, rfl⟩

/-- What is kept of a validation: whose it is, of which biller, and the digest of the form. -/
theorem validateCustomer_eq_ok
    (h : (validateCustomer host provider ctx store userId dto).1 = .ok validation) :
    validation.userId = userId ∧ validation.billerId = dto.billerId ∧
      validation.customerReferenceDigest =
        host.digest (normaliseReference host (kindOfBiller store dto.billerId) dto.customerReference) ∧
      validation ∈ (validateCustomer host provider ctx store userId dto).2.validations.rows := by
  rw [validateCustomer] at h ⊢
  cases hcheck : checkCustomer host provider ctx store userId dto with
  | error e =>
      rw [hcheck] at h
      cases h
  | ok checked =>
      obtain ⟨row, refusal⟩ := checked
      simp only [hcheck] at h ⊢
      cases hinsert : store.validations.insert row with
      | none =>
          rw [hinsert] at h
          cases h
      | some validations =>
          simp only [hinsert] at h ⊢
          split at h
          · cases h
            have hrow := row_of_checkCustomer hcheck
            exact ⟨hrow.1, hrow.2.1, hrow.2.2, Table.mem_of_insert hinsert⟩
          · cases h

theorem verifyIntentReference_eq_ok_iff {text : String} (htext : text ≠ "")
    (hvalidation : validation ∈ later.validations.rows) (huser : validation.userId = userId) :
    verifyIntentReference host later userId (some validation.id) (some text) = .ok () ↔
      host.digest (normaliseReference host (kindOfBiller later validation.billerId) text) =
        validation.customerReferenceDigest := by
  have hfound : later.validations.find? (fun v ↦ v.id = validation.id ∧ v.userId = userId) =
      some validation := by
    refine later.validations.find?_eq_some_of_mem hvalidation (by simpa using huser) ?_
    intro v hv hsame
    exact (of_decide_eq_true hsame).1
  have htruthy : truthy (some text) = some text := Option.filter_eq_some_iff.mpr ⟨rfl, by simpa using htext⟩
  simp only [verifyIntentReference, htruthy, orThrow, Option.bind_some, hfound]
  exact require_eq_ok

/-- **A confirmation quotes the number that was validated.**  While the biller knows its customers in the
same way, exactly the texts with the form of what was validated are accepted. -/
theorem verify_iff_same_form (hhost : host.Lawful)
    (hvalidated : (validateCustomer host provider ctx store userId dto).1 = .ok validation)
    (hkept : validation ∈ later.validations.rows)
    (hkind : kindOfBiller later dto.billerId = kindOfBiller store dto.billerId) {text : String}
    (htext : text ≠ "") :
    verifyIntentReference host later userId (some validation.id) (some text) = .ok () ↔
      normaliseReference host (kindOfBiller store dto.billerId) text =
        normaliseReference host (kindOfBiller store dto.billerId) dto.customerReference := by
  obtain ⟨huser, hbiller, hdigest, -⟩ := validateCustomer_eq_ok hvalidated
  rw [verifyIntentReference_eq_ok_iff htext hkept huser, hbiller, hkind, hdigest]
  exact hhost.digest_injective.eq_iff

end Confirm

/-! ## One form -/

/-- What it is for references to have one form.  A text that is quoted is not empty: the request body has
a least length for it. -/
structure ReferenceHost.OneForm (host : ReferenceHost) : Prop where
  idempotent : ∀ kind raw, billReferenceProblem kind (normaliseBillReference host kind raw) = none →
    normaliseBillReference host kind (normaliseBillReference host kind raw) =
      normaliseBillReference host kind raw
  separators : ∀ kind a b, unseparated a = unseparated b →
    normaliseBillReference host kind a = normaliseBillReference host kind b
  writings : ∀ a b national, Denotes a national → Denotes b national →
    normaliseBillReference host .phone a = normaliseBillReference host .phone b
  phones : ∀ a b, billReferenceProblem .phone (normaliseBillReference host .phone a) = none →
    normaliseBillReference host .phone a = normaliseBillReference host .phone b →
      ∃ national, Denotes a national ∧ Denotes b national ∧
        ∀ other, Denotes a other ∨ Denotes b other → other = national
  texts : ∀ a b, normaliseBillReference host .phone a = normaliseBillReference host .phone b ↔
    withoutPlus (unseparated a) = withoutPlus (unseparated b) ∨
      ∃ national, Denotes a national ∧ Denotes b national
  confirmed : ∀ (provider : ValidationProvider) (ctx : Ctx) (store later : ReferenceStore) (userId : Uuid)
    (dto : ValidateBillCustomerDto) (validation : BillCustomerValidation),
    (validateCustomer host provider ctx store userId dto).1 = .ok validation →
      validation ∈ later.validations.rows →
        kindOfBiller later dto.billerId = kindOfBiller store dto.billerId →
          ∀ text, text ≠ "" →
            (verifyIntentReference host later userId (some validation.id) (some text) = .ok () ↔
              normaliseReference host (kindOfBiller store dto.billerId) text =
                normaliseReference host (kindOfBiller store dto.billerId) dto.customerReference)

/-- **References have one form.** -/
theorem references_one_form {host : ReferenceHost} (h : host.Lawful) : host.OneForm where
  idempotent := fun _ _ haccepted ↦ normalise_of_accepted h haccepted
  separators := fun kind a b hsame ↦ by
    rw [← compact_eq, ← compact_eq] at hsame
    cases kind with
    | _ => simp only [normaliseBillReference, hsame]
  writings := fun _ _ national ha hb ↦ normalise_phone_eq_iff.mpr (.inr ⟨national, ha, hb⟩)
  phones := fun a b haccepted hsame ↦ by
    obtain ⟨national, ha⟩ := exists_denotes haccepted
    obtain ⟨national', hb⟩ := exists_denotes (hsame ▸ haccepted)
    have hform : national = national' := by
      rw [normalise_phone, normalise_phone, String.ofList_inj, localForm_of_denotes ha,
        localForm_of_denotes hb] at hsame
      exact List.tail_eq_of_cons_eq hsame
    refine ⟨national, ha, hform ▸ hb, fun other hother ↦ ?_⟩
    rcases hother with hother | hother
    · exact denotes_unique hother ha
    · exact (denotes_unique hother hb).trans hform.symm
  texts := fun _ _ ↦ normalise_phone_eq_iff
  confirmed := fun _ _ _ _ _ _ _ hvalidated hkept hkind _ htext ↦
    verify_iff_same_form h hvalidated hkept hkind htext

/-! ### A number and its writings -/

/-- A host that knows ASCII, and does not hide what it digests. -/
def sampleHost : ReferenceHost := ⟨AjoCloud.toUpperCase, AjoCloud.toLowerCase, id⟩

/-- A seller of airtime that knows its customers by their phones. -/
def sampleAirtime : ReferenceStore where
  categories := ⟨[⟨⟨.ofNat 2, .active⟩, "mock", "AIRTIME", "Airtime", none, 0, 0⟩], by simp⟩
  billers := ⟨[⟨⟨.ofNat 3, .ofNat 2, "MTN", "MTN", .active⟩,
    some (.object [("referenceKind", .string "phone")])⟩], by simp⟩
  products := .empty
  validations := .empty

/-- A validation of a phone number, with a provider that knows it. -/
def sampleValidated : Except ServiceError BillCustomerValidation × ReferenceStore :=
  validateCustomer sampleHost ⟨"mock", fun _ ↦ .ok ⟨true, none, none⟩⟩ ⟨0, .ofNat⟩ sampleAirtime (.ofNat 1)
    ⟨.ofNat 3, none, "0803 123 4567"⟩

/-- The number is confirmed in another of its writings. -/
theorem references_one_form_sample :
    normaliseBillReference sampleHost .phone "0803 123 4567" =
        normaliseBillReference sampleHost .phone "+234-803-123-4567" ∧
      ∃ validation, sampleValidated.1 = .ok validation ∧
        verifyIntentReference sampleHost sampleValidated.2 (.ofNat 1) (some validation.id)
          (some "+234-803-123-4567") = .ok () := by
  have hlawful : sampleHost.Lawful := ⟨fun _ _ ↦ rfl, Function.injective_id⟩
  have hnational : ∀ raw, unseparated raw ∈ writings "8031234567".toList → Denotes raw "8031234567".toList :=
    fun _ hwritten ↦ ⟨rfl, forall_mem_of_all (by decide), hwritten⟩
  have hform := references_one_form hlawful
  have hsame : normaliseBillReference sampleHost .phone "0803 123 4567" =
      normaliseBillReference sampleHost .phone "+234-803-123-4567" :=
    hform.writings _ _ _ (hnational _ (by decide)) (hnational _ (by decide))
  have hkind : kindOfBiller sampleAirtime (.ofNat 3) = some .phone := by decide +kernel
  obtain ⟨validation, hvalidated⟩ : ∃ validation, sampleValidated.1 = .ok validation :=
    exists_eq_ok_iff.mpr (by decide +kernel)
  refine ⟨hsame, validation, hvalidated, ?_⟩
  refine (hform.confirmed _ _ _ sampleValidated.2 _ _ _ hvalidated
    (validateCustomer_eq_ok hvalidated).2.2.2 (by decide +kernel) _ (by decide)).mpr ?_
  rw [hkind]
  exact hsame.symm

end AjoCloud.Bills
