import AjoCloud.Database.Mail
import AjoCloud.Lib.Upsert

/-!
# The register of devices

`device-policy.ts` and `DevicesService`.  A push token identifies an installation, so whoever registers it
takes it from every other row that holds it.
-/

namespace AjoCloud.Devices

open Lib ServiceError

/-! ## `device-policy.ts` -/

/-- The two openings of a token. -/
def EXPO_TOKEN_HEADS : List String := ["ExponentPushToken[", "ExpoPushToken["]

/-- What stands between the brackets. -/
def isTokenChar (c : Char) : Bool := c.isAlphanum || c == '_' || c == '-'

/-- `isExpoPushToken`. -/
def isExpoPushToken (value : String) : Bool :=
  EXPO_TOKEN_HEADS.any fun head ↦
    let rest := value.toList.drop head.toList.length
    head.toList.isPrefixOf value.toList && rest.getLast? == some ']' && !rest.dropLast.isEmpty &&
      rest.dropLast.all isTokenChar

/-- `assertPushToken`. -/
def assertPushToken (value : String) : Except ServiceError Unit :=
  require (isExpoPushToken value) (unprocessable "That push token is not a valid Expo token")

/-- `isPlausibleFingerprint`. -/
def isPlausibleFingerprint (value : String) : Bool :=
  16 ≤ textUnits (trim value) && textUnits (trim value) ≤ 191

/-- `assertFingerprint`. -/
def assertFingerprint (value : String) : Except ServiceError Unit :=
  require (isPlausibleFingerprint value) (unprocessable "That device identifier is not valid")

/-- A text that is there and not empty, as `value ? … : …` asks. -/
def given (value : Option String) : Option String := value.filter (· ≠ "")

/-- `describeDevice`. -/
def describeDevice (name platform : Option String) : String :=
  match given (name.map trim) with
  | some name => name
  | none =>
      match given (platform.map trim) with
      | some platform => platform ++ " device"
      | none => "Unknown device"

/-! ## `DevicesService` -/

/-- `RegisterDeviceDto`. -/
structure RegisterDeviceDto where
  fingerprint : String
  name : Option String
  platform : Option String
  appVersion : Option String
  pushToken : Option String
  pushPermissionDeclined : Bool
deriving DecidableEq

/-- The row is the one of this user and this installation. -/
def isInstallation (userId : Uuid) (fingerprint : String) (d : Device) : Bool :=
  d.userId = userId && d.fingerprint = fingerprint

/-- `pushToken: null, pushTokenAt: null`. -/
def dropToken (d : Device) : Device := { d with pushToken := none, pushTokenAt := none }

theorem clash_dropToken {a b : Device} (h : Schema.Clash (dropToken a) b) : Schema.Clash a b := h

/-- `updateMany` of the rows that hold the token, but for those that are excepted. -/
def releaseToken (token : String) (except : Device → Bool) (devices : Table Device) : Table Device :=
  devices.modify (fun d ↦ d.pushToken = some token && !except d) dropToken clash_dropToken

/-- What `register` stores for an installation that is not known. -/
def createDevice (ctx : Ctx) (userId : Uuid) (dto : RegisterDeviceDto) : Device where
  id := ctx.uuid 0
  userId := userId
  fingerprint := dto.fingerprint
  name := describeDevice dto.name dto.platform
  platform := given dto.platform
  pushToken := given dto.pushToken
  pushTokenAt := (given dto.pushToken).map fun _ ↦ ctx.now
  pushDeclinedAt := if dto.pushPermissionDeclined then some ctx.now else none
  appVersion := given dto.appVersion
  trustedAt := none
  lastSeenAt := ctx.now
  createdAt := ctx.now

/-- What `register` writes for an installation that is known.  A token that is supplied replaces the
stored one and clears an earlier decline; without one the stored token stays. -/
def refreshDevice (ctx : Ctx) (dto : RegisterDeviceDto) (d : Device) : Device :=
  { d with
    name := describeDevice dto.name dto.platform
    platform := (given dto.platform).or d.platform
    appVersion := (given dto.appVersion).or d.appVersion
    pushToken := (given dto.pushToken).or d.pushToken
    pushTokenAt := if (given dto.pushToken).isSome then some ctx.now else d.pushTokenAt
    pushDeclinedAt :=
      if (given dto.pushToken).isSome then none
      else if dto.pushPermissionDeclined then some ctx.now
      else d.pushDeclinedAt
    lastSeenAt := ctx.now }

theorem clash_refreshDevice {ctx : Ctx} {dto : RegisterDeviceDto} {a b : Device}
    (h : Schema.Clash (refreshDevice ctx dto a) b) : Schema.Clash a b := h

/-- `releaseToken` of the token that is supplied, if any, from everybody else. -/
def claimToken (userId : Uuid) (dto : RegisterDeviceDto) (devices : Table Device) : Table Device :=
  match given dto.pushToken with
  | some token => releaseToken token (isInstallation userId dto.fingerprint) devices
  | none => devices

/-- `register`, with the row that it selects. -/
def register (ctx : Ctx) (userId : Uuid) (dto : RegisterDeviceDto) (devices : Table Device) :
    Except ServiceError (Device × Table Device) := do
  assertFingerprint dto.fingerprint
  match given dto.pushToken with
  | some token => assertPushToken token
  | none => pure ()
  orThrow ((claimToken userId dto devices).upsert (isInstallation userId dto.fingerprint)
    (createDevice ctx userId dto) (refreshDevice ctx dto) clash_refreshDevice)
    (.database .uniqueConstraint)

/-- What the list shows of a device: everything but the token. -/
structure DeviceView where
  id : Uuid
  fingerprint : String
  name : String
  platform : Option String
  appVersion : Option String
  pushTokenAt : Option Timestamp
  pushDeclinedAt : Option Timestamp
  trustedAt : Option Timestamp
  lastSeenAt : Timestamp
  createdAt : Timestamp
deriving DecidableEq

/-- `deviceSelect` with `pushToken: false`. -/
def DeviceView.of (d : Device) : DeviceView :=
  ⟨d.id, d.fingerprint, d.name, d.platform, d.appVersion, d.pushTokenAt, d.pushDeclinedAt, d.trustedAt,
    d.lastSeenAt, d.createdAt⟩

/-- `list`. -/
def list (userId : Uuid) (devices : Table Device) : List DeviceView :=
  ((devices.findMany fun d ↦ d.userId = userId).insertionSort fun a b ↦ b.lastSeenAt ≤ a.lastSeenAt).map
    DeviceView.of

/-- The lookup of `deregister`. -/
def findDevice (userId deviceId : Uuid) (devices : Table Device) : Except ServiceError Uuid :=
  (orThrow (devices.find? fun d ↦ d.id = deviceId && d.userId = userId)
    (notFound "That device was not found")).map (·.id)

/-- The write of `deregister`. -/
def clearDevice (id : Uuid) (devices : Table Device) : Table Device :=
  devices.modify (fun d ↦ d.id = id) dropToken clash_dropToken

/-- `deregister`. -/
def deregister (userId deviceId : Uuid) (devices : Table Device) :
    Except ServiceError (Unit × Table Device) := do
  let id ← findDevice userId deviceId devices
  pure ((), clearDevice id devices)

/-- `releaseUnregisteredToken`. -/
def releaseUnregisteredToken (token : String) (devices : Table Device) : Table Device :=
  releaseToken token (fun _ ↦ false) devices

/-- `pushTokensFor`. -/
def pushTokensFor (userId : Uuid) (devices : Table Device) : List String :=
  (devices.findMany fun d ↦ d.userId = userId && d.pushToken.isSome).filterMap (·.pushToken)

theorem mem_pushTokensFor {userId : Uuid} {devices : Table Device} {token : String} :
    token ∈ pushTokensFor userId devices ↔
      ∃ d ∈ devices.rows, d.userId = userId ∧ d.pushToken = some token := by
  simp only [pushTokensFor, List.mem_filterMap, Table.mem_findMany, Bool.and_eq_true, decide_eq_true_eq]
  constructor
  · rintro ⟨d, ⟨hd, huser, -⟩, htoken⟩
    exact ⟨d, hd, huser, htoken⟩
  · rintro ⟨d, hd, huser, htoken⟩
    exact ⟨d, ⟨hd, huser, by rw [htoken]; rfl⟩, htoken⟩

end AjoCloud.Devices
