import AjoCloud.Common.Json
import AjoCloud.Common.ServiceError

/-!
# Monnify events

The event taxonomy of the webhooks, and what is extracted from an arbitrary payload.
-/

namespace AjoCloud.Webhooks

open Lib

/-- `MonnifyEventKind`. -/
inductive MonnifyEventKind where
  | transactionCompletion
  | refundCompletion
  | disbursement
  | settlement
  | walletActivity
  | lowBalance
  | billsPayment
deriving DecidableEq, Repr

/-- The text of a kind. -/
def MonnifyEventKind.text : MonnifyEventKind → String
  | transactionCompletion => "TRANSACTION_COMPLETION"
  | refundCompletion => "REFUND_COMPLETION"
  | disbursement => "DISBURSEMENT"
  | settlement => "SETTLEMENT"
  | walletActivity => "WALLET_ACTIVITY"
  | lowBalance => "LOW_BALANCE"
  | billsPayment => "BILLS_PAYMENT"

/-- `EVENT_TYPE_ALIASES`. -/
def eventTypeAliases : List (String × MonnifyEventKind) :=
  [("SUCCESSFUL_TRANSACTION", .transactionCompletion),
    ("SUCCESSFUL_DISBURSEMENT", .disbursement),
    ("FAILED_DISBURSEMENT", .disbursement),
    ("REVERSED_DISBURSEMENT", .disbursement),
    ("SUCCESSFUL_REFUND", .refundCompletion),
    ("REFUND_COMPLETION", .refundCompletion),
    ("SETTLEMENT", .settlement),
    ("SETTLEMENT_COMPLETION", .settlement),
    ("WALLET_ACTIVITY", .walletActivity),
    ("LOW_BALANCE_ALERT", .lowBalance),
    ("BILLS_PAYMENT", .billsPayment)]

/-- The names every object inherits, and which the table of aliases therefore answers to. -/
def inheritedNames : List String :=
  ["constructor", "__defineGetter__", "__defineSetter__", "hasOwnProperty", "__lookupGetter__",
    "__lookupSetter__", "isPrototypeOf", "propertyIsEnumerable", "toString", "valueOf",
    "__proto__", "toLocaleString"]

/-- The declared type maps to another kind than the route implies. -/
def isRouteMismatch (declaredType : Option String) (routeKind : MonnifyEventKind) : Bool :=
  match truthy declaredType with
  | none => false
  | some type =>
      match eventTypeAliases.lookup type with
      | some mappedKind => mappedKind ≠ routeKind
      | none => type ∈ inheritedNames

/-- `ExtractedMonnifyEvent`. -/
structure ExtractedMonnifyEvent where
  eventId : String
  declaredType : Option String
  routeMismatch : Bool
  amountMinor : Option Int
  currency : Option String
  providerReference : Option String
  internalReference : Option String
  timestamp : Option String
deriving DecidableEq

/-- `asRecord`. -/
def asRecord : Option Json → Json
  | some (.object fields) => .object fields
  | _ => .object []

/-- What `readString` takes from the value under one key. -/
def readValue : Option Json → Option String
  | some (.string s) => if trim s ≠ "" then some (trim s) else none
  | some (.number n) => if n.isFinite then some n.text else none
  | _ => none

/-- `readString`. -/
def readString (source : Json) (keys : List String) : Option String :=
  keys.findSome? fun key ↦ readValue (source.property key)

/-! ## Amounts -/

/-- `text.startsWith('-')`. -/
def isNegative (text : List Char) : Bool := text.head? = some '-'

/-- The text without its sign. -/
def unsigned (text : List Char) : List Char := if isNegative text then text.tail else text

/-- `/^-?\d+(\.\d+)?$/`. -/
def isPlainDecimal (text : List Char) : Bool :=
  !((unsigned text).takeWhile Char.isDigit).isEmpty &&
    match (unsigned text).dropWhile Char.isDigit with
    | [] => true
    | c :: fraction => c = '.' && !fraction.isEmpty && fraction.all Char.isDigit

/-- The first part of `text.split('.')`. -/
def wholePart (text : List Char) : List Char := text.takeWhile (· ≠ '.')

/-- The second part of `text.split('.')`, or nothing. -/
def fractionPart (text : List Char) : List Char :=
  ((text.dropWhile (· ≠ '.')).drop 1).takeWhile (· ≠ '.')

/-- The digits of the magnitude in minor units: the fraction is padded or cut to two places. -/
def minorDigits (whole fraction : List Char) : List Char :=
  whole ++ (fraction ++ ['0', '0']).take 2

/-- There is precision below the minor unit. -/
def isSubMinor (fraction : List Char) : Bool :=
  2 < fraction.length && (fraction.drop 2).any (· ≠ '0')

/-- `toMinorUnits` of the trimmed text. -/
def minorUnits (text : List Char) : Option Int :=
  if isPlainDecimal text then
    let whole := wholePart (unsigned text)
    let fraction := fractionPart (unsigned text)
    if isSubMinor fraction then none
    else
      let magnitude : Int := Nat.ofDigitChars 10 (minorDigits whole fraction) 0
      some (if isNegative text then -magnitude else magnitude)
  else none

/-- `toMinorUnits`. -/
def toMinorUnits : Option Json → Option Int
  | some (.string s) => minorUnits (trim s).toList
  | some (.number n) => minorUnits (trim n.text).toList
  | _ => none

/-! ## Extraction -/

/-- The identity of an event: what the provider calls it, or the hash of the body. -/
def eventIdOf (routeKind : MonnifyEventKind) (providerReference : Option String)
    (rawBodyHash : String) : String :=
  match truthy providerReference with
  | some reference => routeKind.text ++ ":" ++ reference
  | none => routeKind.text ++ ":sha256:" ++ rawBodyHash

/-- What is extracted from a payload that is not null. -/
def extractFrom (payload : Json) (routeKind : MonnifyEventKind) (rawBodyHash : String) :
    ExtractedMonnifyEvent :=
  let data := asRecord (payload.property "eventData")
  let declaredType := match payload.property "eventType" with
    | some (.string s) => some s
    | _ => none
  let providerReference := readString data
    ["transactionReference", "reference", "settlementReference", "refundReference",
      "transactionHash"]
  { eventId := eventIdOf routeKind providerReference rawBodyHash
    declaredType := declaredType
    routeMismatch := isRouteMismatch declaredType routeKind
    amountMinor := toMinorUnits (Json.coalesce
      (Json.coalesce (data.property "amountPaid") (data.property "amount"))
      (data.property "settlementAmount"))
    currency := readString data ["currency", "currencyCode"]
    providerReference := providerReference
    internalReference := readString data
      ["paymentReference", "merchantReference", "customerReference"]
    timestamp := readString data ["paidOn", "createdOn", "eventTime", "completedOn"] }

/-- `extractMonnifyEvent`.  An empty body is parsed to null, which has no properties to read. -/
def extractMonnifyEvent (payload : Json) (routeKind : MonnifyEventKind) (rawBodyHash : String) :
    Except ServiceError ExtractedMonnifyEvent :=
  match payload with
  | .null => .error (.plain "Cannot read properties of null (reading 'eventData')")
  | payload => .ok (extractFrom payload routeKind rawBodyHash)

end AjoCloud.Webhooks
