import OpenclawNode.Base.Decode
import OpenclawNode.Base.Text

/-! What the details of a failed connect say about pairing, recovery and pausing. -/
namespace OpenclawNode.Node

open Json (Value asString)
open Text (trim utf8)

inductive DevicePairingReason
  | notPaired
  | roleUpgrade
  | scopeUpgrade
  | metadataUpgrade
  deriving DecidableEq, Repr

inductive RecoveryStep
  | retryWithDeviceToken
  | updateAuthConfiguration
  | updateAuthCredentials
  | waitThenRetry
  | reviewAuthConfiguration
  deriving DecidableEq, Repr

/-- Sanitized device-pairing diagnostics returned by the Gateway. -/
structure DevicePairingRequest where
  reason : Option DevicePairingReason
  requestId : Option String
  remediationHint : Option String
  recommendedNextStep : Option RecoveryStep
  retryable : Option Bool
  pauseReconnect : Option Bool
  deviceId : Option String
  requestedRole : Option String
  requestedScopes : Option (List String)
  approvedRoles : Option (List String)
  approvedScopes : Option (List String)
  deriving DecidableEq, Repr

/-- A member of the details, when they are an object that has it. -/
def detail (details : Option Value) (key : String) : Option Value :=
  match details with
  | some (.object members) => (members.find? (·.1 = key)).map Prod.snd
  | _ => none

def asBool : Value → Option Bool
  | .bool b => some b
  | _ => none

def asArray : Value → Option (List Value)
  | .array values => some values
  | _ => none

def nonEmptyTrimmed (value : String) : Option String :=
  if trim value = "" then none else some (trim value)

def parsePairingReason (value : String) : Option DevicePairingReason :=
  match trim value with
  | "not-paired" => some .notPaired
  | "role-upgrade" => some .roleUpgrade
  | "scope-upgrade" => some .scopeUpgrade
  | "metadata-upgrade" => some .metadataUpgrade
  | _ => none

def parseRecoveryStep (value : String) : Option RecoveryStep :=
  match trim value with
  | "retry_with_device_token" => some .retryWithDeviceToken
  | "update_auth_configuration" => some .updateAuthConfiguration
  | "update_auth_credentials" => some .updateAuthCredentials
  | "wait_then_retry" => some .waitThenRetry
  | "review_auth_configuration" => some .reviewAuthConfiguration
  | _ => none

/-- A request identifier that is safe to show. -/
def normalizeRequestId (value : String) : Option String :=
  let value := trim value
  if value = "" ∨ 128 < (utf8 value).length then none
  else
    match value.toList with
    | [] => none
    | first :: rest =>
      if first.isAlphanum && rest.all fun c =>
        c.isAlphanum || c == '.' || c == '_' || c == ':' || c == '-' then some value
      else none

def optionalString (details : Option Value) (key : String) : Option String :=
  ((detail details key).bind asString).bind nonEmptyTrimmed

def optionalBool (details : Option Value) (key : String) : Option Bool :=
  (detail details key).bind asBool

def stringArray (details : Option Value) (key : String) : Option (List String) :=
  ((detail details key).bind asArray).bind fun values =>
    let values := (values.filterMap asString).filterMap nonEmptyTrimmed
    if values = [] then none else some values

def recoveryStep (details : Option Value) : Option RecoveryStep :=
  ((detail details "recommendedNextStep").bind asString).bind parseRecoveryStep

def parsePairingRequest (details : Option Value) : DevicePairingRequest where
  reason := ((detail details "reason").bind asString).bind parsePairingReason
  requestId := ((detail details "requestId").bind asString).bind normalizeRequestId
  remediationHint := optionalString details "remediationHint"
  recommendedNextStep := recoveryStep details
  retryable := optionalBool details "retryable"
  pauseReconnect := optionalBool details "pauseReconnect"
  deviceId := optionalString details "deviceId"
  requestedRole := optionalString details "requestedRole"
  requestedScopes := stringArray details "requestedScopes"
  approvedRoles := stringArray details "approvedRoles"
  approvedScopes := stringArray details "approvedScopes"

/-- Bounded, normalized recovery metadata from a failed Gateway connect response. -/
structure ConnectErrorDetails where
  code : Option String
  deviceId : Option String
  remediationHint : Option String
  retryable : Option Bool
  pauseReconnect : Option Bool
  deriving DecidableEq, Repr

/-- The words of a text with single spaces between them, cut after so many characters. -/
def connectDetailText (value : Option Value) (maxChars : Nat) : Option String :=
  (value.bind asString).bind fun text =>
    let words := (text.toList.splitOnP Text.isWhitespace).filter (· ≠ [])
    let normalized := [' '].intercalate words
    if normalized = [] then none else some (String.ofList (normalized.take maxChars))

namespace ConnectErrorDetails

def fromValue (value : Option Value) : ConnectErrorDetails where
  code := connectDetailText (detail value "code") 80
  deviceId := connectDetailText (detail value "deviceId") 128
  remediationHint := connectDetailText (detail value "remediationHint") 240
  retryable := (detail value "retryable").bind asBool
  pauseReconnect := (detail value "pauseReconnect").bind asBool

/-- Whether the Gateway explicitly requires automatic reconnect to pause. -/
def shouldPauseReconnect (d : ConnectErrorDetails) : Bool :=
  d.pauseReconnect == some true || d.retryable == some false

end ConnectErrorDetails
end OpenclawNode.Node
