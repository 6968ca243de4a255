import OpenclawNode.Node.Lifecycle

/-! The reconnect policy: which failures keep the session, retry or pause. -/
namespace OpenclawNode.Node

open Json (Value asString)
open Transition (System)

/-- The longest duration, in nanoseconds. -/
def durationMax : Nat := (2 ^ 64 - 1) * 1000000000 + 999999999

abbrev Duration := { d : Nat // d ≤ durationMax }

namespace Duration

def fromSecs (secs : UInt64) : Duration := ⟨secs.toNat * 1000000000, by
  have h := secs.toNat_lt
  unfold durationMax
  omega⟩

def fromMillis (ms : UInt64) : Duration := ⟨ms.toNat * 1000000, by
  have h := ms.toNat_lt
  unfold durationMax
  omega⟩

def asSecs (d : Duration) : UInt64 := UInt64.ofNat (d.val / 1000000000)

/-- `checked_mul(2)`. -/
def checkedDouble (d : Duration) : Option Duration :=
  if h : d.val * 2 ≤ durationMax then some ⟨d.val * 2, h⟩ else none

end Duration

def deviceTokenRetryDelay : Duration := Duration.fromMillis 250

inductive StoredDeviceTokenRetry
  | unavailable
  | availableForTrustedEndpoint
  deriving DecidableEq, Repr

structure ReconnectPolicy where
  initialDelay : Duration
  maximumDelay : Duration
  nextDelay : Duration
  deviceTokenRetryUsed : Bool
  deriving DecidableEq, Repr

def isAuthPauseCode (code : String) : Bool :=
  code ∈ ["AUTH_TOKEN_MISSING", "AUTH_TOKEN_NOT_CONFIGURED", "AUTH_BOOTSTRAP_TOKEN_INVALID",
    "AUTH_PASSWORD_MISSING", "AUTH_PASSWORD_MISMATCH", "AUTH_PASSWORD_NOT_CONFIGURED",
    "AUTH_RATE_LIMITED", "AUTH_DEVICE_TOKEN_MISMATCH", "AUTH_SCOPE_MISMATCH",
    "AUTH_TOKEN_MISMATCH", "CONTROL_UI_DEVICE_IDENTITY_REQUIRED", "DEVICE_IDENTITY_REQUIRED"]

def connectDetailCode (gatewayCode : String) (details : Option Value) : String :=
  (((detail details "code").bind asString).bind nonEmptyTrimmed).getD
    (if gatewayCode = "NOT_PAIRED" then "PAIRING_REQUIRED" else gatewayCode)

def gatewayRetryAfter : ClientError → Option Duration
  | .gateway _ _ _ _ _ retryAfterMs => retryAfterMs.map Duration.fromMillis
  | _ => none

def gatewayRequestsDeviceTokenRetry : ClientError → Bool
  | .gateway method code _ details _ _ =>
    method == "connect" && (connectDetailCode code details == "AUTH_TOKEN_MISMATCH" ||
      recoveryStep details == some .retryWithDeviceToken)
  | _ => false

def isSessionRequestError : ClientError → Bool
  | .gateway method _ _ _ _ _ => method != "connect"
  | .requestTimeout method => method != "connect"
  | .eventLagged _ => true
  | .notActivated => true
  | _ => false

/-- A pairing failure for which the Gateway says to go on connecting. -/
def DevicePairingRequest.waits (pairing : DevicePairingRequest) : Bool :=
  pairing.pauseReconnect == some false || pairing.recommendedNextStep == some .waitThenRetry

def classifyGatewayPause (code : String) (details : Option Value) (retryable : Option Bool) :
    Option ReconnectPause :=
  let detailCode := connectDetailCode code details
  if detailCode = "PAIRING_REQUIRED" then
    let pairing := parsePairingRequest details
    if pairing.waits then none else some (.devicePairing pairing)
  else if detailCode = "PROTOCOL_MISMATCH" ∨ detailCode = "CLIENT_VERSION_MISMATCH" then
    some (.protocol (some detailCode))
  else if retryable = some false ∨ (ConnectErrorDetails.fromValue details).shouldPauseReconnect then
    some (.authentication detailCode)
  else if detailCode = "AUTH_RATE_LIMITED" then some (.authentication detailCode)
  else
    match recoveryStep details with
    | some .waitThenRetry => none
    | some .retryWithDeviceToken => some (.authentication detailCode)
    | some .updateAuthConfiguration => some (.authentication detailCode)
    | some .updateAuthCredentials => some (.authentication detailCode)
    | some .reviewAuthConfiguration => some (.authentication detailCode)
    | none => if isAuthPauseCode detailCode then some (.authentication detailCode) else none

def classifyPause : ClientError → Option ReconnectPause
  | .invalidUrl _ => some .configuration
  | .insecureRemoteGateway => some .configuration
  | .tls reason => if isTlsConfigurationError reason then some .configuration else none
  | .connectParams _ => some .localIdentity
  | .identity _ => some .localIdentity
  | .invalidChallenge _ => some (.protocol none)
  | .invalidFrame _ => some (.protocol none)
  | .gateway _ code _ details retryable _ => classifyGatewayPause code details retryable
  | .transport _ => none
  | .connectTimeout => none
  | .challengeTimeout => none
  | .requestTimeout _ => none
  | .writeTimeout _ => none
  | .closed _ => none
  | .eventLagged _ => none
  | .notActivated => none

namespace ReconnectPolicy

def new (initialDelay maximumDelay : Duration) : ReconnectPolicy where
  initialDelay := initialDelay
  maximumDelay := max maximumDelay initialDelay
  nextDelay := initialDelay
  deviceTokenRetryUsed := false

/-- Whether one application-supplied stored token is asked for. -/
def requestsStoredToken (p : ReconnectPolicy) (error : ClientError)
    (storedToken : StoredDeviceTokenRetry) : Bool :=
  !p.deviceTokenRetryUsed && storedToken == .availableForTrustedEndpoint &&
    gatewayRequestsDeviceTokenRetry error

def afterFailureWithDeviceToken (p : ReconnectPolicy) (error : ClientError)
    (storedToken : StoredDeviceTokenRetry) : ReconnectAction × ReconnectPolicy :=
  if isSessionRequestError error then (.keepSession, p)
  else if p.requestsStoredToken error storedToken then
    (.retryWithStoredDeviceTokenAfter deviceTokenRetryDelay.val,
      { p with deviceTokenRetryUsed := true })
  else
    match classifyPause error with
    | some pause => (.pause pause, p)
    | none =>
      match gatewayRetryAfter error with
      | some delay => (.retryAfter (min delay p.maximumDelay).val, p)
      | none =>
        (.retryAfter p.nextDelay.val, { p with
          nextDelay := min (p.nextDelay.checkedDouble.getD p.maximumDelay) p.maximumDelay })

def afterFailure (p : ReconnectPolicy) (error : ClientError) : ReconnectAction × ReconnectPolicy :=
  p.afterFailureWithDeviceToken error .unavailable

/-- Reset exponential backoff after a successful connection. -/
def connected (p : ReconnectPolicy) : ReconnectPolicy :=
  { p with nextDelay := p.initialDelay, deviceTokenRetryUsed := false }

end ReconnectPolicy

/-- The policy that the lifecycle drives. -/
def reconnectRules : ReconnectRules ReconnectPolicy where
  connected := ReconnectPolicy.connected
  afterFailure := ReconnectPolicy.afterFailure

inductive PolicyCall
  | failed (error : ClientError) (storedToken : StoredDeviceTokenRetry)
  | connected

/-- A failure that nothing but the backoff answers. -/
def ReconnectPolicy.fallsThrough (p : ReconnectPolicy) (error : ClientError)
    (storedToken : StoredDeviceTokenRetry) : Bool :=
  !isSessionRequestError error && !p.requestsStoredToken error storedToken &&
    (classifyPause error).isNone && (gatewayRetryAfter error).isNone

/-- A policy with what it answered since the last connection: how often with its backoff, and how
often with a stored token. -/
structure PolicyRun where
  policy : ReconnectPolicy
  plain : Nat
  storedTokens : Nat

namespace PolicyRun

def failed (w : PolicyRun) (error : ClientError) (storedToken : StoredDeviceTokenRetry) :
    PolicyRun where
  policy := (w.policy.afterFailureWithDeviceToken error storedToken).2
  plain := w.plain + (w.policy.fallsThrough error storedToken).toNat
  storedTokens := w.storedTokens +
    match (w.policy.afterFailureWithDeviceToken error storedToken).1 with
    | .retryWithStoredDeviceTokenAfter _ => 1
    | _ => 0

def connected (w : PolicyRun) : PolicyRun := ⟨w.policy.connected, 0, 0⟩

end PolicyRun

inductive PolicyStep : PolicyRun → PolicyCall → PolicyRun → Prop
  | failed {w} (error : ClientError) (storedToken : StoredDeviceTokenRetry) :
      PolicyStep w (.failed error storedToken) (w.failed error storedToken)
  | connected {w} : PolicyStep w .connected w.connected

def policySystem (initialDelay maximumDelay : Duration) : System PolicyRun PolicyCall where
  Initial w := w = ⟨.new initialDelay maximumDelay, 0, 0⟩
  Step := PolicyStep

/-- The backoff of the Gateway client, by the number of the attempt. -/
def reconnectBackoff (attempt : UInt32) (maximum : Duration) : Duration :=
  let shift := attempt.toNat - 1
  let seconds : UInt64 := if shift < 64 then UInt64.ofNat (2 ^ shift) else UInt64.ofNat (2 ^ 64 - 1)
  Duration.fromSecs (min seconds maximum.asSecs)

end OpenclawNode.Node
