import OpenclawNode.Node.CommandRuntime
import OpenclawNode.Sidecar.HandshakeFacts
import OpenclawNode.Sidecar.Messages

/-! The one-time configuration exchange and the runtime bridge it activates. -/
namespace OpenclawNode.Sidecar

open BigEndian (Bytes)
open BoundedWriter (Codec Serialization)
open Except (ensure)
open Json (string object)
open Node (CommandRuntime CommandRuntimeBuilder HandlerError RuntimeBuildError fromMillis isReserved)
open Text (utf8)

inductive SidecarRuntimeBridgeError
  | configurationNotValidated
  | channelInstanceMismatch
  | channelRetired
  | statusMessageTooLarge
  | runtimeRoleRequired
  | invalidManifestGeneration
  | invalidLimit (field : String)
  | invalidName (name : String)
  | duplicateName (name : String)
  | reservedCommand (name : String)
  | runtime (error : RuntimeBuildError)
  deriving DecidableEq, Repr

inductive SidecarConfigurationError
  | handshakeNotAuthenticated
  | frame (error : SidecarFrameError)
  | configuration (error : SidecarRuntimeBridgeError)
  | supervisorMustInitiate
  | runtimeMustAcknowledge
  | channelRoleMismatch
  | channelInstanceMismatch
  | manifestMismatch
  | unexpectedMessage
  deriving DecidableEq, Repr

inductive SidecarConfigurationState
  | starting
  | awaitingConfiguration
  | awaitingAcknowledgement
  | acknowledgementPending
  | configured
  | activated
  | failed
  deriving DecidableEq, Repr

def messageTooLarge : HandlerError where
  code := "SIDECAR_MESSAGE_TOO_LARGE"
  message := "complete sidecar message exceeds the authenticated payload limit"

def nonportableJson : HandlerError where
  code := "SIDECAR_NON_PORTABLE_JSON"
  message := "sidecar message contains an integer outside the exact JSON range"

def channelRetired : HandlerError where
  code := "SIDECAR_CHANNEL_RETIRED"
  message := "authenticated sidecar channel is no longer live"

/-- A handler error as the JSON object that counts against an output limit. -/
def failureBytes (error : HandlerError) : Nat :=
  (object [("code", string error.code), ("message", string error.message)]).output.length

/-- The most bytes any of the bridge's own failures takes. -/
def minimumBridgeFailureBytes : Nat :=
  ([messageTooLarge, nonportableJson, channelRetired].map failureBytes).foldl max 0

def nameChar (c : Char) : Bool :=
  c.isAlphanum || c = '.' || c = '_' || c = '-'

/-- Every name is short, plain, not reserved and used once. -/
def validateNames (commands : Bool) (names : List String) :
    List String → Except SidecarRuntimeBridgeError Unit
  | [] => .ok ()
  | name :: rest =>
    if name = "" ∨ 128 < (utf8 name).length ∨ name.toList.all nameChar = false then
      .error (.invalidName name)
    else if commands ∧ isReserved name then .error (.reservedCommand name)
    else if name ∈ names then .error (.duplicateName name)
    else validateNames commands (name :: names) rest

def SidecarRuntimeConfiguration.commandNames (c : SidecarRuntimeConfiguration) : List String :=
  c.commands.map SidecarCommandRegistration.name

def validateConfiguration (c : SidecarRuntimeConfiguration)
    (negotiated : SidecarProtocolSelection) : Except SidecarRuntimeBridgeError Unit := do
  ensure (¬ (c.manifestGeneration = 0 ∨ maxPortableJsonInteger < c.manifestGeneration))
    .invalidManifestGeneration
  ensure (¬ (c.maxConcurrency = 0 ∨ negotiated.limits.maxInFlight < c.maxConcurrency))
    (.invalidLimit "maxConcurrency")
  ensure (¬ (c.maxInputBytes = 0 ∨ negotiated.limits.maxFrameBytes < c.maxInputBytes))
    (.invalidLimit "maxInputBytes")
  ensure (¬ (c.maxOutputBytes = 0 ∨ c.maxOutputBytes.toNat < minimumBridgeFailureBytes ∨
    negotiated.limits.maxFrameBytes < c.maxOutputBytes)) (.invalidLimit "maxOutputBytes")
  ensure (¬ (c.defaultTimeoutMs = 0 ∨ c.maxTimeoutMs = 0 ∨ c.maxTimeoutMs < c.defaultTimeoutMs ∨
    c.defaultTimeoutMs ≤ c.resultGraceMs)) (.invalidLimit "timeouts")
  validateNames false [] c.capabilities
  validateNames true [] c.commandNames

def manifestFromConfiguration (c : SidecarRuntimeConfiguration) : SidecarRuntimeManifest where
  manifestGeneration := c.manifestGeneration
  capabilities := c.capabilities.mergeSort
  commands := c.commandNames.mergeSort

/-- The longest status the bridge can report must fit the channel. -/
def validateStatusBudget (codec : Codec SidecarRuntimeMessage) (runtimeVersion : String)
    (manifestGeneration : UInt64) (maxPayloadBytes : Nat) :
    Except SidecarRuntimeBridgeError Unit :=
  let worstCase := SidecarRuntimeMessage.status {
    state := .backingOff, manifestGeneration, runtimeVersion
    attempt := maxPortableJsonInteger, reason := some .deliverySaturated }
  ensure (runtimeMessageWithinLimit (codec.serialize worstCase) maxPayloadBytes)
    .statusMessageTooLarge

/-- Enforces the one-time configuration exchange right after the authenticated handshake. -/
structure SidecarConfigurationExchange where
  role : SidecarPeerRole
  channelInstanceId : UInt64
  selection : SidecarProtocolSelection
  runtimeVersion : String
  state : SidecarConfigurationState
  configuration : Option SidecarRuntimeConfiguration
  expectedManifest : Option SidecarRuntimeManifest
  maxPayloadBytes : Option Nat
  deriving DecidableEq, Repr

namespace SidecarConfigurationExchange

/-- Bind a configuration exchange to one authenticated handshake, which it consumes. -/
def new (h : SidecarHandshake) : Except SidecarConfigurationError SidecarConfigurationExchange := do
  ensure (h.state = .authenticated) .handshakeNotAuthenticated
  let negotiated ← h.negotiated.elim (.error .handshakeNotAuthenticated) .ok
  let channelInstanceId ← h.channelInstanceId.elim (.error .handshakeNotAuthenticated) .ok
  return {
    role := h.localRole
    channelInstanceId
    selection := negotiated.selection
    runtimeVersion :=
      match h.localRole with
      | .runtime => h.localOffer.peer.version
      | .supervisor => negotiated.remotePeer.version
    state :=
      match h.localRole with
      | .supervisor => .starting
      | .runtime => .awaitingConfiguration
    configuration := none
    expectedManifest := none
    maxPayloadBytes := none }

def failed (e : SidecarConfigurationExchange) : SidecarConfigurationExchange :=
  { e with
    configuration := none, expectedManifest := none, maxPayloadBytes := none, state := .failed }

/-- End the exchange and its channel. -/
def fail {α : Type} (e : SidecarConfigurationExchange) (ch : AuthenticatedSidecarChannel)
    (error : SidecarConfigurationError) : Except SidecarConfigurationError α ×
      SidecarConfigurationExchange × AuthenticatedSidecarChannel :=
  (.error error, e.failed, ch.retire)

/-- Keep a validated configuration, the manifest it implies and the channel's payload budget. -/
def validated (e : SidecarConfigurationExchange) (c : SidecarRuntimeConfiguration)
    (ch : AuthenticatedSidecarChannel) : SidecarConfigurationExchange :=
  { e with
    configuration := some c
    expectedManifest := some (manifestFromConfiguration c)
    maxPayloadBytes := some ch.maxPayloadBytes
    state := .awaitingAcknowledgement }

variable (mac : Mac) (codec : Codec SidecarRuntimeMessage)

/-- The checks both sides make before they keep a configuration. -/
def validate (e : SidecarConfigurationExchange) (c : SidecarRuntimeConfiguration)
    (ch : AuthenticatedSidecarChannel) : Except SidecarRuntimeBridgeError Unit := do
  validateConfiguration c e.selection
  validateStatusBudget codec e.runtimeVersion c.manifestGeneration ch.maxPayloadBytes

/-- Seal the supervisor's single runtime configuration. -/
def start (e : SidecarConfigurationExchange) (ch : AuthenticatedSidecarChannel)
    (c : SidecarRuntimeConfiguration) : Except SidecarConfigurationError Bytes ×
      SidecarConfigurationExchange × AuthenticatedSidecarChannel :=
  if ch.instanceId ≠ e.channelInstanceId then (.error .channelInstanceMismatch, e, ch.retire)
  else if e.role ≠ .supervisor then e.fail ch .supervisorMustInitiate
  else if ch.role ≠ e.role then e.fail ch .channelRoleMismatch
  else if e.state ≠ .starting then e.fail ch .unexpectedMessage
  else
    let ch := ch.lockFrameLimit
    match e.validate codec c ch with
    | .error error => e.fail ch (.configuration error)
    | .ok () =>
      match ch.seal mac (codec.serialize (.configure c)) with
      | .error error => e.fail ch (.frame error)
      | .ok (frame, ch) => (.ok frame, e.validated c ch, ch)

/-- What an opened message does to the exchange that waits for it. -/
def receiveMessage (e : SidecarConfigurationExchange) (ch : AuthenticatedSidecarChannel)
    (message : SidecarRuntimeMessage) : Except SidecarConfigurationError
      (Option SidecarRuntimeConfiguration × SidecarConfigurationExchange) :=
  match e.role, e.state, message with
  | .runtime, .awaitingConfiguration, .configure c => do
    (e.validate codec c ch).mapError .configuration
    return (some c, e.validated c ch)
  | .supervisor, .awaitingAcknowledgement, .configured manifest => do
    ensure (e.expectedManifest = some manifest) .manifestMismatch
    return (none, { e with state := .configured })
  | _, _, _ => .error .unexpectedMessage

/-- Receive the runtime configuration or the configured acknowledgement. -/
def receive (e : SidecarConfigurationExchange) (ch : AuthenticatedSidecarChannel)
    (frame : Bytes) : Except SidecarConfigurationError (Option SidecarRuntimeConfiguration) ×
      SidecarConfigurationExchange × AuthenticatedSidecarChannel :=
  if ch.instanceId ≠ e.channelInstanceId then (.error .channelInstanceMismatch, e, ch.retire)
  else if ch.role ≠ e.role then e.fail ch .channelRoleMismatch
  else
    match ch.lockFrameLimit.open mac codec.deserialize frame with
    | (.error error, ch) => e.fail ch (.frame error)
    | (.ok message, ch) =>
      match e.receiveMessage codec ch message with
      | .error error => e.fail ch error
      | .ok (received, e) => (.ok received, e, ch)

/-- Seal the runtime's acknowledgement of the exact validated manifest. -/
def acknowledge (e : SidecarConfigurationExchange) (ch : AuthenticatedSidecarChannel)
    (manifest : SidecarRuntimeManifest) : Except SidecarConfigurationError Bytes ×
      SidecarConfigurationExchange × AuthenticatedSidecarChannel :=
  if ch.instanceId ≠ e.channelInstanceId then (.error .channelInstanceMismatch, e, ch.retire)
  else if e.role ≠ .runtime then e.fail ch .runtimeMustAcknowledge
  else if ch.role ≠ e.role then e.fail ch .channelRoleMismatch
  else if e.state ≠ .awaitingAcknowledgement then e.fail ch .unexpectedMessage
  else if e.expectedManifest ≠ some manifest then e.fail ch .manifestMismatch
  else
    match ch.seal mac (codec.serialize (.configured manifest)) with
    | .error error => e.fail ch (.frame error)
    | .ok (frame, ch) => (.ok frame, { e with state := .acknowledgementPending }, ch)

/-- Commit the runtime configuration after its acknowledgement has been written. -/
def completeAcknowledgement (e : SidecarConfigurationExchange)
    (ch : AuthenticatedSidecarChannel) : Except SidecarConfigurationError Unit ×
      SidecarConfigurationExchange × AuthenticatedSidecarChannel :=
  if ch.instanceId ≠ e.channelInstanceId then (.error .channelInstanceMismatch, e, ch.retire)
  else if e.role ≠ .runtime then e.fail ch .runtimeMustAcknowledge
  else if ch.retired then e.fail ch (.frame .channelRetired)
  else if e.state ≠ .acknowledgementPending then e.fail ch .unexpectedMessage
  else (.ok (), { e with state := .configured }, ch)

end SidecarConfigurationExchange

/-- What the bridge's handlers and its admission policy capture besides the adapter: the payload
budget of the channel and its liveness signal, named by the channel instance. -/
structure SidecarBinding where
  maxPayloadBytes : Nat
  liveness : UInt64
  deriving DecidableEq, Repr

abbrev SidecarCommandRuntime := CommandRuntime SidecarBinding SidecarBinding

def buildCommandRuntime (c : SidecarRuntimeConfiguration) (manifest : SidecarRuntimeManifest)
    (binding : SidecarBinding) : Except RuntimeBuildError SidecarCommandRuntime :=
  let builder : CommandRuntimeBuilder SidecarBinding SidecarBinding :=
    (({} : CommandRuntimeBuilder SidecarBinding SidecarBinding)
      |>.withMaxConcurrency c.maxConcurrency.toNat
      |>.withMaxInputBytes c.maxInputBytes.toNat
      |>.withMaxOutputBytes c.maxOutputBytes.toNat
      |>.withDefaultTimeout (fromMillis c.defaultTimeoutMs.toNat)
      |>.withMaxTimeout (fromMillis c.maxTimeoutMs.toNat)
      |>.withResultGrace (fromMillis c.resultGraceMs.toNat))
  let builder := manifest.capabilities.foldl CommandRuntimeBuilder.capability builder
  let builder := builder.withAdmissionPolicy binding
  let builder := manifest.commands.foldl (fun builder command => builder.command command binding)
    builder
  builder.build

/-- A validated, immutable manifest with the bounded runtime that enforces it. -/
structure SidecarRuntimeBridge where
  runtime : SidecarCommandRuntime
  manifest : SidecarRuntimeManifest
  status : SidecarRuntimeStatus

namespace SidecarRuntimeBridge

/-- What `activate` does once the channel and the role are accepted. -/
def activateConfigured (e : SidecarConfigurationExchange) (ch : AuthenticatedSidecarChannel) :
    Except SidecarRuntimeBridgeError SidecarRuntimeBridge := do
  let configuration ← e.configuration.elim (.error .configurationNotValidated) .ok
  let manifest := manifestFromConfiguration configuration
  ensure (¬ (e.state ≠ .configured ∨ e.expectedManifest ≠ some manifest))
    .configurationNotValidated
  let maxPayloadBytes ← e.maxPayloadBytes.elim (.error .configurationNotValidated) .ok
  let runtime ← (buildCommandRuntime configuration manifest
    ⟨maxPayloadBytes, ch.instanceId⟩).mapError .runtime
  return {
    runtime, manifest
    status := {
      state := .configured
      manifestGeneration := manifest.manifestGeneration
      runtimeVersion := e.runtimeVersion
      attempt := 0
      reason := none } }

/-- Build a bridge from the runtime side of a validated configuration exchange. -/
def activate (e : SidecarConfigurationExchange) (ch : AuthenticatedSidecarChannel) :
    Except SidecarRuntimeBridgeError SidecarRuntimeBridge × SidecarConfigurationExchange ×
      AuthenticatedSidecarChannel :=
  if ch.instanceId ≠ e.channelInstanceId then (.error .channelInstanceMismatch, e, ch.retire)
  else if ch.retired then (.error .channelRetired, e.failed, ch)
  else if e.role ≠ .runtime then (.error .runtimeRoleRequired, e, ch)
  else
    match activateConfigured e ch with
    | .error error => (.error error, e, ch)
    | .ok bridge => (.ok bridge, { e with state := .activated }, ch)

end SidecarRuntimeBridge
end OpenclawNode.Sidecar
