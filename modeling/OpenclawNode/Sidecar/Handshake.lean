import OpenclawNode.Base.Json
import OpenclawNode.Sidecar.ChannelFacts

/-! The authenticated offer and accept state machine of one peer. -/
namespace OpenclawNode.Sidecar

open BigEndian (Bytes)
open BoundedWriter (Codec Serialization)
open Except (ensure)
open Json (nat object string)

inductive SidecarHandshakeState
  | starting
  | awaitingAcceptance
  | acceptancePending
  | authenticated
  | failed
  deriving DecidableEq, Repr

structure SidecarProtocolSelection where
  protocolMajor : UInt16
  protocolMinor : UInt16
  featureBits : UInt64
  limits : SidecarLimits
  deriving DecidableEq, Repr

def NegotiatedSidecarProtocol.selection (negotiated : NegotiatedSidecarProtocol) :
    SidecarProtocolSelection where
  protocolMajor := negotiated.protocolMajor
  protocolMinor := negotiated.protocolMinor
  featureBits := negotiated.featureBits
  limits := negotiated.limits

inductive SidecarHandshakeMessage
  | offer (offer : SidecarProtocolOffer)
  | accept (offer : SidecarProtocolOffer) (selection : SidecarProtocolSelection)
  deriving DecidableEq, Repr

def SidecarPeerRole.name : SidecarPeerRole → String
  | .supervisor => "supervisor"
  | .runtime => "runtime"

def SidecarLimits.serialize (limits : SidecarLimits) : Serialization :=
  object [
    ("maxFrameBytes", nat limits.maxFrameBytes.toNat),
    ("maxInFlight", nat limits.maxInFlight.toNat),
    ("bootstrapTimeoutMs", nat limits.bootstrapTimeoutMs.toNat)]

def SidecarPeerIdentity.serialize (peer : SidecarPeerIdentity) : Serialization :=
  object [
    ("role", string peer.role.name),
    ("name", string peer.name),
    ("version", string peer.version),
    ("artifactIdentity", string peer.artifactIdentity)]

def SidecarProtocolOffer.serialize (offer : SidecarProtocolOffer) : Serialization :=
  object [
    ("protocolMajor", nat offer.protocolMajor.toNat),
    ("protocolMinor", nat offer.protocolMinor.toNat),
    ("peer", offer.peer.serialize),
    ("featureBits", nat offer.featureBits.toNat),
    ("limits", offer.limits.serialize)]

def SidecarProtocolSelection.serialize (selection : SidecarProtocolSelection) : Serialization :=
  object [
    ("protocolMajor", nat selection.protocolMajor.toNat),
    ("protocolMinor", nat selection.protocolMinor.toNat),
    ("featureBits", nat selection.featureBits.toNat),
    ("limits", selection.limits.serialize)]

/-- The message as an object that starts with its `type` tag. -/
def SidecarHandshakeMessage.serialize : SidecarHandshakeMessage → Serialization
  | .offer localOffer => object [("type", string "offer"), ("offer", localOffer.serialize)]
  | .accept localOffer selection =>
    object [("type", string "accept"), ("offer", localOffer.serialize),
      ("selection", selection.serialize)]

inductive SidecarHandshakeError
  | frame (error : SidecarFrameError)
  | negotiation (error : SidecarProtocolError)
  | supervisorMustInitiate
  | selectionMismatch
  | unexpectedMessage
  | invalidPeerIdentity
  | wrongPeerRole
  | channelRoleMismatch
  | channelInstanceMismatch
  deriving DecidableEq, Repr

/-- Drives the two-frame authenticated protocol handshake for one peer. -/
structure SidecarHandshake where
  localOffer : SidecarProtocolOffer
  state : SidecarHandshakeState
  negotiated : Option NegotiatedSidecarProtocol
  pendingNegotiated : Option NegotiatedSidecarProtocol
  channelInstanceId : Option UInt64
  deriving DecidableEq, Repr

def validatePeerIdentity (offer : SidecarProtocolOffer) : Except SidecarHandshakeError Unit :=
  ensure (¬ (Text.trim offer.peer.name = "" ∨ Text.trim offer.peer.version = "" ∨
    Text.trim offer.peer.artifactIdentity = "")) .invalidPeerIdentity

def validateLocalOffer (offer : SidecarProtocolOffer) : Except SidecarHandshakeError Unit := do
  validatePeerIdentity offer
  let counterpart : SidecarProtocolOffer := { offer with
    peer := {
      role := offer.peer.role.expectedRemote
      name := "validation-peer"
      version := "0"
      artifactIdentity := "validation-only" } }
  let _ ← (negotiateSidecarProtocol offer counterpart).mapError .negotiation
  return ()

namespace SidecarHandshake

def new (localOffer : SidecarProtocolOffer) : Except SidecarHandshakeError SidecarHandshake := do
  validateLocalOffer localOffer
  return {
    localOffer, state := .starting, negotiated := none, pendingNegotiated := none,
    channelInstanceId := none }

def localRole (h : SidecarHandshake) : SidecarPeerRole := h.localOffer.peer.role

/-- The first channel a handshake is used with stays its only one. -/
def bindChannel (h : SidecarHandshake) (ch : AuthenticatedSidecarChannel) :
    Except SidecarHandshakeError SidecarHandshake :=
  match h.channelInstanceId with
  | none => .ok { h with channelInstanceId := some ch.instanceId }
  | some bound => if bound = ch.instanceId then .ok h else .error .channelInstanceMismatch

def failed (h : SidecarHandshake) : SidecarHandshake :=
  { h with state := .failed, negotiated := none, pendingNegotiated := none }

/-- End the handshake and its channel. -/
def fail {α : Type} (h : SidecarHandshake) (ch : AuthenticatedSidecarChannel)
    (error : SidecarHandshakeError) :
    Except SidecarHandshakeError α × SidecarHandshake × AuthenticatedSidecarChannel :=
  (.error error, h.failed, ch.retire)

variable (mac : Mac) (codec : Codec SidecarHandshakeMessage)

/-- Encode the supervisor's initial authenticated offer. -/
def start (h : SidecarHandshake) (ch : AuthenticatedSidecarChannel) :
    Except SidecarHandshakeError Bytes × SidecarHandshake × AuthenticatedSidecarChannel :=
  match h.bindChannel ch with
  | .error error => (.error error, h, ch.retire)
  | .ok h =>
    if ch.role ≠ h.localOffer.peer.role then h.fail ch .channelRoleMismatch
    else if h.localOffer.peer.role ≠ .supervisor then h.fail ch .supervisorMustInitiate
    else if h.state ≠ .starting then h.fail ch .unexpectedMessage
    else
      match ch.seal mac (codec.serialize (.offer h.localOffer)) with
      | .error error => h.fail ch (.frame error)
      | .ok (frame, ch) => (.ok frame, { h with state := .awaitingAcceptance }, ch)

/-- The runtime's answer to an offer. The acceptance is sealed under the bootstrap ceiling; the
selection waits until it is delivered. -/
def acceptSupervisor (h : SidecarHandshake) (ch : AuthenticatedSidecarChannel)
    (supervisorOffer : SidecarProtocolOffer) :
    Except SidecarHandshakeError (Bytes × SidecarHandshake × AuthenticatedSidecarChannel) := do
  ensure (supervisorOffer.peer.role = .supervisor) .wrongPeerRole
  validatePeerIdentity supervisorOffer
  let negotiated ← (negotiateSidecarProtocol h.localOffer supervisorOffer).mapError .negotiation
  let (acceptance, ch) ← (ch.seal mac
    (codec.serialize (.accept h.localOffer negotiated.selection))).mapError .frame
  return (acceptance,
    { h with pendingNegotiated := some negotiated, state := .acceptancePending }, ch)

/-- The supervisor recomputes the selection and compares it with what the runtime claims. -/
def confirmRuntime (h : SidecarHandshake) (ch : AuthenticatedSidecarChannel)
    (runtimeOffer : SidecarProtocolOffer) (claimed : SidecarProtocolSelection) :
    Except SidecarHandshakeError (SidecarHandshake × AuthenticatedSidecarChannel) := do
  ensure (runtimeOffer.peer.role = .runtime) .wrongPeerRole
  validatePeerIdentity runtimeOffer
  let negotiated ← (negotiateSidecarProtocol h.localOffer runtimeOffer).mapError .negotiation
  ensure (claimed = negotiated.selection) .selectionMismatch
  let ch ← (ch.applyNegotiatedProtocol negotiated).mapError .negotiation
  return ({ h with negotiated := some negotiated, state := .authenticated }, ch)

/-- What an opened message does to the peer that waits for it. -/
def receiveMessage (h : SidecarHandshake) (ch : AuthenticatedSidecarChannel)
    (message : SidecarHandshakeMessage) : Except SidecarHandshakeError
      (Option Bytes × SidecarHandshake × AuthenticatedSidecarChannel) :=
  match h.localOffer.peer.role, h.state, message with
  | .runtime, .starting, .offer offer => do
    let (acceptance, h, ch) ← h.acceptSupervisor mac codec ch offer
    return (some acceptance, h, ch)
  | .supervisor, .awaitingAcceptance, .accept offer selection => do
    let (h, ch) ← h.confirmRuntime ch offer selection
    return (none, h, ch)
  | _, _, _ => .error .unexpectedMessage

/-- Consume one authenticated handshake frame and optionally return the runtime's acceptance. -/
def receive (h : SidecarHandshake) (ch : AuthenticatedSidecarChannel) (frame : Bytes) :
    Except SidecarHandshakeError (Option Bytes) × SidecarHandshake × AuthenticatedSidecarChannel :=
  match h.bindChannel ch with
  | .error error => (.error error, h, ch.retire)
  | .ok h =>
    if ch.role ≠ h.localOffer.peer.role then h.fail ch .channelRoleMismatch
    else
      match ch.open mac codec.deserialize frame with
      | (.error error, ch) => h.fail ch (.frame error)
      | (.ok message, ch) =>
        match h.receiveMessage mac codec ch message with
        | .error error => h.fail ch error
        | .ok (reply, h, ch) => (.ok reply, h, ch)

/-- Commit the runtime's selection after its acceptance frame has been written. -/
def completeAcceptance (h : SidecarHandshake) (ch : AuthenticatedSidecarChannel) :
    Except SidecarHandshakeError Unit × SidecarHandshake × AuthenticatedSidecarChannel :=
  match h.bindChannel ch with
  | .error error => (.error error, h, ch.retire)
  | .ok h =>
    if ch.role ≠ .runtime then h.fail ch .channelRoleMismatch
    else if ch.retired then h.fail ch (.frame .channelRetired)
    else if h.state ≠ .acceptancePending then h.fail ch .unexpectedMessage
    else
      match h.pendingNegotiated with
      | none => h.fail ch .unexpectedMessage
      | some negotiated =>
        let h := { h with pendingNegotiated := none }
        match ch.applyNegotiatedProtocol negotiated with
        | .error error => h.fail ch (.negotiation error)
        | .ok ch => (.ok (), { h with negotiated := some negotiated, state := .authenticated }, ch)

end SidecarHandshake
end OpenclawNode.Sidecar
