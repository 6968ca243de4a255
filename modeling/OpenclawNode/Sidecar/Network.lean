import OpenclawNode.Base.Transition
import OpenclawNode.Sidecar.ChannelFacts

/-! Any number of authenticated channels under an adversary that owns the transport. -/
namespace OpenclawNode.Sidecar

open BigEndian (Bytes)
open BoundedWriter (Serialization)
open Transition (System)

/-- A channel, the key it was created with (retirement wipes the channel's own copy), and the
payloads it has sealed and accepted so far. -/
structure Endpoint where
  channel : AuthenticatedSidecarChannel
  createdKey : SidecarSessionKey
  sealed : List Bytes
  accepted : List Bytes

structure Network where
  nextInstanceId : UInt64
  endpoint : UInt64 → Option Endpoint
  /-- Every frame sealed so far with the key that sealed it. -/
  frames : List (SidecarSessionKey × Bytes)

inductive NetworkAction
  | create (role : SidecarPeerRole) (sessionId : String) (generation : UInt64)
      (key : SidecarSessionKey) (maxFrameBytes : UInt32)
  | sealPayload (i : UInt64) (payload : Serialization)
  | sealFailed (i : UInt64)
  | accept (i : UInt64) (frame : Bytes)
  | reject (i : UInt64) (frame : Bytes)
  | retire (i : UInt64)
  | lowerFrameLimit (i : UInt64) (limit : UInt32)
  | applyNegotiatedProtocol (i : UInt64) (negotiated : NegotiatedSidecarProtocol)
  | lockFrameLimit (i : UInt64)
  | refused

def Network.set (w : Network) (i : UInt64) (e : Endpoint) : Network :=
  { w with endpoint := Function.update w.endpoint i (some e) }

/-- The ideal MAC: a frame whose tag verifies under a key was sealed by a channel holding it. -/
def Network.IdealMac (mac : Mac) (w : Network) (key : SidecarSessionKey) (frame : Bytes) : Prop :=
  mac.verifies key frame → (key, frame) ∈ w.frames

/-- One call on one channel. The adversary chooses the call, the channel and the frame; only the
ideal MAC limits what an accepted frame can be. A payload type is its decoder. -/
inductive Network.Step (mac : Mac) : Network → NetworkAction → Network → Prop
  | create {w role sessionId generation key maxFrameBytes ch next} :
      AuthenticatedSidecarChannel.new w.nextInstanceId role sessionId generation key
        maxFrameBytes = .ok (ch, next) →
      Step mac w (.create role sessionId generation key maxFrameBytes)
        { (w.set ch.instanceId ⟨ch, key, [], []⟩) with nextInstanceId := next }
  | createFailed {w role sessionId generation key maxFrameBytes error} :
      AuthenticatedSidecarChannel.new w.nextInstanceId role sessionId generation key
        maxFrameBytes = .error error →
      Step mac w .refused w
  | sealPayload {w i e payload frame ch} : w.endpoint i = some e →
      e.channel.seal mac payload = .ok (frame, ch) →
      Step mac w (.sealPayload i payload)
        { (w.set i { e with channel := ch, sealed := e.sealed ++ [payload.output] }) with
          frames := w.frames ++ [(e.channel.key, frame)] }
  | sealFailed {w i e payload error} : w.endpoint i = some e →
      e.channel.seal mac payload = .error error → Step mac w (.sealFailed i) w
  | accept {w i e frame sequence payload ch} {α : Type} {decode : Bytes → Option α} {decoded : α} :
      w.endpoint i = some e → w.IdealMac mac e.channel.key frame →
      e.channel.authenticatedPayload mac frame = .ok (sequence, payload) →
      e.channel.open mac decode frame = (.ok decoded, ch) →
      Step mac w (.accept i frame)
        (w.set i { e with channel := ch, accepted := e.accepted ++ [payload] })
  | reject {w i e frame error ch} {α : Type} {decode : Bytes → Option α} :
      w.endpoint i = some e → e.channel.open mac decode frame = (.error error, ch) →
      Step mac w (.reject i frame) (w.set i { e with channel := ch })
  | retire {w i e} : w.endpoint i = some e →
      Step mac w (.retire i) (w.set i { e with channel := e.channel.retire })
  | lowerFrameLimit {w i e limit ch} : w.endpoint i = some e →
      e.channel.lowerFrameLimit limit = .ok ch →
      Step mac w (.lowerFrameLimit i limit) (w.set i { e with channel := ch })
  | lowerFrameLimitFailed {w i e limit error} : w.endpoint i = some e →
      e.channel.lowerFrameLimit limit = .error error → Step mac w .refused w
  | applyNegotiatedProtocol {w i e negotiated ch} : w.endpoint i = some e →
      e.channel.applyNegotiatedProtocol negotiated = .ok ch →
      Step mac w (.applyNegotiatedProtocol i negotiated) (w.set i { e with channel := ch })
  | applyNegotiatedProtocolFailed {w i e negotiated error} : w.endpoint i = some e →
      e.channel.applyNegotiatedProtocol negotiated = .error error → Step mac w .refused w
  | lockFrameLimit {w i e} : w.endpoint i = some e →
      Step mac w (.lockFrameLimit i) (w.set i { e with channel := e.channel.lockFrameLimit })

/-- Runs start without channels, at any value of the instance counter. -/
def networkSystem (mac : Mac) : System Network NetworkAction where
  Initial w := w.endpoint = (fun _ => none) ∧ w.frames = []
  Step := Network.Step mac

/-- The sender that a receiver of this endpoint's identity listens to. -/
def Complementary (r s : Endpoint) : Prop :=
  s.channel.role = r.channel.role.expectedRemote ∧ s.channel.sessionId = r.channel.sessionId ∧
    s.channel.generation = r.channel.generation ∧ s.createdKey = r.createdKey

/-- At most one channel exists per role, session, generation and key. -/
def Network.UniqueChannels (w : Network) : Prop :=
  ∀ i j a b, w.endpoint i = some a → w.endpoint j = some b →
    a.channel.role = b.channel.role → a.channel.sessionId = b.channel.sessionId →
    a.channel.generation = b.channel.generation → a.createdKey = b.createdKey → i = j

end OpenclawNode.Sidecar
