import OpenclawNode.Base.Transition
import OpenclawNode.Sidecar.ConfigurationFacts

/-! Two peers, their channels and an adversary that owns the transport between them. -/
namespace OpenclawNode.Sidecar

open BigEndian (Bytes)
open BoundedWriter (Codec)
open Transition (System)

/-- What both peers are given out of band, and the bootstrap ceiling and the offer of each. -/
structure SidecarSession where
  key : SidecarSessionKey
  sessionId : String
  generation : UInt64
  maxFrameBytes : SidecarPeerRole → UInt32
  offer : SidecarPeerRole → SidecarProtocolOffer
  offer_role : ∀ role, (offer role).peer.role = role

/-- A peer drives its handshake until an exchange consumes it. The consumed handshake is kept for
the record only. -/
inductive SidecarPhase
  | handshake (h : SidecarHandshake)
  | exchange (consumed : SidecarHandshake) (e : SidecarConfigurationExchange)
  | refused

structure SidecarParty where
  channel : AuthenticatedSidecarChannel
  phase : SidecarPhase

/-- What has been done so far, in order. -/
inductive SidecarEvent
  | computed (negotiated : NegotiatedSidecarProtocol)
  | configured (c : SidecarRuntimeConfiguration)
  | accepted (c : SidecarRuntimeConfiguration)
  | acknowledged (manifest : SidecarRuntimeManifest)
  | committed
  | activated (bridge : SidecarRuntimeBridge)

structure SidecarRun where
  party : SidecarPeerRole → SidecarParty
  /-- Every frame sealed so far. -/
  frames : List Bytes
  log : List SidecarEvent

def SidecarRun.set (w : SidecarRun) (role : SidecarPeerRole) (p : SidecarParty) : SidecarRun :=
  { w with party := Function.update w.party role p }

def SidecarRun.record (w : SidecarRun) (frames : List Bytes) (events : List SidecarEvent) :
    SidecarRun :=
  { w with frames := w.frames ++ frames, log := w.log ++ events }

@[simp] theorem SidecarRun.set_self (w : SidecarRun) (role : SidecarPeerRole) (p : SidecarParty) :
    (w.set role p).party role = p := by
  simp [set]

theorem SidecarRun.set_ne (w : SidecarRun) (p : SidecarParty) {role role' : SidecarPeerRole}
    (h : role' ≠ role) : (w.set role p).party role' = w.party role' := by
  simp [set, h]

theorem SidecarRun.after_self (w : SidecarRun) (role : SidecarPeerRole) (p : SidecarParty)
    (frames : List Bytes) (events : List SidecarEvent) :
    ((w.set role p).record frames events).party role = p :=
  w.set_self role p

theorem SidecarRun.after_ne {w : SidecarRun} {p q : SidecarParty} {role role' : SidecarPeerRole}
    (frames : List Bytes) (events : List SidecarEvent) (h : role' ≠ role)
    (hq : w.party role' = q) : ((w.set role p).record frames events).party role' = q :=
  (w.set_ne p h).trans hq

@[simp] theorem SidecarRun.record_nil (w : SidecarRun) : w.record [] [] = w := by
  simp [record]

/-- The frame that a call returns, if it returns one. -/
def sealedFrame {ε : Type} : Except ε Bytes → List Bytes
  | .ok frame => [frame]
  | .error _ => []

def sealedReply {ε : Type} : Except ε (Option Bytes) → List Bytes
  | .ok (some frame) => [frame]
  | _ => []

/-- The ideal MAC: a frame whose tag verifies under the session key was sealed in this run. -/
def SidecarRun.IdealMac (mac : Mac) (s : SidecarSession) (w : SidecarRun) (frame : Bytes) : Prop :=
  mac.verifies s.key frame → frame ∈ w.frames

inductive HandshakeAction
  | start (role : SidecarPeerRole)
  | receive (role : SidecarPeerRole) (frame : Bytes)
  | completeAcceptance (role : SidecarPeerRole)
  | retire (role : SidecarPeerRole)

/-- One handshake call by one peer on its own channel, or the loss of its transport. The adversary
chooses the call and the frame. -/
inductive HandshakeStep (mac : Mac) (codec : Codec SidecarHandshakeMessage) (s : SidecarSession) :
    SidecarRun → HandshakeAction → SidecarRun → Prop
  | start {w role ch h result h' ch'} : w.party role = ⟨ch, .handshake h⟩ →
      h.start mac codec ch = (result, h', ch') →
      HandshakeStep mac codec s w (.start role)
        ((w.set role ⟨ch', .handshake h'⟩).record (sealedFrame result) [])
  | receive {w role frame ch h result h' ch'} : w.party role = ⟨ch, .handshake h⟩ →
      w.IdealMac mac s frame → h.receive mac codec ch frame = (result, h', ch') →
      HandshakeStep mac codec s w (.receive role frame)
        ((w.set role ⟨ch', .handshake h'⟩).record (sealedReply result)
          (if sealedReply result = [] then []
            else h'.pendingNegotiated.toList.map SidecarEvent.computed))
  | completeAcceptance {w role ch h result h' ch'} : w.party role = ⟨ch, .handshake h⟩ →
      h.completeAcceptance ch = (result, h', ch') →
      HandshakeStep mac codec s w (.completeAcceptance role) (w.set role ⟨ch', .handshake h'⟩)
  | retire {w role ch phase} : w.party role = ⟨ch, phase⟩ →
      HandshakeStep mac codec s w (.retire role) (w.set role ⟨ch.retire, phase⟩)

/-- Two fresh channels of matching roles with the same session, and a fresh handshake on each. -/
def SidecarRun.Initial (s : SidecarSession) (w : SidecarRun) : Prop :=
  (∀ role, ∃ ch h counter next, w.party role = ⟨ch, .handshake h⟩ ∧
    AuthenticatedSidecarChannel.new counter role s.sessionId s.generation s.key
      (s.maxFrameBytes role) = .ok (ch, next) ∧
    SidecarHandshake.new (s.offer role) = .ok h) ∧ w.frames = [] ∧ w.log = []

/-- Runs in which only the handshake methods use the two channels. -/
def handshakeSystem (mac : Mac) (codec : Codec SidecarHandshakeMessage) (s : SidecarSession) :
    System SidecarRun HandshakeAction where
  Initial := SidecarRun.Initial s
  Step := HandshakeStep mac codec s

inductive ConfigurationAction
  | handshake (a : HandshakeAction)
  | newExchange (role : SidecarPeerRole)
  | start (role : SidecarPeerRole) (c : SidecarRuntimeConfiguration)
  | receive (role : SidecarPeerRole) (frame : Bytes)
  | acknowledge (role : SidecarPeerRole) (manifest : SidecarRuntimeManifest)
  | completeAcknowledgement (role : SidecarPeerRole)
  | activate (role : SidecarPeerRole)

def startEvents (c : SidecarRuntimeConfiguration) {ε : Type} : Except ε Bytes → List SidecarEvent
  | .ok _ => [.configured c]
  | .error _ => []

def receiveEvents {ε : Type} : Except ε (Option SidecarRuntimeConfiguration) → List SidecarEvent
  | .ok (some c) => [.accepted c]
  | _ => []

def acknowledgeEvents (manifest : SidecarRuntimeManifest) {ε : Type} :
    Except ε Bytes → List SidecarEvent
  | .ok _ => [.acknowledged manifest]
  | .error _ => []

def completeEvents {ε : Type} : Except ε Unit → List SidecarEvent
  | .ok () => [.committed]
  | .error _ => []

def activateEvents {ε : Type} : Except ε SidecarRuntimeBridge → List SidecarEvent
  | .ok bridge => [.activated bridge]
  | .error _ => []

/-- The handshake calls, and the calls of the one exchange that consumes each handshake. -/
inductive ConfigurationStep (mac : Mac) (hc : Codec SidecarHandshakeMessage)
    (rc : Codec SidecarRuntimeMessage) (s : SidecarSession) :
    SidecarRun → ConfigurationAction → SidecarRun → Prop
  | handshake {w a w'} : HandshakeStep mac hc s w a w' →
      ConfigurationStep mac hc rc s w (.handshake a) w'
  | newExchange {w role ch h e} : w.party role = ⟨ch, .handshake h⟩ →
      SidecarConfigurationExchange.new h = .ok e →
      ConfigurationStep mac hc rc s w (.newExchange role) (w.set role ⟨ch, .exchange h e⟩)
  | newExchangeFailed {w role ch h error} : w.party role = ⟨ch, .handshake h⟩ →
      SidecarConfigurationExchange.new h = .error error →
      ConfigurationStep mac hc rc s w (.newExchange role) (w.set role ⟨ch, .refused⟩)
  | start {w role c ch h e result e' ch'} : w.party role = ⟨ch, .exchange h e⟩ →
      e.start mac rc ch c = (result, e', ch') →
      ConfigurationStep mac hc rc s w (.start role c)
        ((w.set role ⟨ch', .exchange h e'⟩).record (sealedFrame result) (startEvents c result))
  | receive {w role frame ch h e result e' ch'} : w.party role = ⟨ch, .exchange h e⟩ →
      w.IdealMac mac s frame → e.receive mac rc ch frame = (result, e', ch') →
      ConfigurationStep mac hc rc s w (.receive role frame)
        ((w.set role ⟨ch', .exchange h e'⟩).record [] (receiveEvents result))
  | acknowledge {w role manifest ch h e result e' ch'} : w.party role = ⟨ch, .exchange h e⟩ →
      e.acknowledge mac rc ch manifest = (result, e', ch') →
      ConfigurationStep mac hc rc s w (.acknowledge role manifest)
        ((w.set role ⟨ch', .exchange h e'⟩).record (sealedFrame result)
          (acknowledgeEvents manifest result))
  | completeAcknowledgement {w role ch h e result e' ch'} : w.party role = ⟨ch, .exchange h e⟩ →
      e.completeAcknowledgement ch = (result, e', ch') →
      ConfigurationStep mac hc rc s w (.completeAcknowledgement role)
        ((w.set role ⟨ch', .exchange h e'⟩).record [] (completeEvents result))
  | activate {w role ch h e result e' ch'} : w.party role = ⟨ch, .exchange h e⟩ →
      SidecarRuntimeBridge.activate e ch = (result, e', ch') →
      ConfigurationStep mac hc rc s w (.activate role)
        ((w.set role ⟨ch', .exchange h e'⟩).record [] (activateEvents result))

/-- Runs in which the handshake and the exchange methods use the two channels. -/
def configurationSystem (mac : Mac) (hc : Codec SidecarHandshakeMessage)
    (rc : Codec SidecarRuntimeMessage) (s : SidecarSession) :
    System SidecarRun ConfigurationAction where
  Initial := SidecarRun.Initial s
  Step := ConfigurationStep mac hc rc s

end OpenclawNode.Sidecar
