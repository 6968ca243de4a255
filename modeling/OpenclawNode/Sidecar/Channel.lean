import OpenclawNode.Base.BoundedWriter
import OpenclawNode.Sidecar.Negotiation

/-! The authenticated channel: sealing, opening, limits and retirement. -/
namespace OpenclawNode.Sidecar

open BigEndian (Bytes)
open Text (utf8)
open BoundedWriter (Serialization toWriter)
open Except (ensure)
open FixedWidth (checkedSucc)

structure SidecarSessionKey where
  bytes : Vector UInt8 32
  deriving DecidableEq, Repr

def SidecarSessionKey.zero : SidecarSessionKey := ⟨Vector.replicate 32 0⟩

/-- The keyed hash of the frame authentication (HMAC-SHA-256 in the source). -/
structure Mac where
  tag : SidecarSessionKey → Bytes → Bytes
  length_tag : ∀ key message, (tag key message).length = authTagBytes

/-- Whether the last 32 bytes of a frame authenticate everything before them. -/
def Mac.verifies (mac : Mac) (key : SidecarSessionKey) (frame : Bytes) : Prop :=
  mac.tag key (frame.take (frame.length - authTagBytes)) =
    frame.drop (frame.length - authTagBytes)

instance (mac : Mac) (key : SidecarSessionKey) (frame : Bytes) :
    Decidable (mac.verifies key frame) := by unfold Mac.verifies; infer_instance

/-- A frame: the authenticated bytes followed by their tag. -/
def Mac.frame (mac : Mac) (key : SidecarSessionKey) (body : Bytes) : Bytes :=
  body ++ mac.tag key body

@[simp] theorem Mac.length_frame (mac : Mac) (key : SidecarSessionKey) (body : Bytes) :
    (mac.frame key body).length = body.length + authTagBytes := by
  simp [frame, mac.length_tag]

/-- The session and limit checks of `new` stay true of a channel for its whole life, so they are
fields of it. -/
structure AuthenticatedSidecarChannel where
  instanceId : UInt64
  role : SidecarPeerRole
  protocolMinor : UInt16
  sessionId : String
  generation : UInt64
  key : SidecarSessionKey
  maxFrameBytes : UInt32
  frameLimitLocked : Bool
  sendSequence : UInt64
  receiveSequence : UInt64
  retired : Bool
  session_valid : (utf8 sessionId).length ≠ 0 ∧ (utf8 sessionId).length < 65536
  generation_ne_zero : generation ≠ 0
  frame_fits : minimumFrameBytes (utf8 sessionId).length ≤ maxFrameBytes.toNat

namespace AuthenticatedSidecarChannel

/-- Create state for one role in one process-session generation. The counter is the process-wide
source of instance identifiers. -/
def new (counter : UInt64) (role : SidecarPeerRole) (sessionId : String) (generation : UInt64)
    (key : SidecarSessionKey) (maxFrameBytes : UInt32) :
    Except SidecarProtocolError (AuthenticatedSidecarChannel × UInt64) :=
  if hs : (utf8 sessionId).length ≠ 0 ∧ (utf8 sessionId).length < 65536 then
    if hg : generation ≠ 0 then
      if hf : minimumFrameBytes (utf8 sessionId).length ≤ maxFrameBytes.toNat then
        match checkedSucc counter with
        | none => .error .channelInstanceIdExhausted
        | some next =>
          .ok ({
            instanceId := counter, role, protocolMinor := sidecarBootstrapMinor, sessionId,
            generation, key, maxFrameBytes, frameLimitLocked := false, sendSequence := 0,
            receiveSequence := 0, retired := false, session_valid := hs,
            generation_ne_zero := hg, frame_fits := hf }, next)
      else .error (.invalidLimit "maxFrameBytes")
    else .error .invalidGeneration
  else .error .invalidSessionId

/-- Permanently retire the channel: the key is wiped and the liveness signal raised. -/
def retire (ch : AuthenticatedSidecarChannel) : AuthenticatedSidecarChannel :=
  { ch with key := .zero, retired := true }

def maxPayloadBytes (ch : AuthenticatedSidecarChannel) : Nat :=
  ch.maxFrameBytes.toNat - fixedHeaderBytes - (utf8 ch.sessionId).length - authTagBytes

/-- Apply the negotiated frame ceiling without resetting channel sequence. -/
def lowerFrameLimit (ch : AuthenticatedSidecarChannel) (negotiated : UInt32) :
    Except SidecarProtocolError AuthenticatedSidecarChannel :=
  if ch.frameLimitLocked then .error .frameLimitLocked
  else if hf : minimumFrameBytes (utf8 ch.sessionId).length ≤ negotiated.toNat then
    if ch.maxFrameBytes < negotiated then .error (.limitIncrease ch.maxFrameBytes negotiated)
    else .ok { ch with maxFrameBytes := negotiated, frame_fits := hf }
  else .error (.invalidLimit "maxFrameBytes")

def lockFrameLimit (ch : AuthenticatedSidecarChannel) : AuthenticatedSidecarChannel :=
  { ch with frameLimitLocked := true }

/-- Apply the authenticated protocol selection after the bootstrap exchange. -/
def applyNegotiatedProtocol (ch : AuthenticatedSidecarChannel)
    (negotiated : NegotiatedSidecarProtocol) :
    Except SidecarProtocolError AuthenticatedSidecarChannel := do
  ensure (negotiated.protocolMajor = sidecarProtocolMajor)
    (.unsupportedMajor sidecarProtocolMajor negotiated.protocolMajor)
  ensure (¬ sidecarProtocolMinor < negotiated.protocolMinor)
    (.unsupportedLocalMinor negotiated.protocolMinor)
  let lowered ← ch.lowerFrameLimit negotiated.limits.maxFrameBytes
  return { lowered with protocolMinor := negotiated.protocolMinor }

end AuthenticatedSidecarChannel

/-- Serializes into the frame and stops before the bytes reserved for the tag. -/
structure BoundedFrameWriter where
  frame : Bytes
  maxLen : Nat

def BoundedFrameWriter.write (w : BoundedFrameWriter) (bytes : Bytes) :
    Option BoundedFrameWriter :=
  let remaining := w.maxLen - w.frame.length
  if bytes.length > remaining then none
  else some { w with frame := w.frame ++ bytes }

/-- Overwrite the bytes at an offset (`copy_from_slice` into a range of the frame). -/
def patch (frame : Bytes) (offset : Nat) (bytes : Bytes) : Bytes :=
  frame.take offset ++ bytes ++ frame.drop (offset + bytes.length)

/-- The frame up to its payload; the payload length is patched in later. -/
def AuthenticatedSidecarChannel.frameHeader (ch : AuthenticatedSidecarChannel)
    (sequence : UInt64) : Bytes :=
  frameMagic ++ be16 sidecarProtocolMajor ++ be16 ch.protocolMinor ++
    [ch.role.outgoingDirection.wireValue] ++ be64 ch.generation ++ be64 sequence ++
    be16 (UInt16.ofNat (utf8 ch.sessionId).length) ++ be32 0 ++ utf8 ch.sessionId

/-- Serialize the payload straight behind the header. -/
def AuthenticatedSidecarChannel.writePayload (ch : AuthenticatedSidecarChannel) (header : Bytes)
    (payload : Serialization) : Except SidecarFrameError Bytes :=
  match toWriter BoundedFrameWriter.write ⟨header, ch.maxFrameBytes.toNat - authTagBytes⟩
    payload with
  | .done w => .ok w.frame
  | .refused => .error (.frameTooLarge (ch.maxFrameBytes.toUInt64 + 1) ch.maxFrameBytes)
  | .failed => .error .serialize

/-- Serialize and authenticate the next outgoing payload. A failure leaves the channel as it is. -/
def AuthenticatedSidecarChannel.seal (mac : Mac) (ch : AuthenticatedSidecarChannel)
    (payload : Serialization) :
    Except SidecarFrameError (Bytes × AuthenticatedSidecarChannel) := do
  ensure (ch.retired = false) .channelRetired
  let sequence ← (checkedSucc ch.sendSequence).elim (.error .sequenceExhausted) .ok
  let sessionId := utf8 ch.sessionId
  let minimumCapacity := fixedHeaderBytes + sessionId.length + authTagBytes
  ensure (minimumCapacity < ch.maxFrameBytes.toNat)
    (.frameTooLarge (UInt64.ofNat (minimumCapacity + 1)) ch.maxFrameBytes)
  ensure (sessionId.length < 65536) .invalidSessionId
  let header := ch.frameHeader sequence
  let frame ← ch.writePayload header payload
  let payloadLen := frame.length - header.length
  ensure (payloadLen < 4294967296) (.frameTooLarge 18446744073709551615 ch.maxFrameBytes)
  let frame := patch frame payloadLengthOffset (be32 (UInt32.ofNat payloadLen))
  return (mac.frame ch.key frame, { ch with sendSequence := sequence })

namespace AuthenticatedSidecarChannel

/-- Everything `open_active` does before the payload is decoded: the accepted sequence number and
the payload bytes. -/
def authenticatedPayload (mac : Mac) (ch : AuthenticatedSidecarChannel) (frame : Bytes) :
    Except SidecarFrameError (UInt64 × Bytes) := do
  ensure (frame.length ≤ ch.maxFrameBytes.toNat)
    (.frameTooLarge (UInt64.ofNat frame.length) ch.maxFrameBytes)
  ensure (fixedHeaderBytes + authTagBytes ≤ frame.length) .truncated
  let authenticated := frame.take (frame.length - authTagBytes)
  ensure (mac.verifies ch.key frame) .authentication
  let (magic, cursor) ← takeSlice authenticated 0 4
  ensure (magic = frameMagic) .invalidMagic
  let (major, cursor) ← takeSlice authenticated cursor 2
  let (minor, cursor) ← takeSlice authenticated cursor 2
  ensure (fromBe16 major = sidecarProtocolMajor ∧ fromBe16 minor = ch.protocolMinor)
    (.unsupportedVersion (fromBe16 major) (fromBe16 minor))
  let (wire, cursor) ← takeSlice authenticated cursor 1
  let direction ← SidecarDirection.fromWire (wire.headD 0)
  ensure (direction = ch.role.expectedRemote.outgoingDirection) .wrongDirection
  let (generation, cursor) ← takeSlice authenticated cursor 8
  ensure (fromBe64 generation = ch.generation)
    (.wrongGeneration ch.generation (fromBe64 generation))
  let (sequence, cursor) ← takeSlice authenticated cursor 8
  let expectedSequence ← (checkedSucc ch.receiveSequence).elim (.error .sequenceExhausted) .ok
  ensure (fromBe64 sequence = expectedSequence)
    (.unexpectedSequence expectedSequence (fromBe64 sequence))
  let (sessionLen, cursor) ← takeSlice authenticated cursor 2
  let (payloadLen, cursor) ← takeSlice authenticated cursor 4
  let (session, cursor) ← takeSlice authenticated cursor (fromBe16 sessionLen).toNat
  ensure (session = utf8 ch.sessionId) .wrongSession
  let (payload, cursor) ← takeSlice authenticated cursor (fromBe32 payloadLen).toNat
  ensure (cursor = authenticated.length) .trailingBytes
  return (fromBe64 sequence, payload)

def openActive {α : Type} (mac : Mac) (decode : Bytes → Option α)
    (ch : AuthenticatedSidecarChannel) (frame : Bytes) :
    Except SidecarFrameError (α × AuthenticatedSidecarChannel) := do
  let (sequence, payload) ← ch.authenticatedPayload mac frame
  let decoded ← (decode payload).elim (.error .deserialize) .ok
  return (decoded, { ch with receiveSequence := sequence })

end AuthenticatedSidecarChannel

/-- Authenticate, validate and deserialize the next incoming frame. The first failure retires the
channel. -/
def AuthenticatedSidecarChannel.open {α : Type} (mac : Mac) (decode : Bytes → Option α)
    (ch : AuthenticatedSidecarChannel) (frame : Bytes) :
    Except SidecarFrameError α × AuthenticatedSidecarChannel :=
  if ch.retired then (.error .channelRetired, ch)
  else
    match ch.openActive mac decode frame with
    | .ok (decoded, ch') => (.ok decoded, ch')
    | .error error => (.error error, ch.retire)

end OpenclawNode.Sidecar
