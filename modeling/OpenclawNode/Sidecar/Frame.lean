import OpenclawNode.Base.BigEndian
import OpenclawNode.Base.Except
import OpenclawNode.Base.Text

/-! Roles, directions, errors and the byte layout of one authenticated sidecar frame. -/
namespace OpenclawNode.Sidecar

open BigEndian (Bytes)

def sidecarProtocolMajor : UInt16 := 1
def sidecarProtocolMinor : UInt16 := 0
/-- Largest feature mask that every JSON implementation can represent exactly. -/
def sidecarMaxFeatureBits : UInt64 := 9007199254740991
def sidecarBootstrapMinor : UInt16 := 0

def frameMagic : Bytes := [0x4f, 0x43, 0x53, 0x43]
def authTagBytes : Nat := 32
def fixedHeaderBytes : Nat := 4 + 2 + 2 + 1 + 8 + 8 + 2 + 4
def payloadLengthOffset : Nat := 4 + 2 + 2 + 1 + 8 + 8 + 2
def minFrameBytes : UInt32 := 65

def minimumFrameBytes (sessionIdBytes : Nat) : Nat :=
  fixedHeaderBytes + sessionIdBytes + authTagBytes + 1

inductive SidecarDirection
  | supervisorToRuntime
  | runtimeToSupervisor
  deriving DecidableEq, Repr

inductive SidecarPeerRole
  | supervisor
  | runtime
  deriving DecidableEq, Repr

def SidecarPeerRole.outgoingDirection : SidecarPeerRole → SidecarDirection
  | .supervisor => .supervisorToRuntime
  | .runtime => .runtimeToSupervisor

def SidecarPeerRole.expectedRemote : SidecarPeerRole → SidecarPeerRole
  | .supervisor => .runtime
  | .runtime => .supervisor

@[simp] theorem SidecarPeerRole.expectedRemote_expectedRemote (role : SidecarPeerRole) :
    role.expectedRemote.expectedRemote = role := by
  cases role <;> rfl

theorem SidecarPeerRole.outgoingDirection_injective :
    Function.Injective SidecarPeerRole.outgoingDirection := by
  intro a b h
  cases a <;> cases b <;> simp_all [outgoingDirection]

inductive SidecarProtocolError
  | channelInstanceIdExhausted
  | invalidFeatureBits
  | invalidPeerRole
  | invalidLimit (field : String)
  | invalidSessionId
  | limitIncrease (current requested : UInt32)
  | frameLimitLocked
  | invalidGeneration
  | unsupportedMajor (localMajor remoteMajor : UInt16)
  | unsupportedLocalMinor (minor : UInt16)
  deriving DecidableEq, Repr

inductive SidecarFrameError
  | authentication
  | channelRetired
  | deadline
  | frameTooLarge (size : UInt64) (limit : UInt32)
  | invalidDirection (value : UInt8)
  | invalidMagic
  | invalidFrameLimit (limit : UInt32)
  | invalidSessionId
  | wrongGeneration (expected received : UInt64)
  | wrongSession
  | wrongDirection
  | sequenceExhausted
  | unexpectedSequence (expected received : UInt64)
  | truncated
  | trailingBytes
  | unsupportedVersion (major minor : UInt16)
  | serialize
  | deserialize
  | io
  deriving DecidableEq, Repr

def SidecarDirection.wireValue : SidecarDirection → UInt8
  | .supervisorToRuntime => 1
  | .runtimeToSupervisor => 2

def SidecarDirection.fromWire (value : UInt8) : Except SidecarFrameError SidecarDirection :=
  match value with
  | 1 => .ok .supervisorToRuntime
  | 2 => .ok .runtimeToSupervisor
  | value => .error (.invalidDirection value)

theorem SidecarDirection.wireValue_injective : Function.Injective wireValue := by
  intro a b h
  cases a <;> cases b <;> simp_all [wireValue]

theorem SidecarDirection.fromWire_eq_ok {value : UInt8} {d : SidecarDirection} :
    fromWire value = .ok d ↔ value = d.wireValue := by
  constructor
  · intro h
    unfold fromWire at h
    split at h <;> simp_all [wireValue, eq_comm]
  · rintro rfl
    cases d <;> rfl

/-- `u16::to_be_bytes`, `u32::to_be_bytes` and `u64::to_be_bytes`. -/
def be16 (n : UInt16) : Bytes := BigEndian.encode 2 n.toNat
def be32 (n : UInt32) : Bytes := BigEndian.encode 4 n.toNat
def be64 (n : UInt64) : Bytes := BigEndian.encode 8 n.toNat

@[simp] theorem length_be16 (n : UInt16) : (be16 n).length = 2 := BigEndian.length_encode 2 _
@[simp] theorem length_be32 (n : UInt32) : (be32 n).length = 4 := BigEndian.length_encode 4 _
@[simp] theorem length_be64 (n : UInt64) : (be64 n).length = 8 := BigEndian.length_encode 8 _

theorem be16_injective : Function.Injective be16 := by
  intro m n h
  exact UInt16.toNat_inj.mp (BigEndian.encode_injective m.toNat_lt n.toNat_lt h)

theorem be64_injective : Function.Injective be64 := by
  intro m n h
  exact UInt64.toNat_inj.mp (BigEndian.encode_injective m.toNat_lt n.toNat_lt h)

/-- `u16::from_be_bytes`, `u32::from_be_bytes` and `u64::from_be_bytes`. -/
def fromBe16 (bytes : Bytes) : UInt16 := UInt16.ofNat (BigEndian.decode bytes)
def fromBe32 (bytes : Bytes) : UInt32 := UInt32.ofNat (BigEndian.decode bytes)
def fromBe64 (bytes : Bytes) : UInt64 := UInt64.ofNat (BigEndian.decode bytes)

@[simp] theorem fromBe16_be16 (n : UInt16) : fromBe16 (be16 n) = n := by
  rw [fromBe16, be16, BigEndian.decode_encode_of_lt n.toNat_lt, UInt16.ofNat_toNat]

@[simp] theorem fromBe32_be32 (n : UInt32) : fromBe32 (be32 n) = n := by
  rw [fromBe32, be32, BigEndian.decode_encode_of_lt n.toNat_lt, UInt32.ofNat_toNat]

@[simp] theorem fromBe64_be64 (n : UInt64) : fromBe64 (be64 n) = n := by
  rw [fromBe64, be64, BigEndian.decode_encode_of_lt n.toNat_lt, UInt64.ofNat_toNat]

theorem be16_fromBe16 {bytes : Bytes} (h : bytes.length = 2) : be16 (fromBe16 bytes) = bytes := by
  have hl := BigEndian.decode_lt bytes
  rw [h] at hl
  have he := BigEndian.encode_decode bytes
  rw [h] at he
  rw [be16, fromBe16, UInt16.toNat_ofNat_of_lt' (by simpa using hl), he]

theorem be32_fromBe32 {bytes : Bytes} (h : bytes.length = 4) : be32 (fromBe32 bytes) = bytes := by
  have hl := BigEndian.decode_lt bytes
  rw [h] at hl
  have he := BigEndian.encode_decode bytes
  rw [h] at he
  rw [be32, fromBe32, UInt32.toNat_ofNat_of_lt' (by simpa using hl), he]

theorem be64_fromBe64 {bytes : Bytes} (h : bytes.length = 8) : be64 (fromBe64 bytes) = bytes := by
  have hl := BigEndian.decode_lt bytes
  rw [h] at hl
  have he := BigEndian.encode_decode bytes
  rw [h] at he
  rw [be64, fromBe64, UInt64.toNat_ofNat_of_lt' (by simpa using hl), he]

/-- Read `length` bytes at the cursor and advance it. -/
def takeSlice (bytes : Bytes) (cursor length : Nat) : Except SidecarFrameError (Bytes × Nat) :=
  if cursor + length ≤ bytes.length then
    .ok ((bytes.drop cursor).take length, cursor + length)
  else
    .error .truncated

/-- A slice splits what is left of the bytes at the cursor. -/
theorem takeSlice_eq_ok {bytes value : Bytes} {cursor length next : Nat}
    (h : takeSlice bytes cursor length = .ok (value, next)) :
    value.length = length ∧ next = cursor + length ∧
      bytes.drop cursor = value ++ bytes.drop next := by
  unfold takeSlice at h
  split at h
  · next hl =>
    cases h
    refine ⟨?_, rfl, ?_⟩
    · rw [List.length_take, List.length_drop]
      omega
    · rw [← List.drop_drop, List.take_append_drop]
  · cases h

/-- What stands at the cursor is read back, and the rest stays behind it. -/
theorem takeSlice_of_drop {bytes value rest : Bytes} {cursor : Nat}
    (h : bytes.drop cursor = value ++ rest) (hc : cursor ≤ bytes.length) :
    takeSlice bytes cursor value.length = .ok (value, cursor + value.length) ∧
      bytes.drop (cursor + value.length) = rest ∧ cursor + value.length ≤ bytes.length := by
  have hl := congrArg List.length h
  rw [List.length_drop, List.length_append] at hl
  have hfit : cursor + value.length ≤ bytes.length := by omega
  refine ⟨?_, ?_, hfit⟩
  · rw [takeSlice, if_pos hfit, h, List.take_left]
  · rw [← List.drop_drop, h, List.drop_left]

/-- Everything the authentication tag covers: the fixed header, the session identifier and the
payload. -/
def frameBody (minor : UInt16) (direction : SidecarDirection) (generation sequence : UInt64)
    (sessionId payload : Bytes) : Bytes :=
  frameMagic ++ be16 sidecarProtocolMajor ++ be16 minor ++ [direction.wireValue] ++
    be64 generation ++ be64 sequence ++ be16 (UInt16.ofNat sessionId.length) ++
    be32 (UInt32.ofNat payload.length) ++ sessionId ++ payload

theorem length_frameBody (minor : UInt16) (direction : SidecarDirection)
    (generation sequence : UInt64) (sessionId payload : Bytes) :
    (frameBody minor direction generation sequence sessionId payload).length =
      fixedHeaderBytes + sessionId.length + payload.length := by
  simp [frameBody, frameMagic, fixedHeaderBytes]
  omega

/-- No two frame bodies share their bytes: every header field, the session identifier and the
payload can be read back. -/
theorem frameBody_injective {minor minor' : UInt16} {direction direction' : SidecarDirection}
    {generation generation' sequence sequence' : UInt64}
    {sessionId sessionId' payload payload' : Bytes}
    (hs : sessionId.length < 65536) (hs' : sessionId'.length < 65536)
    (h : frameBody minor direction generation sequence sessionId payload =
      frameBody minor' direction' generation' sequence' sessionId' payload') :
    minor = minor' ∧ direction = direction' ∧ generation = generation' ∧
      sequence = sequence' ∧ sessionId = sessionId' ∧ payload = payload' := by
  simp only [frameBody, List.append_assoc] at h
  have h := List.append_cancel_left (List.append_cancel_left h)
  obtain ⟨hminor, h⟩ := List.append_inj h (by simp)
  obtain ⟨hdir, h⟩ := List.append_inj h (by simp)
  obtain ⟨hgen, h⟩ := List.append_inj h (by simp)
  obtain ⟨hseq, h⟩ := List.append_inj h (by simp)
  obtain ⟨hlen, h⟩ := List.append_inj h (by simp)
  obtain ⟨_, h⟩ := List.append_inj h (by simp)
  have hlen := congrArg UInt16.toNat (be16_injective hlen)
  rw [UInt16.toNat_ofNat_of_lt' (by simpa using hs),
    UInt16.toNat_ofNat_of_lt' (by simpa using hs')] at hlen
  obtain ⟨hsid, hpayload⟩ := List.append_inj h hlen
  exact ⟨be16_injective hminor, SidecarDirection.wireValue_injective (by simpa using hdir),
    be64_injective hgen, be64_injective hseq, hsid, hpayload⟩

end OpenclawNode.Sidecar
