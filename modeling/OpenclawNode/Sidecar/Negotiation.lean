import OpenclawNode.Base.FixedWidth
import OpenclawNode.Sidecar.Frame

/-! Protocol offers and the selection two peers compute from them. -/
namespace OpenclawNode.Sidecar

open Except (ensure)
open FixedWidth (min_comm_u16 min_comm_u32)

structure SidecarPeerIdentity where
  role : SidecarPeerRole
  name : String
  version : String
  artifactIdentity : String
  deriving DecidableEq, Repr

structure SidecarLimits where
  maxFrameBytes : UInt32
  maxInFlight : UInt16
  bootstrapTimeoutMs : UInt32
  deriving DecidableEq, Repr

def SidecarLimits.validate (limits : SidecarLimits) :
    Except SidecarProtocolError SidecarLimits := do
  ensure (¬ limits.maxFrameBytes < minFrameBytes) (.invalidLimit "maxFrameBytes")
  ensure (limits.maxInFlight ≠ 0) (.invalidLimit "maxInFlight")
  ensure (limits.bootstrapTimeoutMs ≠ 0) (.invalidLimit "bootstrapTimeoutMs")
  return limits

structure SidecarProtocolOffer where
  protocolMajor : UInt16
  protocolMinor : UInt16
  peer : SidecarPeerIdentity
  featureBits : UInt64
  limits : SidecarLimits
  deriving DecidableEq, Repr

structure NegotiatedSidecarProtocol where
  protocolMajor : UInt16
  protocolMinor : UInt16
  featureBits : UInt64
  limits : SidecarLimits
  remotePeer : SidecarPeerIdentity
  deriving DecidableEq, Repr

/-- The componentwise minimum of two limits. -/
def SidecarLimits.meet (a b : SidecarLimits) : SidecarLimits where
  maxFrameBytes := min a.maxFrameBytes b.maxFrameBytes
  maxInFlight := min a.maxInFlight b.maxInFlight
  bootstrapTimeoutMs := min a.bootstrapTimeoutMs b.bootstrapTimeoutMs

/-- Negotiate additive features and limits; neither peer can raise the other's local ceilings. -/
def negotiateSidecarProtocol (localOffer remoteOffer : SidecarProtocolOffer) :
    Except SidecarProtocolError NegotiatedSidecarProtocol := do
  let localLimits ← localOffer.limits.validate
  let remoteLimits ← remoteOffer.limits.validate
  ensure (localOffer.peer.role ≠ remoteOffer.peer.role) .invalidPeerRole
  ensure (¬ (sidecarMaxFeatureBits < localOffer.featureBits ∨
    sidecarMaxFeatureBits < remoteOffer.featureBits)) .invalidFeatureBits
  ensure (¬ (localOffer.protocolMajor ≠ sidecarProtocolMajor ∨
    remoteOffer.protocolMajor ≠ sidecarProtocolMajor))
    (.unsupportedMajor localOffer.protocolMajor remoteOffer.protocolMajor)
  ensure (¬ sidecarProtocolMinor < localOffer.protocolMinor)
    (.unsupportedLocalMinor localOffer.protocolMinor)
  return {
    protocolMajor := sidecarProtocolMajor
    protocolMinor := min localOffer.protocolMinor remoteOffer.protocolMinor
    featureBits := localOffer.featureBits &&& remoteOffer.featureBits
    limits := localLimits.meet remoteLimits
    remotePeer := remoteOffer.peer }

theorem SidecarLimits.validate_eq_ok {limits validated : SidecarLimits} :
    limits.validate = .ok validated ↔
      minFrameBytes ≤ limits.maxFrameBytes ∧ limits.maxInFlight ≠ 0 ∧
        limits.bootstrapTimeoutMs ≠ 0 ∧ limits = validated := by
  simp [validate, Except.bind_eq_ok, Except.ensure_eq_ok, pure, Except.pure]

/-- The selection is a function of both offers, symmetric but for the reported remote peer. -/
theorem negotiate_selection {localOffer remoteOffer : SidecarProtocolOffer}
    {n : NegotiatedSidecarProtocol} (h : negotiateSidecarProtocol localOffer remoteOffer = .ok n) :
    n = {
      protocolMajor := sidecarProtocolMajor
      protocolMinor := min localOffer.protocolMinor remoteOffer.protocolMinor
      featureBits := localOffer.featureBits &&& remoteOffer.featureBits
      limits := localOffer.limits.meet remoteOffer.limits
      remotePeer := remoteOffer.peer } := by
  simp only [negotiateSidecarProtocol, Except.bind_eq_ok, SidecarLimits.validate_eq_ok] at h
  obtain ⟨l, ⟨-, -, -, rfl⟩, r, ⟨-, -, -, rfl⟩, -, -, -, -, -, -, -, -, h⟩ := h
  cases h
  rfl

theorem SidecarLimits.meet_comm (a b : SidecarLimits) : a.meet b = b.meet a := by
  rw [meet, meet, min_comm_u32, min_comm_u16, min_comm_u32 a.bootstrapTimeoutMs]

/-- No limit exceeds the other's. -/
def SidecarLimits.Within (a b : SidecarLimits) : Prop :=
  a.maxFrameBytes ≤ b.maxFrameBytes ∧ a.maxInFlight ≤ b.maxInFlight ∧
    a.bootstrapTimeoutMs ≤ b.bootstrapTimeoutMs

theorem SidecarLimits.meet_within_left (a b : SidecarLimits) : (a.meet b).Within a := by
  refine ⟨UInt32.le_iff_toNat_le.mpr ?_, UInt16.le_iff_toNat_le.mpr ?_,
    UInt32.le_iff_toNat_le.mpr ?_⟩
  · rw [meet, UInt32.toNat_min]
    exact Nat.min_le_left _ _
  · rw [meet, UInt16.toNat_min]
    exact Nat.min_le_left _ _
  · rw [meet, UInt32.toNat_min]
    exact Nat.min_le_left _ _

theorem SidecarLimits.meet_within_right (a b : SidecarLimits) : (a.meet b).Within b := by
  rw [meet_comm]
  exact meet_within_left b a

end OpenclawNode.Sidecar
