import OpenclawNode.Base.FailClosed
import OpenclawNode.Sidecar.ConfigurationFacts
import OpenclawNode.Sidecar.HandshakeAgreement

/-! The handshake and the exchange fail closed, whatever calls are made on whatever channels. -/
namespace OpenclawNode.Sidecar

open BigEndian (Bytes)
open BoundedWriter (Codec Serialization)
open FailClosed (Machine Resource)

/-- What anyone who holds a channel can do to it. -/
inductive AuthenticatedSidecarChannel.Use (mac : Mac) :
    AuthenticatedSidecarChannel → AuthenticatedSidecarChannel → Prop
  | sealPayload {ch payload frame ch'} : ch.seal mac payload = .ok (frame, ch') → Use mac ch ch'
  | openFrame {α : Type} {ch} {decode : Bytes → Option α} {frame} :
      Use mac ch (ch.open mac decode frame).2
  | retire {ch} : Use mac ch ch.retire
  | lowerFrameLimit {ch limit ch'} : ch.lowerFrameLimit limit = .ok ch' → Use mac ch ch'
  | applyNegotiatedProtocol {ch negotiated ch'} :
      ch.applyNegotiatedProtocol negotiated = .ok ch' → Use mac ch ch'
  | lockFrameLimit {ch} : Use mac ch ch.lockFrameLimit

theorem AuthenticatedSidecarChannel.Use.keeps {mac : Mac} {ch ch' : AuthenticatedSidecarChannel}
    (h : Use mac ch ch') :
    ch'.instanceId = ch.instanceId ∧ (ch.retired = true → ch'.retired = true) := by
  cases h with
  | sealPayload hs =>
    obtain ⟨hlive, -, -, -, -, rfl⟩ := AuthenticatedSidecarChannel.seal_eq_ok.mp hs
    exact ⟨rfl, fun hr => hr⟩
  | @openFrame _ _ decode frame =>
    rcases AuthenticatedSidecarChannel.open_cases mac decode ch frame with
      ⟨_, ho⟩ | ⟨_, _, _, _, _, ho⟩ | ⟨_, _, ho⟩ <;> rw [ho]
    · exact ⟨rfl, fun hr => hr⟩
    · exact ⟨rfl, fun hr => hr⟩
    · exact ⟨rfl, fun _ => rfl⟩
  | retire => exact ⟨rfl, fun _ => rfl⟩
  | lowerFrameLimit hl =>
    obtain ⟨-, -, _, rfl⟩ := AuthenticatedSidecarChannel.lowerFrameLimit_eq_ok hl
    exact ⟨rfl, fun hr => hr⟩
  | applyNegotiatedProtocol ha =>
    obtain ⟨-, -, _, rfl⟩ := AuthenticatedSidecarChannel.applyNegotiatedProtocol_eq_ok ha
    exact ⟨rfl, fun hr => hr⟩
  | lockFrameLimit => exact ⟨rfl, fun hr => hr⟩

/-- Channels are named by their instance and used up by retirement. -/
def channelResource (mac : Mac) : Resource UInt64 AuthenticatedSidecarChannel where
  id ch := ch.instanceId
  spent ch := ch.retired = true
  spend ch := ch.retire
  Use := AuthenticatedSidecarChannel.Use mac
  id_spend _ := rfl
  spent_spend _ := rfl
  id_use h := h.keeps.1
  spent_use h := h.keeps.2

/-- A result without what it returns. -/
def ended {ε α σ : Type} (r : Except ε α × σ × AuthenticatedSidecarChannel) :
    Except ε Unit × σ × AuthenticatedSidecarChannel :=
  (r.1.map fun _ => (), r.2)

namespace SidecarHandshake

inductive Call
  | start
  | receive (frame : Bytes)
  | completeAcceptance

variable (mac : Mac) (codec : Codec SidecarHandshakeMessage)

def call (h : SidecarHandshake) (a : Call) (ch : AuthenticatedSidecarChannel) :
    Except SidecarHandshakeError Unit × SidecarHandshake × AuthenticatedSidecarChannel :=
  match a with
  | .start => ended (h.start mac codec ch)
  | .receive frame => ended (h.receive mac codec ch frame)
  | .completeAcceptance => ended (h.completeAcceptance ch)

/-- A selection is held exactly while it is in force, and a pending one exactly while it waits. -/
def Consistent (h : SidecarHandshake) : Prop :=
  (h.negotiated.isSome ↔ h.state = .authenticated) ∧
    (h.pendingNegotiated.isSome ↔ h.state = .acceptancePending)

def machine : Machine UInt64 AuthenticatedSidecarChannel SidecarHandshake Call
    SidecarHandshakeError where
  resource := channelResource mac
  call := call mac codec
  Initial h := ∃ offer, new offer = .ok h
  bound h := h.channelInstanceId
  mismatch := .channelInstanceMismatch
  Failed h := h.state = .failed
  Cleared h := h.negotiated = none ∧ h.pendingNegotiated = none
  Consistent := Consistent

variable {mac : Mac} {codec : Codec SidecarHandshakeMessage} {h : SidecarHandshake}
  {ch : AuthenticatedSidecarChannel}

theorem ends_of_refused {α : Type}
    {r : Except SidecarHandshakeError α × SidecarHandshake × AuthenticatedSidecarChannel}
    (hr : Refused h ch r) : (machine mac codec).Ends h ch (ended r) := by
  cases hr with
  | mismatch hb =>
    simp only [Binds, not_or] at hb
    exact .mismatch hb.1 hb.2
  | @failed error ch' hb he hid =>
    exact .failed he hb rfl rfl ⟨rfl, rfl⟩
      (by simp [machine, Consistent, SidecarHandshake.failed]) hid.instanceId rfl

theorem ends_of_done {a : Call} {h' : SidecarHandshake} {ch' : AuthenticatedSidecarChannel}
    (hres : h.call mac codec a ch = (.ok (), h', ch')) (hb : h.Binds ch)
    (hbound : h'.channelInstanceId = some ch.instanceId) (hf : h.state ≠ .failed)
    (hf' : h'.state ≠ .failed) (hc : h.Consistent → h'.Consistent)
    (hid : ch'.instanceId = ch.instanceId) :
    (machine mac codec).Ends h ch (h.call mac codec a ch) :=
  hres ▸ .done hb hbound hf hf' hc hid

theorem ends_start : (machine mac codec).Ends h ch (h.call mac codec .start ch) := by
  rcases h.start_cases mac codec ch with hr | ⟨hb, _, _, hstate, frame, ch', hs, hres⟩
  · exact ends_of_refused hr
  · refine ends_of_done (a := .start) (by simp only [call, hres]; rfl) hb rfl (by simp [hstate])
      (by simp) ?_ (AuthenticatedSidecarChannel.Use.sealPayload hs).keeps.1
    simp [Consistent, bound, hstate]

theorem ends_receive {frame : Bytes} :
    (machine mac codec).Ends h ch (h.call mac codec (.receive frame) ch) := by
  rcases h.receive_cases mac codec ch frame with
    hr | ⟨hb, _, _, payload, message, reply, h', ch', _, _, hm, hres⟩
  · exact ends_of_refused hr
  · have hcall : h.call mac codec (.receive frame) ch = (.ok (), h', ch') := by
      simp only [call, hres]
      rfl
    rcases receiveMessage_eq_ok hm with
      ⟨_, _, _, _, hacc, _, rfl⟩ | ⟨_, _, _, _, hconf, _, rfl⟩
    · have hstate : h.state = .starting := hacc.starting
      refine ends_of_done hcall hb rfl (by simp [hstate]) (by simp) ?_
        (AuthenticatedSidecarChannel.Use.sealPayload hacc.seals).keeps.1
      rintro ⟨hn, -⟩
      exact ⟨by simpa [bound, hstate] using hn, by simp⟩
    · have hstate : h.state = .awaitingAcceptance := hconf.awaiting
      have huse : AuthenticatedSidecarChannel.Use mac _ _ := .applyNegotiatedProtocol hconf.applies
      refine ends_of_done hcall hb rfl (by simp [hstate]) (by simp) ?_ huse.keeps.1
      simp [Consistent, bound, hstate]

theorem ends_completeAcceptance :
    (machine mac codec).Ends h ch (h.call mac codec .completeAcceptance ch) := by
  rcases h.completeAcceptance_cases ch with hr | ⟨hb, _, _, hstate, n, ch', _, ha, hres⟩
  · exact ends_of_refused hr
  · have huse : AuthenticatedSidecarChannel.Use mac _ _ := .applyNegotiatedProtocol ha
    refine ends_of_done (a := .completeAcceptance) (by simp only [call, hres]; rfl) hb rfl
      (by simp [hstate]) (by simp) ?_ huse.keeps.1
    simp [Consistent, hstate]

theorem lawful : (machine mac codec).Lawful where
  initial := by
    rintro h ⟨offer, hn⟩
    obtain ⟨-, rfl⟩ := new_eq_ok hn
    simp [machine, Consistent, fresh]
  ends := by
    intro h a ch
    cases a with
    | start => exact ends_start
    | receive frame => exact ends_receive
    | completeAcceptance => exact ends_completeAcceptance

end SidecarHandshake

namespace SidecarConfigurationExchange

inductive Call
  | start (c : SidecarRuntimeConfiguration)
  | receive (frame : Bytes)
  | acknowledge (manifest : SidecarRuntimeManifest)
  | completeAcknowledgement

variable (mac : Mac) (codec : Codec SidecarRuntimeMessage)

def call (e : SidecarConfigurationExchange) (a : Call) (ch : AuthenticatedSidecarChannel) :
    Except SidecarConfigurationError Unit × SidecarConfigurationExchange ×
      AuthenticatedSidecarChannel :=
  match a with
  | .start c => ended (e.start mac codec ch c)
  | .receive frame => ended (e.receive mac codec ch frame)
  | .acknowledge manifest => ended (e.acknowledge mac codec ch manifest)
  | .completeAcknowledgement => ended (e.completeAcknowledgement ch)

/-- The states in which a configuration has been validated. -/
def Validated (e : SidecarConfigurationExchange) : Prop :=
  e.state = .awaitingAcknowledgement ∨ e.state = .acknowledgementPending ∨ e.state = .configured

/-- A configuration, its manifest and its budget are held exactly after validation, and the manifest
is the one the configuration implies. -/
def Consistent (e : SidecarConfigurationExchange) : Prop :=
  (e.configuration.isSome ↔ e.Validated) ∧ (e.maxPayloadBytes.isSome ↔ e.Validated) ∧
    e.expectedManifest = e.configuration.map manifestFromConfiguration

def machine : Machine UInt64 AuthenticatedSidecarChannel SidecarConfigurationExchange Call
    SidecarConfigurationError where
  resource := channelResource mac
  call := call mac codec
  Initial e := ∃ h, new h = .ok e
  bound e := some e.channelInstanceId
  mismatch := .channelInstanceMismatch
  Failed e := e.state = .failed
  Cleared e := e.configuration = none ∧ e.expectedManifest = none ∧ e.maxPayloadBytes = none
  Consistent := Consistent

variable {mac : Mac} {codec : Codec SidecarRuntimeMessage} {e : SidecarConfigurationExchange}
  {ch : AuthenticatedSidecarChannel}

theorem ends_of_refused {α : Type} {r : Except SidecarConfigurationError α ×
    SidecarConfigurationExchange × AuthenticatedSidecarChannel} (hr : Refused e ch r) :
    (machine mac codec).Ends e ch (ended r) := by
  cases hr with
  | mismatch hb => exact .mismatch (by simp [machine]) (fun h => hb (Option.some.inj h).symm)
  | @failed error ch' hb he hid =>
    have hbound : some e.channelInstanceId = some ch.instanceId := congrArg some hb.symm
    exact .failed he (Or.inr hbound) hbound rfl ⟨rfl, rfl, rfl⟩
      (by simp [machine, Consistent, Validated, SidecarConfigurationExchange.failed]) hid.instanceId rfl

theorem ends_of_done {a : Call} {e' : SidecarConfigurationExchange}
    {ch' : AuthenticatedSidecarChannel} (hres : e.call mac codec a ch = (.ok (), e', ch'))
    (hb : ch.instanceId = e.channelInstanceId) (hb' : e'.channelInstanceId = e.channelInstanceId)
    (hf : e.state ≠ .failed) (hf' : e'.state ≠ .failed) (hc : e.Consistent → e'.Consistent)
    (hid : ch'.instanceId = ch.instanceId) :
    (machine mac codec).Ends e ch (e.call mac codec a ch) :=
  hres ▸ .done (Or.inr (congrArg some hb.symm)) (congrArg some (hb'.trans hb.symm)) hf hf' hc hid

theorem consistent_validated {c : SidecarRuntimeConfiguration} :
    (e.validated c ch).Consistent := by
  simp [Consistent, Validated, validated]

/-- A validated exchange stays consistent while it moves on. -/
theorem Consistent.advance (hc : e.Consistent) (hv : e.Validated)
    {state : SidecarConfigurationState}
    (hs : ({ e with state } : SidecarConfigurationExchange).Validated) :
    ({ e with state } : SidecarConfigurationExchange).Consistent := by
  obtain ⟨hconf, hmax, hmanifest⟩ := hc
  exact ⟨iff_of_true (hconf.mpr hv) hs, iff_of_true (hmax.mpr hv) hs, hmanifest⟩

theorem ends_start {c : SidecarRuntimeConfiguration} :
    (machine mac codec).Ends e ch (e.call mac codec (.start c) ch) := by
  rcases e.start_cases mac codec ch c with hr | ⟨hb, _, _, hstate, _, frame, ch', hs, hres⟩
  · exact ends_of_refused hr
  · have hcall : e.call mac codec (.start c) ch = (.ok (), e.validated c ch', ch') := by
      simp only [call, hres]
      rfl
    exact ends_of_done hcall hb rfl (by simp [hstate]) (by simp [validated])
      (fun _ => consistent_validated)
      (AuthenticatedSidecarChannel.Use.sealPayload hs).keeps.1

theorem ends_receive {frame : Bytes} :
    (machine mac codec).Ends e ch (e.call mac codec (.receive frame) ch) := by
  rcases e.receive_cases mac codec ch frame with
    hr | ⟨hb, _, _, payload, message, received, e', _, _, hm, hres⟩
  · exact ends_of_refused hr
  · have hcall : e.call mac codec (.receive frame) ch = (.ok (), e',
        { ch.lockFrameLimit with receiveSequence := ch.receiveSequence + 1 }) := by
      simp only [call, hres]
      rfl
    rcases receiveMessage_eq_ok hm with
      ⟨_, hstate, c, _, _, _, rfl⟩ | ⟨_, hstate, manifest, _, _, _, rfl⟩
    · exact ends_of_done hcall hb rfl (by simp [hstate]) (by simp [validated])
        (fun _ => consistent_validated) rfl
    · exact ends_of_done hcall hb rfl (by simp [hstate]) (by simp)
        (fun hc => hc.advance (Or.inl hstate) (Or.inr (Or.inr rfl))) rfl

theorem ends_acknowledge {manifest : SidecarRuntimeManifest} :
    (machine mac codec).Ends e ch (e.call mac codec (.acknowledge manifest) ch) := by
  rcases e.acknowledge_cases mac codec ch manifest with
    hr | ⟨hb, _, _, hstate, _, frame, ch', hs, hres⟩
  · exact ends_of_refused hr
  · have hcall : e.call mac codec (.acknowledge manifest) ch =
        (.ok (), { e with state := .acknowledgementPending }, ch') := by
      simp only [call, hres]
      rfl
    exact ends_of_done hcall hb rfl (by simp [hstate]) (by simp)
      (fun hc => hc.advance (Or.inl hstate) (Or.inr (Or.inl rfl)))
      (AuthenticatedSidecarChannel.Use.sealPayload hs).keeps.1

theorem ends_completeAcknowledgement :
    (machine mac codec).Ends e ch (e.call mac codec .completeAcknowledgement ch) := by
  rcases e.completeAcknowledgement_cases ch with hr | ⟨hb, _, _, hstate, hres⟩
  · exact ends_of_refused hr
  · have hcall : e.call mac codec .completeAcknowledgement ch =
        (.ok (), { e with state := .configured }, ch) := by
      simp only [call, hres]
      rfl
    exact ends_of_done hcall hb rfl (by simp [hstate]) (by simp)
      (fun hc => hc.advance (Or.inr (Or.inl hstate)) (Or.inr (Or.inr rfl))) rfl

theorem lawful : (machine mac codec).Lawful where
  initial := by
    rintro e ⟨h, hn⟩
    obtain ⟨negotiated, instanceId, -, -, -, rfl⟩ := new_eq_ok hn
    cases hr : h.localRole <;> simp [machine, Consistent, Validated]
  ends := by
    intro e a ch
    cases a with
    | start c => exact ends_start
    | receive frame => exact ends_receive
    | acknowledge manifest => exact ends_acknowledge
    | completeAcknowledgement => exact ends_completeAcknowledgement

end SidecarConfigurationExchange

/-- Fail-closed state machines: in any run of calls with any channels, a failed call ends the object
and its channel for good, a call with another channel costs only that channel, the bound channel
never changes, and what the object holds is what its state says. -/
theorem fail_closed (mac : Mac) (hc : Codec SidecarHandshakeMessage)
    (rc : Codec SidecarRuntimeMessage) :
    (∀ w, (SidecarHandshake.machine mac hc).system.Reachable w →
      (SidecarHandshake.machine mac hc).Closed w) ∧
    ∀ w, (SidecarConfigurationExchange.machine mac rc).system.Reachable w →
      (SidecarConfigurationExchange.machine mac rc).Closed w :=
  ⟨fun _ hw => Machine.closed_reachable SidecarHandshake.lawful hw,
    fun _ hw => Machine.closed_reachable SidecarConfigurationExchange.lawful hw⟩

/-- The runtime channel of the handshake vector, and no other. -/
def vectorPool (i : UInt64) : Option AuthenticatedSidecarChannel :=
  if i = 2 then some (vectorChannel .runtime) else none

theorem vectorPool_named (i : UInt64) (ch : AuthenticatedSidecarChannel)
    (h : vectorPool i = some ch) : ch.instanceId = i := by
  unfold vectorPool at h
  split at h
  · next hi =>
    cases h
    exact hi.symm
  · cases h

def vectorExchange : SidecarConfigurationExchange where
  role := .runtime
  channelInstanceId := 2
  selection := (vectorNegotiated .supervisor).selection
  runtimeVersion := "1.0.0"
  state := .awaitingConfiguration
  configuration := none
  expectedManifest := none
  maxPayloadBytes := none

/-- A runtime that starts a handshake or an exchange loses it, and its channel with it. -/
theorem vector_fails_closed :
    (∃ h : SidecarHandshake, h.state = .failed ∧ h.negotiated = none ∧
      h.channelInstanceId = some 2) ∧
    ∃ e : SidecarConfigurationExchange, e.state = .failed ∧ e.configuration = none ∧
      e.channelInstanceId = 2 := by
  obtain ⟨hh, he⟩ := fail_closed vectorMac vectorCodec ⟨fun _ => .fail, fun _ => none⟩
  have h₀ := hh ⟨SidecarHandshake.fresh (vectorSession.offer .runtime), vectorPool⟩
    (.initial ⟨⟨_, vector_new .runtime⟩, vectorPool_named⟩)
  have h₁ := h₀.failed .start 2 .supervisorMustInitiate _ (.call rfl rfl) (by decide)
  have e₀ := he ⟨vectorExchange, vectorPool⟩ (.initial ⟨⟨{
      SidecarHandshake.fresh (vectorSession.offer .runtime) with
      state := .authenticated, negotiated := some (vectorNegotiated .supervisor)
      channelInstanceId := some 2 }, rfl⟩, vectorPool_named⟩)
  have e₁ := e₀.failed .completeAcknowledgement 2 .unexpectedMessage _ (.call rfl rfl) (by decide)
  exact ⟨⟨_, h₁.1, h₁.2.1.1, h₁.2.2.1⟩, ⟨_, e₁.1, e₁.2.1.1, Option.some.inj e₁.2.2.1⟩⟩

end OpenclawNode.Sidecar
