import OpenclawNode.Sidecar.ConfigurationCompleteness
import OpenclawNode.Sidecar.Process

/-! What a cooperating supervisor can bring a process to, whatever else the process holds. -/
namespace OpenclawNode.Sidecar

open BigEndian (Bytes)
open BoundedWriter (Codec)
open Transition (System)

variable {mac : Mac} {hc : Codec SidecarHandshakeMessage} {rc : Codec SidecarRuntimeMessage}
  {S : System SidecarProcess ProcessAction} {w : SidecarProcess} {k : Nat} {i : UInt64}
  {ch : AuthenticatedSidecarChannel} {sessionId : String} {maxFrameBytes : UInt32} {count : Nat}
  {locked : Bool}

/-- A live runtime channel that has carried as many frames each way. -/
structure RuntimeChannel (ch : AuthenticatedSidecarChannel) (i : UInt64) (sessionId : String)
    (maxFrameBytes : UInt32) (count : Nat) (locked : Bool) : Prop where
  instanceId : ch.instanceId = i
  role : ch.role = .runtime
  sessionId : ch.sessionId = sessionId
  maxFrameBytes : ch.maxFrameBytes = maxFrameBytes
  live : ch.retired = false
  locked : ch.frameLimitLocked = locked
  sent : ch.sendSequence.toNat = count
  received : ch.receiveSequence.toNat = count

theorem toNat_succ {n : UInt64} {count : Nat} (hn : n.toNat = count) (hc : count + 1 < 2 ^ 64) :
    (n + 1).toNat = count + 1 := by
  subst hn
  exact FixedWidth.toNat_succ hc

theorem RuntimeChannel.maxPayloadBytes (h : RuntimeChannel ch i sessionId maxFrameBytes count locked) :
    ch.maxPayloadBytes = maxFrameBytes.toNat - fixedHeaderBytes - (Text.utf8 sessionId).length -
      authTagBytes := by
  rw [AuthenticatedSidecarChannel.maxPayloadBytes, h.maxFrameBytes, h.sessionId]

theorem RuntimeChannel.applies {n : NegotiatedSidecarProtocol}
    (h : RuntimeChannel ch i sessionId maxFrameBytes count false)
    (hmajor : n.protocolMajor = sidecarProtocolMajor)
    (hminor : ¬ sidecarProtocolMinor < n.protocolMinor)
    (habove : minimumFrameBytes (Text.utf8 sessionId).length ≤ n.limits.maxFrameBytes.toNat)
    (hbelow : n.limits.maxFrameBytes.toNat ≤ maxFrameBytes.toNat) :
    ∃ ch', ch.applyNegotiatedProtocol n = .ok ch' ∧
      RuntimeChannel ch' i sessionId n.limits.maxFrameBytes count false :=
  ⟨_, AuthenticatedSidecarChannel.applyNegotiatedProtocol_eq hmajor hminor h.locked
    (by rw [h.sessionId]; exact habove) (by rw [h.maxFrameBytes]; exact hbelow),
    h.instanceId, h.role, h.sessionId, rfl, h.live, h.locked, h.sent, h.received⟩

/-- The channel opens the peer's next frame, then seals an answer. -/
theorem RuntimeChannel.exchanges (mac : Mac) {α : Type} {decode : Bytes → Option α} {message : α}
    {payload : Bytes} {answer : BoundedWriter.Serialization}
    (h : RuntimeChannel ch i sessionId maxFrameBytes count locked) (hroom : count + 1 < 2 ^ 64)
    (hd : decode payload = some message) (hfit : payload.length ≤ ch.maxPayloadBytes)
    (hf : answer.failed = false) (hanswer : answer.output.length ≤ ch.maxPayloadBytes) :
    ∃ frame ch₁ sealed ch', ch.open mac decode frame = (.ok message, ch₁) ∧
      ch₁.seal mac answer = .ok (sealed, ch') ∧ ch₁.maxPayloadBytes = ch.maxPayloadBytes ∧
      ch₁.role = .runtime ∧ ch₁.instanceId = i ∧
      RuntimeChannel ch' i sessionId maxFrameBytes (count + 1) locked := by
  have hreceived : ch.receiveSequence.toNat + 1 < 2 ^ 64 := by rw [h.received]; exact hroom
  have hsent : ch.sendSequence.toNat + 1 < 2 ^ 64 := by rw [h.sent]; exact hroom
  refine ⟨_, _, _, _, AuthenticatedSidecarChannel.open_frame mac h.live hreceived hfit hd,
    AuthenticatedSidecarChannel.seal_eq_ok.mpr ⟨h.live, hsent, hf, hanswer, rfl, rfl⟩, rfl, h.role,
    h.instanceId, ?_⟩
  exact ⟨h.instanceId, h.role, h.sessionId, h.maxFrameBytes, h.live, h.locked,
    toNat_succ h.sent hroom, toNat_succ h.received hroom⟩

/-- A frame that is given to an exchange. -/
def ProcessAction.Receives : ProcessAction → Prop
  | .exchange _ _ (.receive _) => True
  | _ => False

/-- A system that takes every call of the process, save that it may keep frames from exchanges. -/
def Serves (mac : Mac) (hc : Codec SidecarHandshakeMessage) (rc : Codec SidecarRuntimeMessage)
    (S : System SidecarProcess ProcessAction) : Prop :=
  ∀ w a w', ¬ a.Receives → ProcessStep mac hc rc w a w' → S.Step w a w'

theorem processSystem_serves : Serves mac hc rc (processSystem mac hc rc) := fun _ _ _ _ hs => hs

/-- The step of a handshake call, with what it leaves behind. -/
theorem process_handshake {h h' : SidecarHandshake} {a : SidecarHandshake.Call}
    {ch' : AuthenticatedSidecarChannel} {result : Except SidecarHandshakeError Unit}
    (hS : Serves mac hc rc S) (hk : w.handshake k = some h) (hi : w.channel i = some ch)
    (hres : h.call mac hc a ch = (result, h', ch')) :
    S.Step w (.handshake k i a) ((w.setHandshake k (some h')).setChannel i ch') :=
  hS _ _ _ id (.handshake hk hi hres)

theorem process_exchange {e e' : SidecarConfigurationExchange}
    {a : SidecarConfigurationExchange.Call} {ch' : AuthenticatedSidecarChannel}
    {result : Except SidecarConfigurationError Unit} (hS : Serves mac hc rc S)
    (ha : ¬ (ProcessAction.exchange k i a).Receives) (hk : w.exchange k = some e)
    (hi : w.channel i = some ch) (hres : e.call mac rc a ch = (result, e', ch')) :
    S.Step w (.exchange k i a) ((w.setExchange k e').setChannel i ch') :=
  hS _ _ _ ha (.exchange hk hi hres)

/-- A supervisor whose offer fits authenticates any handshake that has not been used yet. -/
theorem process_authenticates {localOffer offer : SidecarProtocolOffer}
    {n : NegotiatedSidecarProtocol} {payload : Bytes} (hS : Serves mac hc rc S)
    (hk : w.handshake k = some (SidecarHandshake.fresh localOffer)) (hi : w.channel i = some ch)
    (hch : RuntimeChannel ch i sessionId maxFrameBytes count false) (hroom : count + 1 < 2 ^ 64)
    (hlocal : localOffer.peer.role = .runtime) (hrole : offer.peer.role = .supervisor)
    (hvalid : validatePeerIdentity offer = .ok ())
    (hneg : negotiateSidecarProtocol localOffer offer = .ok n)
    (hd : hc.deserialize payload = some (.offer offer)) (hfit : payload.length ≤ ch.maxPayloadBytes)
    (hf : (hc.serialize (.accept localOffer n.selection)).failed = false)
    (hacc : (hc.serialize (.accept localOffer n.selection)).output.length ≤ ch.maxPayloadBytes)
    (hmajor : n.protocolMajor = sidecarProtocolMajor)
    (hminor : ¬ sidecarProtocolMinor < n.protocolMinor)
    (habove : minimumFrameBytes (Text.utf8 sessionId).length ≤ n.limits.maxFrameBytes.toNat)
    (hbelow : n.limits.maxFrameBytes.toNat ≤ maxFrameBytes.toNat) :
    ∃ ch', S.Run w ((w.setHandshake k (some
        ⟨localOffer, .authenticated, some n, none, some i⟩)).setChannel i ch') ∧
      RuntimeChannel ch' i sessionId n.limits.maxFrameBytes (count + 1) false := by
  obtain ⟨frame, ch₁, sealed, ch₂, hopen, hseal, -, -, -, hch₂⟩ :=
    hch.exchanges mac hroom hd hfit hf hacc
  obtain ⟨ch', happly, hch'⟩ := hch₂.applies hmajor hminor habove hbelow
  have hreceive := SidecarHandshake.receive_eq (h := SidecarHandshake.fresh localOffer)
    (Or.inl rfl) (hch.role.trans hlocal.symm) hopen
    (SidecarHandshake.receiveMessage_offer_eq hrole hvalid ⟨hlocal, rfl, hneg, hseal⟩)
  have hcomplete := SidecarHandshake.completeAcceptance_eq (h := { (SidecarHandshake.fresh
      localOffer).bound ch with pendingNegotiated := some n, state := .acceptancePending })
    (Or.inr (congrArg some (hch.instanceId.trans hch₂.instanceId.symm))) hch₂.role hch₂.live rfl rfl
    happly
  have hrun := (System.Run.single (process_handshake hS hk hi (a := .receive frame)
    (congrArg ended hreceive))).snoc
      (process_handshake hS (k := k) (i := i) (by simp) (by simp) (a := .completeAcceptance)
        (congrArg ended hcomplete))
  refine ⟨ch', ?_, hch'⟩
  simpa [SidecarProcess.setHandshake, SidecarProcess.setChannel, SidecarHandshake.bound,
    SidecarHandshake.fresh, hch₂.instanceId] using hrun

/-- The exchange of a runtime that has authenticated under this selection. -/
def awaitingExchange (i : UInt64) (n : NegotiatedSidecarProtocol) (runtimeVersion : String) :
    SidecarConfigurationExchange where
  role := .runtime
  channelInstanceId := i
  selection := n.selection
  runtimeVersion := runtimeVersion
  state := .awaitingConfiguration
  configuration := none
  expectedManifest := none
  maxPayloadBytes := none

/-- A supervisor whose configuration fits brings any waiting exchange to a bridge, where the exchange
is given the frame. -/
theorem process_activates {c : SidecarRuntimeConfiguration} {n : NegotiatedSidecarProtocol}
    {runtimeVersion : String} {payload : Bytes} (hS : Serves mac hc rc S)
    (hgiven : ∀ frame w', ProcessStep mac hc rc w (.exchange k i (.receive frame)) w' →
      S.Step w (.exchange k i (.receive frame)) w')
    (hk : w.exchange k = some (awaitingExchange i n runtimeVersion)) (hi : w.channel i = some ch)
    (hch : RuntimeChannel ch i sessionId maxFrameBytes count locked) (hroom : count + 1 < 2 ^ 64)
    (hv : validateConfiguration c n.selection = .ok ())
    (hs : validateStatusBudget rc runtimeVersion c.manifestGeneration ch.maxPayloadBytes = .ok ())
    (hd : rc.deserialize payload = some (.configure c)) (hfit : payload.length ≤ ch.maxPayloadBytes)
    (hf : (rc.serialize (.configured (manifestFromConfiguration c))).failed = false)
    (hack : (rc.serialize (.configured (manifestFromConfiguration c))).output.length ≤
      ch.maxPayloadBytes) :
    ∃ e ch' b, S.Run w (((w.setExchange k e).setChannel i ch').activated i
        (.ok b : Except SidecarRuntimeBridgeError SidecarRuntimeBridge)) ∧
      RuntimeChannel ch' i sessionId maxFrameBytes (count + 1) true := by
  have hlocked : RuntimeChannel ch.lockFrameLimit i sessionId maxFrameBytes count true :=
    ⟨hch.instanceId, hch.role, hch.sessionId, hch.maxFrameBytes, hch.live, rfl, hch.sent,
      hch.received⟩
  obtain ⟨frame, ch₁, sealed, ch₂, hopen, hseal, hmax, hrole₁, hid₁, hch₂⟩ :=
    hlocked.exchanges mac hroom hd hfit hf hack
  have hvalidate : (awaitingExchange i n runtimeVersion).validate rc c ch₁ = .ok () := by
    have hmax' : ch₁.maxPayloadBytes = ch.maxPayloadBytes := hmax
    simp only [SidecarConfigurationExchange.validate, awaitingExchange, hv, hmax', hs, bind,
      Except.bind]
  have hreceive := SidecarConfigurationExchange.receive_eq (e := awaitingExchange i n runtimeVersion)
    hch.instanceId (hch.role.trans rfl) hopen
    (SidecarConfigurationExchange.receiveMessage_configure_eq rfl rfl hvalidate)
  have hacknowledge := SidecarConfigurationExchange.acknowledge_eq
    (e := (awaitingExchange i n runtimeVersion).validated c ch₁) hid₁ rfl hrole₁ rfl rfl hseal
  have hcomplete := SidecarConfigurationExchange.completeAcknowledgement_eq
    (e := { (awaitingExchange i n runtimeVersion).validated c ch₁ with
      state := .acknowledgementPending }) hch₂.instanceId rfl hch₂.live rfl
  obtain ⟨runtime, hbuild, -⟩ := buildCommandRuntime_enforces hv ⟨ch₁.maxPayloadBytes, ch₂.instanceId⟩
  obtain ⟨b, -, hactivate⟩ := SidecarRuntimeBridge.activate_eq
    (e := { (awaitingExchange i n runtimeVersion).validated c ch₁ with state := .configured })
    hch₂.instanceId hch₂.live rfl rfl rfl rfl rfl hbuild
  have hreceived := hgiven frame _ (.exchange hk hi (congrArg ended hreceive))
  have hrun := (((System.Run.single hreceived).snoc
      (process_exchange hS id (k := k) (i := i) (by simp) (by simp) (a := .acknowledge _)
        (congrArg ended hacknowledge))).snoc
      (process_exchange hS id (k := k) (i := i) (by simp) (by simp) (a := .completeAcknowledgement)
        (congrArg ended hcomplete))).snoc
      (hS _ _ _ id (.activate (k := k) (i := i) (by simp) (by simp) hactivate))
  refine ⟨{ (awaitingExchange i n runtimeVersion).validated c ch₁ with state := .activated }, ch₂, b,
    ?_, hch₂⟩
  simpa [SidecarProcess.setExchange, SidecarProcess.setChannel] using hrun

/-- The vector's offer authenticates a handshake on its runtime channel. -/
theorem vector_authenticates (hS : Serves vectorMac vectorCodec vectorWireCodec S)
    (hk : w.handshake k = some (SidecarHandshake.fresh (vectorSession.offer .runtime))) (hi : w.channel 2 = some ch)
    (hch : RuntimeChannel ch 2 "handshake-session" maxFrameBytes count false)
    (hmax : 2048 ≤ maxFrameBytes.toNat) (hroom : count + 1 < 2 ^ 64) :
    ∃ ch', S.Run w ((w.setHandshake k (some
        ⟨vectorSession.offer .runtime, .authenticated, some (vectorNegotiated .supervisor), none,
          some 2⟩)).setChannel 2 ch') ∧
      RuntimeChannel ch' 2 "handshake-session" 2048 (count + 1) false := by
  have hsize : (Text.utf8 "handshake-session").length = 17 := by decide
  have hbudget := hch.maxPayloadBytes
  rw [hsize] at hbudget
  have hfit : vectorOffer.serialize.output.length ≤ 1968 := by decide +kernel
  have hacc : (vectorCodec.serialize (.accept (vectorSession.offer .runtime)
      (vectorNegotiated .supervisor).selection)).output.length ≤ 1968 := by decide +kernel
  have hroom' : 1968 ≤ ch.maxPayloadBytes := by
    rw [hbudget]
    simp only [fixedHeaderBytes, authTagBytes]
    omega
  have hd : vectorCodec.deserialize vectorOffer.serialize.output =
      some (.offer (vectorSession.offer .supervisor)) := by
    simp only [vectorCodec, if_true]
    rfl
  exact process_authenticates hS hk hi hch hroom rfl rfl rfl rfl hd (hfit.trans hroom')
    (by decide +kernel) (hacc.trans hroom') rfl (by decide) (by decide +kernel) hmax

/-- The vector's configuration activates a bridge on its runtime channel. -/
theorem vector_activates (hS : Serves vectorMac vectorCodec vectorWireCodec S)
    (hgiven : ∀ frame w', ProcessStep vectorMac vectorCodec vectorWireCodec w
      (.exchange k 2 (.receive frame)) w' → S.Step w (.exchange k 2 (.receive frame)) w')
    (hk : w.exchange k = some (awaitingExchange 2 (vectorNegotiated .supervisor) "1.0.0"))
    (hi : w.channel 2 = some ch)
    (hch : RuntimeChannel ch 2 "handshake-session" 2048 count locked) (hroom : count + 1 < 2 ^ 64) :
    ∃ e ch' b, S.Run w
        (((w.setExchange k e).setChannel 2 ch').activated 2
          (.ok b : Except SidecarRuntimeBridgeError SidecarRuntimeBridge)) ∧
      RuntimeChannel ch' 2 "handshake-session" 2048 (count + 1) true := by
  have hbudget : ch.maxPayloadBytes = 1968 := by
    rw [hch.maxPayloadBytes]
    decide
  have hconfigured : (vectorWireCodec.serialize (.configured vectorManifest)).failed = false ∧
      (vectorWireCodec.serialize (.configured vectorManifest)).output.length ≤ 1968 := by
    constructor <;> decide +kernel
  rw [← vector_manifest] at hconfigured
  have hwritten : (vectorWireCodec.serialize (.configure vectorConfiguration)).failed = false ∧
      (vectorWireCodec.serialize (.configure vectorConfiguration)).output.length ≤ 1968 := by
    constructor <;> decide +kernel
  refine process_activates hS hgiven hk hi hch hroom (by decide +kernel) ?_
    (vectorWireCodec_configure hwritten.1) (hwritten.2.trans_eq hbudget.symm) hconfigured.1 ?_
  · rw [hbudget]
    decide +kernel
  · rw [hbudget]
    exact hconfigured.2

theorem vector_channel : AuthenticatedSidecarChannel.new 2 .runtime "handshake-session" 9
    vectorSession.key 4096 = .ok (vectorChannel .runtime, 3) := rfl

/-- Two handshakes can be authenticated on the vector's channel before a configuration arrives on it,
so that two exchanges wait for one. -/
theorem vector_waits {S : System SidecarProcess ProcessAction}
    (hinitial : S.Initial ⟨fun _ => none, fun _ => none, fun _ => none, []⟩)
    (hS : Serves vectorMac vectorCodec vectorWireCodec S) : ∃ w ch, S.Reachable w ∧
      w.exchange 0 = some (awaitingExchange 2 (vectorNegotiated .supervisor) "1.0.0") ∧
      w.exchange 1 = some (awaitingExchange 2 (vectorNegotiated .supervisor) "1.0.0") ∧
      w.channel 2 = some ch ∧ RuntimeChannel ch 2 "handshake-session" 2048 2 false ∧
      w.bridges = [] := by
  have hnew : SidecarConfigurationExchange.new ⟨vectorSession.offer .runtime, .authenticated,
      some (vectorNegotiated .supervisor), none, some 2⟩ =
        .ok (awaitingExchange 2 (vectorNegotiated .supervisor) "1.0.0") := rfl
  have hch : RuntimeChannel (vectorChannel .runtime) 2 "handshake-session" 4096 0 false :=
    ⟨rfl, rfl, rfl, rfl, rfl, rfl, rfl, rfl⟩
  obtain ⟨w, hw, hk, hk', hi, he, hb⟩ : ∃ w, S.Reachable w ∧
      w.handshake 0 = some (SidecarHandshake.fresh (vectorSession.offer .runtime)) ∧
      w.handshake 1 = some (SidecarHandshake.fresh (vectorSession.offer .runtime)) ∧
      w.channel 2 = some (vectorChannel .runtime) ∧ w.exchange = (fun _ => none) ∧
      w.bridges = [] :=
    ⟨_, (((System.Reachable.initial hinitial).step
      (hS _ _ _ id (.createChannel (i := 2) rfl vector_channel))).step
      (hS _ _ _ id (.newHandshake (k := 0) rfl (vector_new .runtime)))).step
      (hS _ _ _ id (.newHandshake (k := 1) rfl (vector_new .runtime))), rfl, rfl, rfl, rfl, rfl⟩
  obtain ⟨ch₁, hrun₁, hch₁⟩ := vector_authenticates hS hk hi hch (by decide) (by decide)
  obtain ⟨ch₂, hrun₂, hch₂⟩ := vector_authenticates hS (k := 1)
    (w := (w.setHandshake 0 _).setChannel 2 ch₁) hk' (by simp) hch₁ (by decide) (by decide)
  have hexchanges := (((hw.run hrun₁).run hrun₂).step (hS _ _ _ id (.newExchange (k := 0) (j := 0)
    rfl (congrFun he 0) hnew))).step (hS _ _ _ id (.newExchange (k := 1) (j := 1) rfl
      (congrFun he 1) hnew))
  exact ⟨_, ch₂, hexchanges, rfl, rfl, rfl, hch₂, hb⟩

/-- Both exchanges activate a bridge where nothing keeps a frame from the second. -/
theorem vector_bridges : ∃ w, (processSystem vectorMac vectorCodec vectorWireCodec).Reachable w ∧
    w.bridges.map Prod.fst = [2, 2] := by
  obtain ⟨w, ch, hw, hk, hk', hi, hch, hb⟩ := vector_waits (S := processSystem vectorMac vectorCodec
    vectorWireCodec) rfl processSystem_serves
  obtain ⟨e₁, ch₁, b₁, hrun₁, hch₁⟩ := vector_activates processSystem_serves (fun _ _ hs => hs) hk hi
    hch (by decide)
  obtain ⟨e₂, ch₂, b₂, hrun₂, -⟩ := vector_activates processSystem_serves (fun _ _ hs => hs) (k := 1)
    (w := ((w.setExchange 0 e₁).setChannel 2 ch₁).activated 2
      (.ok b₁ : Except SidecarRuntimeBridgeError SidecarRuntimeBridge)) hk' rfl hch₁ (by decide)
  refine ⟨_, (hw.run hrun₁).run hrun₂, ?_⟩
  show (w.bridges ++ [(2, b₁)] ++ [(2, b₂)]).map Prod.fst = [2, 2]
  rw [hb]
  rfl

end OpenclawNode.Sidecar
