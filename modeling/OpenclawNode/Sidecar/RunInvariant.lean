import OpenclawNode.Sidecar.Run

/-! What holds in every state of an adversarial two-party run. -/
namespace OpenclawNode.Sidecar

open BigEndian (Bytes)
open BoundedWriter (Codec Serialization)
open Text (utf8 utf8_injective)
open FixedWidth (toNat_succ)

variable {mac : Mac} {hc : Codec SidecarHandshakeMessage} {rc : Codec SidecarRuntimeMessage}
  {s : SidecarSession} {w w' : SidecarRun} {role : SidecarPeerRole}
  {ch ch' : AuthenticatedSidecarChannel} {log : List SidecarEvent}

/-- How many frames a channel has sealed and accepted. -/
def AuthenticatedSidecarChannel.Counts (ch : AuthenticatedSidecarChannel) (sent received : Nat) :
    Prop :=
  ch.sendSequence.toNat = sent ∧ ch.receiveSequence.toNat = received

/-- The channel was created for this role of the session. -/
structure SidecarSession.Owns (s : SidecarSession) (role : SidecarPeerRole)
    (ch : AuthenticatedSidecarChannel) : Prop where
  role : ch.role = role
  sessionId : ch.sessionId = s.sessionId
  generation : ch.generation = s.generation
  key : ch.retired = false → ch.key = s.key

/-- The peer is authenticated, and its selection is the one both offers imply, applied to its
channel. -/
structure SidecarSession.Holds (s : SidecarSession) (role : SidecarPeerRole)
    (ch : AuthenticatedSidecarChannel) (h : SidecarHandshake)
    (n : NegotiatedSidecarProtocol) : Prop where
  state : h.state = .authenticated
  negotiated : h.negotiated = some n
  negotiates : negotiateSidecarProtocol (s.offer role) (s.offer role.expectedRemote) = .ok n
  protocolMinor : ch.protocolMinor = n.protocolMinor
  maxFrameBytes : ch.maxFrameBytes = n.limits.maxFrameBytes

/-- How far a handshake has come that has not failed. -/
inductive HandshakeProgress (s : SidecarSession) (log : List SidecarEvent) :
    SidecarPeerRole → AuthenticatedSidecarChannel → SidecarHandshake → Prop
  | starting {role ch h} : h.state = .starting → ch.Counts 0 0 →
      HandshakeProgress s log role ch h
  | awaiting {ch h} : h.state = .awaitingAcceptance → ch.Counts 1 0 →
      HandshakeProgress s log .supervisor ch h
  | pending {ch h n} : h.state = .acceptancePending → ch.Counts 1 1 →
      h.pendingNegotiated = some n →
      negotiateSidecarProtocol (s.offer .runtime) (s.offer .supervisor) = .ok n →
      HandshakeProgress s log .runtime ch h
  | confirmed {ch h n m} : s.Holds .supervisor ch h n → ch.Counts 1 1 → .computed m ∈ log →
      HandshakeProgress s log .supervisor ch h
  | completed {ch h n} : s.Holds .runtime ch h n → ch.Counts 1 1 →
      HandshakeProgress s log .runtime ch h

/-- The exchange keeps the configuration and the manifest it implies. -/
def SidecarConfigurationExchange.Keeps (e : SidecarConfigurationExchange)
    (c : SidecarRuntimeConfiguration) : Prop :=
  e.configuration = some c ∧ e.expectedManifest = some (manifestFromConfiguration c)

/-- How far an exchange has come that has not failed. -/
inductive ExchangeProgress (log : List SidecarEvent) :
    SidecarPeerRole → AuthenticatedSidecarChannel → SidecarConfigurationExchange → Prop
  | starting {ch e} : e.state = .starting → ch.Counts 1 1 → ExchangeProgress log .supervisor ch e
  | awaitingConfiguration {ch e} : e.state = .awaitingConfiguration → ch.Counts 1 1 →
      ExchangeProgress log .runtime ch e
  | sent {ch e c} : e.state = .awaitingAcknowledgement → ch.Counts 2 1 → e.Keeps c →
      .configured c ∈ log → ExchangeProgress log .supervisor ch e
  | confirmed {ch e c} : e.state = .configured → ch.Counts 2 2 → e.Keeps c →
      .configured c ∈ log → .acknowledged (manifestFromConfiguration c) ∈ log →
      ExchangeProgress log .supervisor ch e
  | received {ch e c} : e.state = .awaitingAcknowledgement → ch.Counts 1 2 → e.Keeps c →
      validateConfiguration c e.selection = .ok () → .accepted c ∈ log →
      ExchangeProgress log .runtime ch e
  | acknowledged {ch e c} : e.state = .acknowledgementPending → ch.Counts 2 2 → e.Keeps c →
      validateConfiguration c e.selection = .ok () → .accepted c ∈ log →
      .acknowledged (manifestFromConfiguration c) ∈ log → ExchangeProgress log .runtime ch e
  | committed {ch e c} : e.state = .configured ∨ e.state = .activated → ch.Counts 2 2 →
      e.Keeps c → validateConfiguration c e.selection = .ok () → .accepted c ∈ log →
      .acknowledged (manifestFromConfiguration c) ∈ log → .committed ∈ log →
      ExchangeProgress log .runtime ch e

/-- A handshake that has not failed is bound to its own channel only. -/
structure HandshakeOk (s : SidecarSession) (log : List SidecarEvent) (role : SidecarPeerRole)
    (ch : AuthenticatedSidecarChannel) (h : SidecarHandshake) : Prop where
  owns : s.Owns role ch
  localOffer : h.localOffer = s.offer role
  binds : h.Binds ch
  progress : HandshakeProgress s log role ch h

/-- An exchange that has not failed continues the authenticated handshake it consumed. -/
structure ExchangeOk (s : SidecarSession) (log : List SidecarEvent) (role : SidecarPeerRole)
    (ch : AuthenticatedSidecarChannel) (h : SidecarHandshake)
    (e : SidecarConfigurationExchange) : Prop where
  owns : s.Owns role ch
  role_eq : e.role = role
  bound : ch.instanceId = e.channelInstanceId
  holds : ∃ n, s.Holds role ch h n ∧ e.selection = n.selection
  progress : ExchangeProgress log role ch e

def SidecarPhase.Ok (s : SidecarSession) (log : List SidecarEvent) (role : SidecarPeerRole)
    (ch : AuthenticatedSidecarChannel) : SidecarPhase → Prop
  | .handshake h => h.state = .failed ∨ HandshakeOk s log role ch h
  | .exchange h e => e.state = .failed ∨ ExchangeOk s log role ch h e
  | .refused => True

/-- The bridge serves exactly what the configuration asks for. -/
structure SidecarRuntimeBridge.Serves (b : SidecarRuntimeBridge)
    (c : SidecarRuntimeConfiguration) : Prop where
  valid : ∃ selection, validateConfiguration c selection = .ok ()
  manifest : b.manifest = manifestFromConfiguration c
  built : ∃ binding, buildCommandRuntime c (manifestFromConfiguration c) binding = .ok b.runtime
  generation : b.status.manifestGeneration = c.manifestGeneration

/-- Which events can come after a log: nothing is accepted before it was configured, nothing is
acknowledged or committed before it was accepted, and a bridge comes last. -/
inductive SidecarEvent.Follows (s : SidecarSession) (log : List SidecarEvent) :
    SidecarEvent → Prop
  | computed {n} : negotiateSidecarProtocol (s.offer .runtime) (s.offer .supervisor) = .ok n →
      Follows s log (.computed n)
  | configured {c} : (∀ c', .configured c' ∉ log) → Follows s log (.configured c)
  | accepted {c} : .configured c ∈ log → Follows s log (.accepted c)
  | acknowledged {c} : .accepted c ∈ log →
      Follows s log (.acknowledged (manifestFromConfiguration c))
  | committed {c} : .accepted c ∈ log → .acknowledged (manifestFromConfiguration c) ∈ log →
      Follows s log .committed
  | activated {b c} : .accepted c ∈ log → .acknowledged (manifestFromConfiguration c) ∈ log →
      .committed ∈ log → b.Serves c → Follows s log (.activated b)

/-- A log grown by one possible event after the other. -/
inductive CausalLog (s : SidecarSession) : List SidecarEvent → Prop
  | nil : CausalLog s []
  | snoc {log event} : CausalLog s log → SidecarEvent.Follows s log event →
      CausalLog s (log ++ [event])

/-- What a peer has sealed under which sequence number. -/
inductive Sent (hc : Codec SidecarHandshakeMessage) (rc : Codec SidecarRuntimeMessage)
    (s : SidecarSession) (log : List SidecarEvent) : SidecarPeerRole → Nat → Serialization → Prop
  | offer : Sent hc rc s log .supervisor 1 (hc.serialize (.offer (s.offer .supervisor)))
  | accept {n} : .computed n ∈ log →
      Sent hc rc s log .runtime 1 (hc.serialize (.accept (s.offer .runtime) n.selection))
  | configure {c} : .configured c ∈ log →
      Sent hc rc s log .supervisor 2 (rc.serialize (.configure c))
  | configured {manifest} : .acknowledged manifest ∈ log →
      Sent hc rc s log .runtime 2 (rc.serialize (.configured manifest))

/-- The frame is the tagged body of something a peer has sealed. -/
def SentFrame (mac : Mac) (hc : Codec SidecarHandshakeMessage) (rc : Codec SidecarRuntimeMessage)
    (s : SidecarSession) (log : List SidecarEvent) (frame : Bytes) : Prop :=
  ∃ role payload minor sequence, Sent hc rc s log role sequence.toNat payload ∧
    payload.failed = false ∧
    frame = mac.frame s.key (frameBody minor role.outgoingDirection s.generation sequence
      (utf8 s.sessionId) payload.output)

/-- The supervisor's configuration has left the initial state. -/
def SidecarPhase.Configuring : SidecarPhase → Prop
  | .exchange _ e => e.state ≠ .starting
  | _ => False

def SidecarPhase.Authenticated : SidecarPhase → Prop
  | .exchange h _ => h.state = .authenticated
  | _ => False

structure SidecarRun.Ok (mac : Mac) (hc : Codec SidecarHandshakeMessage)
    (rc : Codec SidecarRuntimeMessage) (s : SidecarSession) (w : SidecarRun) : Prop where
  party : ∀ role, (w.party role).phase.Ok s w.log role (w.party role).channel
  frames : ∀ frame ∈ w.frames, SentFrame mac hc rc s w.log frame
  log : CausalLog s w.log
  configuring : ∀ c, .configured c ∈ w.log → (w.party .supervisor).phase.Configuring
  authenticated : ∀ b, .activated b ∈ w.log → (w.party .runtime).phase.Authenticated

namespace CausalLog

theorem follows {event : SidecarEvent} (h : CausalLog s log) (he : event ∈ log) :
    ∃ log', log' <+: log ∧ event.Follows s log' := by
  induction h with
  | nil => cases he
  | @snoc log last _ hf ih =>
    rcases List.mem_append.mp he with he | he
    · obtain ⟨log', hp, hf'⟩ := ih he
      exact ⟨log', hp.trans (List.prefix_append _ _), hf'⟩
    · rw [List.mem_singleton] at he
      exact ⟨log, List.prefix_append _ _, he ▸ hf⟩

/-- At most one configuration is ever sealed. -/
theorem configured_unique (h : CausalLog s log) {c c' : SidecarRuntimeConfiguration}
    (hc : .configured c ∈ log) (hc' : .configured c' ∈ log) : c = c' := by
  induction h with
  | nil => cases hc
  | @snoc log last _ hf ih =>
    rw [List.mem_append, List.mem_singleton] at hc hc'
    rcases hc with hc | rfl <;> rcases hc' with hc' | he
    · exact ih hc hc'
    · subst he
      cases hf with
      | configured hfresh => exact absurd hc (hfresh c)
    · cases hf with
      | configured hfresh => exact absurd hc' (hfresh c')
    · cases he
      rfl

theorem negotiates (h : CausalLog s log) {n : NegotiatedSidecarProtocol}
    (hn : .computed n ∈ log) :
    negotiateSidecarProtocol (s.offer .runtime) (s.offer .supervisor) = .ok n := by
  obtain ⟨_, -, hf⟩ := h.follows hn
  cases hf with
  | computed hneg => exact hneg

theorem configured_of_accepted (h : CausalLog s log) {c : SidecarRuntimeConfiguration}
    (hc : .accepted c ∈ log) : .configured c ∈ log := by
  obtain ⟨_, hp, hf⟩ := h.follows hc
  cases hf with
  | accepted hcfg => exact hp.subset hcfg

theorem accepted_of_acknowledged (h : CausalLog s log) {manifest : SidecarRuntimeManifest}
    (hm : .acknowledged manifest ∈ log) :
    ∃ c, .accepted c ∈ log ∧ manifest = manifestFromConfiguration c := by
  obtain ⟨_, hp, hf⟩ := h.follows hm
  cases hf with
  | acknowledged hacc => exact ⟨_, hp.subset hacc, rfl⟩

theorem served_of_activated (h : CausalLog s log) {b : SidecarRuntimeBridge}
    (hb : .activated b ∈ log) :
    ∃ c, .accepted c ∈ log ∧ .acknowledged (manifestFromConfiguration c) ∈ log ∧
      .committed ∈ log ∧ b.Serves c := by
  obtain ⟨_, hp, hf⟩ := h.follows hb
  cases hf with
  | activated hacc hack hcom hs => exact ⟨_, hp.subset hacc, hp.subset hack, hp.subset hcom, hs⟩

end CausalLog

section

variable {log' : List SidecarEvent}

theorem HandshakeProgress.mono {h : SidecarHandshake} (hp : HandshakeProgress s log role ch h)
    (hl : log ⊆ log') : HandshakeProgress s log' role ch h := by
  cases hp with
  | starting hs hn => exact .starting hs hn
  | awaiting hs hn => exact .awaiting hs hn
  | pending hs hn hp hneg => exact .pending hs hn hp hneg
  | confirmed hh hn hm => exact .confirmed hh hn (hl hm)
  | completed hh hn => exact .completed hh hn

theorem ExchangeProgress.mono {e : SidecarConfigurationExchange}
    (hp : ExchangeProgress log role ch e) (hl : log ⊆ log') : ExchangeProgress log' role ch e := by
  cases hp with
  | starting hs hn => exact .starting hs hn
  | awaitingConfiguration hs hn => exact .awaitingConfiguration hs hn
  | sent hs hn hk hc => exact .sent hs hn hk (hl hc)
  | confirmed hs hn hk hc ha => exact .confirmed hs hn hk (hl hc) (hl ha)
  | received hs hn hk hv hc => exact .received hs hn hk hv (hl hc)
  | acknowledged hs hn hk hv hc ha => exact .acknowledged hs hn hk hv (hl hc) (hl ha)
  | committed hs hn hk hv hc ha hd => exact .committed hs hn hk hv (hl hc) (hl ha) (hl hd)

theorem SidecarPhase.Ok.mono {phase : SidecarPhase} (hp : phase.Ok s log role ch)
    (hl : log ⊆ log') : phase.Ok s log' role ch := by
  cases phase with
  | handshake h =>
    rcases hp with hf | ⟨howns, hlocal, hbinds, hprogress⟩
    · exact Or.inl hf
    · exact Or.inr ⟨howns, hlocal, hbinds, hprogress.mono hl⟩
  | exchange h e =>
    rcases hp with hf | ⟨howns, hrole, hbound, hholds, hprogress⟩
    · exact Or.inl hf
    · exact Or.inr ⟨howns, hrole, hbound, hholds, hprogress.mono hl⟩
  | refused => trivial

theorem SentFrame.mono {frame : Bytes} (hf : SentFrame mac hc rc s log frame) (hl : log ⊆ log') :
    SentFrame mac hc rc s log' frame := by
  obtain ⟨role, payload, minor, sequence, hs, hok, rfl⟩ := hf
  refine ⟨role, payload, minor, sequence, ?_, hok, rfl⟩
  generalize sequence.toNat = n at hs
  cases hs with
  | offer => exact .offer
  | accept hn => exact .accept (hl hn)
  | configure hcfg => exact .configure (hl hcfg)
  | configured hm => exact .configured (hl hm)

end

/-- Replacing one peer, recording what it sealed and did, keeps the invariant. -/
theorem SidecarRun.Ok.replace (h : w.Ok mac hc rc s) {p : SidecarParty} (frames : List Bytes)
    (events : List SidecarEvent) (hparty : p.phase.Ok s (w.log ++ events) role p.channel)
    (hframes : ∀ frame ∈ frames, SentFrame mac hc rc s (w.log ++ events) frame)
    (hlog : CausalLog s (w.log ++ events))
    (hconf : (w.party role).phase.Configuring → p.phase.Configuring)
    (hconf' : ∀ c, .configured c ∈ events → role = .supervisor ∧ p.phase.Configuring)
    (hauth : (w.party role).phase.Authenticated → p.phase.Authenticated)
    (hauth' : ∀ b, .activated b ∈ events → role = .runtime ∧ p.phase.Authenticated) :
    ((w.set role p).record frames events).Ok mac hc rc s := by
  have hl : w.log ⊆ w.log ++ events := List.subset_append_left _ _
  refine ⟨?_, ?_, hlog, ?_, ?_⟩
  · intro role'
    by_cases hr : role' = role
    · subst hr
      simpa [record, set] using hparty
    · simpa [record, set, hr] using (h.party role').mono hl
  · intro frame hf
    rcases List.mem_append.mp hf with hf | hf
    · exact (h.frames frame hf).mono hl
    · exact hframes frame hf
  · intro c hc
    have hold : .configured c ∈ w.log → role = .supervisor → p.phase.Configuring := by
      intro hc' hr
      exact hconf (hr ▸ h.configuring c hc')
    by_cases hr : role = .supervisor
    · have hp : p.phase.Configuring := by
        rcases List.mem_append.mp hc with hc | hc
        · exact hold hc hr
        · exact (hconf' c hc).2
      simpa [record, set, hr] using hp
    · rcases List.mem_append.mp hc with hc | hc
      · simpa [record, set, Ne.symm hr] using h.configuring c hc
      · exact absurd (hconf' c hc).1 hr
  · intro b hb
    by_cases hr : role = .runtime
    · have hp : p.phase.Authenticated := by
        rcases List.mem_append.mp hb with hb | hb
        · exact hauth (hr ▸ h.authenticated b hb)
        · exact (hauth' b hb).2
      simpa [record, set, hr] using hp
    · rcases List.mem_append.mp hb with hb | hb
      · simpa [record, set, Ne.symm hr] using h.authenticated b hb
      · exact absurd (hauth' b hb).1 hr

/-- Replacing one peer without anything to record. -/
theorem SidecarRun.Ok.replace_silent (h : w.Ok mac hc rc s) {p : SidecarParty}
    (hparty : p.phase.Ok s w.log role p.channel)
    (hconf : (w.party role).phase.Configuring → p.phase.Configuring)
    (hauth : (w.party role).phase.Authenticated → p.phase.Authenticated) :
    (w.set role p).Ok mac hc rc s := by
  have hr := h.replace [] [] (by simpa using hparty) (by simp)
    (by simpa using h.log) hconf (by simp) hauth (by simp)
  simpa [record] using hr

/-- What a peer authenticates next is what its counterpart sealed under that number. -/
theorem SidecarRun.Ok.opened (h : w.Ok mac hc rc s) (howns : s.Owns role ch)
    (hlive : ch.retired = false) {frame bytes : Bytes} {sequence : UInt64}
    (hideal : w.IdealMac mac s frame)
    (hp : ch.authenticatedPayload mac frame = .ok (sequence, bytes)) :
    ∃ payload, Sent hc rc s w.log role.expectedRemote (ch.receiveSequence.toNat + 1) payload ∧
      payload.failed = false ∧ payload.output = bytes := by
  obtain ⟨-, hroom, hseq, hmac, hbody⟩ := AuthenticatedSidecarChannel.authenticatedPayload_eq_ok hp
  rw [howns.key hlive] at hmac
  obtain ⟨role', payload, minor, sequence', hs, hok, rfl⟩ := h.frames frame (hideal hmac)
  have hbody' : frameBody minor role'.outgoingDirection s.generation sequence'
      (utf8 s.sessionId) payload.output = frameBody ch.protocolMinor
        ch.role.expectedRemote.outgoingDirection ch.generation sequence
        (utf8 ch.sessionId) bytes := by
    rw [← hbody, Mac.length_frame, Nat.add_sub_cancel, Mac.frame, List.take_left]
  obtain ⟨-, hdir, -, rfl, -, rfl⟩ := frameBody_injective
    (by rw [← howns.sessionId]; exact ch.session_valid.2) ch.session_valid.2 hbody'
  have hrole := SidecarPeerRole.outgoingDirection_injective hdir
  rw [howns.role] at hrole
  rw [hseq, toNat_succ hroom, hrole] at hs
  exact ⟨payload, hs, hok, rfl⟩

/-- What sealing does on a channel of the session. -/
theorem SidecarSession.Owns.seal (hc : Codec SidecarHandshakeMessage)
    (rc : Codec SidecarRuntimeMessage) (log : List SidecarEvent) (howns : s.Owns role ch)
    {payload : Serialization} {frame : Bytes} (hs : ch.seal mac payload = .ok (frame, ch'))
    {sent received : Nat} (hn : ch.Counts sent received) :
    s.Owns role ch' ∧ ch'.Counts (sent + 1) received ∧ ch'.instanceId = ch.instanceId ∧
      ch'.protocolMinor = ch.protocolMinor ∧ ch'.maxFrameBytes = ch.maxFrameBytes ∧
      (Sent hc rc s log role (sent + 1) payload → SentFrame mac hc rc s log frame) := by
  obtain ⟨hlive, hroom, hok, -, rfl, rfl⟩ := AuthenticatedSidecarChannel.seal_eq_ok.mp hs
  obtain ⟨rfl, hreceived⟩ := hn
  refine ⟨⟨howns.role, howns.sessionId, howns.generation, howns.key⟩,
    ⟨toNat_succ hroom, hreceived⟩, rfl, rfl, rfl, ?_⟩
  intro hsent
  refine ⟨role, payload, ch.protocolMinor, ch.sendSequence + 1, ?_, hok, ?_⟩
  · rw [toNat_succ hroom]
    exact hsent
  · rw [howns.key hlive, AuthenticatedSidecarChannel.body, howns.role, howns.generation,
      howns.sessionId]

theorem SidecarSession.Owns.received (howns : s.Owns role ch)
    (hroom : ch.receiveSequence.toNat + 1 < 2 ^ 64) {sent received : Nat}
    (hn : ch.Counts sent received) :
    s.Owns role { ch with receiveSequence := ch.receiveSequence + 1 } ∧
      AuthenticatedSidecarChannel.Counts { ch with receiveSequence := ch.receiveSequence + 1 }
        sent (received + 1) := by
  obtain ⟨hsent, rfl⟩ := hn
  exact ⟨⟨howns.role, howns.sessionId, howns.generation, howns.key⟩, hsent, toNat_succ hroom⟩

theorem SidecarSession.Owns.apply (howns : s.Owns role ch) {n : NegotiatedSidecarProtocol}
    (ha : ch.applyNegotiatedProtocol n = .ok ch') {sent received : Nat}
    (hn : ch.Counts sent received) :
    s.Owns role ch' ∧ ch'.Counts sent received ∧ ch'.instanceId = ch.instanceId ∧
      ch'.protocolMinor = n.protocolMinor ∧ ch'.maxFrameBytes = n.limits.maxFrameBytes := by
  obtain ⟨-, -, hf, rfl⟩ := AuthenticatedSidecarChannel.applyNegotiatedProtocol_eq_ok ha
  exact ⟨⟨howns.role, howns.sessionId, howns.generation, howns.key⟩, hn, rfl, rfl, rfl⟩

theorem SidecarSession.Owns.retire (howns : s.Owns role ch) : s.Owns role ch.retire := by
  refine ⟨howns.role, howns.sessionId, howns.generation, ?_⟩
  intro hl
  cases hl

end OpenclawNode.Sidecar
