import OpenclawNode.Sidecar.RunInvariant

/-! Every handshake call keeps the invariant of a two-party run. -/
namespace OpenclawNode.Sidecar

open BigEndian (Bytes)
open BoundedWriter (Codec)
open Transition (System)
open FixedWidth (min_comm_u16)

variable {mac : Mac} {hc : Codec SidecarHandshakeMessage} {rc : Codec SidecarRuntimeMessage}
  {s : SidecarSession} {w w' : SidecarRun} {role : SidecarPeerRole}
  {ch ch' : AuthenticatedSidecarChannel} {h h' : SidecarHandshake}

theorem SidecarRun.Ok.handshake (hok : w.Ok mac hc rc s)
    (hp : w.party role = ⟨ch, .handshake h⟩) :
    h.state = .failed ∨ HandshakeOk s w.log role ch h := by
  have hparty := hok.party role
  rw [hp] at hparty
  exact hparty

/-- A refused call leaves the peer failed and yields nothing. -/
theorem refused_failed {α : Type} {result : Except SidecarHandshakeError α}
    (hok : h.state = .failed ∨ HandshakeOk s w.log role ch h)
    (hr : SidecarHandshake.Refused h ch (result, h', ch')) :
    h'.state = .failed ∧ ∃ error, result = .error error := by
  cases hr with
  | mismatch hb =>
    rcases hok with hf | hok
    · exact ⟨hf, _, rfl⟩
    · exact absurd hok.binds hb
  | failed _ _ _ => exact ⟨rfl, _, rfl⟩

theorem SidecarRun.Ok.handshake_failed (hok : w.Ok mac hc rc s)
    (hp : w.party role = ⟨ch, .handshake h⟩) (hf : h'.state = .failed) :
    (w.set role ⟨ch', .handshake h'⟩).Ok mac hc rc s := by
  refine hok.replace_silent (Or.inl hf) ?_ ?_
  · rw [hp]
    exact fun hc => hc.elim
  · rw [hp]
    exact fun ha => ha.elim

/-- The next state of a handshake that goes on, with the frames and events of the step. -/
theorem SidecarRun.Ok.handshake_advances (hok : w.Ok mac hc rc s)
    (hp : w.party role = ⟨ch, .handshake h⟩) (frames : List Bytes)
    (computed : List NegotiatedSidecarProtocol)
    (hnew : HandshakeOk s (w.log ++ computed.map .computed) role ch' h')
    (hframes : ∀ frame ∈ frames,
      SentFrame mac hc rc s (w.log ++ computed.map .computed) frame)
    (hlog : CausalLog s (w.log ++ computed.map .computed)) :
    ((w.set role ⟨ch', .handshake h'⟩).record frames (computed.map .computed)).Ok mac hc rc s := by
  refine hok.replace _ _ (Or.inr hnew) hframes hlog ?_ ?_ ?_ ?_
  · rw [hp]
    exact fun hc => hc.elim
  · simp
  · rw [hp]
    exact fun ha => ha.elim
  · simp

theorem SidecarRun.Ok.start (hok : w.Ok mac hc rc s) (hp : w.party role = ⟨ch, .handshake h⟩)
    {result : Except SidecarHandshakeError Bytes} (hr : h.start mac hc ch = (result, h', ch')) :
    ((w.set role ⟨ch', .handshake h'⟩).record (sealedFrame result) []).Ok mac hc rc s := by
  have hparty := hok.handshake hp
  rcases h.start_cases mac hc ch with hf | ⟨hb, _, hlocal, hstate, frame, ch₁, hseal, hres⟩
  · rw [hr] at hf
    obtain ⟨hfail, error, rfl⟩ := refused_failed hparty hf
    simpa [sealedFrame] using hok.handshake_failed hp hfail
  · rw [hr] at hres
    cases hres
    rcases hparty with hf | ⟨howns, hoffer, _, hprogress⟩
    · simp [hstate] at hf
    have hrole : role = .supervisor := by
      rw [← s.offer_role role, ← hoffer]
      exact hlocal
    subst hrole
    cases hprogress with
    | starting _ hn =>
      obtain ⟨howns', hn', hid, -, -, hframe⟩ := howns.seal hc rc w.log hseal hn
      refine hok.handshake_advances hp _ [] ?_ ?_ (by simpa using hok.log)
      · exact ⟨howns', hoffer, Or.inr (by rw [hid]; rfl), .awaiting rfl hn'⟩
      · intro f hf
        simp only [sealedFrame, List.mem_singleton] at hf
        subst hf
        simpa using hframe (hoffer ▸ .offer)
    | awaiting hs _ => simp [hstate] at hs
    | confirmed hh _ _ => exact absurd (hstate.symm.trans hh.state) (by decide)

theorem SidecarRun.Ok.receive (hx : ∀ message, hc.Exact message) (hok : w.Ok mac hc rc s)
    (hp : w.party role = ⟨ch, .handshake h⟩) {frame : Bytes} (hideal : w.IdealMac mac s frame)
    {result : Except SidecarHandshakeError (Option Bytes)}
    (hr : h.receive mac hc ch frame = (result, h', ch')) :
    ((w.set role ⟨ch', .handshake h'⟩).record (sealedReply result)
      (if sealedReply result = [] then []
        else h'.pendingNegotiated.toList.map SidecarEvent.computed)).Ok mac hc rc s := by
  have hparty := hok.handshake hp
  rcases h.receive_cases mac hc ch frame with
    hf | ⟨hb, _, hlive, payload, message, reply, h₁, ch₁, hauth, hdec, hmsg, hres⟩
  · rw [hr] at hf
    obtain ⟨hfail, error, rfl⟩ := refused_failed hparty hf
    simpa [sealedReply] using hok.handshake_failed hp hfail
  · rw [hr] at hres
    cases hres
    rcases hparty with hf | ⟨howns, hoffer, _, hprogress⟩
    · rcases SidecarHandshake.receiveMessage_eq_ok hmsg with
        ⟨_, _, _, _, hacc, _⟩ | ⟨_, _, _, _, hconf, _⟩
      · exact absurd (hacc.starting.symm.trans hf) (by decide)
      · exact absurd (hconf.awaiting.symm.trans hf) (by decide)
    have hroom := (AuthenticatedSidecarChannel.authenticatedPayload_eq_ok hauth).2.1
    obtain ⟨sent, hsent, hnf, rfl⟩ := hok.opened howns hlive hideal hauth
    rcases SidecarHandshake.receiveMessage_eq_ok hmsg with
      ⟨offer, n, acceptance, rfl, hacc, rfl, rfl⟩ | ⟨offer, claimed, n, rfl, hconf, rfl, rfl⟩
    · have hrole : role = .runtime := by
        rw [← s.offer_role role, ← hoffer]
        exact hacc.role
      subst hrole
      cases hprogress with
      | starting _ hn =>
        obtain ⟨howns₁, hn₁⟩ := howns.received hroom hn
        rw [hn.2] at hsent
        cases hsent
        have hsame := hx _ hnf
        rw [hdec] at hsame
        cases hsame
        have hneg : negotiateSidecarProtocol (s.offer .runtime) (s.offer .supervisor) = .ok n := by
          rw [← hoffer]
          exact hacc.negotiates
        obtain ⟨howns', hn', hid, -, -, hframe⟩ := howns₁.seal hc rc
          (w.log ++ [.computed n]) hacc.seals hn₁
        refine hok.handshake_advances hp _ [n] ?_ ?_ (hok.log.snoc (.computed hneg))
        · exact ⟨howns', hoffer, Or.inr (by rw [hid]; rfl), .pending rfl hn' rfl hneg⟩
        · intro f hf
          simp only [sealedReply, List.mem_singleton] at hf
          subst hf
          have hoffer' : (h.bound ch).localOffer = s.offer .runtime := hoffer
          exact hframe (hoffer' ▸ .accept (by simp))
      | pending hs _ _ _ => exact absurd (hacc.starting.symm.trans hs) (by decide)
      | completed hh _ => exact absurd (hacc.starting.symm.trans hh.state) (by decide)
    · have hrole : role = .supervisor := by
        rw [← s.offer_role role, ← hoffer]
        exact hconf.role
      subst hrole
      cases hprogress with
      | starting hs _ => exact absurd (hconf.awaiting.symm.trans hs) (by decide)
      | awaiting _ hn =>
        obtain ⟨howns₁, hn₁⟩ := howns.received hroom hn
        rw [hn.2] at hsent
        generalize hr : SidecarPeerRole.supervisor.expectedRemote = remote at hsent
        cases hsent with
        | offer => cases hr
        | @accept m hm =>
          have hsame := hx _ hnf
          rw [hdec] at hsame
          cases hsame
          obtain ⟨howns', hn', hid, hminor, hmax⟩ := howns₁.apply hconf.applies hn₁
          have hneg : negotiateSidecarProtocol (s.offer .supervisor) (s.offer .runtime) =
              .ok n := by
            rw [← hoffer]
            exact hconf.negotiates
          refine hok.handshake_advances hp [] [] ?_ (by simp)
            (by simpa using hok.log)
          refine ⟨howns', hoffer, Or.inr (by rw [hid]; rfl), ?_⟩
          exact .confirmed ⟨rfl, rfl, hneg, hminor, hmax⟩ hn' (by simpa using hm)
      | confirmed hh _ _ => exact absurd (hconf.awaiting.symm.trans hh.state) (by decide)

theorem SidecarRun.Ok.completeAcceptance (hok : w.Ok mac hc rc s)
    (hp : w.party role = ⟨ch, .handshake h⟩) {result : Except SidecarHandshakeError Unit}
    (hr : h.completeAcceptance ch = (result, h', ch')) :
    (w.set role ⟨ch', .handshake h'⟩).Ok mac hc rc s := by
  have hparty := hok.handshake hp
  rcases h.completeAcceptance_cases ch with hf | ⟨hb, hch, _, hstate, n, ch₁, hpend, happ, hres⟩
  · rw [hr] at hf
    exact hok.handshake_failed hp (refused_failed hparty hf).1
  · rw [hr] at hres
    cases hres
    rcases hparty with hf | ⟨howns, hoffer, _, hprogress⟩
    · simp [hstate] at hf
    have hrole : role = .runtime := howns.role.symm.trans hch
    subst hrole
    cases hprogress with
    | starting hs _ => simp [hstate] at hs
    | pending _ hn hpend' hneg =>
      rw [hpend] at hpend'
      cases hpend'
      obtain ⟨howns', hn', hid, hminor, hmax⟩ := howns.apply happ hn
      have hdone : HandshakeOk s w.log .runtime ch' { h.bound ch with
          pendingNegotiated := none, negotiated := some n, state := .authenticated } :=
        ⟨howns', hoffer, Or.inr (by rw [hid]; rfl),
          .completed ⟨rfl, rfl, hneg, hminor, hmax⟩ hn'⟩
      have hnew := hok.handshake_advances hp [] [] (by simpa using hdone) (by simp)
        (by simpa using hok.log)
      simpa using hnew
    | completed hh _ => exact absurd (hstate.symm.trans hh.state) (by decide)

theorem SidecarPhase.Ok.retire {phase : SidecarPhase} {log : List SidecarEvent}
    (hp : phase.Ok s log role ch) : phase.Ok s log role ch.retire := by
  cases phase with
  | handshake h =>
    rcases hp with hf | ⟨howns, hoffer, hbinds, hprogress⟩
    · exact Or.inl hf
    · refine Or.inr ⟨howns.retire, hoffer, hbinds, ?_⟩
      cases hprogress with
      | starting hs hn => exact .starting hs hn
      | awaiting hs hn => exact .awaiting hs hn
      | pending hs hn hpend hneg => exact .pending hs hn hpend hneg
      | confirmed hh hn hm =>
        exact .confirmed ⟨hh.state, hh.negotiated, hh.negotiates, hh.protocolMinor,
          hh.maxFrameBytes⟩ hn hm
      | completed hh hn =>
        exact .completed ⟨hh.state, hh.negotiated, hh.negotiates, hh.protocolMinor,
          hh.maxFrameBytes⟩ hn
  | exchange h e =>
    rcases hp with hf | ⟨howns, hrole, hbound, ⟨n, hh, hsel⟩, hprogress⟩
    · exact Or.inl hf
    · refine Or.inr ⟨howns.retire, hrole, hbound, ⟨n, ⟨hh.state, hh.negotiated, hh.negotiates,
        hh.protocolMinor, hh.maxFrameBytes⟩, hsel⟩, ?_⟩
      cases hprogress with
      | starting hs hn => exact .starting hs hn
      | awaitingConfiguration hs hn => exact .awaitingConfiguration hs hn
      | sent hs hn hk hc => exact .sent hs hn hk hc
      | confirmed hs hn hk hc ha => exact .confirmed hs hn hk hc ha
      | received hs hn hk hv hc => exact .received hs hn hk hv hc
      | acknowledged hs hn hk hv hc ha => exact .acknowledged hs hn hk hv hc ha
      | committed hs hn hk hv hc ha hd => exact .committed hs hn hk hv hc ha hd
  | refused => trivial

theorem ok_handshake_step (hx : ∀ message, hc.Exact message) {a : HandshakeAction}
    (hs : HandshakeStep mac hc s w a w') (hok : w.Ok mac hc rc s) : w'.Ok mac hc rc s := by
  cases hs with
  | start hp hr => exact hok.start hp hr
  | receive hp hideal hr => exact hok.receive hx hp hideal hr
  | completeAcceptance hp hr => exact hok.completeAcceptance hp hr
  | @retire role ch phase hp =>
    have hparty := hok.party role
    rw [hp] at hparty
    refine hok.replace_silent hparty.retire ?_ ?_
    · rw [hp]
      exact id
    · rw [hp]
      exact id

theorem ok_initial (hi : SidecarRun.Initial s w) : w.Ok mac hc rc s := by
  obtain ⟨hparty, hframes, hlog⟩ := hi
  refine ⟨?_, by simp [hframes], by rw [hlog]; exact .nil, by simp [hlog], by simp [hlog]⟩
  intro role
  obtain ⟨ch, h, counter, next, hp, hch, hh⟩ := hparty role
  obtain ⟨-, -, hcreated⟩ := AuthenticatedSidecarChannel.new_eq_ok hch
  simp only [SidecarHandshake.new, Except.bind_eq_ok] at hh
  obtain ⟨-, -, hd⟩ := hh
  cases hd
  rw [hp]
  refine Or.inr ⟨⟨hcreated.role, hcreated.sessionId, hcreated.generation, fun _ => hcreated.key⟩,
    rfl, Or.inl rfl, .starting rfl ⟨?_, ?_⟩⟩
  · rw [hcreated.sendSequence]
    rfl
  · rw [hcreated.receiveSequence]
    rfl

/-- Both peers compute the same selection from the two offers. -/
theorem selection_symm {a b : SidecarProtocolOffer} {n m : NegotiatedSidecarProtocol}
    (hn : negotiateSidecarProtocol a b = .ok n) (hm : negotiateSidecarProtocol b a = .ok m) :
    n.selection = m.selection := by
  rw [negotiate_selection hn, negotiate_selection hm]
  simp only [NegotiatedSidecarProtocol.selection]
  rw [min_comm_u16, UInt64.and_comm, SidecarLimits.meet_comm]

theorem handshake_phase (hw : (handshakeSystem mac hc s).Reachable w) (role : SidecarPeerRole) :
    ∃ ch h, w.party role = ⟨ch, .handshake h⟩ := by
  revert role
  refine hw.invariant (P := fun w => ∀ role, ∃ ch h, w.party role = ⟨ch, .handshake h⟩) ?_ ?_
  · intro w hi role
    obtain ⟨ch, h, _, _, hp, -, -⟩ := hi.1 role
    exact ⟨ch, h, hp⟩
  · intro w a w' hs hphase role
    have hset : ∀ (w : SidecarRun) role' ch h, (∀ role, ∃ ch h, w.party role =
        ⟨ch, .handshake h⟩) → ∃ ch' h', (w.set role' ⟨ch, .handshake h⟩).party role =
        ⟨ch', .handshake h'⟩ := by
      intro w role' ch h hw
      by_cases hr : role = role'
      · exact ⟨ch, h, by simp [SidecarRun.set, hr]⟩
      · obtain ⟨ch', h', hp⟩ := hw role
        exact ⟨ch', h', by simp [SidecarRun.set, hr, hp]⟩
    cases hs with
    | start _ _ => exact hset _ _ _ _ hphase
    | receive _ _ _ => exact hset _ _ _ _ hphase
    | completeAcceptance _ _ => exact hset _ _ _ _ hphase
    | @retire role' ch phase hp =>
      obtain ⟨ch', h', hp'⟩ := hphase role'
      rw [hp] at hp'
      cases hp'
      exact hset _ _ _ _ hphase

theorem ok_handshake_reachable (hx : ∀ message, hc.Exact message)
    (hw : (handshakeSystem mac hc s).Reachable w) : w.Ok mac hc rc s :=
  hw.invariant (fun _ hi => ok_initial hi) (fun _ _ _ hs hok => ok_handshake_step hx hs hok)

theorem HandshakeProgress.authenticated {log : List SidecarEvent}
    (hp : HandshakeProgress s log role ch h) (ha : h.state = .authenticated) :
    ∃ n, s.Holds role ch h n ∧ ch.Counts 1 1 ∧
      (role = .supervisor → ∃ m, .computed m ∈ log) := by
  cases hp with
  | starting hs _ => simp [ha] at hs
  | awaiting hs _ => simp [ha] at hs
  | pending hs _ _ _ => simp [ha] at hs
  | confirmed hh hn hm => exact ⟨_, hh, hn, fun _ => ⟨_, hm⟩⟩
  | completed hh hn =>
    refine ⟨_, hh, hn, ?_⟩
    intro hr
    cases hr

end OpenclawNode.Sidecar
