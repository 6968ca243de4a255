import OpenclawNode.Sidecar.StatusBudget

/-! When a channel carries one configuration, it activates one bridge. -/
namespace OpenclawNode.Sidecar

open BoundedWriter (Codec)
open Transition (System)

variable {mac : Mac} {hc : Codec SidecarHandshakeMessage} {rc : Codec SidecarRuntimeMessage}
  {ch ch' : AuthenticatedSidecarChannel} {w w' : SidecarProcess}

/-- An exchange that waits for a configuration is given a frame on its own live channel only while
no other exchange has locked the frame limit there. -/
def ProcessAction.FirstConfiguration (w : SidecarProcess) : ProcessAction → Prop
  | .exchange k i (.receive _) => ∀ e ch, w.exchange k = some e → w.channel i = some ch →
      ch.instanceId = e.channelInstanceId → ch.retired = false → e.state = .awaitingConfiguration →
      ch.frameLimitLocked = false
  | _ => True

/-- The runs in which every channel is configured at most once. -/
def configuredOnceSystem (mac : Mac) (hc : Codec SidecarHandshakeMessage)
    (rc : Codec SidecarRuntimeMessage) : System SidecarProcess ProcessAction where
  Initial := (processSystem mac hc rc).Initial
  Step w a w' := ProcessStep mac hc rc w a w' ∧ a.FirstConfiguration w

/-- The exchange of a runtime that has kept a configuration and has not failed since. -/
def SidecarConfigurationExchange.Begun (e : SidecarConfigurationExchange) : Prop :=
  e.role = .runtime ∧ (e.Validated ∨ e.state = .activated)

/-- A call leaves an exchange begun only if it was so before, or if it waited and now keeps the
configuration it received. -/
theorem exchange_call_begun {e e' : SidecarConfigurationExchange}
    {a : SidecarConfigurationExchange.Call} {result : Except SidecarConfigurationError Unit}
    (hres : e.call mac rc a ch = (result, e', ch')) (hb : e'.Begun) :
    (e.Begun ∧ (e.state = .activated → e'.state = .activated)) ∨
      (ch.instanceId = e.channelInstanceId ∧ ch.retired = false ∧ ch'.frameLimitLocked = true ∧
        e.state = .awaitingConfiguration ∧ ∃ frame, a = .receive frame) := by
  have hrefused : ∀ {α : Type} {r : Except SidecarConfigurationError α ×
      SidecarConfigurationExchange × AuthenticatedSidecarChannel},
      SidecarConfigurationExchange.Refused e ch r → ended r = (result, e', ch') →
      e.Begun ∧ (e.state = .activated → e'.state = .activated) := by
    intro α r hr he
    have he' : r.2.1 = e' := congrArg (fun r => r.2.1) he
    subst he'
    cases hr with
    | mismatch _ => exact ⟨hb, fun hs => hs⟩
    | failed _ _ _ =>
      rcases hb with ⟨-, hv | hs⟩
      · simp [SidecarConfigurationExchange.Validated, SidecarConfigurationExchange.failed] at hv
      · cases hs
  cases a with
  | start c =>
    rcases e.start_cases mac rc ch c with hr | ⟨_, hrole, _, _, _, frame, sealed, _, hok⟩
    · exact Or.inl (hrefused hr hres)
    · rw [SidecarConfigurationExchange.call, hok] at hres
      cases hres
      have hrole' : e.role = .runtime := hb.1
      rw [hrole] at hrole'
      cases hrole'
  | receive frame =>
    rcases e.receive_cases mac rc ch frame with
      hr | ⟨hbound, _, hlive, payload, message, received, e₁, _, _, hm, hok⟩
    · exact Or.inl (hrefused hr hres)
    · rw [SidecarConfigurationExchange.call, hok] at hres
      cases hres
      rcases SidecarConfigurationExchange.receiveMessage_eq_ok hm with
        ⟨_, hs, c, _, _, _, rfl⟩ | ⟨hrole, _, _, _, _, _, rfl⟩
      · exact Or.inr ⟨hbound, hlive, rfl, hs, frame, rfl⟩
      · have hrole' : e.role = .runtime := hb.1
        rw [hrole] at hrole'
        cases hrole'
  | acknowledge manifest =>
    rcases e.acknowledge_cases mac rc ch manifest with
      hr | ⟨_, hrole, _, hs, _, frame, sealed, _, hok⟩
    · exact Or.inl (hrefused hr hres)
    · refine Or.inl ⟨⟨hrole, Or.inl (Or.inl hs)⟩, fun ha => ?_⟩
      rw [hs] at ha
      cases ha
  | completeAcknowledgement =>
    rcases e.completeAcknowledgement_cases ch with hr | ⟨_, hrole, _, hs, hok⟩
    · exact Or.inl (hrefused hr hres)
    · refine Or.inl ⟨⟨hrole, Or.inl (Or.inr (Or.inl hs))⟩, fun ha => ?_⟩
      rw [hs] at ha
      cases ha

/-- At most one exchange has begun on each channel, which it has locked; where a bridge has been
activated it is that one. -/
structure SidecarProcess.Single (w : SidecarProcess) : Prop where
  locked : ∀ k e, w.exchange k = some e → e.Begun →
    ∃ ch, w.channel e.channelInstanceId = some ch ∧ ch.frameLimitLocked = true
  unique : ∀ j k d e, w.exchange j = some d → w.exchange k = some e → d.Begun → e.Begun →
    d.channelInstanceId = e.channelInstanceId → j = k
  bridged : ∀ i ∈ w.bridges.map Prod.fst, (∃ ch, w.channel i = some ch ∧
    ch.frameLimitLocked = true) ∧
      ∀ k e, w.exchange k = some e → e.Begun → e.channelInstanceId = i → e.state = .activated
  nodup : (w.bridges.map Prod.fst).Nodup

/-- A step after which no more has begun, and no bridge has been added. -/
theorem SidecarProcess.Single.quiet (h : w.Single)
    (hf : ∀ i ch, w.channel i = some ch → ∃ ch', w'.channel i = some ch' ∧ ch.Follows ch')
    (hex : ∀ k e, w'.exchange k = some e → e.Begun → ∃ d, w.exchange k = some d ∧ d.Begun ∧
      d.channelInstanceId = e.channelInstanceId ∧ (d.state = .activated → e.state = .activated))
    (hbridges : w'.bridges.map Prod.fst = w.bridges.map Prod.fst) : w'.Single := by
  have hlocked : ∀ {i}, (∃ ch, w.channel i = some ch ∧ ch.frameLimitLocked = true) →
      ∃ ch, w'.channel i = some ch ∧ ch.frameLimitLocked = true := by
    rintro i ⟨ch, hch, hl⟩
    obtain ⟨ch', hch', hfollows⟩ := hf i ch hch
    exact ⟨ch', hch', (hfollows.frozen hl).1⟩
  constructor
  case locked =>
    intro k e he hb
    obtain ⟨d, hd, hb', hid, -⟩ := hex k e he hb
    rw [← hid]
    exact hlocked (h.locked k d hd hb')
  case unique =>
    intro j k d e hd he hb hb' hid
    obtain ⟨d₀, hd₀, hbd, hidd, -⟩ := hex j d hd hb
    obtain ⟨e₀, he₀, hbe, hide, -⟩ := hex k e he hb'
    exact h.unique j k d₀ e₀ hd₀ he₀ hbd hbe (by rw [hidd, hide, hid])
  case bridged =>
    rw [hbridges]
    intro i hi
    obtain ⟨hl, hall⟩ := h.bridged i hi
    refine ⟨hlocked hl, ?_⟩
    intro k e he hb hid
    obtain ⟨d, hd, hb', hid', hact⟩ := hex k e he hb
    exact hact (hall k d hd hb' (hid'.trans hid))
  case nodup =>
    rw [hbridges]
    exact h.nodup

/-- An exchange replaced by one that has not begun more than it had. -/
theorem begun_update {exchange : Nat → Option SidecarConfigurationExchange} {k : Nat}
    {e e' : SidecarConfigurationExchange} (he : exchange k = some e)
    (hid : e'.channelInstanceId = e.channelInstanceId)
    (hb : e'.Begun → e.Begun ∧ (e.state = .activated → e'.state = .activated)) :
    ∀ j d, Function.update exchange k (some e') j = some d → d.Begun →
      ∃ d₀, exchange j = some d₀ ∧ d₀.Begun ∧ d₀.channelInstanceId = d.channelInstanceId ∧
        (d₀.state = .activated → d.state = .activated) := by
  intro j d hd hbd
  by_cases hj : j = k
  · subst hj
    rw [Function.update_self] at hd
    cases hd
    exact ⟨e, he, (hb hbd).1, hid.symm, (hb hbd).2⟩
  · rw [Function.update_of_ne hj] at hd
    exact ⟨d, hd, hbd, rfl, fun hs => hs⟩

/-- The first configuration of a channel begins an exchange where none had begun. -/
theorem SidecarProcess.Single.begins {k : Nat} {i : UInt64} {e' : SidecarConfigurationExchange}
    (h : w.Single) (hi : w.channel i = some ch) (hlock : ch.frameLimitLocked = false)
    (hid : e'.channelInstanceId = i) (hlock' : ch'.frameLimitLocked = true) :
    ((w.setExchange k e').setChannel i ch').Single := by
  have hnone : ∀ j d, w.exchange j = some d → d.Begun → d.channelInstanceId ≠ i := by
    rintro j d hd hb rfl
    obtain ⟨ch₀, hch₀, hl⟩ := h.locked j d hd hb
    rw [hi] at hch₀
    cases hch₀
    rw [hlock] at hl
    cases hl
  have hother : ∀ j d, (w.setExchange k e').exchange j = some d → d.Begun → j = k ∧ d = e' ∨
      j ≠ k ∧ w.exchange j = some d ∧ d.channelInstanceId ≠ i := by
    intro j d hd hb
    by_cases hj : j = k
    · subst hj
      rw [SidecarProcess.setExchange_self] at hd
      exact Or.inl ⟨rfl, (Option.some.inj hd).symm⟩
    · rw [SidecarProcess.setExchange_ne _ _ hj] at hd
      exact Or.inr ⟨hj, hd, hnone j d hd hb⟩
  have hkept : ∀ j, j ≠ i → ((w.setExchange k e').setChannel i ch').channel j = w.channel j :=
    fun j hj => Function.update_of_ne hj _ _
  constructor
  case locked =>
    intro j d hd hb
    rcases hother j d hd hb with ⟨-, rfl⟩ | ⟨-, hd, hne⟩
    · exact ⟨ch', by rw [hid, SidecarProcess.setChannel_self], hlock'⟩
    · obtain ⟨ch₀, hch₀, hl⟩ := h.locked j d hd hb
      exact ⟨ch₀, (hkept _ hne).trans hch₀, hl⟩
  case unique =>
    intro j j' d d' hd hd' hb hb' hsame
    rcases hother j d hd hb with ⟨rfl, rfl⟩ | ⟨-, hd, hne⟩ <;>
      rcases hother j' d' hd' hb' with ⟨rfl, rfl⟩ | ⟨-, hd', hne'⟩
    · rfl
    · exact absurd (hsame.symm.trans hid) hne'
    · exact absurd (hsame.trans hid) hne
    · exact h.unique j j' d d' hd hd' hb hb' hsame
  case bridged =>
    intro j hj
    obtain ⟨⟨ch₀, hch₀, hl⟩, hall⟩ := h.bridged j hj
    have hne : j ≠ i := by
      rintro rfl
      rw [hi] at hch₀
      cases hch₀
      rw [hlock] at hl
      cases hl
    refine ⟨⟨ch₀, (hkept j hne).trans hch₀, hl⟩, ?_⟩
    intro k' d hd hb hdj
    rcases hother k' d hd hb with ⟨-, rfl⟩ | ⟨-, hd, -⟩
    · exact absurd (hdj.symm.trans hid) hne
    · exact hall k' d hd hb hdj
  case nodup => exact h.nodup

/-- An activation adds the bridge of the one exchange that has begun on its channel. -/
theorem SidecarProcess.Single.activates {k : Nat} {i : UInt64} {e : SidecarConfigurationExchange}
    (h : w.Single) (he : w.exchange k = some e) (hb : e.Begun) (hs : e.state ≠ .activated)
    (hi : w.channel i = some ch) (hid : e.channelInstanceId = i) (b : SidecarRuntimeBridge) :
    (((w.setExchange k { e with state := .activated }).setChannel i ch).activated i
      (.ok b : Except SidecarRuntimeBridgeError SidecarRuntimeBridge)).Single := by
  have hchannel : ∀ j ch₀, w.channel j = some ch₀ → ∃ ch',
      (((w.setExchange k { e with state := .activated }).setChannel i ch).channel j = some ch') ∧
        ch₀.Follows ch' := by
    intro j ch₀ hch₀
    by_cases hj : j = i
    · subst hj
      rw [hi] at hch₀
      cases hch₀
      exact ⟨ch, SidecarProcess.setChannel_self _ _ _, .refl ch⟩
    · exact ⟨ch₀, (Function.update_of_ne hj _ _).trans hch₀, .refl ch₀⟩
  have hsame : ({ e with state := .activated } : SidecarConfigurationExchange).channelInstanceId =
      e.channelInstanceId := rfl
  have hexchange := begun_update he hsame fun _ => ⟨hb, fun _ => rfl⟩
  have hquiet : ((w.setExchange k { e with state := .activated }).setChannel i ch).Single :=
    h.quiet hchannel hexchange rfl
  have hfresh : i ∉ w.bridges.map Prod.fst := fun hm =>
    hs ((h.bridged i hm).2 k e he hb hid)
  refine ⟨hquiet.locked, hquiet.unique, ?_, ?_⟩
  · intro j hj
    have hj : j ∈ w.bridges.map Prod.fst ∨ j = i := by
      simpa [SidecarProcess.activated, SidecarProcess.setExchange, SidecarProcess.setChannel]
        using hj
    rcases hj with hj | rfl
    · exact hquiet.bridged j hj
    · refine ⟨?_, ?_⟩
      · have hl := hquiet.locked k { e with state := .activated }
          (SidecarProcess.setExchange_self w k _) ⟨hb.1, Or.inr rfl⟩
        subst hid
        exact hl
      · intro k' d hd hbd hdj
        have hk : k' = k := hquiet.unique k' k d { e with state := .activated } hd
          (SidecarProcess.setExchange_self w k _) hbd ⟨hb.1, Or.inr rfl⟩ (hdj.trans hid.symm)
        subst hk
        have hd' : some { e with state := .activated } = some d :=
          (SidecarProcess.setExchange_self w k' _).symm.trans hd
        cases hd'
        rfl
  · show ((w.bridges ++ [(i, b)]).map Prod.fst).Nodup
    rw [List.map_append, List.map_singleton, ← List.concat_eq_append]
    exact h.nodup.concat hfresh

theorem single_step {a : ProcessAction} (hn : ∀ i ch, w.channel i = some ch → ch.instanceId = i)
    (hs : (configuredOnceSystem mac hc rc).Step w a w') (h : w.Single) : w'.Single := by
  obtain ⟨hs, hfirst⟩ := hs
  have hf : ∀ i ch, w.channel i = some ch → ∃ ch', w'.channel i = some ch' ∧ ch.Follows ch' :=
    fun i ch hch => ProcessStep.follows hs hch
  have hsame : ∀ k e, w.exchange k = some e → e.Begun → ∃ d, w.exchange k = some d ∧ d.Begun ∧
      d.channelInstanceId = e.channelInstanceId ∧ (d.state = .activated → e.state = .activated) :=
    fun k e he hb => ⟨e, he, hb, rfl, fun hs => hs⟩
  cases hs with
  | createChannel _ _ => exact h.quiet hf hsame rfl
  | newHandshake _ _ => exact h.quiet hf hsame rfl
  | handshake _ _ _ => exact h.quiet hf hsame rfl
  | @newExchange k j handshake e _ _ hnew =>
    refine h.quiet hf ?_ rfl
    intro j' d hd hb
    by_cases hj : j' = j
    · subst hj
      rw [SidecarProcess.setExchange_self] at hd
      cases hd
      obtain ⟨_, _, _, _, _, rfl⟩ := SidecarConfigurationExchange.new_eq_ok hnew
      obtain ⟨hrole, hb⟩ := hb
      simp only at hrole
      simp [SidecarConfigurationExchange.Validated, hrole] at hb
    · rw [SidecarProcess.setExchange_ne _ _ hj] at hd
      exact hsame j' d hd hb
  | newExchangeFailed _ _ => exact h.quiet hf hsame rfl
  | @exchange k i a e ch result e' ch' he hch hres =>
    by_cases hb : e'.Begun
    · rcases exchange_call_begun hres hb with hbegun | ⟨hid, hlive, hlock', hwaits, frame, rfl⟩
      · exact h.quiet hf (begun_update he (exchange_call_reserves hres).1 fun _ => hbegun) rfl
      · have hlock := hfirst e ch he hch hid hlive hwaits
        refine h.begins hch hlock ?_ hlock'
        rw [(exchange_call_reserves hres).1, ← hid, hn i ch hch]
    · exact h.quiet hf (begun_update he (exchange_call_reserves hres).1 fun hb' => absurd hb' hb) rfl
  | @activate k i e ch result e' ch' he hch hres =>
    obtain ⟨hid, -, -⟩ := activate_keeps hres
    rcases SidecarRuntimeBridge.activate_cases e ch with
      ⟨_, ha⟩ | ⟨_, _, ha⟩ | ⟨_, _, _, ha⟩ | ⟨hbound, _, hrole, b, hok, ha⟩ <;> rw [hres] at ha <;>
      cases ha
    · exact h.quiet hf (begun_update he hid fun hb => ⟨hb, fun hs => hs⟩) rfl
    · refine h.quiet hf (begun_update he hid fun hb => ?_) rfl
      rcases hb with ⟨-, hv | hs⟩
      · simp [SidecarConfigurationExchange.Validated, SidecarConfigurationExchange.failed] at hv
      · cases hs
    · exact h.quiet hf (begun_update he hid fun hb => ⟨hb, fun hs => hs⟩) rfl
    · obtain ⟨_, _, _, hstate, _⟩ := SidecarRuntimeBridge.activateConfigured_eq_ok hok
      refine h.activates he ⟨hrole, Or.inl (Or.inr (Or.inr hstate))⟩ ?_ ?_ ?_ b
      · rw [hstate]
        decide
      · exact hch
      · rw [← hbound, hn i ch hch]
  | use _ _ => exact h.quiet hf hsame rfl
  | @observe n i b event hget =>
    refine h.quiet hf hsame ?_
    obtain ⟨hlt, hget⟩ := List.getElem?_eq_some_iff.mp hget
    have hsame : (w.bridges.map Prod.fst).set n i = w.bridges.map Prod.fst := by
      have hbound : n < (w.bridges.map Prod.fst).length := by simpa using hlt
      have hi : i = (w.bridges.map Prod.fst)[n] := by simp [hget]
      rw [hi, List.set_getElem_self]
    simpa [List.map_set] using hsame

theorem configuredOnce_reachable (hw : (configuredOnceSystem mac hc rc).Reachable w) :
    (processSystem mac hc rc).Reachable w :=
  System.Reachable.mono (S := configuredOnceSystem mac hc rc) (fun _ hi => hi)
    (fun _ a _ hs => ⟨a, hs.1⟩) hw

theorem single_reachable (hw : (configuredOnceSystem mac hc rc).Reachable w) : w.Single := by
  refine hw.invariant_of_reachable (P := fun w => w.Single) ?_
    (fun w a w' hr hs h => single_step (process_named (configuredOnce_reachable hr)) hs h)
  rintro w rfl
  constructor
  · intro _ _ he
    cases he
  · intro _ _ _ _ hd
    cases hd
  · intro _ hi
    cases hi
  · exact List.nodup_nil

/-- One activation per channel: in every run in which a waiting exchange is given a frame on its own
live channel only while no other exchange has locked that, at most one bridge is activated for each
channel. -/
theorem single_activation (mac : Mac) (hc : Codec SidecarHandshakeMessage)
    (rc : Codec SidecarRuntimeMessage) (w : SidecarProcess)
    (hw : (configuredOnceSystem mac hc rc).Reachable w) (i : UInt64) :
    (w.bridges.map Prod.fst).count i ≤ 1 :=
  List.nodup_iff_count_le_one.mp (single_reachable hw).nodup i

theorem configuredOnce_serves : Serves mac hc rc (configuredOnceSystem mac hc rc) := by
  intro w a w' ha hs
  refine ⟨hs, ?_⟩
  rcases a with _ | _ | _ | _ | ⟨k, i, _ | _ | _ | _⟩ | _ | _ | _ <;>
    first | trivial | exact absurd trivial ha

/-- Of two exchanges that wait on the vector's channel the first is configured and activated. -/
theorem vector_single : ∃ w e,
    (configuredOnceSystem vectorMac vectorCodec vectorWireCodec).Reachable w ∧
    w.bridges.map Prod.fst = [2] ∧ w.exchange 1 = some e ∧ e.state = .awaitingConfiguration ∧
    (w.bridges.map Prod.fst).count 2 ≤ 1 := by
  obtain ⟨w, ch, hw, hk, hk', hi, hch, hb⟩ := vector_waits (S := configuredOnceSystem vectorMac
    vectorCodec vectorWireCodec) rfl configuredOnce_serves
  obtain ⟨e, ch', b, hrun, -⟩ := vector_activates configuredOnce_serves (fun frame w' hs => by
    refine ⟨hs, fun e₁ ch₁ _ hch₁ _ _ _ => ?_⟩
    rw [hi] at hch₁
    cases hch₁
    exact hch.locked) hk hi hch (by decide)
  refine ⟨_, _, hw.run hrun, ?_, hk', rfl, single_activation vectorMac vectorCodec vectorWireCodec _
    (hw.run hrun) 2⟩
  show (w.bridges ++ [(2, b)]).map Prod.fst = [2]
  rw [hb]
  rfl

/-- Without that, two handshakes authenticated on one channel lead to two bridges. -/
theorem channel_activated_twice :
    ¬ ∀ (mac : Mac) (hc : Codec SidecarHandshakeMessage) (rc : Codec SidecarRuntimeMessage)
      (w : SidecarProcess), (processSystem mac hc rc).Reachable w →
      ∀ i, (w.bridges.map Prod.fst).count i ≤ 1 := by
  intro h
  obtain ⟨w, hw, hb⟩ := vector_bridges
  have hcount := h vectorMac vectorCodec vectorWireCodec w hw 2
  rw [hb] at hcount
  exact absurd hcount (by decide)

end OpenclawNode.Sidecar
