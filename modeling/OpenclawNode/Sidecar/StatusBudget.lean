import OpenclawNode.Base.JsonSize
import OpenclawNode.Sidecar.ProcessProgress

/-! The status budget that configuration reserves covers every status a bridge ever reports. -/
namespace OpenclawNode.Sidecar

open BigEndian (Bytes)
open BoundedWriter (Codec)
open Json (string nat optional length_object_cons)
open Node (LifecycleEvent)
open Transition (System)

section

variable {formatDouble : Json.Double → String} {deserialize : Bytes → Option SidecarRuntimeMessage}

theorem length_state (state : SidecarRuntimeState) :
    (string state.name).output.length ≤ (string SidecarRuntimeState.backingOff.name).output.length := by
  cases state <;> decide

theorem length_reason (reason : Option SidecarRuntimeReason) :
    (optional (string ·.name) reason).output.length ≤
      (string SidecarRuntimeReason.deliverySaturated.name).output.length := by
  cases reason with
  | none => decide
  | some reason => cases reason <;> decide

theorem failed_reason (reason : Option SidecarRuntimeReason) :
    (optional (string ·.name) reason).failed = false := by
  cases reason with
  | none => rfl
  | some reason => exact Json.failed_string _

/-- No portable attempt is longer than the largest one. -/
theorem length_attempt {attempt : UInt64} (h : attempt ≤ maxPortableJsonInteger) :
    (serializePortableU64 attempt).output.length ≤
      (serializePortableU64 maxPortableJsonInteger).output.length := by
  have hlast : (serializePortableU64 maxPortableJsonInteger).output.length = 16 := by decide
  have hlt : ¬ maxPortableJsonInteger < attempt := UInt64.not_lt.mpr h
  have hbound : attempt.toNat < 10 ^ 16 :=
    lt_of_le_of_lt (UInt64.le_iff_toNat_le.mp h) (by decide)
  rw [hlast, serializePortableU64, if_neg hlt]
  exact Json.length_nat_le (by decide) hbound

theorem failed_status (status : SidecarRuntimeStatus) :
    status.serialize.failed = false ↔
      status.manifestGeneration ≤ maxPortableJsonInteger ∧
        status.attempt ≤ maxPortableJsonInteger := by
  rw [SidecarRuntimeStatus.serialize, Json.failed_object, ← failed_serializePortableU64,
    ← failed_serializePortableU64]
  simp [failed_reason]

/-- The worst case is the longest status of its generation and version. -/
theorem length_status {status : SidecarRuntimeStatus}
    (hg : status.manifestGeneration ≤ maxPortableJsonInteger)
    (ha : status.attempt ≤ maxPortableJsonInteger) :
    status.serialize.output.length ≤ (SidecarRuntimeStatus.serialize {
      state := .backingOff
      manifestGeneration := status.manifestGeneration
      runtimeVersion := status.runtimeVersion
      attempt := maxPortableJsonInteger
      reason := some .deliverySaturated }).output.length := by
  have hstate := length_state status.state
  have hattempt := length_attempt ha
  have hreason := length_reason status.reason
  have hf := (failed_status status).mpr ⟨hg, ha⟩
  have hf' := (failed_status {
    state := .backingOff
    manifestGeneration := status.manifestGeneration
    runtimeVersion := status.runtimeVersion
    attempt := maxPortableJsonInteger
    reason := some .deliverySaturated }).mpr ⟨hg, UInt64.le_refl _⟩
  rw [SidecarRuntimeStatus.serialize, Json.failed_object] at hf hf'
  rw [SidecarRuntimeStatus.serialize, SidecarRuntimeStatus.serialize,
    length_object_cons (by simpa using hf), length_object_cons (by simpa using hf')]
  simp only [List.map_cons, List.map_nil, List.sum_cons, List.sum_nil]
  have hworst : optional (string ·.name) (some SidecarRuntimeReason.deliverySaturated) =
      string SidecarRuntimeReason.deliverySaturated.name := rfl
  rw [hworst]
  omega

/-- A status of the budgeted generation and version is written in full and fits. -/
theorem status_within {status : SidecarRuntimeStatus} {limit : Nat}
    (ha : status.attempt ≤ maxPortableJsonInteger)
    (hb : validateStatusBudget (runtimeCodec formatDouble deserialize) status.runtimeVersion
      status.manifestGeneration limit = .ok ()) :
    status.manifestGeneration ≤ maxPortableJsonInteger ∧
      (SidecarRuntimeMessage.serialize formatDouble (.status status)).failed = false ∧
      (SidecarRuntimeMessage.serialize formatDouble (.status status)).output.length ≤ limit := by
  rw [validateStatusBudget, Except.ensure_eq_ok, runtimeMessageWithinLimit_iff] at hb
  obtain ⟨hworst, hlimit⟩ := hb
  simp only [runtimeCodec, SidecarRuntimeMessage.serialize] at hworst hlimit ⊢
  have hfailed : ∀ status : SidecarRuntimeStatus,
      (Json.object [("type", string "status"), ("status", status.serialize)]).failed =
        status.serialize.failed := by
    intro status
    simp [Json.failed_object]
  rw [hfailed] at hworst ⊢
  have hg : status.manifestGeneration ≤ maxPortableJsonInteger := ((failed_status _).mp hworst).1
  have hf := (failed_status status).mpr ⟨hg, ha⟩
  have hlen := @length_status status hg ha
  rw [length_object_cons (by simpa using hworst)] at hlimit
  refine ⟨hg, hf, ?_⟩
  rw [length_object_cons (by simpa using hf)]
  simp only [List.map_cons, List.map_nil, List.sum_cons, List.sum_nil] at hlimit ⊢
  omega

end

variable {mac : Mac} {hc : Codec SidecarHandshakeMessage} {rc : Codec SidecarRuntimeMessage}
  {ch ch' : AuthenticatedSidecarChannel} {w w' : SidecarProcess}

/-- The ceiling of the channel is fixed, with room for every status of the generation and the
version. -/
structure AuthenticatedSidecarChannel.Reserves (rc : Codec SidecarRuntimeMessage)
    (ch : AuthenticatedSidecarChannel) (manifestGeneration : UInt64) (runtimeVersion : String) :
    Prop where
  locked : ch.frameLimitLocked = true
  fits : validateStatusBudget rc runtimeVersion manifestGeneration ch.maxPayloadBytes = .ok ()

theorem AuthenticatedSidecarChannel.Follows.maxPayloadBytes (h : ch.Follows ch')
    (hl : ch.frameLimitLocked = true) : ch'.maxPayloadBytes = ch.maxPayloadBytes := by
  rw [AuthenticatedSidecarChannel.maxPayloadBytes, (h.frozen hl).2, h.sessionId]
  rfl

theorem AuthenticatedSidecarChannel.Reserves.follows {manifestGeneration : UInt64}
    {runtimeVersion : String} (h : ch.Reserves rc manifestGeneration runtimeVersion)
    (hf : ch.Follows ch') : ch'.Reserves rc manifestGeneration runtimeVersion where
  locked := (hf.frozen h.locked).1
  fits := by
    rw [hf.maxPayloadBytes h.locked]
    exact h.fits

/-- A call keeps what the exchange is bound to, and a configuration that it adds is reserved for. -/
theorem exchange_call_reserves {e e' : SidecarConfigurationExchange}
    {a : SidecarConfigurationExchange.Call} {result : Except SidecarConfigurationError Unit}
    (hres : e.call mac rc a ch = (result, e', ch')) :
    e'.channelInstanceId = e.channelInstanceId ∧ e'.runtimeVersion = e.runtimeVersion ∧
      ∀ c, e'.configuration = some c → e.configuration = some c ∨
        (ch.instanceId = e.channelInstanceId ∧
          ch'.Reserves rc c.manifestGeneration e.runtimeVersion) := by
  have hrefused : ∀ {α : Type} {r : Except SidecarConfigurationError α ×
      SidecarConfigurationExchange × AuthenticatedSidecarChannel},
      SidecarConfigurationExchange.Refused e ch r → ended r = (result, e', ch') →
      e'.channelInstanceId = e.channelInstanceId ∧ e'.runtimeVersion = e.runtimeVersion ∧
        ∀ c, e'.configuration = some c → e.configuration = some c := by
    intro α r hr he
    have he' : r.2.1 = e' := congrArg (fun r => r.2.1) he
    subst he'
    cases hr with
    | mismatch _ => exact ⟨rfl, rfl, fun c hc => hc⟩
    | failed _ _ _ => exact ⟨rfl, rfl, fun c hc => nomatch hc⟩
  have hreserves : ∀ {c : SidecarRuntimeConfiguration} {ch ch' : AuthenticatedSidecarChannel},
      e.validate rc c ch = .ok () → ch.frameLimitLocked = true → ch.Follows ch' →
      ch'.Reserves rc c.manifestGeneration e.runtimeVersion := by
    intro c ch ch' hv hl hf
    rw [SidecarConfigurationExchange.validate, Except.bind_eq_ok] at hv
    obtain ⟨_, -, hb⟩ := hv
    exact AuthenticatedSidecarChannel.Reserves.follows ⟨hl, hb⟩ hf
  cases a with
  | start c =>
    rcases e.start_cases mac rc ch c with hr | ⟨hb, _, _, _, hv, frame, sealed, hs, hok⟩
    · obtain ⟨hid, hversion, hkeep⟩ := hrefused hr hres
      exact ⟨hid, hversion, fun c hc => Or.inl (hkeep c hc)⟩
    · rw [SidecarConfigurationExchange.call, hok] at hres
      cases hres
      refine ⟨rfl, rfl, ?_⟩
      intro c' hc'
      cases hc'
      exact Or.inr ⟨hb, hreserves hv rfl (AuthenticatedSidecarChannel.follows_seal hs)⟩
  | receive frame =>
    rcases e.receive_cases mac rc ch frame with
      hr | ⟨hb, _, _, payload, message, received, e₁, _, _, hm, hok⟩
    · obtain ⟨hid, hversion, hkeep⟩ := hrefused hr hres
      exact ⟨hid, hversion, fun c hc => Or.inl (hkeep c hc)⟩
    · rw [SidecarConfigurationExchange.call, hok] at hres
      cases hres
      rcases SidecarConfigurationExchange.receiveMessage_eq_ok hm with
        ⟨_, _, c, _, hv, _, rfl⟩ | ⟨_, _, _, _, _, _, rfl⟩
      · refine ⟨rfl, rfl, ?_⟩
        intro c' hc'
        cases hc'
        exact Or.inr ⟨hb, hreserves hv rfl (.refl _)⟩
      · exact ⟨rfl, rfl, fun c hc => Or.inl hc⟩
  | acknowledge manifest =>
    rcases e.acknowledge_cases mac rc ch manifest with hr | ⟨_, _, _, _, _, frame, sealed, _, hok⟩
    · obtain ⟨hid, hversion, hkeep⟩ := hrefused hr hres
      exact ⟨hid, hversion, fun c hc => Or.inl (hkeep c hc)⟩
    · rw [SidecarConfigurationExchange.call, hok] at hres
      cases hres
      exact ⟨rfl, rfl, fun c hc => Or.inl hc⟩
  | completeAcknowledgement =>
    rcases e.completeAcknowledgement_cases ch with hr | ⟨_, _, _, _, hok⟩
    · obtain ⟨hid, hversion, hkeep⟩ := hrefused hr hres
      exact ⟨hid, hversion, fun c hc => Or.inl (hkeep c hc)⟩
    · rw [SidecarConfigurationExchange.call, hok] at hres
      cases hres
      exact ⟨rfl, rfl, fun c hc => Or.inl hc⟩

/-- What is reserved on the channels, for what the exchanges keep and the bridges report. -/
structure SidecarProcess.Budgeted (rc : Codec SidecarRuntimeMessage) (w : SidecarProcess) :
    Prop where
  exchanges : ∀ k e c, w.exchange k = some e → e.configuration = some c →
    ∃ ch, w.channel e.channelInstanceId = some ch ∧
      ch.Reserves rc c.manifestGeneration e.runtimeVersion
  bridges : ∀ i b, (i, b) ∈ w.bridges →
    b.status.manifestGeneration = b.manifest.manifestGeneration ∧
      b.status.attempt ≤ maxPortableJsonInteger ∧ ∃ ch, w.channel i = some ch ∧
        ch.Reserves rc b.manifest.manifestGeneration b.status.runtimeVersion

theorem observed_attempt (b : SidecarRuntimeBridge) (event : LifecycleEvent) :
    (b.observeLifecycle event).status.attempt ≤ maxPortableJsonInteger := by
  show (if (observedLifecycle event).2.1 ≤ maxPortableJsonInteger then (observedLifecycle event).2.1
    else maxPortableJsonInteger) ≤ maxPortableJsonInteger
  split
  · next h => exact h
  · exact UInt64.le_refl _

/-- An activated bridge reports the generation and the version its exchange is reserved for. -/
theorem activate_reports {e e' : SidecarConfigurationExchange} {b : SidecarRuntimeBridge}
    (h : SidecarRuntimeBridge.activate e ch = (.ok b, e', ch')) :
    ch.instanceId = e.channelInstanceId ∧ ∃ c, e.configuration = some c ∧
      b.manifest.manifestGeneration = c.manifestGeneration ∧
      b.status = ⟨.configured, c.manifestGeneration, e.runtimeVersion, 0, none⟩ := by
  rcases SidecarRuntimeBridge.activate_cases e ch with
    ⟨_, ha⟩ | ⟨_, _, ha⟩ | ⟨_, _, _, ha⟩ | ⟨hb, _, _, b', hok, ha⟩ <;> rw [h] at ha <;> cases ha
  obtain ⟨c, _, hc, _, _, _, _, hm, hs⟩ := SidecarRuntimeBridge.activateConfigured_eq_ok hok
  exact ⟨hb, c, hc, by rw [hm]; rfl, hs⟩

theorem activate_keeps {e e' : SidecarConfigurationExchange}
    {result : Except SidecarRuntimeBridgeError SidecarRuntimeBridge}
    (h : SidecarRuntimeBridge.activate e ch = (result, e', ch')) :
    e'.channelInstanceId = e.channelInstanceId ∧ e'.runtimeVersion = e.runtimeVersion ∧
      ∀ c, e'.configuration = some c → e.configuration = some c := by
  rcases SidecarRuntimeBridge.activate_cases e ch with
    ⟨_, ha⟩ | ⟨_, _, ha⟩ | ⟨_, _, _, ha⟩ | ⟨_, _, _, _, _, ha⟩ <;> rw [h] at ha <;> cases ha
  · exact ⟨rfl, rfl, fun c hc => hc⟩
  · exact ⟨rfl, rfl, fun c hc => nomatch hc⟩
  · exact ⟨rfl, rfl, fun c hc => hc⟩
  · exact ⟨rfl, rfl, fun c hc => hc⟩

theorem budgeted_step {a : ProcessAction} (hn : ∀ i ch, w.channel i = some ch → ch.instanceId = i)
    (hs : ProcessStep mac hc rc w a w') (hb : w.Budgeted rc) : w'.Budgeted rc := by
  have hcarry : ∀ {i g v}, (∃ ch, w.channel i = some ch ∧ ch.Reserves rc g v) →
      ∃ ch, w'.channel i = some ch ∧ ch.Reserves rc g v := by
    rintro i g v ⟨ch, hch, hr⟩
    obtain ⟨ch', hch', hf⟩ := ProcessStep.follows hs hch
    exact ⟨ch', hch', hr.follows hf⟩
  have hexchanges : ∀ k e c, w.exchange k = some e → e.configuration = some c →
      ∃ ch, w'.channel e.channelInstanceId = some ch ∧
        ch.Reserves rc c.manifestGeneration e.runtimeVersion :=
    fun k e c he hc => hcarry (hb.exchanges k e c he hc)
  have hbridges : ∀ i b, (i, b) ∈ w.bridges →
      b.status.manifestGeneration = b.manifest.manifestGeneration ∧
        b.status.attempt ≤ maxPortableJsonInteger ∧ ∃ ch, w'.channel i = some ch ∧
          ch.Reserves rc b.manifest.manifestGeneration b.status.runtimeVersion :=
    fun i b hm => ⟨(hb.bridges i b hm).1, (hb.bridges i b hm).2.1, hcarry (hb.bridges i b hm).2.2⟩
  cases hs with
  | createChannel _ _ => exact ⟨hexchanges, hbridges⟩
  | newHandshake _ _ => exact ⟨hexchanges, hbridges⟩
  | handshake _ _ _ => exact ⟨hexchanges, hbridges⟩
  | @newExchange k j h e _ _ hnew =>
    refine ⟨?_, hbridges⟩
    intro k' e' c he hc
    by_cases hk : k' = j
    · subst hk
      obtain ⟨_, _, _, _, _, rfl⟩ := SidecarConfigurationExchange.new_eq_ok hnew
      simp only [SidecarProcess.setExchange, Function.update_self, Option.some.injEq] at he
      subst he
      cases hc
    · simp only [SidecarProcess.setExchange, Function.update_of_ne hk] at he
      exact hexchanges k' e' c he hc
  | newExchangeFailed _ _ => exact ⟨hexchanges, hbridges⟩
  | @exchange k i a e ch result e' ch' he hch hres =>
    obtain ⟨hid, hversion, hkeep⟩ := exchange_call_reserves hres
    refine ⟨?_, hbridges⟩
    intro k' e₁ c he₁ hc
    by_cases hk : k' = k
    · subst hk
      simp only [SidecarProcess.setExchange, SidecarProcess.setChannel, Function.update_self,
        Option.some.injEq] at he₁
      subst he₁
      rw [hid, hversion]
      rcases hkeep c hc with hc' | ⟨hbound, hr⟩
      · exact hexchanges k' e c he hc'
      · rw [hn i ch hch] at hbound
        subst hbound
        exact ⟨ch', by simp [SidecarProcess.setChannel], hr⟩
    · simp only [SidecarProcess.setExchange, SidecarProcess.setChannel,
        Function.update_of_ne hk] at he₁
      exact hexchanges k' e₁ c he₁ hc
  | @activate k i e ch result e' ch' he hch hres =>
    obtain ⟨hid, hversion, hkeep⟩ := activate_keeps hres
    have hupdated : ∀ k' e₁ c, Function.update w.exchange k (some e') k' = some e₁ →
        e₁.configuration = some c → ∃ k e, w.exchange k = some e ∧ e.configuration = some c ∧
          e₁.channelInstanceId = e.channelInstanceId ∧ e₁.runtimeVersion = e.runtimeVersion := by
      intro k' e₁ c he₁ hc
      by_cases hk : k' = k
      · subst hk
        simp only [Function.update_self, Option.some.injEq] at he₁
        subst he₁
        exact ⟨k', e, he, hkeep c hc, hid, hversion⟩
      · rw [Function.update_of_ne hk] at he₁
        exact ⟨k', e₁, he₁, hc, rfl, rfl⟩
    cases result with
    | error error =>
      refine ⟨?_, hbridges⟩
      intro k' e₁ c he₁ hc
      obtain ⟨k₂, e₂, he₂, hc₂, hid₂, hversion₂⟩ := hupdated k' e₁ c he₁ hc
      rw [hid₂, hversion₂]
      exact hexchanges k₂ e₂ c he₂ hc₂
    | ok b =>
      refine ⟨?_, ?_⟩
      · intro k' e₁ c he₁ hc
        obtain ⟨k₂, e₂, he₂, hc₂, hid₂, hversion₂⟩ := hupdated k' e₁ c he₁ hc
        rw [hid₂, hversion₂]
        exact hexchanges k₂ e₂ c he₂ hc₂
      · intro j b' hm
        rcases List.mem_append.mp hm with hm | hm
        · exact hbridges j b' hm
        · obtain ⟨hbound, c, hc, hg, hstatus⟩ := activate_reports hres
          simp only [List.mem_singleton, Prod.mk.injEq] at hm
          obtain ⟨rfl, rfl⟩ := hm
          rw [hn j ch hch] at hbound
          subst hbound
          obtain ⟨ch₂, hch₂, hr⟩ := hexchanges k e c he hc
          refine ⟨by rw [hstatus, hg], by rw [hstatus]; exact UInt64.zero_le, ch₂, hch₂, ?_⟩
          rw [hg, hstatus]
          exact hr
  | use _ _ => exact ⟨hexchanges, hbridges⟩
  | @observe n i b event hget =>
    refine ⟨hexchanges, ?_⟩
    intro j b' hm
    rcases List.mem_or_eq_of_mem_set hm with hm | hm
    · exact hbridges j b' hm
    · cases hm
      obtain ⟨-, -, hr⟩ := hbridges i b (List.mem_of_getElem? hget)
      exact ⟨rfl, observed_attempt b event, hr⟩

theorem budgeted_reachable (hw : (processSystem mac hc rc).Reachable w) : w.Budgeted rc := by
  refine hw.invariant_of_reachable (P := fun w => w.Budgeted rc) ?_
    (fun w a w' hr hs hb => budgeted_step (process_named hr) hs hb)
  rintro w rfl
  constructor
  · intro _ _ _ he
    cases he
  · intro _ _ hm
    cases hm

/-- The status is portable, fits the channel, and is sealed as long as anything is. -/
structure AuthenticatedSidecarChannel.Reports (mac : Mac) (rc : Codec SidecarRuntimeMessage)
    (ch : AuthenticatedSidecarChannel) (status : SidecarRuntimeStatus) : Prop where
  manifestGeneration : status.manifestGeneration ≤ maxPortableJsonInteger
  attempt : status.attempt ≤ maxPortableJsonInteger
  encodable : (rc.serialize (.status status)).failed = false
  fits : (rc.serialize (.status status)).output.length ≤ ch.maxPayloadBytes
  seals : ∀ error, ch.seal mac (rc.serialize (.status status)) = .error error →
    error = .channelRetired ∨ error = .sequenceExhausted

/-- A payload that fits is refused only by a retired channel or for want of sequence numbers. -/
theorem seal_error {payload : BoundedWriter.Serialization} {error : SidecarFrameError}
    (hf : payload.failed = false) (hfit : payload.output.length ≤ ch.maxPayloadBytes)
    (h : ch.seal mac payload = .error error) :
    error = .channelRetired ∨ error = .sequenceExhausted := by
  by_cases hlive : ch.retired = false
  · by_cases hroom : ch.sendSequence.toNat + 1 < 2 ^ 64
    · have hok := (@AuthenticatedSidecarChannel.seal_eq_ok mac ch _ payload _).mpr
        ⟨hlive, hroom, hf, hfit, rfl, rfl⟩
      rw [h] at hok
      cases hok
    · right
      have hnone : FixedWidth.checkedSucc ch.sendSequence = none := by
        cases hc : FixedWidth.checkedSucc ch.sendSequence with
        | none => rfl
        | some n => exact absurd (FixedWidth.checkedSucc_eq_some.mp hc).1 hroom
      simp only [AuthenticatedSidecarChannel.seal, Except.ensure, hlive, if_true, hnone, bind,
        Except.bind, Option.elim_none] at h
      exact (Except.error.inj h).symm
  · left
    simp only [AuthenticatedSidecarChannel.seal, Except.ensure, hlive, bind, Except.bind] at h
    exact (Except.error.inj h).symm

theorem AuthenticatedSidecarChannel.Reserves.reports {formatDouble : Json.Double → String}
    {deserialize : Bytes → Option SidecarRuntimeMessage} {status : SidecarRuntimeStatus}
    (h : ch.Reserves (runtimeCodec formatDouble deserialize) status.manifestGeneration
      status.runtimeVersion) (ha : status.attempt ≤ maxPortableJsonInteger) :
    ch.Reports mac (runtimeCodec formatDouble deserialize) status := by
  obtain ⟨hg, hf, hfit⟩ := status_within ha h.fits
  exact ⟨hg, ha, hf, hfit, fun _ hs => seal_error hf hfit hs⟩

/-- What a bridge has reported after any events is still of its generation and version. -/
theorem foldl_observe (events : List LifecycleEvent) (b : SidecarRuntimeBridge)
    (hg : b.status.manifestGeneration = b.manifest.manifestGeneration)
    (ha : b.status.attempt ≤ maxPortableJsonInteger) :
    let b' := events.foldl SidecarRuntimeBridge.observeLifecycle b
    b'.status.manifestGeneration = b.manifest.manifestGeneration ∧
      b'.status.runtimeVersion = b.status.runtimeVersion ∧
      b'.status.attempt ≤ maxPortableJsonInteger := by
  induction events generalizing b with
  | nil => exact ⟨hg, rfl, ha⟩
  | cons event events ih => exact ih (b.observeLifecycle event) rfl (observed_attempt b event)

theorem lower_locked (hl : ch.frameLimitLocked = true) (limit : UInt32) :
    ch.lowerFrameLimit limit = .error .frameLimitLocked := by
  simp [AuthenticatedSidecarChannel.lowerFrameLimit, hl]

theorem apply_locked (hl : ch.frameLimitLocked = true) (n : NegotiatedSidecarProtocol)
    (ch' : AuthenticatedSidecarChannel) : ch.applyNegotiatedProtocol n ≠ .ok ch' := by
  intro h
  have hunlocked := (AuthenticatedSidecarChannel.applyNegotiatedProtocol_eq_ok h).1
  rw [hl] at hunlocked
  cases hunlocked

/-- The status budget: whatever lifecycle events an activated bridge observes, its status fits the
channel it was activated with; the same holds on either side as soon as a configuration is kept,
for every bridge that activation makes of it; and from then on the budget never changes. -/
theorem status_budget (mac : Mac) (hc : Codec SidecarHandshakeMessage)
    (formatDouble : Json.Double → String) (deserialize : Bytes → Option SidecarRuntimeMessage)
    (w : SidecarProcess)
    (hw : (processSystem mac hc (runtimeCodec formatDouble deserialize)).Reachable w) :
    (∀ i b, (i, b) ∈ w.bridges → ∃ ch, w.channel i = some ch ∧
      ch.Reports mac (runtimeCodec formatDouble deserialize) b.status) ∧
    (∀ k e c, w.exchange k = some e → e.configuration = some c →
      ∃ ch, w.channel e.channelInstanceId = some ch ∧
        ∀ (b : SidecarRuntimeBridge) (events : List LifecycleEvent),
          b.manifest.manifestGeneration = c.manifestGeneration →
          b.status = ⟨.configured, c.manifestGeneration, e.runtimeVersion, 0, none⟩ →
          ch.Reports mac (runtimeCodec formatDouble deserialize)
            (events.foldl SidecarRuntimeBridge.observeLifecycle b).status) ∧
    ∀ i, (∃ b, (i, b) ∈ w.bridges) ∨
        (∃ k e c, w.exchange k = some e ∧ e.configuration = some c ∧ e.channelInstanceId = i) →
      ∃ ch, w.channel i = some ch ∧
        (∀ limit, ch.lowerFrameLimit limit = .error .frameLimitLocked) ∧
        (∀ n ch', ch.applyNegotiatedProtocol n ≠ .ok ch') ∧
        ∀ w', (processSystem mac hc (runtimeCodec formatDouble deserialize)).Run w w' →
          ∃ ch', w'.channel i = some ch' ∧ ch'.maxPayloadBytes = ch.maxPayloadBytes := by
  have hb := budgeted_reachable hw
  refine ⟨?_, ?_, ?_⟩
  · intro i b hm
    obtain ⟨hg, ha, ch, hch, hr⟩ := hb.bridges i b hm
    rw [← hg] at hr
    exact ⟨ch, hch, hr.reports ha⟩
  · intro k e c he hc
    obtain ⟨ch, hch, hr⟩ := hb.exchanges k e c he hc
    refine ⟨ch, hch, ?_⟩
    intro b events hg hs
    obtain ⟨hg', hversion, ha⟩ := foldl_observe events b (by rw [hs, hg])
      (by rw [hs]; exact UInt64.zero_le)
    rw [hg] at hg'
    have hversion : (events.foldl SidecarRuntimeBridge.observeLifecycle b).status.runtimeVersion =
        e.runtimeVersion := hversion.trans (by rw [hs])
    rw [← hg', ← hversion] at hr
    exact hr.reports ha
  · intro i hi
    obtain ⟨ch, hch, hl⟩ : ∃ ch, w.channel i = some ch ∧ ch.frameLimitLocked = true := by
      rcases hi with ⟨b, hm⟩ | ⟨k, e, c, he, hc, rfl⟩
      · obtain ⟨-, -, ch, hch, hr⟩ := hb.bridges i b hm
        exact ⟨ch, hch, hr.locked⟩
      · obtain ⟨ch, hch, hr⟩ := hb.exchanges k e c he hc
        exact ⟨ch, hch, hr.locked⟩
    refine ⟨ch, hch, lower_locked hl, apply_locked hl, ?_⟩
    intro w' hr
    obtain ⟨ch', hch', hf⟩ := process_follows hr hch
    exact ⟨ch', hch', hf.maxPayloadBytes hl⟩

/-- A bridge of the vector reports a status that fits. -/
theorem vector_reports : ∃ w b ch,
    (processSystem vectorMac vectorCodec vectorWireCodec).Reachable w ∧ (2, b) ∈ w.bridges ∧
    w.channel 2 = some ch ∧ ch.Reports vectorMac vectorWireCodec b.status := by
  obtain ⟨w, hw, hbridges⟩ := vector_bridges
  obtain ⟨⟨i, b⟩, hb, rfl⟩ : ∃ p ∈ w.bridges, p.1 = 2 := by
    have hm : (2 : UInt64) ∈ w.bridges.map Prod.fst := by simp [hbridges]
    simpa using hm
  obtain ⟨hreport, -⟩ := status_budget vectorMac vectorCodec (fun _ => "0.5")
    vectorRuntimeCodec.deserialize w hw
  obtain ⟨ch, hch, hr⟩ := hreport _ b hb
  exact ⟨w, b, ch, hw, hb, hch, hr⟩

end OpenclawNode.Sidecar
