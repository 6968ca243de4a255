import OpenclawNode.Sidecar.Network

/-! A receiver accepts exactly a prefix of what its counterpart sealed. -/
namespace OpenclawNode.Sidecar

open BigEndian (Bytes)
open Text (utf8 utf8_injective)
open BoundedWriter (Serialization)
open Transition (System)
open FixedWidth (toNat_succ)

variable {mac : Mac} {w w' : Network} {i : UInt64} {e e' r s : Endpoint} {a : NetworkAction}

/-- The sequence counters count the payloads, and a live channel still holds its key. -/
structure Endpoint.Counted (e : Endpoint) : Prop where
  sent : e.channel.sendSequence.toNat = e.sealed.length
  received : e.channel.receiveSequence.toNat = e.accepted.length
  key : e.channel.retired = false → e.channel.key = e.createdKey

/-- The endpoint keeps its identity and only adds to what it has sealed. -/
structure Endpoint.Extends (e e' : Endpoint) : Prop where
  role : e'.channel.role = e.channel.role
  sessionId : e'.channel.sessionId = e.channel.sessionId
  generation : e'.channel.generation = e.channel.generation
  createdKey : e'.createdKey = e.createdKey
  sealed : e.sealed <+: e'.sealed

/-- The frame carries the payload the endpoint sealed at some position, under the sequence number
of that position. -/
def Endpoint.SealedFrame (mac : Mac) (e : Endpoint) (frame : Bytes) : Prop :=
  ∃ (n : Nat) (payload : Bytes) (minor : UInt16) (sequence : UInt64),
    e.sealed[n]? = some payload ∧ sequence.toNat = n + 1 ∧
    frame = mac.frame e.createdKey
      (frameBody minor e.channel.role.outgoingDirection e.channel.generation sequence
        (utf8 e.channel.sessionId) payload)

/-- Some counterpart of the receiver sealed the payload at that position. -/
def Network.SealedFor (w : Network) (r : Endpoint) (n : Nat) (payload : Bytes) : Prop :=
  ∃ j s, w.endpoint j = some s ∧ Complementary r s ∧ s.sealed[n]? = some payload

/-- Every payload a receiver accepted stands at the same position of a counterpart's sealed
list. -/
structure Network.Authentic (mac : Mac) (w : Network) : Prop where
  counted : ∀ i e, w.endpoint i = some e → e.Counted
  allocated : ∀ i e, w.endpoint i = some e → i.toNat < w.nextInstanceId.toNat
  frames : ∀ key frame, (key, frame) ∈ w.frames →
    ∃ j s, w.endpoint j = some s ∧ s.createdKey = key ∧ s.SealedFrame mac frame
  accepted : ∀ i r, w.endpoint i = some r → ∀ (n : Nat) payload, r.accepted[n]? = some payload →
    w.SealedFor r n payload

theorem Endpoint.Extends.refl (e : Endpoint) : e.Extends e :=
  ⟨rfl, rfl, rfl, rfl, List.prefix_refl _⟩

theorem getElem?_of_prefix {xs ys : List Bytes} (h : xs <+: ys) {n : Nat} {payload : Bytes}
    (hn : xs[n]? = some payload) : ys[n]? = some payload := by
  obtain ⟨zs, rfl⟩ := h
  obtain ⟨hl, -⟩ := List.getElem?_eq_some_iff.mp hn
  rw [List.getElem?_append_left hl, hn]

theorem Endpoint.SealedFrame.extend {frame : Bytes} (h : e.SealedFrame mac frame)
    (he : e.Extends e') : e'.SealedFrame mac frame := by
  obtain ⟨n, payload, minor, sequence, hn, hs, hf⟩ := h
  refine ⟨n, payload, minor, sequence, getElem?_of_prefix he.sealed hn, hs, ?_⟩
  rw [hf, he.role, he.sessionId, he.generation, he.createdKey]

/-- Every endpoint stays, extended. -/
def Network.Grows (w w' : Network) : Prop :=
  ∀ j s, w.endpoint j = some s → ∃ s', w'.endpoint j = some s' ∧ s.Extends s'

theorem Complementary.extend (h : Complementary r s) {r' s' : Endpoint} (hr : r.Extends r')
    (hs : s.Extends s') : Complementary r' s' := by
  obtain ⟨h₁, h₂, h₃, h₄⟩ := h
  exact ⟨by rw [hs.role, h₁, hr.role], by rw [hs.sessionId, h₂, hr.sessionId],
    by rw [hs.generation, h₃, hr.generation], by rw [hs.createdKey, h₄, hr.createdKey]⟩

@[simp] theorem Network.set_self (w : Network) (i : UInt64) (e : Endpoint) :
    (w.set i e).endpoint i = some e := by
  simp [set]

theorem Network.set_ne (w : Network) (e : Endpoint) {i j : UInt64} (h : j ≠ i) :
    (w.set i e).endpoint j = w.endpoint j := by
  simp [set, h]

theorem Network.grows_set (hi : w.endpoint i = some e) (he : e.Extends e') :
    w.Grows (w.set i e') := by
  intro j s hj
  by_cases h : j = i
  · subst h
    rw [hi] at hj
    cases hj
    exact ⟨e', by simp, he⟩
  · exact ⟨s, by rw [w.set_ne e' h, hj], Endpoint.Extends.refl s⟩

theorem Network.SealedFor.extend {n : Nat} {payload : Bytes} (h : w.SealedFor r n payload)
    (hg : w.Grows w') {r' : Endpoint} (hr : r.Extends r') : w'.SealedFor r' n payload := by
  obtain ⟨j, s, hj, hcomp, hn⟩ := h
  obtain ⟨s', hj', hs⟩ := hg j s hj
  exact ⟨j, s', hj', hcomp.extend hr hs, getElem?_of_prefix hs.sealed hn⟩

/-- Replacing one endpoint by an extension keeps the network authentic, when whatever it accepts
in addition was sealed by a counterpart. -/
theorem Network.Authentic.set (h : w.Authentic mac) (hi : w.endpoint i = some e)
    (he : e.Extends e') (hc : e'.Counted)
    (hacc : ∀ (n : Nat) payload, e'.accepted[n]? = some payload →
      e.accepted[n]? = some payload ∨ w.SealedFor e n payload) :
    (w.set i e').Authentic mac := by
  have hg := w.grows_set hi he
  refine ⟨?_, ?_, ?_, ?_⟩
  · intro j s hj
    by_cases hji : j = i
    · subst hji
      simp only [set_self, Option.some.injEq] at hj
      exact hj ▸ hc
    · rw [w.set_ne e' hji] at hj
      exact h.counted j s hj
  · intro j s hj
    by_cases hji : j = i
    · subst hji
      exact h.allocated j e hi
    · rw [w.set_ne e' hji] at hj
      exact h.allocated j s hj
  · intro key frame hf
    obtain ⟨j, s, hj, hk, hs⟩ := h.frames key frame hf
    obtain ⟨s', hj', hext⟩ := hg j s hj
    exact ⟨j, s', hj', by rw [hext.createdKey, hk], hs.extend hext⟩
  · intro j r' hj n payload hn
    by_cases hji : j = i
    · subst hji
      simp only [set_self, Option.some.injEq] at hj
      subst hj
      rcases hacc n payload hn with hn | hn
      · exact (h.accepted j e hi n payload hn).extend hg he
      · exact hn.extend hg he
    · rw [w.set_ne e' hji] at hj
      exact (h.accepted j r' hj n payload hn).extend hg (Endpoint.Extends.refl r')

/-- A change of the channel that moves neither its identity nor its counters. -/
theorem Network.Authentic.set_channel (h : w.Authentic mac) (hi : w.endpoint i = some e)
    {ch : AuthenticatedSidecarChannel} (hrole : ch.role = e.channel.role)
    (hsid : ch.sessionId = e.channel.sessionId) (hgen : ch.generation = e.channel.generation)
    (hsend : ch.sendSequence = e.channel.sendSequence)
    (hrecv : ch.receiveSequence = e.channel.receiveSequence)
    (hkey : ch.retired = false → e.channel.retired = false ∧ ch.key = e.channel.key) :
    (w.set i { e with channel := ch }).Authentic mac := by
  have hc := h.counted i e hi
  refine h.set hi ⟨hrole, hsid, hgen, rfl, List.prefix_refl _⟩ ⟨?_, ?_, ?_⟩ (fun _ _ hn => Or.inl hn)
  · simpa [hsend] using hc.sent
  · simpa [hrecv] using hc.received
  · intro hlive
    obtain ⟨hl, hk⟩ := hkey hlive
    exact hk.trans (hc.key hl)

/-- What a receiver accepts next is what some counterpart sealed at that position. -/
theorem Network.Authentic.sealed_of_accept (h : w.Authentic mac) (hi : w.endpoint i = some r)
    {frame payload : Bytes} {sequence : UInt64} (hlive : r.channel.retired = false)
    (hideal : w.IdealMac mac r.channel.key frame)
    (hp : r.channel.authenticatedPayload mac frame = .ok (sequence, payload)) :
    w.SealedFor r r.accepted.length payload := by
  have hc := h.counted i r hi
  obtain ⟨-, hroom, hseq, hmac, hbody⟩ := AuthenticatedSidecarChannel.authenticatedPayload_eq_ok hp
  obtain ⟨j, s, hj, hk, n, payload', minor, sequence', hn, hs, rfl⟩ :=
    h.frames _ _ (hideal hmac)
  have hbody' : frameBody minor s.channel.role.outgoingDirection s.channel.generation sequence'
      (utf8 s.channel.sessionId) payload' = frameBody r.channel.protocolMinor
        r.channel.role.expectedRemote.outgoingDirection r.channel.generation sequence
        (utf8 r.channel.sessionId) payload := by
    rw [← hbody, Mac.length_frame, Nat.add_sub_cancel, Mac.frame, List.take_left]
  obtain ⟨-, hdir, hgen, hsequence, hsid, hpayload⟩ :=
    frameBody_injective s.channel.session_valid.2 r.channel.session_valid.2 hbody'
  have hnth : n = r.accepted.length := by
    rw [hsequence, hseq, toNat_succ hroom, hc.received] at hs
    omega
  refine ⟨j, s, hj, ⟨?_, utf8_injective hsid, hgen, ?_⟩, ?_⟩
  · exact SidecarPeerRole.outgoingDirection_injective hdir
  · rw [hk, hc.key hlive]
  · rw [← hnth, hn, hpayload]

theorem Network.Authentic.accept (h : w.Authentic mac) (hi : w.endpoint i = some e)
    {frame payload : Bytes} {sequence : UInt64} {ch : AuthenticatedSidecarChannel} {α : Type}
    {decode : Bytes → Option α} {decoded : α} (hideal : w.IdealMac mac e.channel.key frame)
    (hp : e.channel.authenticatedPayload mac frame = .ok (sequence, payload))
    (ho : e.channel.open mac decode frame = (.ok decoded, ch)) :
    (w.set i { e with channel := ch, accepted := e.accepted ++ [payload] }).Authentic mac := by
  have hc := h.counted i e hi
  rcases AuthenticatedSidecarChannel.open_cases mac decode e.channel frame with
    ⟨_, hr⟩ | ⟨hlive, _, _, _, _, hr⟩ | ⟨_, _, hr⟩
  · rw [hr] at ho
    cases ho
  · rw [hr] at ho
    cases ho
    obtain ⟨-, hroom, -, -, -⟩ := AuthenticatedSidecarChannel.authenticatedPayload_eq_ok hp
    have hs := h.sealed_of_accept hi hlive hideal hp
    refine h.set hi ⟨rfl, rfl, rfl, rfl, List.prefix_refl _⟩ ⟨hc.sent, ?_, hc.key⟩ ?_
    · simp [toNat_succ hroom, hc.received]
    · intro n payload' hn
      simp only [List.getElem?_append] at hn
      split at hn
      · exact Or.inl hn
      · next hge =>
        rw [List.getElem?_singleton] at hn
        split at hn
        · cases hn
          have hnl : n = e.accepted.length := by omega
          exact Or.inr (hnl ▸ hs)
        · cases hn
  · rw [hr] at ho
    cases ho

theorem Network.Authentic.seal (h : w.Authentic mac) (hi : w.endpoint i = some e)
    {payload : Serialization} {frame : Bytes} {ch : AuthenticatedSidecarChannel}
    (hs : e.channel.seal mac payload = .ok (frame, ch)) :
    Network.Authentic mac
      { (w.set i { e with channel := ch, sealed := e.sealed ++ [payload.output] }) with
        frames := w.frames ++ [(e.channel.key, frame)] } := by
  have hc := h.counted i e hi
  obtain ⟨hlive, hroom, -, -, rfl, rfl⟩ := AuthenticatedSidecarChannel.seal_eq_ok.mp hs
  have hext : e.Extends { e with
      channel := { e.channel with sendSequence := e.channel.sendSequence + 1 }
      sealed := e.sealed ++ [payload.output] } := ⟨rfl, rfl, rfl, rfl, List.prefix_append _ _⟩
  have hset := h.set hi hext
    ⟨by simp [toNat_succ hroom, hc.sent], hc.received, hc.key⟩ (fun _ _ hn => Or.inl hn)
  refine ⟨hset.counted, hset.allocated, ?_, hset.accepted⟩
  intro key frame hf
  rcases List.mem_append.mp hf with hf | hf
  · exact hset.frames key frame hf
  · rw [List.mem_singleton, Prod.mk.injEq] at hf
    obtain ⟨rfl, rfl⟩ := hf
    refine ⟨i, _, Network.set_self _ _ _, (hc.key hlive).symm, e.sealed.length, payload.output,
      e.channel.protocolMinor, e.channel.sendSequence + 1, by simp, ?_, ?_⟩
    · rw [toNat_succ hroom, hc.sent]
    · rw [hc.key hlive]
      rfl

theorem Network.Authentic.create (h : w.Authentic mac) {role : SidecarPeerRole}
    {sessionId : String} {generation next : UInt64} {key : SidecarSessionKey}
    {maxFrameBytes : UInt32} {ch : AuthenticatedSidecarChannel}
    (hn : AuthenticatedSidecarChannel.new w.nextInstanceId role sessionId generation key
      maxFrameBytes = .ok (ch, next)) :
    Network.Authentic mac
      { (w.set ch.instanceId ⟨ch, key, [], []⟩) with nextInstanceId := next } := by
  obtain ⟨hroom, rfl, hch⟩ := AuthenticatedSidecarChannel.new_eq_ok hn
  rw [hch.instanceId]
  have hfree : ∀ j s, w.endpoint j = some s → j ≠ w.nextInstanceId := by
    rintro j s hj rfl
    exact Nat.lt_irrefl _ (h.allocated _ s hj)
  have hg : w.Grows (w.set w.nextInstanceId ⟨ch, key, [], []⟩) := by
    intro j s hj
    exact ⟨s, by rw [w.set_ne _ (hfree j s hj), hj], Endpoint.Extends.refl s⟩
  have hcases : ∀ j s, (w.set w.nextInstanceId ⟨ch, key, [], []⟩).endpoint j = some s →
      (j = w.nextInstanceId ∧ s = ⟨ch, key, [], []⟩) ∨ w.endpoint j = some s := by
    intro j s hj
    by_cases hji : j = w.nextInstanceId
    · subst hji
      simp only [Network.set_self, Option.some.injEq] at hj
      exact Or.inl ⟨rfl, hj.symm⟩
    · rw [w.set_ne _ hji] at hj
      exact Or.inr hj
  refine ⟨?_, ?_, ?_, ?_⟩
  · intro j s hj
    rcases hcases j s hj with ⟨-, rfl⟩ | hj
    · exact ⟨by simp [hch.sendSequence], by simp [hch.receiveSequence], fun _ => hch.key⟩
    · exact h.counted j s hj
  · intro j s hj
    rw [toNat_succ hroom]
    rcases hcases j s hj with ⟨rfl, -⟩ | hj
    · omega
    · have := h.allocated j s hj
      omega
  · intro key' frame hf
    obtain ⟨j, s, hj, hk, hs⟩ := h.frames key' frame hf
    obtain ⟨s', hj', hext⟩ := hg j s hj
    exact ⟨j, s', hj', by rw [hext.createdKey, hk], hs.extend hext⟩
  · intro j r hj n payload hn
    rcases hcases j r hj with ⟨-, rfl⟩ | hj
    · simp at hn
    · exact (h.accepted j r hj n payload hn).extend hg (Endpoint.Extends.refl r)

theorem Network.Authentic.reject (h : w.Authentic mac) (hi : w.endpoint i = some e)
    {frame : Bytes} {ch : AuthenticatedSidecarChannel} {α : Type} {decode : Bytes → Option α}
    {error : SidecarFrameError} (ho : e.channel.open mac decode frame = (.error error, ch)) :
    (w.set i { e with channel := ch }).Authentic mac := by
  rcases AuthenticatedSidecarChannel.open_cases mac decode e.channel frame with
    ⟨_, hr⟩ | ⟨_, _, _, _, _, hr⟩ | ⟨_, _, hr⟩
  · rw [hr] at ho
    cases ho
    exact h.set_channel hi rfl rfl rfl rfl rfl (fun hl => ⟨hl, rfl⟩)
  · rw [hr] at ho
    cases ho
  · rw [hr] at ho
    cases ho
    exact h.set_channel hi rfl rfl rfl rfl rfl (fun hl => by cases hl)

theorem authentic_step (hs : Network.Step mac w a w') (h : w.Authentic mac) :
    w'.Authentic mac := by
  cases hs with
  | create hn => exact h.create hn
  | createFailed _ => exact h
  | sealPayload hi hs => exact h.seal hi hs
  | sealFailed _ _ => exact h
  | accept hi hideal hp ho => exact h.accept hi hideal hp ho
  | reject hi ho => exact h.reject hi ho
  | retire hi => exact h.set_channel hi rfl rfl rfl rfl rfl (fun hl => by cases hl)
  | lowerFrameLimit hi hl =>
    obtain ⟨-, -, -, rfl⟩ := AuthenticatedSidecarChannel.lowerFrameLimit_eq_ok hl
    exact h.set_channel hi rfl rfl rfl rfl rfl (fun hl => ⟨hl, rfl⟩)
  | lowerFrameLimitFailed _ _ => exact h
  | applyNegotiatedProtocol hi hn =>
    obtain ⟨-, -, -, rfl⟩ := AuthenticatedSidecarChannel.applyNegotiatedProtocol_eq_ok hn
    exact h.set_channel hi rfl rfl rfl rfl rfl (fun hl => ⟨hl, rfl⟩)
  | applyNegotiatedProtocolFailed _ _ => exact h
  | lockFrameLimit hi => exact h.set_channel hi rfl rfl rfl rfl rfl (fun hl => ⟨hl, rfl⟩)

theorem authentic_reachable (h : (networkSystem mac).Reachable w) : w.Authentic mac := by
  refine h.invariant ?_ (fun s a t hs hp => authentic_step hs hp)
  rintro w ⟨he, hf⟩
  refine ⟨?_, ?_, ?_, ?_⟩
  · intro i e hi
    simp [he] at hi
  · intro i e hi
    simp [he] at hi
  · intro key frame hk
    simp [hf] at hk
  · intro i r hi
    simp [he] at hi

/-- Position by position, an accepted list that some counterpart sealed is a prefix of the sealed
list when there is only one counterpart. -/
theorem accepted_prefix (h : w.Authentic mac) (hu : w.UniqueChannels) {j : UInt64}
    (hi : w.endpoint i = some r) (hj : w.endpoint j = some s) (hc : Complementary r s) :
    r.accepted <+: s.sealed := by
  have hnth : ∀ (n : Nat) payload, r.accepted[n]? = some payload → s.sealed[n]? = some payload := by
    intro n payload hn
    obtain ⟨k, t, hk, ht, hs⟩ := h.accepted i r hi n payload hn
    have hjk : j = k := hu j k s t hj hk (by rw [hc.1, ht.1]) (by rw [hc.2.1, ht.2.1])
      (by rw [hc.2.2.1, ht.2.2.1]) (by rw [hc.2.2.2, ht.2.2.2])
    subst hjk
    rw [hj] at hk
    cases hk
    exact hs
  rw [List.prefix_iff_eq_take]
  apply List.ext_getElem?
  intro n
  rw [List.getElem?_take]
  split
  · next hl => exact (hnth n _ (List.getElem?_eq_getElem hl)).symm ▸ List.getElem?_eq_getElem hl
  · next hl => exact List.getElem?_eq_none (by omega)

/-- The endpoint exists and its channel is retired. -/
def Network.Retired (w : Network) (i : UInt64) : Prop :=
  ∃ e, w.endpoint i = some e ∧ e.channel.retired = true

theorem retired_set {j : UInt64} (h : w.Retired i) (hj : w.endpoint j = some e)
    (hr : e.channel.retired = true → e'.channel.retired = true) : (w.set j e').Retired i := by
  obtain ⟨s, hi, hs⟩ := h
  by_cases hji : i = j
  · subst hji
    rw [hj] at hi
    cases hi
    exact ⟨e', by simp, hr hs⟩
  · exact ⟨s, by rw [w.set_ne e' hji, hi], hs⟩

/-- No call revives a retired channel. -/
theorem retired_step (hw : w.Authentic mac) (hs : Network.Step mac w a w') (h : w.Retired i) :
    w'.Retired i := by
  cases hs with
  | create hn =>
    obtain ⟨-, -, hch⟩ := AuthenticatedSidecarChannel.new_eq_ok hn
    obtain ⟨s, hi, hs⟩ := h
    have hne : i ≠ w.nextInstanceId := by
      rintro rfl
      exact Nat.lt_irrefl _ (hw.allocated _ s hi)
    exact ⟨s, by rw [← hi, hch.instanceId]; exact w.set_ne _ hne, hs⟩
  | createFailed _ => exact h
  | sealPayload hj hs =>
    obtain ⟨-, -, -, -, -, rfl⟩ := AuthenticatedSidecarChannel.seal_eq_ok.mp hs
    exact retired_set h hj (fun hr => hr)
  | sealFailed _ _ => exact h
  | @accept j e frame sequence payload ch α decode decoded hj _ _ ho =>
    rcases AuthenticatedSidecarChannel.open_cases mac decode e.channel frame with
      ⟨_, hr⟩ | ⟨_, _, _, _, _, hr⟩ | ⟨_, _, hr⟩ <;> rw [hr] at ho <;> cases ho
    exact retired_set h hj (fun hr => hr)
  | @reject j e frame error ch α decode hj ho =>
    rcases AuthenticatedSidecarChannel.open_cases mac decode e.channel frame with
      ⟨_, hr⟩ | ⟨_, _, _, _, _, hr⟩ | ⟨_, _, hr⟩ <;> rw [hr] at ho <;> cases ho
    · exact retired_set h hj (fun hr => hr)
    · exact retired_set h hj (fun _ => rfl)
  | retire hj => exact retired_set h hj (fun _ => rfl)
  | lowerFrameLimit hj hl =>
    obtain ⟨-, -, -, rfl⟩ := AuthenticatedSidecarChannel.lowerFrameLimit_eq_ok hl
    exact retired_set h hj (fun hr => hr)
  | lowerFrameLimitFailed _ _ => exact h
  | applyNegotiatedProtocol hj hn =>
    obtain ⟨-, -, -, rfl⟩ := AuthenticatedSidecarChannel.applyNegotiatedProtocol_eq_ok hn
    exact retired_set h hj (fun hr => hr)
  | applyNegotiatedProtocolFailed _ _ => exact h
  | lockFrameLimit hj => exact retired_set h hj (fun hr => hr)

theorem retired_of_reject {frame : Bytes} (hs : Network.Step mac w (.reject i frame) w') :
    w'.Retired i := by
  cases hs with
  | @reject _ e _ error ch α decode hi ho =>
    rcases AuthenticatedSidecarChannel.open_cases mac decode e.channel frame with
      ⟨hd, hr⟩ | ⟨_, _, _, _, _, hr⟩ | ⟨_, _, hr⟩ <;> rw [hr] at ho <;> cases ho
    · exact ⟨_, Network.set_self _ _ _, hd⟩
    · exact ⟨_, Network.set_self _ _ _, rfl⟩

theorem retired_run (hw : w.Authentic mac) (hr : (networkSystem mac).Run w w')
    (h : w.Retired i) : w'.Retired i := by
  have hp : w'.Authentic mac ∧ w'.Retired i := by
    refine hr.stable (P := fun w => w.Authentic mac ∧ w.Retired i) ?_ ⟨hw, h⟩
    intro s a t hs hp
    exact ⟨authentic_step hs hp.1, retired_step hp.1 hs hp.2⟩
  exact hp.2

/-- Every seal and every open on a retired channel fails. -/
theorem unusable_of_retired {ch : AuthenticatedSidecarChannel} (h : ch.retired = true) :
    (∀ payload, ∃ error, ch.seal mac payload = .error error) ∧
      ∀ (α : Type) (decode : Bytes → Option α) frame,
        ∃ error, (ch.open mac decode frame).1 = .error error := by
  constructor
  · intro payload
    cases hs : ch.seal mac payload with
    | error error => exact ⟨error, rfl⟩
    | ok result =>
      obtain ⟨frame, ch'⟩ := result
      have hl := (AuthenticatedSidecarChannel.seal_eq_ok.mp hs).1
      exact absurd (hl.symm.trans h) (by decide)
  · intro α decode frame
    rcases AuthenticatedSidecarChannel.open_cases mac decode ch frame with
      ⟨_, hr⟩ | ⟨hl, _⟩ | ⟨hl, _⟩
    · exact ⟨_, by rw [hr]⟩
    · exact absurd (hl.symm.trans h) (by decide)
    · exact absurd (hl.symm.trans h) (by decide)

/-- Channel authenticity and ordering: across any number of channels and any adversarial run, what
a receiver accepts is a prefix of what its only counterpart sealed (nothing when there is none),
and a channel that failed to open a frame never seals or opens again. -/
theorem channel_authenticity_and_ordering (mac : Mac) (w : Network)
    (hw : (networkSystem mac).Reachable w) :
    (w.UniqueChannels → ∀ i j r s, w.endpoint i = some r → w.endpoint j = some s →
      Complementary r s → r.accepted <+: s.sealed) ∧
    (∀ i r, w.endpoint i = some r → (∀ j s, w.endpoint j = some s → ¬ Complementary r s) →
      r.accepted = []) ∧
    ∀ i frame w' w'', Network.Step mac w (.reject i frame) w' → (networkSystem mac).Run w' w'' →
      ∃ e, w''.endpoint i = some e ∧
        (∀ payload, ∃ error, e.channel.seal mac payload = .error error) ∧
        ∀ (α : Type) (decode : Bytes → Option α) frame,
          ∃ error, (e.channel.open mac decode frame).1 = .error error := by
  have ha := authentic_reachable hw
  refine ⟨?_, ?_, ?_⟩
  · intro hu i j r s hi hj hc
    exact accepted_prefix ha hu hi hj hc
  · intro i r hi hnone
    rw [List.eq_nil_iff_forall_not_mem]
    intro payload hp
    obtain ⟨n, hn⟩ := List.mem_iff_getElem?.mp hp
    obtain ⟨j, s, hj, hc, -⟩ := ha.accepted i r hi n payload hn
    exact hnone j s hj hc
  · intro i frame w' w'' hs hr
    obtain ⟨e, hi, hd⟩ := retired_run (authentic_step hs ha) hr (retired_of_reject hs)
    exact ⟨e, hi, unusable_of_retired hd⟩

/-- The session key, the probe payload and its authentication tag of the protocol fixture. -/
def probeKey : SidecarSessionKey := ⟨Vector.replicate 32 0x5a⟩

def probePayload : Bytes := utf8 "\x7b\"requestId\":\"abc\",\"type\":\"probe\"\x7d"

def probeBody : Bytes := frameBody 0 .supervisorToRuntime 7 1 (utf8 "session-7") probePayload

/-- A second payload, in the frame after the probe. -/
def laterPayload : Bytes := utf8 "\x7b\"type\":\"later\"\x7d"

def laterBody : Bytes := frameBody 0 .supervisorToRuntime 7 2 (utf8 "session-7") laterPayload

def probeTag : Vector UInt8 32 :=
  #v[0x38, 0x9b, 0x2e, 0x2f, 0xe6, 0x0a, 0x05, 0xd6, 0xa1, 0xe3, 0xec, 0x17, 0xf0, 0xb0, 0x2e, 0x28,
    0xde, 0x84, 0xf3, 0x24, 0x26, 0xc6, 0x68, 0x4e, 0x63, 0x5a, 0xee, 0x56, 0x76, 0xa3, 0x95, 0x95]

/-- The keyed hash as the fixture records it, and zero elsewhere. -/
def probeMac : Mac where
  tag key message := if key = probeKey ∧ message = probeBody then probeTag.toList
    else List.replicate 32 0
  length_tag key message := by split <;> rfl

def probeChannel (i : UInt64) (role : SidecarPeerRole) (sent received : UInt64) :
    AuthenticatedSidecarChannel where
  instanceId := i
  role := role
  protocolMinor := 0
  sessionId := "session-7"
  generation := 7
  key := probeKey
  maxFrameBytes := 65536
  frameLimitLocked := false
  sendSequence := sent
  receiveSequence := received
  retired := false
  session_valid := by decide
  generation_ne_zero := by decide
  frame_fits := by decide

/-- The probe of the fixture and a later payload, sealed by the supervisor and accepted by the
runtime. -/
def probeNetwork : Network where
  nextInstanceId := 3
  endpoint := Function.update (Function.update (Function.update (Function.update
    (Function.update (Function.update (fun _ => none)
    1 (some ⟨probeChannel 1 .supervisor 0 0, probeKey, [], []⟩))
    2 (some ⟨probeChannel 2 .runtime 0 0, probeKey, [], []⟩))
    1 (some ⟨probeChannel 1 .supervisor 1 0, probeKey, [probePayload], []⟩))
    1 (some ⟨probeChannel 1 .supervisor 2 0, probeKey, [probePayload, laterPayload], []⟩))
    2 (some ⟨probeChannel 2 .runtime 0 1, probeKey, [], [probePayload]⟩))
    2 (some ⟨probeChannel 2 .runtime 0 2, probeKey, [], [probePayload, laterPayload]⟩)
  frames := [(probeKey, probeMac.frame probeKey probeBody),
    (probeKey, probeMac.frame probeKey laterBody)]

theorem probeNetwork_reachable : (networkSystem probeMac).Reachable probeNetwork := by
  have h₀ : (networkSystem probeMac).Reachable ⟨1, fun _ => none, []⟩ :=
    Transition.System.Reachable.initial ⟨rfl, rfl⟩
  have hnew : AuthenticatedSidecarChannel.new 1 .supervisor "session-7" 7 probeKey 65536 =
      .ok (probeChannel 1 .supervisor 0 0, 2) := rfl
  have hnew' : AuthenticatedSidecarChannel.new 2 .runtime "session-7" 7 probeKey 65536 =
      .ok (probeChannel 2 .runtime 0 0, 3) := rfl
  have hseal : (probeChannel 1 .supervisor 0 0).seal probeMac (.ofBytes probePayload) =
      .ok (probeMac.frame probeKey probeBody, probeChannel 1 .supervisor 1 0) :=
    AuthenticatedSidecarChannel.seal_eq_ok.mpr ⟨rfl, by decide, rfl, by decide, rfl, rfl⟩
  have hseal' : (probeChannel 1 .supervisor 1 0).seal probeMac (.ofBytes laterPayload) =
      .ok (probeMac.frame probeKey laterBody, probeChannel 1 .supervisor 2 0) :=
    AuthenticatedSidecarChannel.seal_eq_ok.mpr ⟨rfl, by decide, rfl, by decide, rfl, rfl⟩
  have hpayload : (probeChannel 2 .runtime 0 0).authenticatedPayload probeMac
      (probeMac.frame probeKey probeBody) = .ok (1, probePayload) :=
    AuthenticatedSidecarChannel.authenticatedPayload_frame _ (by decide) (by decide)
  have hpayload' : (probeChannel 2 .runtime 0 1).authenticatedPayload probeMac
      (probeMac.frame probeKey laterBody) = .ok (2, laterPayload) :=
    AuthenticatedSidecarChannel.authenticatedPayload_frame _ (by decide) (by decide)
  have hopen : (probeChannel 2 .runtime 0 0).open probeMac some
      (probeMac.frame probeKey probeBody) = (.ok probePayload, probeChannel 2 .runtime 0 1) :=
    AuthenticatedSidecarChannel.open_frame _ rfl (by decide) (by decide) rfl
  have hopen' : (probeChannel 2 .runtime 0 1).open probeMac some
      (probeMac.frame probeKey laterBody) = (.ok laterPayload, probeChannel 2 .runtime 0 2) :=
    AuthenticatedSidecarChannel.open_frame _ rfl (by decide) (by decide) rfl
  have h₁ := h₀.step (.create hnew)
  have h₂ := h₁.step (.create hnew')
  have h₃ := h₂.step (.sealPayload (i := 1)
    (e := ⟨probeChannel 1 .supervisor 0 0, probeKey, [], []⟩) rfl hseal)
  have h₄ := h₃.step (.sealPayload (i := 1)
    (e := ⟨probeChannel 1 .supervisor 1 0, probeKey, [probePayload], []⟩) rfl hseal')
  have h₅ := h₄.step (.accept (i := 2) (e := ⟨probeChannel 2 .runtime 0 0, probeKey, [], []⟩) rfl
    (fun _ => List.mem_cons_self) hpayload hopen)
  exact h₅.step (.accept (i := 2)
    (e := ⟨probeChannel 2 .runtime 0 1, probeKey, [], [probePayload]⟩) rfl
    (fun _ => List.mem_cons_of_mem _ List.mem_cons_self) hpayload' hopen')

theorem probeNetwork_endpoint {i : UInt64} {e : Endpoint} (h : probeNetwork.endpoint i = some e) :
    (i = 2 ∧ e = ⟨probeChannel 2 .runtime 0 2, probeKey, [], [probePayload, laterPayload]⟩) ∨
    (i = 1 ∧ e = ⟨probeChannel 1 .supervisor 2 0, probeKey, [probePayload, laterPayload], []⟩) := by
  by_cases h₂ : i = 2
  · subst h₂
    exact Or.inl ⟨rfl, (Option.some.inj h).symm⟩
  · by_cases h₁ : i = 1
    · subst h₁
      exact Or.inr ⟨rfl, (Option.some.inj h).symm⟩
    · simp [probeNetwork, Function.update, h₁, h₂] at h

theorem probe_is_prefix : probeNetwork.UniqueChannels ∧
    ∃ r s, probeNetwork.endpoint 2 = some r ∧ probeNetwork.endpoint 1 = some s ∧
      r.accepted = [probePayload, laterPayload] ∧ r.accepted <+: s.sealed := by
  have hu : probeNetwork.UniqueChannels := by
    intro i j a b hi hj hrole _ _ _
    rcases probeNetwork_endpoint hi with ⟨rfl, rfl⟩ | ⟨rfl, rfl⟩ <;>
      rcases probeNetwork_endpoint hj with ⟨rfl, rfl⟩ | ⟨rfl, rfl⟩
    · rfl
    · cases hrole
    · cases hrole
    · rfl
  refine ⟨hu, _, _, rfl, rfl, rfl, ?_⟩
  exact (channel_authenticity_and_ordering probeMac probeNetwork probeNetwork_reachable).1 hu
    2 1 _ _ rfl rfl ⟨rfl, rfl, rfl, rfl⟩

end OpenclawNode.Sidecar
