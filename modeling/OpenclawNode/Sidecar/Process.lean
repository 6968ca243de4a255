import OpenclawNode.Sidecar.Bridge
import OpenclawNode.Sidecar.FailClosed

/-! Everything a process can do with its channels, handshakes, exchanges and bridges. -/
namespace OpenclawNode.Sidecar

open BigEndian (Bytes)
open BoundedWriter (Codec)
open Node (LifecycleEvent)
open Transition (System)

/-- The objects of a process. Handshakes and exchanges are named by the handle that holds them, and
a bridge by its place in the order of activation, next to the channel it was activated with. -/
structure SidecarProcess where
  channel : UInt64 → Option AuthenticatedSidecarChannel
  handshake : Nat → Option SidecarHandshake
  exchange : Nat → Option SidecarConfigurationExchange
  bridges : List (UInt64 × SidecarRuntimeBridge)

namespace SidecarProcess

def setChannel (w : SidecarProcess) (i : UInt64) (ch : AuthenticatedSidecarChannel) :
    SidecarProcess :=
  { w with channel := Function.update w.channel i (some ch) }

def setHandshake (w : SidecarProcess) (k : Nat) (h : Option SidecarHandshake) : SidecarProcess :=
  { w with handshake := Function.update w.handshake k h }

def setExchange (w : SidecarProcess) (k : Nat) (e : SidecarConfigurationExchange) :
    SidecarProcess :=
  { w with exchange := Function.update w.exchange k (some e) }

@[simp] theorem setHandshake_self (w : SidecarProcess) (k : Nat) (h : Option SidecarHandshake) :
    (w.setHandshake k h).handshake k = h :=
  Function.update_self _ _ _

@[simp] theorem setExchange_self (w : SidecarProcess) (k : Nat)
    (e : SidecarConfigurationExchange) : (w.setExchange k e).exchange k = some e :=
  Function.update_self _ _ _

theorem setExchange_ne (w : SidecarProcess) {j k : Nat} (e : SidecarConfigurationExchange)
    (h : j ≠ k) : (w.setExchange k e).exchange j = w.exchange j :=
  Function.update_of_ne h _ _

@[simp] theorem setChannel_self (w : SidecarProcess) (i : UInt64)
    (ch : AuthenticatedSidecarChannel) : (w.setChannel i ch).channel i = some ch :=
  Function.update_self _ _ _

@[simp] theorem setChannel_handshake (w : SidecarProcess) (i : UInt64)
    (ch : AuthenticatedSidecarChannel) : (w.setChannel i ch).handshake = w.handshake := rfl

@[simp] theorem setChannel_exchange (w : SidecarProcess) (i : UInt64)
    (ch : AuthenticatedSidecarChannel) : (w.setChannel i ch).exchange = w.exchange := rfl

/-- Keep the bridge of a successful activation. -/
def activated (w : SidecarProcess) (i : UInt64) {ε : Type} :
    Except ε SidecarRuntimeBridge → SidecarProcess
  | .ok b => { w with bridges := w.bridges ++ [(i, b)] }
  | .error _ => w

end SidecarProcess

inductive ProcessAction
  | createChannel (i : UInt64)
  | newHandshake (k : Nat)
  | handshake (k : Nat) (i : UInt64) (a : SidecarHandshake.Call)
  | newExchange (k j : Nat)
  | exchange (k : Nat) (i : UInt64) (a : SidecarConfigurationExchange.Call)
  | activate (k : Nat) (i : UInt64)
  | use (i : UInt64)
  | observe (n : Nat) (event : LifecycleEvent)

/-- One call on any object with any channel. An exchange consumes the handshake it is made from. -/
inductive ProcessStep (mac : Mac) (hc : Codec SidecarHandshakeMessage)
    (rc : Codec SidecarRuntimeMessage) : SidecarProcess → ProcessAction → SidecarProcess → Prop
  | createChannel {w i role sessionId generation key maxFrameBytes ch next} : w.channel i = none →
      AuthenticatedSidecarChannel.new i role sessionId generation key maxFrameBytes =
        .ok (ch, next) →
      ProcessStep mac hc rc w (.createChannel i) (w.setChannel i ch)
  | newHandshake {w k offer h} : w.handshake k = none → SidecarHandshake.new offer = .ok h →
      ProcessStep mac hc rc w (.newHandshake k) (w.setHandshake k (some h))
  | handshake {w k i a h ch result h' ch'} : w.handshake k = some h → w.channel i = some ch →
      h.call mac hc a ch = (result, h', ch') →
      ProcessStep mac hc rc w (.handshake k i a) ((w.setHandshake k (some h')).setChannel i ch')
  | newExchange {w k j h e} : w.handshake k = some h → w.exchange j = none →
      SidecarConfigurationExchange.new h = .ok e →
      ProcessStep mac hc rc w (.newExchange k j) ((w.setHandshake k none).setExchange j e)
  | newExchangeFailed {w k j h error} : w.handshake k = some h →
      SidecarConfigurationExchange.new h = .error error →
      ProcessStep mac hc rc w (.newExchange k j) (w.setHandshake k none)
  | exchange {w k i a e ch result e' ch'} : w.exchange k = some e → w.channel i = some ch →
      e.call mac rc a ch = (result, e', ch') →
      ProcessStep mac hc rc w (.exchange k i a) ((w.setExchange k e').setChannel i ch')
  | activate {w k i e ch result e' ch'} : w.exchange k = some e → w.channel i = some ch →
      SidecarRuntimeBridge.activate e ch = (result, e', ch') →
      ProcessStep mac hc rc w (.activate k i)
        (((w.setExchange k e').setChannel i ch').activated i result)
  | use {w i ch ch'} : w.channel i = some ch → ch.Use mac ch' →
      ProcessStep mac hc rc w (.use i) (w.setChannel i ch')
  | observe {w n i b event} : w.bridges[n]? = some (i, b) →
      ProcessStep mac hc rc w (.observe n event)
        { w with bridges := w.bridges.set n (i, b.observeLifecycle event) }

/-- Any order of calls, starting without objects. -/
def processSystem (mac : Mac) (hc : Codec SidecarHandshakeMessage)
    (rc : Codec SidecarRuntimeMessage) : System SidecarProcess ProcessAction where
  Initial w := w = ⟨fun _ => none, fun _ => none, fun _ => none, []⟩
  Step := ProcessStep mac hc rc

/-- What a channel becomes of a call: a locked ceiling stays, and so does retirement. -/
structure AuthenticatedSidecarChannel.Follows (ch ch' : AuthenticatedSidecarChannel) : Prop where
  instanceId : ch'.instanceId = ch.instanceId
  sessionId : ch'.sessionId = ch.sessionId
  role : ch'.role = ch.role
  frozen : ch.frameLimitLocked = true →
    ch'.frameLimitLocked = true ∧ ch'.maxFrameBytes = ch.maxFrameBytes
  retired : ch.retired = true → ch'.retired = true

namespace AuthenticatedSidecarChannel

variable {mac : Mac} {ch ch' ch'' : AuthenticatedSidecarChannel}

theorem Follows.refl (ch : AuthenticatedSidecarChannel) : ch.Follows ch :=
  ⟨rfl, rfl, rfl, fun hl => ⟨hl, rfl⟩, fun hr => hr⟩

theorem Follows.trans (h : ch.Follows ch') (h' : ch'.Follows ch'') : ch.Follows ch'' where
  instanceId := h'.instanceId.trans h.instanceId
  sessionId := h'.sessionId.trans h.sessionId
  role := h'.role.trans h.role
  frozen hl := ⟨(h'.frozen (h.frozen hl).1).1,
    (h'.frozen (h.frozen hl).1).2.trans (h.frozen hl).2⟩
  retired hr := h'.retired (h.retired hr)

theorem follows_retire (ch : AuthenticatedSidecarChannel) : ch.Follows ch.retire :=
  ⟨rfl, rfl, rfl, fun hl => ⟨hl, rfl⟩, fun _ => rfl⟩

theorem follows_lock (ch : AuthenticatedSidecarChannel) : ch.Follows ch.lockFrameLimit :=
  ⟨rfl, rfl, rfl, fun _ => ⟨rfl, rfl⟩, fun hr => hr⟩

theorem follows_received (ch : AuthenticatedSidecarChannel) (sequence : UInt64) :
    ch.Follows { ch with receiveSequence := sequence } :=
  ⟨rfl, rfl, rfl, fun hl => ⟨hl, rfl⟩, fun hr => hr⟩

theorem follows_seal {payload : BoundedWriter.Serialization} {frame : Bytes}
    (h : ch.seal mac payload = .ok (frame, ch')) : ch.Follows ch' := by
  obtain ⟨-, -, -, -, -, rfl⟩ := seal_eq_ok.mp h
  exact ⟨rfl, rfl, rfl, fun hl => ⟨hl, rfl⟩, fun hr => hr⟩

theorem follows_open (mac : Mac) {α : Type} (decode : Bytes → Option α)
    (ch : AuthenticatedSidecarChannel) (frame : Bytes) :
    ch.Follows (ch.open mac decode frame).2 := by
  rcases open_cases mac decode ch frame with ⟨_, ho⟩ | ⟨_, _, _, _, _, ho⟩ | ⟨_, _, ho⟩ <;> rw [ho]
  · exact .refl ch
  · exact follows_received ch _
  · exact follows_retire ch

theorem follows_lower {limit : UInt32} (h : ch.lowerFrameLimit limit = .ok ch') :
    ch.Follows ch' := by
  obtain ⟨hunlocked, -, _, rfl⟩ := lowerFrameLimit_eq_ok h
  exact ⟨rfl, rfl, rfl, fun hl => absurd (hunlocked.symm.trans hl) (by decide), fun hr => hr⟩

theorem follows_apply {n : NegotiatedSidecarProtocol}
    (h : ch.applyNegotiatedProtocol n = .ok ch') : ch.Follows ch' := by
  obtain ⟨hunlocked, -, _, rfl⟩ := applyNegotiatedProtocol_eq_ok h
  exact ⟨rfl, rfl, rfl, fun hl => absurd (hunlocked.symm.trans hl) (by decide), fun hr => hr⟩

theorem Use.follows (h : Use mac ch ch') : ch.Follows ch' := by
  cases h with
  | sealPayload hs => exact follows_seal hs
  | openFrame => exact follows_open mac _ ch _
  | retire => exact follows_retire ch
  | lowerFrameLimit hl => exact follows_lower hl
  | applyNegotiatedProtocol ha => exact follows_apply ha
  | lockFrameLimit => exact follows_lock ch

end AuthenticatedSidecarChannel

open AuthenticatedSidecarChannel (Follows follows_retire follows_lock follows_open follows_seal
  follows_apply follows_received)

variable {mac : Mac} {hc : Codec SidecarHandshakeMessage} {rc : Codec SidecarRuntimeMessage}
  {ch : AuthenticatedSidecarChannel}

theorem SidecarHandshake.follows_call (h : SidecarHandshake) (a : SidecarHandshake.Call) :
    ch.Follows (h.call mac hc a ch).2.2 := by
  cases a with
  | start =>
    show ch.Follows (h.start mac hc ch).2.2
    unfold SidecarHandshake.start
    split
    · exact follows_retire ch
    · repeat' split
      any_goals exact follows_retire ch
      next hs => exact follows_seal hs
  | receive frame =>
    show ch.Follows (h.receive mac hc ch frame).2.2
    have hopen := follows_open mac hc.deserialize ch frame
    unfold SidecarHandshake.receive
    split
    · exact follows_retire ch
    · split
      · exact follows_retire ch
      · split
        · next ho =>
          rw [ho] at hopen
          exact hopen.trans (follows_retire _)
        · next ho =>
          rw [ho] at hopen
          split
          · exact hopen.trans (follows_retire _)
          · next hm =>
            rcases SidecarHandshake.receiveMessage_eq_ok hm with
              ⟨_, _, _, _, hacc, _⟩ | ⟨_, _, _, _, hconf, _⟩
            · exact hopen.trans (follows_seal hacc.seals)
            · exact hopen.trans (follows_apply hconf.applies)
  | completeAcceptance =>
    show ch.Follows (h.completeAcceptance ch).2.2
    unfold SidecarHandshake.completeAcceptance
    split
    · exact follows_retire ch
    · repeat' split
      any_goals exact follows_retire ch
      next ha => exact follows_apply ha

theorem SidecarConfigurationExchange.follows_call (e : SidecarConfigurationExchange)
    (a : SidecarConfigurationExchange.Call) : ch.Follows (e.call mac rc a ch).2.2 := by
  cases a with
  | start c =>
    show ch.Follows (e.start mac rc ch c).2.2
    unfold SidecarConfigurationExchange.start
    dsimp only
    repeat' split
    any_goals exact follows_retire ch
    · exact (follows_lock ch).trans (follows_retire _)
    · exact (follows_lock ch).trans (follows_retire _)
    · next hs => exact (follows_lock ch).trans (follows_seal hs)
  | receive frame =>
    show ch.Follows (e.receive mac rc ch frame).2.2
    have hopen := (follows_lock ch).trans (follows_open mac rc.deserialize ch.lockFrameLimit frame)
    unfold SidecarConfigurationExchange.receive
    split
    · exact follows_retire ch
    · split
      · exact follows_retire ch
      · split
        · next ho =>
          rw [ho] at hopen
          exact hopen.trans (follows_retire _)
        · next ho =>
          rw [ho] at hopen
          split
          · exact hopen.trans (follows_retire _)
          · exact hopen
  | acknowledge manifest =>
    show ch.Follows (e.acknowledge mac rc ch manifest).2.2
    unfold SidecarConfigurationExchange.acknowledge
    repeat' split
    any_goals exact follows_retire ch
    next hs => exact follows_seal hs
  | completeAcknowledgement =>
    show ch.Follows (e.completeAcknowledgement ch).2.2
    unfold SidecarConfigurationExchange.completeAcknowledgement
    repeat' split
    any_goals exact follows_retire ch
    exact .refl ch

theorem SidecarRuntimeBridge.follows_activate (e : SidecarConfigurationExchange) :
    ch.Follows (SidecarRuntimeBridge.activate e ch).2.2 := by
  rcases SidecarRuntimeBridge.activate_cases e ch with
    ⟨_, ha⟩ | ⟨_, _, ha⟩ | ⟨_, _, _, ha⟩ | ⟨_, _, _, _, _, ha⟩ <;> rw [ha]
  · exact follows_retire ch
  · exact .refl ch
  · exact .refl ch
  · exact .refl ch

/-- What a step does to each channel there is. -/
theorem ProcessStep.follows {w w' : SidecarProcess} {a : ProcessAction}
    (hs : ProcessStep mac hc rc w a w') {i : UInt64} (hch : w.channel i = some ch) :
    ∃ ch', w'.channel i = some ch' ∧ ch.Follows ch' := by
  have hset : ∀ j ch₀ ch', w.channel j = some ch₀ → ch₀.Follows ch' →
      ∃ ch'', Function.update w.channel j (some ch') i = some ch'' ∧ ch.Follows ch'' := by
    intro j ch₀ ch' hj hf
    by_cases hi : i = j
    · subst hi
      rw [hch] at hj
      cases hj
      exact ⟨ch', by simp, hf⟩
    · exact ⟨ch, by simp [hi, hch], .refl ch⟩
  have hsame : ∃ ch', w.channel i = some ch' ∧ ch.Follows ch' := ⟨ch, hch, .refl ch⟩
  cases hs with
  | @createChannel j _ _ _ _ _ new _ hj _ =>
    have hi : i ≠ j := by
      rintro rfl
      simp [hch] at hj
    exact ⟨ch, by simp [SidecarProcess.setChannel, hi, hch], .refl ch⟩
  | newHandshake _ _ => exact hsame
  | @handshake k j a h ch₀ result h' ch' _ hj hres =>
    have hf : ch₀.Follows (h.call mac hc a ch₀).2.2 := h.follows_call a
    rw [hres] at hf
    exact hset j ch₀ ch' hj hf
  | newExchange _ _ _ => exact hsame
  | newExchangeFailed _ _ => exact hsame
  | @exchange k j a e ch₀ result e' ch' _ hj hres =>
    have hf : ch₀.Follows (e.call mac rc a ch₀).2.2 := e.follows_call a
    rw [hres] at hf
    exact hset j ch₀ ch' hj hf
  | @activate k j e ch₀ result e' ch' _ hj hres =>
    have hf : ch₀.Follows (SidecarRuntimeBridge.activate e ch₀).2.2 :=
      SidecarRuntimeBridge.follows_activate e
    rw [hres] at hf
    cases result <;> exact hset j ch₀ ch' hj hf
  | @use j ch₀ ch' hj hu => exact hset j ch₀ ch' hj hu.follows
  | observe _ => exact hsame

/-- Channels stay, and keep their locked ceiling, through any run. -/
theorem process_follows {w w' : SidecarProcess} (hr : (processSystem mac hc rc).Run w w')
    {i : UInt64} (hch : w.channel i = some ch) : ∃ ch', w'.channel i = some ch' ∧ ch.Follows ch' := by
  refine hr.stable (P := fun w' => ∃ ch', w'.channel i = some ch' ∧ ch.Follows ch') ?_
    ⟨ch, hch, .refl ch⟩
  rintro w a w' hs ⟨ch', hch', hf⟩
  obtain ⟨ch'', hch'', hf'⟩ := ProcessStep.follows hs hch'
  exact ⟨ch'', hch'', hf.trans hf'⟩

/-- A channel that was not there has just been created. -/
theorem ProcessStep.created {w w' : SidecarProcess} {a : ProcessAction}
    (hs : ProcessStep mac hc rc w a w') {i : UInt64} (hnone : w.channel i = none)
    (hch : w'.channel i = some ch) : ch.instanceId = i := by
  have hset : ∀ j ch₀ ch', w.channel j = some ch₀ →
      Function.update w.channel j (some ch') i = some ch → ch.instanceId = i := by
    intro j ch₀ ch' hj hch
    by_cases hi : i = j
    · subst hi
      simp [hnone] at hj
    · simp [hi, hnone] at hch
  have hsame : w.channel i = some ch → ch.instanceId = i := by simp [hnone]
  cases hs with
  | @createChannel j _ _ _ _ _ new _ _ hnew =>
    by_cases hi : i = j
    · subst hi
      simp only [SidecarProcess.setChannel, Function.update_self, Option.some.injEq] at hch
      subst hch
      exact (AuthenticatedSidecarChannel.new_eq_ok hnew).2.2.instanceId
    · simp [SidecarProcess.setChannel, hi, hnone] at hch
  | newHandshake _ _ => exact hsame hch
  | handshake _ hj _ => exact hset _ _ _ hj hch
  | newExchange _ _ _ => exact hsame hch
  | newExchangeFailed _ _ => exact hsame hch
  | exchange _ hj _ => exact hset _ _ _ hj hch
  | @activate _ _ _ _ result _ _ _ hj _ => cases result <;> exact hset _ _ _ hj hch
  | use hj _ => exact hset _ _ _ hj hch
  | observe _ => exact hsame hch

/-- Channels are kept under the identifier they were created with. -/
theorem process_named {w : SidecarProcess} (hw : (processSystem mac hc rc).Reachable w) :
    ∀ i ch, w.channel i = some ch → ch.instanceId = i := by
  refine hw.invariant (P := fun w => ∀ i ch, w.channel i = some ch → ch.instanceId = i) ?_ ?_
  · rintro w rfl i ch hch
    cases hch
  · intro w a w' hs hn i ch hch
    cases hw : w.channel i with
    | some ch₀ =>
      obtain ⟨ch', hch', hf⟩ := ProcessStep.follows hs hw
      rw [hch] at hch'
      cases hch'
      exact hf.instanceId.trans (hn i ch₀ hw)
    | none => exact ProcessStep.created hs hw hch

end OpenclawNode.Sidecar
