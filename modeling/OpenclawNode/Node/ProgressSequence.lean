import OpenclawNode.Node.ProgressOrder

/-! The sequence numbers of an invocation's progress on the wire. -/
namespace OpenclawNode.Node

open Gateway
open Transition (System)

variable {invocation : NodeInvocation} {n : Nat} {writeTimeout requestTimeout : Nanos}
  {w w' : DuplexRun} {a : DuplexAction}

/-- A progress frame is begun only when every frame of the invocation that is on the wire has been
acknowledged, and none that was given up can still be written. -/
def DuplexAction.Acknowledged (invocation : NodeInvocation) (w : DuplexRun) : DuplexAction → Prop
  | .begin _ _ => (w.frames invocation).length = w.seq.toNat ∧
      ∀ i ∈ w.begun, ¬ w.session.Live i
  | _ => True

def acknowledgedSystem (invocation : NodeInvocation) (n : Nat)
    (writeTimeout requestTimeout : Nanos) : System DuplexRun DuplexAction where
  Initial := (duplexSystem invocation n writeTimeout requestTimeout).Initial
  Step w a w' := DuplexStep invocation (max n 1) writeTimeout requestTimeout w a w' ∧
    a.Acknowledged invocation w

/-- Frames of one number have one content, and the numbers go from zero without gaps. -/
structure Sequenced (frames : List (UInt64 × String)) : Prop where
  content : ∀ f ∈ frames, ∀ g ∈ frames, f.1 = g.1 → f.2 = g.2
  first : ∀ f ∈ frames.head?, f.1 = 0
  steps : (frames.map fun f => f.1.toNat).IsChain fun a b => b = a ∨ b = a + 1

/-- The frames are numbered from zero. -/
def Counted (frames : List (UInt64 × String)) : Prop :=
  frames.map (fun f => f.1.toNat) = List.range frames.length

theorem Counted.sequenced {frames : List (UInt64 × String)} (h : Counted frames) :
    Sequenced frames := by
  have hget : ∀ m (hm : m < frames.length), frames[m].1.toNat = m := by
    intro m hm
    have hm' := congrArg (fun l => l[m]?) h
    simpa [hm] using hm'
  constructor
  case content =>
    intro f hf g hg he
    obtain ⟨m, hm, rfl⟩ := List.getElem_of_mem hf
    obtain ⟨k, hk, rfl⟩ := List.getElem_of_mem hg
    have hsame : m = k := by
      rw [← hget m hm, he, hget k hk]
    subst hsame
    rfl
  case first =>
    intro f hf
    cases frames with
    | nil => cases hf
    | cons f' frames =>
      cases hf
      exact UInt64.toNat_inj.mp (hget 0 (Nat.zero_lt_succ _))
  case steps =>
    rw [h]
    cases hl : frames.length with
    | zero => exact List.IsChain.nil
    | succ m =>
      rw [List.isChain_range_succ]
      exact fun _ _ => Or.inr rfl

theorem Counted.snoc {frames : List (UInt64 × String)} (h : Counted frames) {seq : UInt64}
    (hseq : frames.length = seq.toNat) (chunk : String) : Counted (frames ++ [(seq, chunk)]) := by
  rw [Counted, List.map_append, h, List.length_append, List.length_singleton,
    List.range_succ, hseq]
  rfl

theorem Counted.lt {frames : List (UInt64 × String)} (h : Counted frames) {seq : UInt64}
    {chunk : String} (hm : (seq, chunk) ∈ frames) : seq.toNat < frames.length := by
  have hnat : seq.toNat ∈ frames.map fun f => f.1.toNat := List.mem_map_of_mem hm
  rw [h] at hnat
  exact List.mem_range.mp hnat

/-- The caller carries the frame that is to be numbered next. -/
def DuplexRun.Carries (invocation : NodeInvocation) (w : DuplexRun) (i : Nat) : Prop :=
  ∃ c chunk, w.session.callers i = some c ∧ c.method = "node.invoke.progress" ∧
    c.params = progressParams invocation w.seq chunk

structure DuplexRun.Numbered (invocation : NodeInvocation) (w : DuplexRun) : Prop where
  tracked : w.Tracked invocation
  counted : Counted (w.frames invocation)
  live : ∀ i ∈ w.begun, w.session.Live i → (w.frames invocation).length = w.seq.toNat ∧
    w.Carries invocation i ∧ ∀ j ∈ w.begun, w.session.Live j → j = i
  holder : ∀ k chunks i, w.senders k = some ⟨chunks, .requesting i⟩ →
    w.locked = true ∧ w.Carries invocation i
  alone : ∀ k k' chunks chunks' i i', w.senders k = some ⟨chunks, .requesting i⟩ →
    w.senders k' = some ⟨chunks', .requesting i'⟩ → k = k'

theorem DuplexRun.Numbered.session {s' : SessionRun} {a : SessionActor} (h : w.Numbered invocation)
    (ht : DuplexRun.Tracked invocation { w with session := s' }) (hf : w.session.Follows s' a) :
    DuplexRun.Numbered invocation { w with session := s' } := by
  have hcarries : ∀ i, w.Carries invocation i →
      DuplexRun.Carries invocation { w with session := s' } i := by
    rintro i ⟨c, chunk, hc, hm, hp⟩
    obtain ⟨c', hc', hm', hp', -⟩ := hf.callers i c hc
    exact ⟨c', chunk, hc', hm'.trans hm, hp'.trans hp⟩
  have hlive : ∀ i ∈ w.begun, s'.Live i → w.session.Live i := by
    intro i hi hl
    rcases hf.live i hl with hl | hn
    · exact hl
    · obtain ⟨c, hc⟩ := h.tracked.known i hi
      rw [hn] at hc
      cases hc
  have hholder : ∀ k chunks i, w.senders k = some ⟨chunks, .requesting i⟩ →
      w.locked = true ∧ DuplexRun.Carries invocation { w with session := s' } i :=
    fun k chunks i hk => ⟨(h.holder k chunks i hk).1, hcarries i (h.holder k chunks i hk).2⟩
  -- Either the frames stay, or the one caller that is left writes the next of them.
  have hsame : DuplexRun.frames invocation { w with session := s' } = w.frames invocation →
      DuplexRun.Numbered invocation { w with session := s' } := by
    intro he
    refine ⟨ht, by rw [he]; exact h.counted, ?_, hholder, h.alone⟩
    intro i hi hl
    obtain ⟨hlen, hc, honly⟩ := h.live i hi (hlive i hi hl)
    rw [he]
    exact ⟨hlen, hcarries i hc, fun j hj hlj => honly j hj (hlive j hj hlj)⟩
  rcases hf.wire with hwire | ⟨r, c, hc, hl, hnot, hwire⟩
  · exact hsame (by simp only [DuplexRun.frames, hwire])
  · cases hprogress : progressOf invocation c.method c.params with
    | none => exact hsame (by simp [DuplexRun.frames, hwire, hprogress])
    | some frame =>
      have hi := h.tracked.progress r.caller c hc (by rw [hprogress]; rfl)
      obtain ⟨hlen, ⟨d, chunk, hd, hm, hp⟩, honly⟩ := h.live r.caller hi hl
      rw [hc] at hd
      cases hd
      rw [hm, hp, progressOf_params] at hprogress
      have he : DuplexRun.frames invocation { w with session := s' } =
          w.frames invocation ++ [(w.seq, chunk)] := by
        simp [DuplexRun.frames, hwire, hm, hp]
      refine ⟨ht, by rw [he]; exact h.counted.snoc hlen chunk, ?_, hholder, h.alone⟩
      intro j hj hlj
      rw [honly j hj (hlive j hj hlj)] at hlj
      exact absurd hlj hnot

theorem setSender_self {k : Nat} {sender : ProgressSender} :
    (w.setSender k sender).senders k = some sender := by
  simp [DuplexRun.setSender]

theorem setSender_ne {k k' : Nat} {sender : ProgressSender} (hk : k' ≠ k) :
    (w.setSender k sender).senders k' = w.senders k' := by
  simp [DuplexRun.setSender, Function.update_of_ne hk]

theorem live_setCaller {s : SessionRun} {i j : Nat} {c : Caller} (hj : j ≠ i)
    (hl : (s.setCaller i c).Live j) : s.Live j := by
  obtain ⟨d, hd, hp⟩ := hl
  rw [setCaller_ne hj] at hd
  exact ⟨d, hd, hp⟩

/-- A caller that is none of the invocation's progress is new. -/
theorem DuplexRun.Numbered.called {i : Nat} {c : Caller} (h : w.Numbered invocation)
    (ht : w'.Tracked invocation) (hn : w.session.callers i = none)
    (hs : w'.session = w.session.setCaller i c) (hseq : w'.seq = w.seq)
    (hbegun : w'.begun = w.begun) (hsenders : w'.senders = w.senders)
    (hlocked : w'.locked = w.locked) : w'.Numbered invocation := by
  have hframes : w'.frames invocation = w.frames invocation := by
    rw [DuplexRun.frames, hs]
    rfl
  have hcarries : ∀ j, w.Carries invocation j → w'.Carries invocation j := by
    rintro j ⟨d, chunk, hd, hm, hp⟩
    have hj : j ≠ i := by
      rintro rfl
      rw [hn] at hd
      cases hd
    refine ⟨d, chunk, ?_, hm, ?_⟩
    · rw [hs, setCaller_ne hj]
      exact hd
    · rw [hseq]
      exact hp
  have hlive : ∀ j ∈ w.begun, w'.session.Live j → w.session.Live j := by
    intro j hj hl
    obtain ⟨d, hd⟩ := h.tracked.known j hj
    refine live_setCaller ?_ (hs ▸ hl)
    rintro rfl
    rw [hn] at hd
    cases hd
  refine ⟨ht, ?_, ?_, ?_, ?_⟩
  · rw [hframes]
    exact h.counted
  · rw [hframes, hbegun, hseq]
    intro j hj hl
    obtain ⟨hlen, hc, honly⟩ := h.live j hj (hlive j hj hl)
    exact ⟨hlen, hcarries j hc, fun j' hj' hl' => honly j' hj' (hlive j' hj' hl')⟩
  · rw [hsenders, hlocked]
    intro k chunks j hk
    exact ⟨(h.holder k chunks j hk).1, hcarries j (h.holder k chunks j hk).2⟩
  · rw [hsenders]
    exact h.alone

/-- A sender that is not in a request, or leaves it. -/
theorem DuplexRun.Numbered.rests {k : Nat} {sender : ProgressSender} (h : w.Numbered invocation)
    (ht : w'.Tracked invocation) (hs : w'.session = w.session) (hseq : w'.seq = w.seq)
    (hbegun : w'.begun = w.begun)
    (hsenders : w'.senders = Function.update w.senders k (some sender))
    (hphase : ∀ i, sender.phase ≠ .requesting i)
    (hlocked : ∀ k' chunks i, k' ≠ k → w.senders k' = some ⟨chunks, .requesting i⟩ →
      w'.locked = true) : w'.Numbered invocation := by
  have hframes : w'.frames invocation = w.frames invocation := by
    rw [DuplexRun.frames, hs]
    rfl
  have hcarries : ∀ j, w.Carries invocation j → w'.Carries invocation j := by
    rintro j ⟨d, chunk, hd, hm, hp⟩
    refine ⟨d, chunk, by rw [hs]; exact hd, hm, by rw [hseq]; exact hp⟩
  have hkeeps : ∀ k' chunks i, w'.senders k' = some ⟨chunks, .requesting i⟩ →
      k' ≠ k ∧ w.senders k' = some ⟨chunks, .requesting i⟩ := by
    intro k' chunks i hk'
    rw [hsenders] at hk'
    by_cases hk : k' = k
    · subst hk
      rw [Function.update_self] at hk'
      cases hk'
      exact absurd rfl (hphase i)
    · rw [Function.update_of_ne hk] at hk'
      exact ⟨hk, hk'⟩
  refine ⟨ht, ?_, ?_, ?_, ?_⟩
  · rw [hframes]
    exact h.counted
  · rw [hframes, hbegun, hseq, hs]
    intro j hj hl
    obtain ⟨hlen, hc, honly⟩ := h.live j hj hl
    exact ⟨hlen, hcarries j hc, honly⟩
  · intro k' chunks j hk'
    obtain ⟨hk, hk'⟩ := hkeeps k' chunks j hk'
    exact ⟨hlocked k' chunks j hk hk', hcarries j (h.holder k' chunks j hk').2⟩
  · intro k₁ k₂ chunks₁ chunks₂ i₁ i₂ h₁ h₂
    exact h.alone k₁ k₂ chunks₁ chunks₂ i₁ i₂ (hkeeps _ _ _ h₁).2 (hkeeps _ _ _ h₂).2

/-- The frame whose request succeeds is on the wire, so nothing of the invocation is on its way. -/
theorem DuplexRun.Numbered.succeeds {k i : Nat} {chunk : String} {rest : List String} {c : Caller}
    {payload : Json.Value} (h : w.Numbered invocation)
    (hk : w.senders k = some ⟨chunk :: rest, .requesting i⟩) (hc : w.session.callers i = some c)
    (ho : c.observed = [.ok payload])
    (ht : DuplexRun.Tracked invocation
      { w.setSender k ⟨rest, .ready⟩ with locked := false, seq := w.seq + 1 }) :
    DuplexRun.Numbered invocation
      { w.setSender k ⟨rest, .ready⟩ with locked := false, seq := w.seq + 1 } := by
  obtain ⟨d, chunk', hd, hm, hp⟩ := (h.holder k _ i hk).2
  rw [hc] at hd
  cases hd
  have hmem : (w.seq, chunk') ∈ w.frames invocation := by
    obtain ⟨frame, hf, hfm, hfp⟩ := h.tracked.tidy.answered i c payload hc
      (Or.inr (by rw [ho]; exact List.mem_cons_self))
    refine List.mem_filterMap.mpr ⟨frame, hf, ?_⟩
    rw [hfm, hfp, hm, hp, progressOf_params]
  have hnone : ∀ j ∈ w.begun, ¬ w.session.Live j := by
    intro j hj hl
    exact absurd (h.live j hj hl).1 (h.counted.lt hmem).ne'
  have hnobody : ∀ k' chunks j,
      (w.setSender k ⟨rest, .ready⟩).senders k' ≠ some ⟨chunks, .requesting j⟩ := by
    intro k' chunks j hk'
    by_cases hkk : k' = k
    · subst hkk
      rw [setSender_self] at hk'
      cases hk'
    · rw [setSender_ne hkk] at hk'
      exact hkk (h.alone _ _ _ _ _ _ hk' hk)
  exact ⟨ht, h.counted, fun j hj hl => absurd hl (hnone j hj),
    fun k' chunks j hk' => absurd hk' (hnobody k' chunks j),
    fun k' _ chunks _ j _ hk' _ => absurd hk' (hnobody k' chunks j)⟩

/-- The request that is begun is the only one that can still be written. -/
theorem DuplexRun.Numbered.begins {k i : Nat} {chunk : String} {rest : List String}
    {deadline : Nanos} (h : w.Numbered invocation) (hlock : w.locked = false)
    (hn : w.session.callers i = none)
    (hacknowledged : (DuplexAction.begin k i).Acknowledged invocation w)
    (ht : DuplexRun.Tracked invocation { w.setSender k ⟨chunk :: rest, .requesting i⟩ with
      locked := true
      session := w.session.setCaller i (.fresh "node.invoke.progress"
        (progressParams invocation w.seq chunk) deadline false)
      begun := w.begun ++ [i] }) :
    DuplexRun.Numbered invocation { w.setSender k ⟨chunk :: rest, .requesting i⟩ with
      locked := true
      session := w.session.setCaller i (.fresh "node.invoke.progress"
        (progressParams invocation w.seq chunk) deadline false)
      begun := w.begun ++ [i] } := by
  obtain ⟨hlen, hidle⟩ := hacknowledged
  have hcarries : DuplexRun.Carries invocation { w.setSender k ⟨chunk :: rest, .requesting i⟩ with
      locked := true
      session := w.session.setCaller i (.fresh "node.invoke.progress"
        (progressParams invocation w.seq chunk) deadline false)
      begun := w.begun ++ [i] } i := ⟨_, chunk, setCaller_self, rfl, rfl⟩
  have honly : ∀ j ∈ w.begun ++ [i], (w.session.setCaller i (.fresh "node.invoke.progress"
      (progressParams invocation w.seq chunk) deadline false)).Live j → j = i := by
    intro j hj hl
    by_contra hne
    rcases List.mem_append.mp hj with hj | hj
    · exact hidle j hj (live_setCaller hne hl)
    · exact hne (List.mem_singleton.mp hj)
  have hholds : ∀ k' chunks j, (w.setSender k ⟨chunk :: rest, .requesting i⟩).senders k' =
      some ⟨chunks, .requesting j⟩ → k' = k ∧ j = i := by
    intro k' chunks j hk'
    by_cases hkk : k' = k
    · subst hkk
      rw [setSender_self] at hk'
      cases hk'
      exact ⟨rfl, rfl⟩
    · rw [setSender_ne hkk] at hk'
      rw [(h.holder k' chunks j hk').1] at hlock
      cases hlock
  refine ⟨ht, h.counted, ?_, ?_, ?_⟩
  · intro j hj hl
    obtain rfl := honly j hj hl
    exact ⟨hlen, hcarries, honly⟩
  · intro k' chunks j hk'
    obtain ⟨-, rfl⟩ := hholds k' chunks j hk'
    exact ⟨rfl, hcarries⟩
  · intro k₁ k₂ chunks₁ chunks₂ i₁ i₂ h₁ h₂
    rw [(hholds _ _ _ h₁).1, (hholds _ _ _ h₂).1]

theorem numbered_step
    (hs : (acknowledgedSystem invocation n writeTimeout requestTimeout).Step w a w')
    (h : w.Numbered invocation) : w'.Numbered invocation := by
  obtain ⟨hs, hacknowledged⟩ := hs
  have ht := tracked_step hs h.tracked
  have hheld : ∀ k' chunks i, w.senders k' = some ⟨chunks, .requesting i⟩ → w.locked = true :=
    fun k' chunks i hk' => (h.holder k' chunks i hk').1
  cases hs with
  | session hs hnone => exact h.session ht (follows_step h.tracked.tidy hs)
  | request c s' hs hn he hp hr => exact h.called ht hn he rfl rfl rfl rfl
  | begin hsend hlock hactive hn => exact h.begins hlock hn hacknowledged ht
  | complete params hnone hend hn hr => exact h.called ht hn rfl rfl rfl rfl rfl
  | succeed hk hc hp ho => exact h.succeeds hk hc ho ht
  | stop | cancel => exact ⟨ht, h.counted, h.live, h.holder, h.alone⟩
  | fail hk hc hp ho | dropRequesting hk hc hp ho =>
    refine h.rests ht rfl rfl rfl rfl (fun _ => by simp) ?_
    intro k' chunks i hne hk'
    exact absurd (h.alone _ _ _ _ _ _ hk' hk) hne
  | write | heartbeat | check | checkEnded | beginEnded | dropWaiting =>
    exact h.rests ht rfl rfl rfl rfl (fun _ => by simp) fun k' chunks i _ hk' =>
      hheld k' chunks i hk'

theorem numbered_initial (hw : w.Initial n writeTimeout) : w.Numbered invocation := by
  have ht : w.Tracked invocation := tracked_initial hw
  obtain ⟨⟨now, params, hs⟩, he⟩ := hw
  have hframes : w.frames invocation = [] := by
    have hconnect : progressOf invocation "connect" params = none := by
      unfold progressOf
      split
      · rw [if_neg]
        simp
      · rfl
    simp [DuplexRun.frames, hs, hconnect]
  have hbegun : w.begun = [] := by rw [he]
  have hsenders : ∀ k, w.senders k = none := fun k => by rw [he]
  refine ⟨ht, ?_, ?_, ?_, ?_⟩
  · rw [hframes]
    rfl
  · intro i hi
    rw [hbegun] at hi
    cases hi
  · intro k chunks i hk
    rw [hsenders] at hk
    cases hk
  · intro k k' chunks chunks' i i' hk
    rw [hsenders] at hk
    cases hk

/-- Progress numbers: in every run in which a progress frame is begun only when all of them on the
wire are acknowledged and none is on its way, no two frames of one number differ, and the numbers go
from zero without gaps. -/
theorem progress_sequenced (invocation : NodeInvocation) (n : Nat)
    (writeTimeout requestTimeout : Nanos) (w : DuplexRun)
    (hw : (acknowledgedSystem invocation n writeTimeout requestTimeout).Reachable w) :
    Sequenced (w.frames invocation) := by
  have h : w.Numbered invocation :=
    hw.invariant (fun _ hi => numbered_initial hi) (fun _ _ _ hs h => numbered_step hs h)
  exact h.counted.sequenced

theorem acknowledged_takes : TakesFree invocation (max n 1) writeTimeout requestTimeout
    (acknowledgedSystem invocation n writeTimeout requestTimeout) := by
  intro w a w' ha hs
  cases a <;> first | exact ⟨hs, trivial⟩ | cases ha

theorem acknowledged_reachable
    (hw : (acknowledgedSystem invocation n writeTimeout requestTimeout).Reachable w) :
    (duplexSystem invocation n writeTimeout requestTimeout).Reachable w :=
  System.Reachable.mono (S := acknowledgedSystem invocation n writeTimeout requestTimeout)
    (fun _ hi => hi) (fun _ a _ hs => ⟨a, hs.1⟩) hw

/-- A write that is acknowledged leaves the next number to the next one. -/
theorem second_sequenced : ∃ w : DuplexRun,
    (acknowledgedSystem duplexInvocation 2 1 1).Reachable w ∧
    w.frames duplexInvocation = [(0, "a"), (1, "b")] ∧ Sequenced (w.frames duplexInvocation) := by
  let S := acknowledgedSystem duplexInvocation 2 1 1
  have hS : TakesFree duplexInvocation 2 1 1 S := acknowledged_takes (n := 2)
  have htidy : ∀ {w}, S.Reachable w → w.session.Tidy := fun hw =>
    (tracked_reachable (acknowledged_reachable hw)).tidy
  have hbegun : S.Reachable _ := (System.Reachable.initial duplexStart_initial).run
    (run_of_write 0 0 "a" hS (fun _ _ hs => ⟨hs, rfl, fun _ hi => by cases hi⟩) rfl rfl rfl
      (by rintro (h | h) <;> cases h) rfl)
  obtain ⟨w, hw, hs, hsender, hother, hseq, hb, hactive⟩ : ∃ w, S.Reachable w ∧
      w.session = duplexStart.session.setCaller 0 firstProgress ∧
      w.senders 0 = some ⟨["a"], .requesting 0⟩ ∧ w.senders 1 = none ∧ w.seq = 0 ∧
      w.begun = [0] ∧ ¬ w.Ended :=
    ⟨_, hbegun, rfl, rfl, rfl, rfl, rfl, by rintro (h | h) <;> cases h⟩
  -- the first frame is written and acknowledged
  let sent : Caller := { firstProgress with id := some (requestId 1), phase := .waitingReply }
  let r : Request := duplexStart.session.nextRequest 0 firstProgress 0
  have hwrite : Relation.ReflTransGen (Quiet 2 1) w.session
      (w.session.wrote 0 firstProgress 0 [1]) := by
    have ht := htidy hw
    rw [hs] at ht ⊢
    refine caller_writes (by decide) ht rfl rfl rfl rfl rfl rfl rfl (by decide) ?_
    intro r hr
    cases hr
  have hw₁ := hw.run (run_of_quiet hS hwrite)
  have hreturn : Relation.ReflTransGen (Quiet 2 1) (w.session.wrote 0 firstProgress 0 [1])
      ((w.session.wrote 0 firstProgress 0 [1]).returned 0 sent r .null) := by
    have ht := htidy hw₁
    rw [hs] at ht ⊢
    exact caller_returns .null ht rfl rfl rfl rfl rfl
  obtain ⟨s, hs₂⟩ : ∃ s, s = (w.session.wrote 0 firstProgress 0 [1]).returned 0 sent r .null :=
    ⟨_, rfl⟩
  have hw₂ : S.Reachable { w with session := s } := by
    rw [hs₂]
    exact hw₁.run (run_of_quiet hS hreturn)
  rw [hs] at hs₂
  have hcaller : s.callers 0 = some { sent with
      phase := .done, reply := .value (.ok .null), observed := [.ok .null] } := by
    rw [hs₂]
    rfl
  obtain ⟨w₃, hw₃, hs₃, hother₃, hseq₃, hb₃, hlock₃, hactive₃⟩ : ∃ w₃, S.Reachable w₃ ∧
      w₃.session = s ∧ w₃.senders 1 = none ∧ w₃.seq = 1 ∧ w₃.begun = [0] ∧ w₃.locked = false ∧
      ¬ w₃.Ended := by
    refine ⟨_, hw₂.step (hS _ (.succeed 0) _ trivial (.succeed hsender hcaller rfl rfl)), rfl, ?_,
      ?_, hb, rfl, hactive⟩
    · show Function.update w.senders 0 (some ⟨[], .ready⟩) 1 = none
      rw [Function.update_of_ne Nat.one_ne_zero]
      exact hother
    · show w.seq + 1 = 1
      rw [hseq]
      rfl
  -- and the next one takes the next number
  have hacknowledged : w₃.frames duplexInvocation = [(0, "a")] ∧ ¬ w₃.session.Live 0 := by
    rw [DuplexRun.frames, hs₃, hs₂]
    refine ⟨rfl, ?_⟩
    rintro ⟨c, hc, hp⟩
    rw [← hs₂] at hc
    cases hcaller.symm.trans hc
    rcases hp with hp | hp | ⟨-, r, hr, -⟩ | ⟨r, hr, -⟩
    · cases hp
    · cases hp
    · cases hr
    · cases hr
  have hbegun₃ := hw₃.run (run_of_write 1 1 "b" hS (fun sender w' hstep => ⟨hstep, by
      show (w₃.frames duplexInvocation).length = w₃.seq.toNat
      rw [hacknowledged.1, hseq₃]
      rfl, fun i hi => by
      obtain rfl := List.mem_singleton.mp (hb₃ ▸ hi)
      exact hacknowledged.2⟩) hother₃ (by rw [hs₃, hs₂]; rfl) hlock₃ hactive₃ rfl)
  obtain ⟨w₄, hw₄, hs₄⟩ : ∃ w₄, S.Reachable w₄ ∧ w₄.session = s.setCaller 1
      (.fresh "node.invoke.progress" (progressParams duplexInvocation 1 "b") 1 false) := by
    refine ⟨_, hbegun₃, ?_⟩
    show w₃.session.setCaller 1 (.fresh "node.invoke.progress"
      (progressParams duplexInvocation w₃.seq "b") (w₃.session.now + 1) false) = _
    rw [hseq₃, hs₃, hs₂]
    rfl
  rw [hs₂] at hs₄
  have hlast : Relation.ReflTransGen (Quiet 2 1) w₄.session (w₄.session.wrote 1
      (.fresh "node.invoke.progress" (progressParams duplexInvocation 1 "b") 1 false) 1 [0]) := by
    have ht := htidy hw₄
    rw [hs₄] at ht ⊢
    refine caller_writes (by decide) ht rfl rfl rfl rfl rfl rfl rfl (by decide) ?_
    intro r hr
    cases hr
  have hw₅ := hw₄.run (run_of_quiet hS hlast)
  refine ⟨_, hw₅, ?_, progress_sequenced duplexInvocation 2 1 1 _ hw₅⟩
  rw [hs₄]
  rfl

/-- A frame that was written and given up leaves its number to another. -/
theorem number_reused : ¬ ∀ (invocation : NodeInvocation) (n : Nat)
    (writeTimeout requestTimeout : Nanos) (w : DuplexRun),
    (duplexSystem invocation n writeTimeout requestTimeout).Reachable w →
      Sequenced (w.frames invocation) := by
  intro h
  let S := duplexSystem duplexInvocation 2 1 1
  have hS : TakesFree duplexInvocation 2 1 1 S := duplexSystem_takes (n := 2)
  obtain ⟨w, hw, hsession, hsenders, hseq, -, hactive, -⟩ := duplex_begins
  -- the first frame is written
  have hwrite : Relation.ReflTransGen (Quiet 2 1) w.session
      (w.session.wrote 0 firstProgress 0 [1]) := by
    have ht := (tracked_reachable hw).tidy
    rw [hsession] at ht ⊢
    refine caller_writes (by decide) ht rfl rfl rfl rfl rfl rfl rfl (by decide) ?_
    intro r hr
    cases hr
  obtain ⟨s₁, hs₁⟩ : ∃ s₁, s₁ = w.session.wrote 0 firstProgress 0 [1] := ⟨_, rfl⟩
  have hw₁ : S.Reachable { w with session := s₁ } := by
    rw [hs₁]
    exact hw.run (run_of_quiet hS hwrite)
  rw [hsession] at hs₁
  -- and its request given up
  let sent : Caller := { firstProgress with id := some (requestId 1), phase := .waitingReply }
  let r : Request := duplexStart.session.nextRequest 0 firstProgress 0
  have hforget : Relation.ReflTransGen (Quiet 2 1) s₁ (s₁.forgot 0 sent r) := by
    have ht := (tracked_reachable hw₁).tidy
    rw [hs₁] at ht ⊢
    exact caller_forgets (by decide) ht rfl rfl rfl rfl rfl rfl rfl rfl
  obtain ⟨s₂, hs₂⟩ : ∃ s₂, s₂ = s₁.forgot 0 sent r := ⟨_, rfl⟩
  have hw₂ : S.Reachable { w with session := s₂ } := by
    rw [hs₂]
    exact hw₁.run (run_of_quiet hS hforget)
  rw [hs₁] at hs₂
  obtain ⟨w₃, hw₃, hs₃, hother, hseq₃, hlock, hactive₃⟩ : ∃ w₃, S.Reachable w₃ ∧
      w₃.session = s₂ ∧ w₃.senders 1 = none ∧ w₃.seq = 0 ∧ w₃.locked = false ∧ ¬ w₃.Ended := by
    have hsender : w.senders 0 = some ⟨["a"], .requesting 0⟩ := by
      rw [hsenders]
      rfl
    have hcaller : s₂.callers 0 =
        some { sent with phase := .done, cancelled := true, reply := .closed } := by
      rw [hs₂]
      rfl
    refine ⟨_, hw₂.step (a := DuplexAction.drop 0) (.dropRequesting hsender hcaller rfl rfl), rfl, ?_,
      hseq, rfl, hactive⟩
    show Function.update w.senders 0 (some ⟨["a"], .done⟩) 1 = none
    rw [Function.update_of_ne Nat.one_ne_zero, hsenders]
    rfl
  -- another text takes the number
  have hbegun := hw₃.run (run_of_write 1 1 "b" hS (fun _ _ hs => hs) hother
    (by rw [hs₃, hs₂]; rfl) hlock hactive₃ rfl)
  let second : Caller := .fresh "node.invoke.progress" (progressParams duplexInvocation 0 "b") 1 false
  obtain ⟨w₄, hw₄, hs₄⟩ : ∃ w₄, S.Reachable w₄ ∧ w₄.session = s₂.setCaller 1 second := by
    refine ⟨_, hbegun, ?_⟩
    show w₃.session.setCaller 1 (.fresh "node.invoke.progress"
      (progressParams duplexInvocation w₃.seq "b") (w₃.session.now + 1) false) = _
    rw [hseq₃, hs₃, hs₂]
    rfl
  rw [hs₂] at hs₄
  have hwrite : Relation.ReflTransGen (Quiet 2 1) w₄.session (w₄.session.wrote 1 second 1 [0]) := by
    have ht := (tracked_reachable hw₄).tidy
    rw [hs₄] at ht ⊢
    refine caller_writes (by decide) ht rfl rfl rfl rfl rfl rfl rfl (by decide) ?_
    intro r hr
    cases hr
  have hreused := h duplexInvocation 2 1 1 _ (hw₄.run (run_of_quiet hS hwrite))
  have hframes : DuplexRun.frames duplexInvocation
      { w₄ with session := w₄.session.wrote 1 second 1 [0] } = [(0, "a"), (0, "b")] := by
    rw [hs₄]
    rfl
  rw [hframes] at hreused
  exact absurd (hreused.content (0, "a") (by simp) (0, "b") (by simp) rfl) (by decide)

end OpenclawNode.Node
