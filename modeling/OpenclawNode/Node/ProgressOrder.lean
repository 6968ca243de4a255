import OpenclawNode.Gateway.FrameWrites
import OpenclawNode.Node.Duplex

/-! The order of an invocation's progress and result on the wire. -/
namespace OpenclawNode.Node

open Gateway
open Transition (System)

variable {invocation : NodeInvocation} {n : Nat} {writeTimeout requestTimeout : Nanos}
  {w w' : DuplexRun} {a : DuplexAction}

@[simp] theorem progressOf_params (invocation : NodeInvocation) (seq : UInt64) (chunk : String) :
    progressOf invocation "node.invoke.progress" (progressParams invocation seq chunk) =
      some (seq, chunk) := by
  simp [progressOf, progressParams]

@[simp] theorem isResult_progress (invocation : NodeInvocation) (params : Json.Value) :
    isResult invocation "node.invoke.progress" params = false := by
  cases params <;> simp [isResult]

@[simp] theorem progressOf_result (invocation : NodeInvocation) (params : Json.Value) :
    progressOf invocation "node.invoke.result" params = none := by
  unfold progressOf
  split
  · rw [if_neg]
    simp
  · rfl

theorem method_of_isResult {method : String} {params : Json.Value}
    (h : isResult invocation method params = true) : method = "node.invoke.result" := by
  cases params <;> simp [isResult] at h
  exact h.1

/-- The callers that carry frames of the invocation, and what ends it. -/
structure DuplexRun.Tracked (invocation : NodeInvocation) (w : DuplexRun) : Prop where
  tidy : w.session.Tidy
  progress : ∀ i c, w.session.callers i = some c →
    (progressOf invocation c.method c.params).isSome = true → i ∈ w.begun
  known : ∀ i ∈ w.begun, ∃ c, w.session.callers i = some c
  result : ∀ i c, w.session.callers i = some c → isResult invocation c.method c.params = true →
    w.result = some i
  ended : w.result ≠ none → w.Ended

/-- A step of the session that calls nothing keeps each caller's frame. -/
theorem same_frames {s s' : SessionRun} {a : SessionActor} (hf : s.Follows s' a)
    (hnone : ∀ i, s.callers i = none → s'.callers i = none) {i : Nat} {c' : Caller}
    (hc' : s'.callers i = some c') :
    ∃ c, s.callers i = some c ∧ c'.method = c.method ∧ c'.params = c.params := by
  cases hc : s.callers i with
  | none =>
    rw [hnone i hc] at hc'
    cases hc'
  | some c =>
    obtain ⟨d, hd, hm, hp, -⟩ := hf.callers i c hc
    rw [hc'] at hd
    cases hd
    exact ⟨c, rfl, hm, hp⟩

theorem fresh_tidy {s : SessionRun} {i : Nat} {method : String} {params : Json.Value}
    {deadline : Nanos} (ht : s.Tidy) (hn : s.callers i = none) :
    (s.setCaller i (.fresh method params deadline false)).Tidy :=
  tidy_caller ht (.new _ hn rfl fun _ h => by cases h)

/-- One caller is new, and carries a frame of the invocation only when that is recorded. -/
theorem DuplexRun.Tracked.called {i : Nat} {c : Caller} (h : w.Tracked invocation)
    (ht : w'.session.Tidy) (hs : w'.session.callers = (w.session.setCaller i c).callers)
    (hbegun : ∀ j ∈ w.begun, j ∈ w'.begun) (hnew : ∀ j ∈ w'.begun, j ∈ w.begun ∨ j = i)
    (hprogress : (progressOf invocation c.method c.params).isSome = true → i ∈ w'.begun)
    (hkept : w.result ≠ none → w'.result = w.result)
    (hresult : isResult invocation c.method c.params = true → w'.result = some i)
    (hended : w'.result ≠ none → w'.Ended) : w'.Tracked invocation where
  tidy := ht
  progress j d hd hp := by
    rw [hs] at hd
    by_cases hj : j = i
    · subst hj
      rw [setCaller_self] at hd
      cases hd
      exact hprogress hp
    · rw [setCaller_ne hj] at hd
      exact hbegun j (h.progress j d hd hp)
  known j hj := by
    rw [hs]
    by_cases hji : j = i
    · subst hji
      exact ⟨c, setCaller_self⟩
    · rw [setCaller_ne hji]
      exact h.known j ((hnew j hj).resolve_right hji)
  result j d hd hr := by
    rw [hs] at hd
    by_cases hj : j = i
    · subst hj
      rw [setCaller_self] at hd
      cases hd
      exact hresult hr
    · rw [setCaller_ne hj] at hd
      have hsome := h.result j d hd hr
      rw [← hsome]
      exact hkept (by rw [hsome]; simp)
  ended := hended

theorem tracked_step (hs : DuplexStep invocation n writeTimeout requestTimeout w a w')
    (h : w.Tracked invocation) : w'.Tracked invocation := by
  cases hs with
  | @session a s' hs hnone =>
    have hf := follows_step h.tidy hs
    refine ⟨tidy_step h.tidy hs, ?_, ?_, ?_, h.ended⟩
    · intro i c' hc' hp
      obtain ⟨c, hc, hm, hps⟩ := same_frames hf hnone hc'
      rw [hm, hps] at hp
      exact h.progress i c hc hp
    · intro i hi
      obtain ⟨c, hc⟩ := h.known i hi
      obtain ⟨c', hc', -⟩ := hf.callers i c hc
      exact ⟨c', hc'⟩
    · intro i c' hc' hr
      obtain ⟨c, hc, hm, hps⟩ := same_frames hf hnone hc'
      rw [hm, hps] at hr
      exact h.result i c hc hr
  | @request i c s' hs hn he hp hr =>
    subst he
    exact h.called (tidy_step h.tidy hs) rfl (fun _ hj => hj) (fun _ hj => Or.inl hj)
      (fun hp' => by rw [hp] at hp'; cases hp') (fun _ => rfl)
      (fun hr' => by rw [hr] at hr'; cases hr') h.ended
  | @begin k chunk rest i hsend hlock hactive hn =>
    exact h.called (fresh_tidy h.tidy hn) rfl (fun _ hj => List.mem_append_left _ hj)
      (fun j hj => (List.mem_append.mp hj).imp id List.mem_singleton.mp)
      (fun _ => List.mem_append_right _ List.mem_cons_self) (fun _ => rfl)
      (fun hr => by rw [Caller.fresh, isResult_progress] at hr; cases hr) h.ended
  | @complete i params hnone hend hn hr =>
    exact h.called (fresh_tidy h.tidy hn) rfl (fun _ hj => hj) (fun _ hj => Or.inl hj)
      (fun hp => by rw [Caller.fresh, progressOf_result] at hp; cases hp)
      (fun hne => absurd hnone hne) (fun _ => rfl) (fun _ => hend)
  | stop => exact ⟨h.tidy, h.progress, h.known, h.result, fun _ => Or.inl rfl⟩
  | cancel => exact ⟨h.tidy, h.progress, h.known, h.result, fun _ => Or.inr rfl⟩
  | write _ _ | heartbeat _ | check _ _ | checkEnded _ _ | beginEnded _ _ _
  | succeed _ _ _ _ | fail _ _ _ _ | dropWaiting _ _ | dropRequesting _ _ _ _ =>
    exact ⟨h.tidy, h.progress, h.known, h.result, h.ended⟩

theorem tracked_initial (hw : w.Initial n writeTimeout) : w.Tracked invocation := by
  obtain ⟨⟨now, params, hs⟩, he⟩ := hw
  rw [he, hs]
  refine ⟨tidy_initial, ?_, ?_, ?_, fun hne => absurd rfl hne⟩
  · intro i c hc
    cases hc
  · intro i hi
    cases hi
  · intro i c hc
    cases hc

/-- The result is requested only when no progress request waits for a permit or for a place in the
queue. -/
def DuplexAction.ResultWaits (w : DuplexRun) : DuplexAction → Prop
  | .complete _ => ∀ i ∈ w.begun, ¬ w.session.Waits i
  | _ => True

def resultWaitsSystem (invocation : NodeInvocation) (n : Nat) (writeTimeout requestTimeout : Nanos) :
    System DuplexRun DuplexAction where
  Initial := (duplexSystem invocation n writeTimeout requestTimeout).Initial
  Step w a w' := DuplexStep invocation (max n 1) writeTimeout requestTimeout w a w' ∧
    a.ResultWaits w

/-- No progress frame comes after a result frame on the wire. -/
def DuplexRun.ResultLast (invocation : NodeInvocation) (w : DuplexRun) : Prop :=
  w.session.wire.Pairwise fun f g => isResult invocation f.method f.params = true →
    progressOf invocation g.method g.params = none

/-- No progress is behind the result in the line to the wire, or joins it later. -/
structure DuplexRun.Closing (invocation : NodeInvocation) (w : DuplexRun) : Prop where
  tracked : w.Tracked invocation
  idle : w.result ≠ none → ∀ i ∈ w.begun, ¬ w.session.Waits i
  line : w.session.line.Pairwise fun p q => isResult invocation p.method p.params = true →
    progressOf invocation q.method q.params = none
  wired : ∀ f ∈ w.session.wire, isResult invocation f.method f.params = true → w.result ≠ none
  after : ∀ f ∈ w.session.wire, isResult invocation f.method f.params = true →
    ∀ r ∈ w.session.line, progressOf invocation r.method r.params = none
  last : w.ResultLast invocation

theorem line_held {s : SessionRun} {r : Request} (hr : r ∈ s.line) : r ∈ s.held := by
  refine mem_held.mpr (Or.inr (List.mem_append_left _ ?_))
  exact List.mem_append.mpr (List.mem_append.mp hr).symm

theorem DuplexRun.Tracked.result_of_held (h : w.Tracked invocation) {r : Request}
    (hr : r ∈ w.session.held) (hres : isResult invocation r.method r.params = true) :
    w.result ≠ none := by
  obtain ⟨c, hc, hm, hp, -⟩ := h.tidy.owner r hr
  rw [← hm, ← hp] at hres
  rw [h.result _ c hc hres]
  simp

/-- Once the result is requested, no progress request is left to join the line. -/
theorem DuplexRun.Closing.joins (h : w.Closing invocation) (hne : w.result ≠ none) {r : Request}
    (hr : r ∈ w.session.sending) : progressOf invocation r.method r.params = none := by
  obtain ⟨c, hc, hm, hp, -⟩ := h.tracked.tidy.owner r (mem_held.mpr (Or.inl hr))
  have hphase := h.tracked.tidy.sending r hr c hc
  rw [← Option.not_isSome_iff_eq_none, ← hm, ← hp]
  intro hsome
  exact h.idle hne _ (h.tracked.progress _ c hc hsome) ⟨c, hc, Or.inr hphase⟩

/-- What the line to the wire does keeps the result last. -/
theorem DuplexRun.Closing.advance (h : w.Closing invocation) {s' : SessionRun}
    (ht : DuplexRun.Tracked invocation { w with session := s' }) (hl : LineStep w.session s')
    (hwaits : ∀ i ∈ w.begun, s'.Waits i → w.session.Waits i) :
    DuplexRun.Closing invocation { w with session := s' } where
  tracked := ht
  idle hne i hi hw := h.idle hne i hi (hwaits i hi hw)
  line := by
    cases hl with
    | leave hsub _ => exact h.line.sublist hsub
    | write r hline _ =>
      have hpair := h.line
      rw [hline] at hpair
      exact (List.pairwise_cons.mp hpair).2
    | join r hr hline _ =>
      show List.Pairwise _ s'.line
      rw [hline, List.pairwise_append]
      refine ⟨h.line, List.pairwise_singleton _ _, ?_⟩
      intro p hp q hq hres
      rw [List.mem_singleton.mp hq]
      exact h.joins (h.tracked.result_of_held (line_held hp) hres) hr
  wired := by
    cases hl with
    | leave _ hwire | join _ _ _ hwire =>
      show ∀ f ∈ s'.wire, _
      rw [hwire]
      exact h.wired
    | write r hline hwire =>
      show ∀ f ∈ s'.wire, _
      rw [hwire]
      intro f hf hres
      rcases List.mem_append.mp hf with hf | hf
      · exact h.wired f hf hres
      · rw [List.mem_singleton.mp hf] at hres
        refine h.tracked.result_of_held (line_held ?_) hres
        rw [hline]
        exact List.mem_cons_self
  after := by
    cases hl with
    | leave hsub hwire =>
      show ∀ f ∈ s'.wire, _
      rw [hwire]
      exact fun f hf hres r hr => h.after f hf hres r (hsub.subset hr)
    | write r hline hwire =>
      show ∀ f ∈ s'.wire, _
      rw [hwire]
      intro f hf hres q hq
      rcases List.mem_append.mp hf with hf | hf
      · refine h.after f hf hres q ?_
        rw [hline]
        exact List.mem_cons_of_mem _ hq
      · rw [List.mem_singleton.mp hf] at hres
        have hpair := h.line
        rw [hline] at hpair
        exact (List.pairwise_cons.mp hpair).1 q hq hres
    | join r hr hline hwire =>
      show ∀ f ∈ s'.wire, _ → ∀ q ∈ s'.line, _
      rw [hwire, hline]
      intro f hf hres q hq
      rcases List.mem_append.mp hq with hq | hq
      · exact h.after f hf hres q hq
      · rw [List.mem_singleton.mp hq]
        exact h.joins (h.wired f hf hres) hr
  last := by
    cases hl with
    | leave _ hwire | join _ _ _ hwire =>
      show List.Pairwise _ s'.wire
      rw [hwire]
      exact h.last
    | write r hline hwire =>
      show List.Pairwise _ s'.wire
      rw [hwire, List.pairwise_append]
      refine ⟨h.last, List.pairwise_singleton _ _, ?_⟩
      intro f hf g hg hres
      rw [List.mem_singleton.mp hg]
      refine h.after f hf hres r ?_
      rw [hline]
      exact List.mem_cons_self

/-- A step that leaves the wire and the line to it. -/
theorem DuplexRun.Closing.still (h : w.Closing invocation) (ht : w'.Tracked invocation)
    (hidle : w'.result ≠ none → ∀ i ∈ w'.begun, ¬ w'.session.Waits i)
    (hline : w'.session.line = w.session.line) (hwire : w'.session.wire = w.session.wire)
    (hresult : w.result ≠ none → w'.result ≠ none) : w'.Closing invocation := by
  refine ⟨ht, hidle, ?_, ?_, ?_, ?_⟩
  · rw [hline]
    exact h.line
  · rw [hwire]
    exact fun f hf hres => hresult (h.wired f hf hres)
  · rw [hline, hwire]
    exact h.after
  · rw [DuplexRun.ResultLast, hwire]
    exact h.last

theorem waits_setCaller {s : SessionRun} {i j : Nat} {c : Caller} (hj : j ≠ i)
    (hw : (s.setCaller i c).Waits j) : s.Waits j := by
  obtain ⟨d, hd, hp⟩ := hw
  rw [setCaller_ne hj] at hd
  exact ⟨d, hd, hp⟩

theorem closing_step (hs : (resultWaitsSystem invocation n writeTimeout requestTimeout).Step w a w')
    (h : w.Closing invocation) : w'.Closing invocation := by
  obtain ⟨hs, hquiet⟩ := hs
  have ht := tracked_step hs h.tracked
  -- A caller of a progress request is not called anew.
  have hknown : ∀ {i j}, w.session.callers i = none → j ∈ w.begun → j ≠ i := by
    rintro i j hn hj rfl
    obtain ⟨c, hc⟩ := h.tracked.known j hj
    rw [hn] at hc
    cases hc
  cases hs with
  | session hs hnone =>
    refine h.advance ht (line_step hs) ?_
    intro i hi hw
    rcases (follows_step h.tracked.tidy hs).waits i hw with hw | hn
    · exact hw
    · exact absurd rfl (hknown hn hi)
  | request c s' hs hn he hp hr =>
    subst he
    exact h.still ht (fun hne i hi hw => h.idle hne i hi (waits_setCaller (hknown hn hi) hw)) rfl rfl
      id
  | begin hsend hlock hactive hn =>
    refine h.still ht (fun hne => ?_) rfl rfl id
    exact absurd (h.tracked.ended hne) hactive
  | complete params hnone hend hn hr =>
    refine h.still ht (fun _ i hi hw => ?_) rfl rfl (fun hne => absurd hnone hne)
    exact hquiet i hi (waits_setCaller (hknown hn hi) hw)
  | stop | cancel | write _ _ | heartbeat _ | check _ _ | checkEnded _ _ | beginEnded _ _ _
  | succeed _ _ _ _ | fail _ _ _ _ | dropWaiting _ _ | dropRequesting _ _ _ _ =>
    exact h.still ht h.idle rfl rfl id

theorem closing_initial (hw : w.Initial n writeTimeout) : w.Closing invocation := by
  have ht : w.Tracked invocation := tracked_initial hw
  obtain ⟨⟨now, params, hs⟩, he⟩ := hw
  have hresult : w.result = none := by rw [he]
  have hconnect : isResult invocation "connect" params = false := by
    cases hr : isResult invocation "connect" params with
    | false => rfl
    | true => exact absurd (method_of_isResult hr) (by decide)
  have hwire : ∀ f ∈ w.session.wire, isResult invocation f.method f.params = false := by
    rw [hs]
    intro f hf
    rw [List.mem_singleton.mp hf]
    exact hconnect
  refine ⟨ht, fun hne => absurd hresult hne, ?_, ?_, ?_, ?_⟩
  · rw [hs]
    exact List.Pairwise.nil
  · intro f hf hres
    rw [hwire f hf] at hres
    cases hres
  · intro f hf hres
    rw [hwire f hf] at hres
    cases hres
  · rw [DuplexRun.ResultLast, hs]
    exact List.pairwise_singleton _ _

theorem tracked_reachable (hw : (duplexSystem invocation n writeTimeout requestTimeout).Reachable w) :
    w.Tracked invocation :=
  hw.invariant (fun _ hi => tracked_initial hi) (fun _ _ _ hs h => tracked_step hs h)

/-- An action that no run of the invocation puts off. -/
def DuplexAction.Free : DuplexAction → Prop
  | .begin _ _ => False
  | .complete _ => False
  | _ => True

/-- A system that takes every step of the invocation, save that it may put off a progress frame or
the result. -/
def TakesFree (invocation : NodeInvocation) (n : Nat) (writeTimeout requestTimeout : Nanos)
    (S : System DuplexRun DuplexAction) : Prop :=
  ∀ w a w', a.Free → DuplexStep invocation n writeTimeout requestTimeout w a w' → S.Step w a w'

theorem duplexSystem_takes : TakesFree invocation (max n 1) writeTimeout requestTimeout
    (duplexSystem invocation n writeTimeout requestTimeout) :=
  fun _ _ _ _ hs => hs

theorem resultWaits_reachable
    (hw : (resultWaitsSystem invocation n writeTimeout requestTimeout).Reachable w) :
    (duplexSystem invocation n writeTimeout requestTimeout).Reachable w :=
  System.Reachable.mono (S := resultWaitsSystem invocation n writeTimeout requestTimeout)
    (fun _ hi => hi) (fun _ a _ hs => ⟨a, hs.1⟩) hw

theorem resultWaits_takes : TakesFree invocation (max n 1) writeTimeout requestTimeout
    (resultWaitsSystem invocation n writeTimeout requestTimeout) := by
  intro w a w' ha hs
  cases a <;> first | exact ⟨hs, trivial⟩ | cases ha

section

variable {S : System DuplexRun DuplexAction}

/-- Steps of the session that call nothing are steps of the invocation. -/
theorem run_of_quiet (hS : TakesFree invocation n writeTimeout requestTimeout S) {s' : SessionRun}
    (h : Relation.ReflTransGen (Quiet n writeTimeout) w.session s') :
    S.Run w { w with session := s' } := by
  induction h with
  | refl => exact System.Run.refl w
  | tail _ hq ih =>
    obtain ⟨a, hs, hnone⟩ := hq
    exact ih.snoc (hS _ (.session a) _ trivial (.session hs hnone))

/-- A new `write` comes to its first request, where the system lets it begin. -/
theorem run_of_write (k i : Nat) (text : String) {chunk : String} {rest : List String}
    (hS : TakesFree invocation n writeTimeout requestTimeout S)
    (hbegin : ∀ sender w', DuplexStep invocation n writeTimeout requestTimeout
      (w.setSender k sender) (.begin k i) w' → S.Step (w.setSender k sender) (.begin k i) w')
    (hk : w.senders k = none) (hi : w.session.callers i = none) (hlock : w.locked = false)
    (hactive : ¬ w.Ended)
    (hchunks : progressChunks text.toList.length text.toList = chunk :: rest) :
    S.Run w { w.setSender k ⟨chunk :: rest, .requesting i⟩ with
      locked := true
      session := w.session.setCaller i (.fresh "node.invoke.progress"
        (progressParams invocation w.seq chunk) (w.session.now + requestTimeout) false)
      begun := w.begun ++ [i] } := by
  have hset : ∀ sender sender', (w.setSender k sender).setSender k sender' =
      w.setSender k sender' := by
    intro sender sender'
    simp [DuplexRun.setSender]
  have hself : ∀ sender, (w.setSender k sender).senders k = some sender := by
    intro sender
    simp [DuplexRun.setSender]
  have h₁ : S.Step w (.write k text) (w.setSender k ⟨chunk :: rest, .ready⟩) := by
    have h := hS _ (.write k text) _ trivial (.write text hk)
    rw [hchunks] at h
    exact h
  have h₂ : S.Step (w.setSender k ⟨chunk :: rest, .ready⟩) (.check k)
      (w.setSender k ⟨chunk :: rest, .locking⟩) := by
    have h := hS _ (.check k) _ trivial (.check (hself ⟨chunk :: rest, .ready⟩) hactive)
    rw [hset] at h
    exact h
  have h₃ := hbegin ⟨chunk :: rest, .locking⟩ _ (.begin (hself _) hlock hactive hi)
  rw [hset] at h₃
  exact ((System.Run.single h₁).snoc h₂).snoc h₃

end

/-- No progress after the result: in every run in which the result is requested only when no
progress request waits for a permit or for the queue, no progress frame follows the result. -/
theorem result_last (invocation : NodeInvocation) (n : Nat) (writeTimeout requestTimeout : Nanos)
    (w : DuplexRun)
    (hw : (resultWaitsSystem invocation n writeTimeout requestTimeout).Reachable w) :
    w.ResultLast invocation := by
  have h : w.Closing invocation :=
    hw.invariant (fun _ hi => closing_initial hi) (fun _ _ _ hs h => closing_step hs h)
  exact h.last

/-- An invocation that has just started, and the parameters of its result. -/
def duplexInvocation : NodeInvocation where
  id := "invoke-1"
  nodeId := "node-1"
  command := "stream"
  params := .null
  timeoutMs := none
  idempotencyKey := none
  sessionKey := none
  receivedParamsBytes := none
  receivedAt := none

def duplexResult : Json.Value :=
  .object [("id", .string "invoke-1"), ("nodeId", .string "node-1"), ("ok", .bool true),
    ("payload", .null)]

def duplexStart : DuplexRun where
  session := {
    now := 0, permits := [0, 1], nextRequestId := 1, callers := fun _ => none, sending := [],
    queue := [], phase := .top, pending := [], closed := none,
    wire := [⟨connectId, "connect", .null⟩], assigned := [], refused := [], arrivals := [] }
  senders := fun _ => none
  seq := 0
  locked := false
  stopped := false
  cancelled := false
  begun := []
  result := none

theorem duplexStart_initial : duplexStart.Initial 2 1 := ⟨⟨0, .null, rfl⟩, rfl⟩

theorem requestId_one_ne_two : requestId 1 ≠ requestId 2 := fun h =>
  absurd (requestId_injective h) (by decide)

/-- The request of the first write, and its progress on the wire. -/
def firstProgress : Caller :=
  .fresh "node.invoke.progress" (progressParams duplexInvocation 0 "a") 1 false

/-- A handler writes, and returns when its progress is on the wire and not acknowledged yet: the
result follows it there. -/
theorem result_after_progress : ∃ w : DuplexRun,
    (resultWaitsSystem duplexInvocation 2 1 1).Reachable w ∧ w.begun = [0] ∧
    w.session.wire.map (·.method) = ["connect", "node.invoke.progress", "node.invoke.result"] ∧
    w.ResultLast duplexInvocation := by
  let S := resultWaitsSystem duplexInvocation 2 1 1
  have hS : TakesFree duplexInvocation 2 1 1 S := resultWaits_takes (n := 2)
  have hbegun : S.Reachable _ := (System.Reachable.initial duplexStart_initial).run
    (run_of_write 0 0 "a" hS (fun _ _ hs => ⟨hs, trivial⟩) rfl rfl rfl
      (by rintro (h | h) <;> cases h) rfl)
  obtain ⟨w, hw, hs, hb, hr⟩ : ∃ w, S.Reachable w ∧
      w.session = duplexStart.session.setCaller 0 firstProgress ∧ w.begun = [0] ∧
      w.result = none := ⟨_, hbegun, rfl, rfl, rfl⟩
  have hwrite : Relation.ReflTransGen (Quiet 2 1) w.session
      (w.session.wrote 0 firstProgress 0 [1]) := by
    rw [hs]
    refine caller_writes (by decide) (fresh_tidy tidy_initial rfl) rfl rfl rfl rfl rfl rfl rfl
      (by decide) ?_
    intro r hr
    cases hr
  have hstop := (hw.run (run_of_quiet hS hwrite)).step (hS _ .stop _ trivial .stop)
  let result : Caller := .fresh "node.invoke.result" duplexResult 1 false
  obtain ⟨w₁, hw₁, hs₁, hb₁⟩ : ∃ w₁, S.Reachable w₁ ∧
      w₁.session = (w.session.wrote 0 firstProgress 0 [1]).setCaller 1 result ∧
      w₁.begun = [0] := by
    have hnow : w.session.now + 1 = 1 := by rw [hs]; rfl
    have hn : (w.session.wrote 0 firstProgress 0 [1]).callers 1 = none := by rw [hs]; rfl
    refine ⟨_, hstop.step (a := DuplexAction.complete 1)
      ⟨.complete duplexResult hr (Or.inl rfl) hn rfl, ?_⟩, ?_, hb⟩
    · -- the progress request has left the queue
      intro i hi hwaits
      have hi : i = 0 := List.mem_singleton.mp (hb ▸ hi)
      subst hi
      obtain ⟨c, hc, hp⟩ := hwaits
      have hself : (w.session.wrote 0 firstProgress 0 [1]).callers 0 =
          some { firstProgress with
            id := some (requestId w.session.nextRequestId), phase := .waitingReply } := by
        simp [SessionRun.wrote]
      cases hself.symm.trans hc
      rcases hp with hp | hp <;> cases hp
    · show (w.session.wrote 0 firstProgress 0 [1]).setCaller 1
        (.fresh "node.invoke.result" duplexResult (w.session.now + 1) false) = _
      rw [hnow]
  rw [hs] at hs₁
  have hlast : Relation.ReflTransGen (Quiet 2 1) w₁.session (w₁.session.wrote 1 result 1 []) := by
    have ht := (tracked_reachable (resultWaits_reachable hw₁)).tidy
    rw [hs₁] at ht ⊢
    refine caller_writes (by decide) ht rfl rfl rfl rfl rfl rfl rfl (by decide) ?_
    intro r hr
    rw [List.mem_singleton.mp hr]
    exact requestId_one_ne_two
  have hw₂ := hw₁.run (run_of_quiet hS hlast)
  refine ⟨_, hw₂, hb₁, ?_, result_last duplexInvocation 2 1 1 _ hw₂⟩
  show (w₁.session.wrote 1 result 1 []).wire.map (·.method) = _
  rw [hs₁]
  rfl

/-- The first write of the invocation waits for a permit. -/
theorem duplex_begins : ∃ w, (duplexSystem duplexInvocation 2 1 1).Reachable w ∧
    w.session = duplexStart.session.setCaller 0 firstProgress ∧
    w.senders = Function.update (fun _ => none) 0 (some ⟨["a"], .requesting 0⟩) ∧
    w.seq = 0 ∧ w.begun = [0] ∧ ¬ w.Ended ∧ w.result = none :=
  ⟨_, (System.Reachable.initial duplexStart_initial).run
    (run_of_write 0 0 "a" (duplexSystem_takes (n := 2)) (fun _ _ hs => hs) rfl rfl rfl
      (by rintro (h | h) <;> cases h) rfl),
    rfl, rfl, rfl, rfl, (by rintro (h | h) <;> cases h), rfl⟩

/-- The result can be written before a progress frame whose request waits for a permit. -/
theorem progress_after_result : ¬ ∀ (invocation : NodeInvocation) (n : Nat)
    (writeTimeout requestTimeout : Nanos) (w : DuplexRun),
    (duplexSystem invocation n writeTimeout requestTimeout).Reachable w →
      w.ResultLast invocation := by
  intro h
  let S := duplexSystem duplexInvocation 2 1 1
  have hS : TakesFree duplexInvocation 2 1 1 S := duplexSystem_takes (n := 2)
  obtain ⟨w, hw, hsession, -, -, -, -, hresult⟩ := duplex_begins
  have hstop : S.Reachable { w with stopped := true } := hw.step (a := DuplexAction.stop) .stop
  -- the handler returns, and the result is requested behind the progress
  let result : Caller := .fresh "node.invoke.result" duplexResult 1 false
  obtain ⟨w₁, hw₁, hs₁⟩ : ∃ w₁, S.Reachable w₁ ∧ w₁.session = w.session.setCaller 1 result := by
    have hnow : w.session.now + 1 = 1 := by rw [hsession]; rfl
    have hn : w.session.callers 1 = none := by rw [hsession]; rfl
    have hstep := hstop.step (a := DuplexAction.complete 1)
      (.complete duplexResult hresult (Or.inl rfl) hn rfl)
    refine ⟨_, hstep, ?_⟩
    show w.session.setCaller 1 (.fresh "node.invoke.result" duplexResult (w.session.now + 1) false) =
      _
    rw [hnow]
  rw [hsession] at hs₁
  -- its permit comes first
  have hwrite : Relation.ReflTransGen (Quiet 2 1) w₁.session
      (w₁.session.wrote 1 result 0 [1]) := by
    have ht := (tracked_reachable hw₁).tidy
    rw [hs₁] at ht ⊢
    exact caller_writes (by decide) ht rfl rfl rfl rfl rfl rfl rfl (by decide)
      (fun r hr => by cases hr)
  obtain ⟨w₂, hw₂, hs₂⟩ : ∃ w₂, S.Reachable w₂ ∧ w₂.session = w₁.session.wrote 1 result 0 [1] :=
    ⟨_, hw₁.run (run_of_quiet hS hwrite), rfl⟩
  rw [hs₁] at hs₂
  have hwrite : Relation.ReflTransGen (Quiet 2 1) w₂.session
      (w₂.session.wrote 0 firstProgress 1 []) := by
    have ht := (tracked_reachable hw₂).tidy
    rw [hs₂] at ht ⊢
    refine caller_writes (by decide) ht rfl rfl rfl rfl rfl rfl rfl (by decide) ?_
    intro r hr
    rw [List.mem_singleton.mp hr]
    exact requestId_one_ne_two
  have hw₃ : S.Reachable { w₂ with session := w₂.session.wrote 0 firstProgress 1 [] } :=
    hw₂.run (run_of_quiet hS hwrite)
  have hlast := h duplexInvocation 2 1 1 _ hw₃
  rw [DuplexRun.ResultLast, hs₂] at hlast
  have hpair : List.Pairwise (fun f g : WireRequest =>
      isResult duplexInvocation f.method f.params = true →
        progressOf duplexInvocation g.method g.params = none)
      [⟨connectId, "connect", .null⟩, ⟨requestId 1, "node.invoke.result", duplexResult⟩,
        ⟨requestId 2, "node.invoke.progress", progressParams duplexInvocation 0 "a"⟩] := hlast
  simp only [List.pairwise_cons] at hpair
  have hnone := hpair.2.1 _ List.mem_cons_self rfl
  rw [progressOf_params] at hnone
  cases hnone

end OpenclawNode.Node
