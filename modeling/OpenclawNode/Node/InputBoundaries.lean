import OpenclawNode.Node.InputQueue

/-! The two boundaries of an input buffer: its last sequence number and its empty payload. -/
namespace OpenclawNode.Node

open Json (Value)
open Text (utf8)
open Transition (System)

variable {maximumBytes : Nat} {kind : String → Prop} {w w' : InputRun} {seq : UInt64}
  {payload : String}

theorem InputRun.le_maxSeq (seq : UInt64) : seq ≤ maxSeq := by
  rw [UInt64.le_iff_toNat_le]
  exact Nat.le_of_lt_succ seq.toNat_lt

/-- The mark that a push leaves is above its number, but for the last one. -/
theorem InputBuffer.nextAfter_spec (seq : UInt64) :
    seq < nextAfter seq ∨ (seq = InputRun.maxSeq ∧ nextAfter seq = InputRun.maxSeq) := by
  by_cases h : seq.toNat + 1 < 2 ^ 64
  · left
    rw [UInt64.lt_iff_toNat_lt, nextAfter_of_lt h]
    exact Nat.lt_succ_self _
  · right
    have hseq : seq = InputRun.maxSeq := by
      apply UInt64.toNat_inj.mp
      have hlt := seq.toNat_lt
      show seq.toNat = 2 ^ 64 - 1
      omega
    exact ⟨hseq, by rw [hseq]; rfl⟩

/-- The accepted numbers lie below the mark, which only the last number does not pass. -/
structure InputRun.Numbered (w : InputRun) : Prop where
  recorded : ∀ s ∈ w.accepted.map Prod.fst, s ∈ w.pushed
  below : ∀ s ∈ w.accepted.map Prod.fst,
    s < w.buffer.nextSeq ∨ (s = InputRun.maxSeq ∧ w.buffer.nextSeq = InputRun.maxSeq)
  last : w.buffer.closed = false → InputRun.maxSeq ∈ w.pushed →
    InputRun.maxSeq ∈ w.accepted.map Prod.fst
  increasing : (w.accepted.map Prod.fst).Pairwise (· < ·) ↔ w.replayed = false

/-- A number that comes after the mark is above all that were accepted, unless it is replayed. -/
theorem InputRun.Numbered.above_iff (h : w.Numbered) (hseq : w.buffer.nextSeq ≤ seq)
    (hf : w.buffer.Fits payload) :
    (∀ s ∈ w.accepted.map Prod.fst, s < seq) ↔ ¬ w.Replays seq payload := by
  constructor
  · rintro habove ⟨rfl, hpushed, -⟩
    exact absurd (habove _ (h.last hf.1 hpushed)) (UInt64.lt_irrefl _)
  · intro hn s hs
    rcases h.below s hs with hlt | ⟨rfl, hmark⟩
    · exact UInt64.lt_of_lt_of_le hlt hseq
    · have hmax : seq = InputRun.maxSeq :=
        UInt64.le_antisymm (InputRun.le_maxSeq _) (hmark ▸ hseq)
      exact absurd ⟨hmax, hmax ▸ h.recorded _ hs, hf⟩ hn

theorem InputRun.Numbered.accepted (h : w.Numbered) (hseq : w.buffer.nextSeq ≤ seq)
    (hf : w.buffer.Fits payload)
    (hp : w.buffer.push seq payload =
      ({ w.buffer with
          nextSeq := InputBuffer.nextAfter seq
          queue := w.buffer.queue ++ [payload]
          bufferedBytes := w.buffer.bufferedBytes + (utf8 payload).length }, .accepted)) :
    (w.push seq payload).Numbered := by
  have hmap : (w.accepted ++ [(seq, payload)]).map Prod.fst = w.accepted.map Prod.fst ++ [seq] := by
    simp
  unfold InputRun.push
  rw [hp]
  refine ⟨?_, ?_, ?_, ?_⟩
  · simp only [if_true, hmap, List.mem_append, List.mem_singleton]
    exact fun s hs => hs.imp_left (h.recorded s)
  · simp only [if_true, hmap, List.mem_append, List.mem_singleton]
    rintro s (hs | rfl)
    · rcases h.below s hs with hlt | ⟨rfl, hmark⟩
      · left
        have hs := UInt64.lt_of_lt_of_le hlt hseq
        rcases InputBuffer.nextAfter_spec seq with hn | ⟨rfl, hn⟩
        · exact UInt64.lt_trans hs hn
        · exact hn.symm ▸ hs
      · right
        have hmax : seq = InputRun.maxSeq :=
          UInt64.le_antisymm (InputRun.le_maxSeq _) (hmark ▸ hseq)
        exact ⟨rfl, by rw [hmax]; rfl⟩
    · exact InputBuffer.nextAfter_spec s
  · simp only [if_true, hmap, List.mem_append, List.mem_singleton]
    exact fun hc hs => hs.imp_left (h.last hc)
  · simp only [if_true, hmap, List.pairwise_append, h.increasing, List.pairwise_singleton,
      List.mem_singleton, forall_eq, h.above_iff hseq hf, Bool.or_eq_false_iff,
      decide_eq_false_iff_not, true_and]

/-- A push that is not accepted changes neither what was accepted nor whether it was in order. -/
theorem InputRun.Numbered.refused (h : w.Numbered) (b : InputBuffer) (d : InputDisposition)
    (hp : w.buffer.push seq payload = (b, d)) (hd : d ≠ .accepted)
    (hmark : w.buffer.nextSeq ≤ b.nextSeq) (hc : b.closed = false → seq ≠ InputRun.maxSeq)
    (hopen : b.closed = false → w.buffer.closed = false) (hn : ¬ w.Replays seq payload) :
    (w.push seq payload).Numbered := by
  unfold InputRun.push
  rw [hp]
  refine ⟨?_, ?_, ?_, ?_⟩
  · simp only [if_neg hd, List.mem_append]
    exact fun s hs => Or.inl (h.recorded s hs)
  · simp only [if_neg hd]
    intro s hs
    rcases h.below s hs with hlt | ⟨rfl, hlast⟩
    · exact Or.inl (UInt64.lt_of_lt_of_le hlt hmark)
    · exact Or.inr ⟨rfl, UInt64.le_antisymm (InputRun.le_maxSeq _) (hlast ▸ hmark)⟩
  · simp only [if_neg hd, List.mem_append, List.mem_singleton]
    rintro hb (hs | rfl)
    · exact h.last (hopen hb) hs
    · exact absurd rfl (hc hb)
  · simp only [if_neg hd, h.increasing, hn, decide_false, Bool.or_false]

theorem InputRun.Numbered.push (h : w.Numbered) (seq : UInt64) (payload : String) :
    (w.push seq payload).Numbered := by
  obtain ⟨hi, hp⟩ | ⟨hc, hseq, hf, hp⟩ | ⟨hseq, hf, hp⟩ := w.buffer.push_cases seq payload
  · refine h.refused _ _ hp (by simp) UInt64.le_rfl ?_ id ?_
    · rintro hc rfl
      rcases hi with hi | hi
      · exact absurd hc (by simp [hi])
      · exact absurd (UInt64.lt_of_lt_of_le hi (InputRun.le_maxSeq _)) (UInt64.lt_irrefl _)
    · rintro ⟨rfl, -, hf⟩
      rcases hi with hi | hi
      · exact absurd hf.1 (by simp [hi])
      · exact absurd (UInt64.lt_of_lt_of_le hi (InputRun.le_maxSeq _)) (UInt64.lt_irrefl _)
  · refine h.refused _ _ hp (by simp) ?_ (fun hb => nomatch hb) (fun hb => nomatch hb)
      fun hn => hf hn.2.2
    refine UInt64.le_trans hseq ?_
    rcases InputBuffer.nextAfter_spec seq with hn | ⟨rfl, hn⟩
    · exact UInt64.le_of_lt hn
    · exact hn.symm ▸ UInt64.le_rfl
  · exact h.accepted hseq hf hp

theorem InputRun.Numbered.step {a : InputAction} (h : w.Numbered) (hs : InputStep kind w a w') :
    w'.Numbered := by
  cases hs with
  | push seq payload hk => exact h.push seq payload
  | recv =>
    unfold InputRun.recv
    obtain ⟨payload, queue, -, hp⟩ | ⟨-, -, hp⟩ | ⟨-, -, hp⟩ := w.buffer.check_cases <;>
    · rw [hp]
      exact ⟨h.recorded, h.below, h.last, h.increasing⟩
  | close => exact ⟨h.recorded, h.below, (fun hc => nomatch hc), h.increasing⟩

theorem numbered_input_reachable (hw : (inputSystem maximumBytes kind).Reachable w) :
    w.Numbered := by
  refine hw.invariant ?_ fun _ _ _ hs h => h.step hs
  rintro w rfl
  exact ⟨by simp, by simp, by simp, by simp⟩

/-- The accepted numbers increase, and none comes twice, in exactly the runs in which the last
number is not replayed. -/
theorem accepted_increasing_iff (maximumBytes : Nat) (kind : String → Prop) (w : InputRun)
    (hw : (inputSystem maximumBytes kind).Reachable w) :
    ((w.accepted.map Prod.fst).Pairwise (· < ·) ∧ (w.accepted.map Prod.fst).Nodup) ↔
      w.replayed = false := by
  rw [← (numbered_input_reachable hw).increasing]
  refine ⟨And.left, fun h => ⟨h, h.imp ?_⟩⟩
  rintro s t hlt rfl
  exact UInt64.lt_irrefl _ hlt

/-- Any numbers with gaps are accepted in order. -/
theorem gaps_accepted_increasing : ∃ w, (inputSystem 8 fun _ => True).Reachable w ∧
    w.accepted = [(5, "a"), (18446744073709551615, "b")] ∧
    (w.accepted.map Prod.fst).Pairwise (· < ·) := by
  have h₀ : (inputSystem 8 fun _ => True).Reachable
      ⟨.new 8, [], [], 0, false, [], false⟩ := .initial rfl
  have h₁ := ((h₀.step (.push 5 "a" trivial)).step
    (.push 2 "old" trivial)).step (.push 18446744073709551615 "b" trivial)
  exact ⟨_, h₁, by decide +kernel,
    ((accepted_increasing_iff 8 _ _ h₁).mpr (by decide +kernel)).1⟩

/-- The last number is accepted twice. -/
theorem last_number_accepted_twice : ∃ w, (inputSystem 8 fun _ => True).Reachable w ∧
    w.accepted = [(18446744073709551615, "one"), (18446744073709551615, "two")] ∧
    ¬ (w.accepted.map Prod.fst).Pairwise (· < ·) := by
  have h₀ : (inputSystem 8 fun _ => True).Reachable
      ⟨.new 8, [], [], 0, false, [], false⟩ := .initial rfl
  have h₁ := (h₀.step (.push 18446744073709551615 "one" trivial)).step
    (.push 18446744073709551615 "two" trivial)
  exact ⟨_, h₁, by decide +kernel, by decide +kernel⟩

/-- Every payload in the queue was pushed, so it is of the kind that is pushed. -/
theorem queued_kind_reachable (hw : (inputSystem maximumBytes kind).Reachable w) :
    ∀ payload ∈ w.buffer.queue, kind payload := by
  refine hw.invariant (P := fun w => ∀ payload ∈ w.buffer.queue, kind payload) ?_ ?_
  · rintro w rfl payload hp
    cases hp
  · intro w a w' hs h
    cases hs with
    | push seq payload hk =>
      unfold InputRun.push
      obtain ⟨-, hp⟩ | ⟨-, -, -, hp⟩ | ⟨-, -, hp⟩ := w.buffer.push_cases seq payload <;> rw [hp]
      · exact h
      · exact fun _ hm => nomatch hm
      · simp only [List.mem_append, List.mem_singleton]
        rintro p (hm | rfl)
        · exact h p hm
        · exact hk
    | recv =>
      unfold InputRun.recv
      obtain ⟨payload, queue, hq, hp⟩ | ⟨-, -, hp⟩ | ⟨-, -, hp⟩ := w.buffer.check_cases <;> rw [hp]
      · exact fun p hm => h p (hq ▸ List.mem_cons_of_mem _ hm)
      · exact h
      · exact h
    | close => exact fun _ hm => nomatch hm

/-- A queue of payloads that all have a byte is no longer than its bytes. -/
theorem InputBuffer.length_le_queuedBytes {queue : List String} (h : ∀ payload ∈ queue, payload ≠ "") :
    queue.length ≤ queuedBytes queue := by
  induction queue with
  | nil => exact le_rfl
  | cons payload queue ih =>
    have hne : payload.toList ≠ [] := by
      simpa using h payload List.mem_cons_self
    have hpos := List.length_pos_iff.mpr hne
    have hbytes := Text.length_le_utf8 payload
    have ih := ih fun p hp => h p (List.mem_cons_of_mem _ hp)
    rw [queuedBytes_cons, List.length_cons]
    omega

/-- Any number of empty payloads can be queued. -/
theorem empty_payloads_queued (maximumBytes : Nat) (hk : kind "") (n : Nat) :
    ∃ w, (inputSystem maximumBytes kind).Reachable w ∧ w.ended = false ∧
      w.buffer.queue = List.replicate n "" := by
  induction n with
  | zero => exact ⟨_, .initial rfl, rfl, rfl⟩
  | succ n ih =>
    obtain ⟨w, hw, he, hq⟩ := ih
    have h := conserved_input_reachable hw
    have hf : w.buffer.Fits "" := ⟨h.closed.trans he, by rw [h.maximum]; exact h.bounded⟩
    refine ⟨_, hw.step (.push w.buffer.nextSeq "" hk), ?_⟩
    unfold InputRun.push
    obtain ⟨hi, -⟩ | ⟨-, -, hn, -⟩ | ⟨-, -, hp⟩ := w.buffer.push_cases w.buffer.nextSeq ""
    · rcases hi with hc | hlt
      · exact absurd hf.1 (by simp [hc])
      · exact absurd hlt (UInt64.lt_irrefl _)
    · exact absurd hf hn
    · rw [hp, List.replicate_succ']
      exact ⟨by simpa using he, by rw [hq]⟩

/-- The queue is bounded in entries exactly when no empty payload is pushed, and then by the bytes
that the buffer may hold. -/
theorem queue_bounded_iff (maximumBytes : Nat) (kind : String → Prop) :
    ((∃ bound, ∀ w, (inputSystem maximumBytes kind).Reachable w → w.buffer.queue.length ≤ bound) ↔
      ¬ kind "") ∧
    (¬ kind "" → ∀ w, (inputSystem maximumBytes kind).Reachable w →
      w.buffer.queue.length ≤ maximumBytes) := by
  have hbound : ¬ kind "" → ∀ w, (inputSystem maximumBytes kind).Reachable w →
      w.buffer.queue.length ≤ maximumBytes := by
    intro hk w hw
    have h := conserved_input_reachable hw
    have hne : ∀ payload ∈ w.buffer.queue, payload ≠ "" := by
      rintro payload hp rfl
      exact hk (queued_kind_reachable hw _ hp)
    calc w.buffer.queue.length
        ≤ InputBuffer.queuedBytes w.buffer.queue := InputBuffer.length_le_queuedBytes hne
      _ = w.buffer.bufferedBytes := h.bytes.symm
      _ ≤ maximumBytes := h.bounded
  refine ⟨⟨?_, fun hk => ⟨maximumBytes, hbound hk⟩⟩, hbound⟩
  rintro ⟨bound, hb⟩ hk
  obtain ⟨w, hw, -, hq⟩ := empty_payloads_queued maximumBytes hk (bound + 1)
  have hle := hb w hw
  rw [hq, List.length_replicate] at hle
  omega

/-- The parser lets this payload through. -/
def ParsedPayload (payload : String) : Prop :=
  ∃ describe value invokeId nodeId seq, parseInvocationInput describe value =
    .ok (.invocationInput invokeId nodeId seq payload)

def emptyInput : Value :=
  .object [("id", .string "invoke-1"), ("nodeId", .string "node-1"), ("payloadJSON", .string ""),
    ("seq", .number (.posInt 0))]

/-- The parser lets the empty payload through, and a queue of such payloads grows without bound. -/
theorem parsed_queue_unbounded : ¬ ∀ maximumBytes, ∃ bound, ∀ w,
    (inputSystem maximumBytes ParsedPayload).Reachable w → w.buffer.queue.length ≤ bound := by
  intro h
  obtain ⟨bound, hb⟩ := h defaultPendingInputBytes
  have hk : ParsedPayload "" := ⟨fun _ => "", emptyInput, "invoke-1", "node-1", 0, by rfl⟩
  obtain ⟨w, hw, -, hq⟩ := empty_payloads_queued defaultPendingInputBytes hk (bound + 1)
  have hle := hb w hw
  rw [hq, List.length_replicate] at hle
  omega

end OpenclawNode.Node
