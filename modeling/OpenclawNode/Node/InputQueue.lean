import OpenclawNode.Node.ActiveInvocations
import OpenclawNode.Node.InvocationEvents

/-! The pending input of a duplex invocation, over all the calls that are made of its buffer. -/
namespace OpenclawNode.Node

open Text (utf8)
open Transition (System)

namespace InputBuffer

/-- The locked part of `recv`: what it returns, or `none` when it goes on to wait. -/
def check (b : InputBuffer) : Option (Option String) × InputBuffer :=
  match b.queue with
  | payload :: queue =>
    (some (some payload), { b with queue, bufferedBytes := b.bufferedBytes - (utf8 payload).length })
  | [] => (if b.closed then some none else none, b)

/-- The buffer still takes this payload. -/
def Fits (b : InputBuffer) (payload : String) : Prop :=
  b.closed = false ∧ b.bufferedBytes + (utf8 payload).length ≤ b.maximumBytes

instance (b : InputBuffer) (payload : String) : Decidable (b.Fits payload) :=
  inferInstanceAs (Decidable (_ ∧ _))

/-- The bytes of the queued payloads. -/
def queuedBytes (queue : List String) : Nat := (queue.map fun payload => (utf8 payload).length).sum

@[simp] theorem queuedBytes_nil : queuedBytes [] = 0 := rfl

@[simp] theorem queuedBytes_cons (payload : String) (queue : List String) :
    queuedBytes (payload :: queue) = (utf8 payload).length + queuedBytes queue := by
  simp [queuedBytes]

@[simp] theorem queuedBytes_concat (queue : List String) (payload : String) :
    queuedBytes (queue ++ [payload]) = queuedBytes queue + (utf8 payload).length := by
  simp [queuedBytes]

/-- The three answers of a push. -/
theorem push_cases (b : InputBuffer) (seq : UInt64) (payload : String) :
    ((b.closed = true ∨ seq < b.nextSeq) ∧ b.push seq payload = (b, .ignored)) ∨
    (b.closed = false ∧ b.nextSeq ≤ seq ∧ ¬ b.Fits payload ∧
      b.push seq payload = ({ b with nextSeq := nextAfter seq }.close, .overflow)) ∨
    (b.nextSeq ≤ seq ∧ b.Fits payload ∧
      b.push seq payload =
        ({ b with
            nextSeq := nextAfter seq
            queue := b.queue ++ [payload]
            bufferedBytes := b.bufferedBytes + (utf8 payload).length }, .accepted)) := by
  unfold push Fits
  by_cases hi : b.closed = true ∨ seq < b.nextSeq
  · exact Or.inl ⟨hi, by rw [if_pos hi]⟩
  · rw [if_neg hi]
    simp only [not_or, Bool.not_eq_true, UInt64.not_lt] at hi
    by_cases hm : b.maximumBytes < b.bufferedBytes + (utf8 payload).length
    · exact Or.inr (Or.inl ⟨hi.1, hi.2, by omega, by rw [if_pos hm]⟩)
    · exact Or.inr (Or.inr ⟨hi.2, ⟨hi.1, by omega⟩, by rw [if_neg hm]⟩)

theorem check_cases (b : InputBuffer) :
    (∃ payload queue, b.queue = payload :: queue ∧ b.check = (some (some payload), { b with
      queue, bufferedBytes := b.bufferedBytes - (utf8 payload).length })) ∨
    (b.queue = [] ∧ b.closed = true ∧ b.check = (some none, b)) ∨
    (b.queue = [] ∧ b.closed = false ∧ b.check = (none, b)) := by
  unfold check
  cases hq : b.queue with
  | cons payload queue => exact Or.inl ⟨payload, queue, rfl, rfl⟩
  | nil => cases hc : b.closed <;> simp

theorem nextAfter_of_lt {seq : UInt64} (h : seq.toNat + 1 < 2 ^ 64) :
    (nextAfter seq).toNat = seq.toNat + 1 := by
  unfold nextAfter
  rw [FixedWidth.checkedSucc_eq_some.mpr ⟨h, rfl⟩]
  exact FixedWidth.toNat_succ h

end InputBuffer

/-- A buffer with what its calls returned: the pushes that were accepted and the payloads that were
received. The last four fields record the overflows, whether the input has ended, what was pushed
and whether the last number was replayed. -/
structure InputRun where
  buffer : InputBuffer
  accepted : List (UInt64 × String)
  delivered : List String
  overflows : Nat
  ended : Bool
  pushed : List UInt64
  replayed : Bool

namespace InputRun

def maxSeq : UInt64 := -1

/-- The last sequence number comes again, with a payload that the buffer still takes. -/
def Replays (w : InputRun) (seq : UInt64) (payload : String) : Prop :=
  seq = maxSeq ∧ seq ∈ w.pushed ∧ w.buffer.Fits payload

instance (w : InputRun) (seq : UInt64) (payload : String) : Decidable (w.Replays seq payload) :=
  inferInstanceAs (Decidable (_ ∧ _ ∧ _))

def push (w : InputRun) (seq : UInt64) (payload : String) : InputRun :=
  let (buffer, disposition) := w.buffer.push seq payload
  { buffer
    accepted := if disposition = .accepted then w.accepted ++ [(seq, payload)] else w.accepted
    delivered := w.delivered
    overflows := if disposition = .overflow then w.overflows + 1 else w.overflows
    ended := w.ended || disposition = .overflow
    pushed := w.pushed ++ [seq]
    replayed := w.replayed || w.Replays seq payload }

def recv (w : InputRun) : InputRun :=
  let (returned, buffer) := w.buffer.check
  { w with buffer, delivered := w.delivered ++ (returned.bind id).toList }

def close (w : InputRun) : InputRun := { w with buffer := w.buffer.close, ended := true }

end InputRun

inductive InputAction
  | push (seq : UInt64) (payload : String)
  | recv
  | close

/-- The calls on one buffer, in any order, that push payloads of one kind. -/
inductive InputStep (kind : String → Prop) : InputRun → InputAction → InputRun → Prop
  | push {w} (seq : UInt64) (payload : String) : kind payload →
      InputStep kind w (.push seq payload) (w.push seq payload)
  | recv {w} : InputStep kind w .recv w.recv
  | close {w} : InputStep kind w .close w.close

def inputSystem (maximumBytes : Nat) (kind : String → Prop) : System InputRun InputAction where
  Initial w := w = ⟨.new maximumBytes, [], [], 0, false, [], false⟩
  Step := InputStep kind

variable {maximumBytes : Nat} {kind : String → Prop} {w w' : InputRun} {seq : UInt64}
  {payload : String}

/-- What is queued was accepted and not yet delivered, and its bytes are counted. -/
structure InputRun.Conserved (maximumBytes : Nat) (w : InputRun) : Prop where
  maximum : w.buffer.maximumBytes = maximumBytes
  bytes : w.buffer.bufferedBytes = InputBuffer.queuedBytes w.buffer.queue
  bounded : w.buffer.bufferedBytes ≤ maximumBytes
  order : w.delivered ++ w.buffer.queue <+: w.accepted.map Prod.snd
  kept : w.ended = false → w.delivered ++ w.buffer.queue = w.accepted.map Prod.snd
  closed : w.buffer.closed = w.ended
  cleared : w.ended = true → w.buffer.queue = []
  overflows : w.overflows ≤ w.ended.toNat

theorem InputRun.Conserved.ignored (h : w.Conserved maximumBytes)
    (hp : w.buffer.push seq payload = (w.buffer, .ignored)) :
    (w.push seq payload).Conserved maximumBytes := by
  unfold InputRun.push
  rw [hp]
  exact ⟨h.maximum, h.bytes, h.bounded, h.order, by simpa using h.kept, by simpa using h.closed,
    by simpa using h.cleared, by simpa using h.overflows⟩

theorem InputRun.Conserved.overflow (h : w.Conserved maximumBytes) (hc : w.buffer.closed = false)
    (hp : w.buffer.push seq payload =
      ({ w.buffer with nextSeq := InputBuffer.nextAfter seq }.close, .overflow)) :
    (w.push seq payload).Conserved maximumBytes := by
  have hopen : w.overflows = 0 := by
    have hle := h.overflows
    rw [← h.closed, hc] at hle
    exact Nat.le_zero.mp hle
  unfold InputRun.push
  rw [hp]
  refine ⟨h.maximum, rfl, Nat.zero_le _, ?_, by simp, by simp [InputBuffer.close], fun _ => rfl, ?_⟩
  · simpa [InputBuffer.close] using (List.prefix_append _ _).trans h.order
  · simp [hopen]

theorem InputRun.Conserved.accepted (h : w.Conserved maximumBytes) (hf : w.buffer.Fits payload)
    (hp : w.buffer.push seq payload =
      ({ w.buffer with
          nextSeq := InputBuffer.nextAfter seq
          queue := w.buffer.queue ++ [payload]
          bufferedBytes := w.buffer.bufferedBytes + (utf8 payload).length }, .accepted)) :
    (w.push seq payload).Conserved maximumBytes := by
  have hended : w.ended = false := h.closed.symm.trans hf.1
  have hkept : w.delivered ++ (w.buffer.queue ++ [payload]) =
      (w.accepted ++ [(seq, payload)]).map Prod.snd := by
    rw [← List.append_assoc, h.kept hended]
    simp
  have horder : w.delivered ++ (w.buffer.queue ++ [payload]) <+:
      (w.accepted ++ [(seq, payload)]).map Prod.snd := by
    rw [hkept]
  unfold InputRun.push
  rw [hp]
  refine ⟨h.maximum, ?_, ?_, ?_, fun _ => ?_, by simpa using h.closed, ?_, by simpa using h.overflows⟩
  · simp [h.bytes]
  · exact h.maximum ▸ hf.2
  · simpa using horder
  · simpa using hkept
  · simp [hended]

theorem InputRun.Conserved.recv (h : w.Conserved maximumBytes) :
    w.recv.Conserved maximumBytes := by
  unfold InputRun.recv
  obtain ⟨payload, queue, hq, hp⟩ | ⟨-, -, hp⟩ | ⟨-, -, hp⟩ := w.buffer.check_cases
  · have hbytes := h.bytes
    have horder := h.order
    have hkept := h.kept
    have hcleared := h.cleared
    rw [hq] at hbytes horder hkept hcleared
    rw [InputBuffer.queuedBytes_cons] at hbytes
    rw [hp]
    refine ⟨h.maximum, ?_, ?_, by simpa using horder, by simpa using hkept, h.closed,
      fun he => absurd (hcleared he) (by simp), h.overflows⟩
    · show w.buffer.bufferedBytes - _ = InputBuffer.queuedBytes queue
      omega
    · exact (Nat.sub_le _ _).trans h.bounded
  · rw [hp]
    simpa using h
  · rw [hp]
    simpa using h

theorem InputRun.Conserved.close (h : w.Conserved maximumBytes) :
    w.close.Conserved maximumBytes := by
  refine ⟨h.maximum, rfl, Nat.zero_le _, ?_, (fun he => nomatch he), rfl, fun _ => rfl, ?_⟩
  · simpa [InputRun.close, InputBuffer.close] using (List.prefix_append _ _).trans h.order
  · exact h.overflows.trans (by simpa [InputRun.close] using Bool.toNat_le _)

theorem InputRun.Conserved.step {a : InputAction} (h : w.Conserved maximumBytes)
    (hs : InputStep kind w a w') : w'.Conserved maximumBytes := by
  cases hs with
  | push seq payload hk =>
    obtain ⟨-, hp⟩ | ⟨hc, -, -, hp⟩ | ⟨-, hf, hp⟩ := w.buffer.push_cases seq payload
    · exact h.ignored hp
    · exact h.overflow hc hp
    · exact h.accepted hf hp
  | recv => exact h.recv
  | close => exact h.close

theorem conserved_input_reachable (hw : (inputSystem maximumBytes kind).Reachable w) :
    w.Conserved maximumBytes := by
  refine hw.invariant ?_ fun _ _ _ hs h => h.step hs
  rintro w rfl
  exact ⟨rfl, rfl, Nat.zero_le _, List.prefix_rfl, fun _ => rfl, rfl, fun _ => rfl, le_rfl⟩

/-- The input has ended, with nothing more to deliver than this. -/
structure InputRun.Over (delivered : List String) (w : InputRun) : Prop where
  delivered : w.delivered = delivered
  closed : w.buffer.closed = true
  queue : w.buffer.queue = []

theorem InputRun.Over.push_ignored {delivered : List String} (h : w.Over delivered) (seq : UInt64)
    (payload : String) : w.buffer.push seq payload = (w.buffer, .ignored) := by
  unfold InputBuffer.push
  rw [if_pos (Or.inl h.closed)]

theorem InputRun.Over.check {delivered : List String} (h : w.Over delivered) :
    w.buffer.check = (some none, w.buffer) := by
  unfold InputBuffer.check
  rw [h.queue, h.closed]
  rfl

theorem InputRun.Over.step {delivered : List String} {a : InputAction} (h : w.Over delivered)
    (hs : InputStep kind w a w') : w'.Over delivered := by
  cases hs with
  | push seq payload hk =>
    unfold InputRun.push
    rw [h.push_ignored]
    exact ⟨h.delivered, h.closed, h.queue⟩
  | recv =>
    unfold InputRun.recv
    rw [h.check]
    exact ⟨by simpa using h.delivered, h.closed, h.queue⟩
  | close => exact ⟨h.delivered, rfl, rfl⟩

/-- What a buffer delivers was accepted before, in order and once; its bytes are those of its queue
and never above the limit; one push overflows at most; and once the input has ended nothing moves. -/
theorem input_buffer_conserves (maximumBytes : Nat) (kind : String → Prop) (w : InputRun)
    (hw : (inputSystem maximumBytes kind).Reachable w) :
    w.delivered <+: w.accepted.map Prod.snd ∧
    (w.ended = false → w.delivered ++ w.buffer.queue = w.accepted.map Prod.snd) ∧
    w.buffer.bufferedBytes = (w.buffer.queue.map fun payload => (utf8 payload).length).sum ∧
    w.buffer.bufferedBytes ≤ maximumBytes ∧
    (∀ payload queue, w.buffer.queue = payload :: queue →
      (utf8 payload).length ≤ w.buffer.bufferedBytes) ∧
    w.overflows ≤ 1 ∧
    (w.ended = true → ∀ w', (inputSystem maximumBytes kind).Run w w' →
      w'.delivered = w.delivered ∧ w'.buffer.queue = [] ∧
      w'.buffer.check = (some none, w'.buffer) ∧
      ∀ seq payload, w'.buffer.push seq payload = (w'.buffer, .ignored)) := by
  have h := conserved_input_reachable hw
  refine ⟨(List.prefix_append _ _).trans h.order, h.kept, h.bytes, h.bounded, ?_, ?_, ?_⟩
  · intro payload queue hq
    rw [h.bytes, hq, InputBuffer.queuedBytes_cons]
    exact Nat.le_add_right _ _
  · exact h.overflows.trans (Bool.toNat_le _)
  · intro he w' hr
    have hover : w'.Over w.delivered :=
      hr.stable (fun _ _ _ hs ho => ho.step hs) ⟨rfl, h.closed.trans he, h.cleared he⟩
    exact ⟨hover.delivered, hover.queue, hover.check, hover.push_ignored⟩

/-- Two payloads, the first of them received, then a close. -/
theorem first_payload_conserved : ∃ w, (inputSystem 8 fun _ => True).Reachable w ∧
    w.accepted = [(0, "one"), (2, "two")] ∧ w.delivered = ["one"] ∧ w.buffer.queue = [] ∧
    w.buffer.bufferedBytes ≤ 8 ∧ (w.buffer.push 3 "new").2 = .ignored := by
  have h₀ : (inputSystem 8 fun _ => True).Reachable
      ⟨.new 8, [], [], 0, false, [], false⟩ := .initial rfl
  have h₁ := (((h₀.step (.push 0 "one" trivial)).step
    (.push 2 "two" trivial)).step .recv).step .close
  obtain ⟨-, -, -, hbytes, -, -, hover⟩ := input_buffer_conserves 8 _ _ h₁
  refine ⟨_, h₁, by decide +kernel, by decide +kernel, rfl, hbytes, ?_⟩
  rw [(hover rfl _ (System.Run.refl _)).2.2.2]

end OpenclawNode.Node
