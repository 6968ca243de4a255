import Mathlib.Data.List.AList
import OpenclawNode.Base.Transition
import OpenclawNode.Base.FixedWidth
import OpenclawNode.Node.Invocation

/-! The invocations a session executes, and the guards that track them. -/
namespace OpenclawNode.Node

open Text (utf8)
open Transition (System)

inductive InputDisposition
  | accepted
  | ignored
  | overflow
  deriving DecidableEq, Repr

/-- The pending input of one duplex invocation. -/
structure InputBuffer where
  nextSeq : UInt64
  queue : List String
  bufferedBytes : Nat
  closed : Bool
  maximumBytes : Nat
  deriving DecidableEq, Repr

def defaultPendingInputBytes : Nat := 64 * 1024

namespace InputBuffer

def new (maximumBytes : Nat) : InputBuffer :=
  { nextSeq := 0, queue := [], bufferedBytes := 0, closed := false, maximumBytes }

def close (b : InputBuffer) : InputBuffer :=
  { b with closed := true, queue := [], bufferedBytes := 0 }

/-- `saturating_add(1)` on a sequence number. -/
def nextAfter (seq : UInt64) : UInt64 := (FixedWidth.checkedSucc seq).getD seq

def push (b : InputBuffer) (seq : UInt64) (payload : String) : InputBuffer × InputDisposition :=
  if b.closed ∨ seq < b.nextSeq then (b, .ignored)
  else
    let advanced := { b with nextSeq := nextAfter seq }
    let bufferedBytes := b.bufferedBytes + (utf8 payload).length
    if b.maximumBytes < bufferedBytes then (advanced.close, .overflow)
    else
      ({ advanced with bufferedBytes := bufferedBytes, queue := b.queue ++ [payload] }, .accepted)

end InputBuffer

/-- A cancellation token, by the order in which it was made. -/
abbrev Token := Nat

/-- What the map holds for an invocation. A buffer is named by its place on the heap. -/
structure ActiveInvocationState where
  nodeId : String
  cancellation : Token
  input : Option Nat
  inputOverflow : Token
  deriving DecidableEq, Repr

/-- The guard that `track` returns. -/
structure ActiveInvocation where
  id : String
  cancellation : Token
  input : Option Nat
  inputOverflow : Token
  cancelOnDrop : Bool
  deriving DecidableEq, Repr

/-- The map of a session, with the tokens and buffers that the entries and guards share. -/
structure ActiveInvocations where
  inner : AList fun _ : String => ActiveInvocationState
  tokens : List Bool
  buffers : List InputBuffer

namespace ActiveInvocations

def empty : ActiveInvocations := ⟨∅, [], []⟩

def cancelToken (m : ActiveInvocations) (token : Token) : ActiveInvocations :=
  { m with tokens := m.tokens.set token true }

def closeInput (m : ActiveInvocations) (input : Option Nat) : ActiveInvocations :=
  match input with
  | none => m
  | some buffer => { m with buffers := m.buffers.modify buffer InputBuffer.close }

/-- `CancellationToken::new`. -/
def newToken (m : ActiveInvocations) : Token × ActiveInvocations :=
  (m.tokens.length, { m with tokens := m.tokens ++ [false] })

/-- Track an id that has no entry; an id that has one is refused. -/
def track (m : ActiveInvocations) (id nodeId : String) (cancellation : Token) (duplex : Bool) :
    Option ActiveInvocation × ActiveInvocations :=
  match m.inner.lookup id with
  | some _ => (none, m)
  | none =>
    let input := if duplex then some m.buffers.length else none
    let inputOverflow := m.tokens.length
    (some ⟨id, cancellation, input, inputOverflow, true⟩,
      { inner := m.inner.insert id ⟨nodeId, cancellation, input, inputOverflow⟩
        tokens := m.tokens ++ [false]
        buffers :=
          if duplex then m.buffers ++ [.new defaultPendingInputBytes] else m.buffers })

def untrack (m : ActiveInvocations) (id : String) : ActiveInvocations :=
  let removed := m.inner.lookup id
  { m with inner := m.inner.erase id }.closeInput (removed.bind (·.input))

def cancel (m : ActiveInvocations) (id : String) : ActiveInvocations :=
  match m.inner.lookup id with
  | none => m
  | some state => (m.cancelToken state.cancellation).closeInput state.input

def input (m : ActiveInvocations) (id nodeId : String) (seq : UInt64) (payload : String) :
    InputDisposition × ActiveInvocations :=
  match m.inner.lookup id with
  | none => (.ignored, m)
  | some state =>
    if state.nodeId ≠ nodeId then (.ignored, m)
    else
      match state.input with
      | none => (.ignored, m)
      | some address =>
        match m.buffers[address]? with
        | none => (.ignored, m)
        | some buffer =>
          let (pushed, disposition) := buffer.push seq payload
          let m := { m with buffers := m.buffers.set address pushed }
          (disposition, if disposition = .overflow then m.cancelToken state.inputOverflow else m)

def cancelAll (m : ActiveInvocations) : ActiveInvocations :=
  m.inner.entries.foldl (fun m entry => (m.cancelToken entry.2.cancellation).closeInput entry.2.input)
    { m with inner := ∅ }

/-- Dropping a guard: an armed one cancels its token, and its id is untracked. -/
def dropGuard (m : ActiveInvocations) (g : ActiveInvocation) : ActiveInvocations :=
  (if g.cancelOnDrop then m.cancelToken g.cancellation else m).untrack g.id

end ActiveInvocations

/-- A guard that is alive, the node it was tracked for, and whether everything was cancelled since
it was created. -/
structure LiveGuard where
  tracked : ActiveInvocation
  nodeId : String
  outdated : Bool
  deriving DecidableEq, Repr

/-- A session scope with the guards that are alive, numbered as they were asked for. -/
structure ActiveRun where
  scope : ActiveInvocations
  guards : Nat → Option LiveGuard

inductive ActiveAction
  | newToken
  | track (i : Nat) (id nodeId : String) (cancellation : Token) (duplex : Bool)
  | disarm (i : Nat)
  | drop (i : Nat)
  | cancel (id : String)
  | cancelAll
  | input (id nodeId : String) (seq : UInt64) (payload : String)

def ActiveRun.setGuard (w : ActiveRun) (i : Nat) (g : Option LiveGuard) : ActiveRun :=
  { w with guards := Function.update w.guards i g }

/-- The calls on one session scope, in any order. -/
inductive ActiveStep : ActiveRun → ActiveAction → ActiveRun → Prop
  | newToken {w} : ActiveStep w .newToken { w with scope := w.scope.newToken.2 }
  | track {w i id nodeId cancellation duplex} : w.guards i = none →
      cancellation < w.scope.tokens.length →
      ActiveStep w (.track i id nodeId cancellation duplex)
        { scope := (w.scope.track id nodeId cancellation duplex).2
          guards := Function.update w.guards i
            ((w.scope.track id nodeId cancellation duplex).1.map fun g => ⟨g, nodeId, false⟩) }
  | disarm {w i g} : w.guards i = some g →
      ActiveStep w (.disarm i)
        (w.setGuard i (some { g with tracked := { g.tracked with cancelOnDrop := false } }))
  | drop {w i g} : w.guards i = some g →
      ActiveStep w (.drop i)
        { scope := w.scope.dropGuard g.tracked, guards := Function.update w.guards i none }
  | cancel {w} (id : String) : ActiveStep w (.cancel id) { w with scope := w.scope.cancel id }
  | cancelAll {w} : ActiveStep w .cancelAll
      { scope := w.scope.cancelAll
        guards := fun i => (w.guards i).map fun g => { g with outdated := true } }
  | input {w} (id nodeId : String) (seq : UInt64) (payload : String) :
      ActiveStep w (.input id nodeId seq payload)
        { w with scope := (w.scope.input id nodeId seq payload).2 }

def activeSystem : System ActiveRun ActiveAction where
  Initial w := w = ⟨.empty, fun _ => none⟩
  Step := ActiveStep

/-- The entry is the one that the guard installed: it holds the guard's own overflow token, which
no other entry has. -/
def ActiveInvocationState.InstalledBy (e : ActiveInvocationState) (g : LiveGuard) : Prop :=
  e = ⟨g.nodeId, g.tracked.cancellation, g.tracked.input, g.tracked.inputOverflow⟩

/-- Every guard that is not outdated owns the entry of its id. -/
def ActiveRun.Owned (w : ActiveRun) : Prop :=
  ∀ i g, w.guards i = some g → g.outdated = false →
    ∃ e, w.scope.inner.lookup g.tracked.id = some e ∧ e.InstalledBy g

/-- Dropping the guard removes at most the entry it installed. -/
def ActiveRun.DropsOwn (w : ActiveRun) (g : LiveGuard) : Prop :=
  ∀ e, w.scope.inner.lookup g.tracked.id = some e → e.InstalledBy g

/-- No outdated guard is dropped while its id has an entry again. -/
def ActiveRun.Heeds (w : ActiveRun) : ActiveAction → Prop
  | .drop i => ∀ g, w.guards i = some g → g.outdated = true →
      w.scope.inner.lookup g.tracked.id = none
  | _ => True

/-- The runs whose every step heeds the condition. -/
def heedfulSystem : System ActiveRun ActiveAction where
  Initial := activeSystem.Initial
  Step w a w' := ActiveStep w a w' ∧ w.Heeds a

namespace ActiveInvocations

variable (m : ActiveInvocations) (id nodeId : String) (token : Token) (address : Option Nat)

@[simp] theorem inner_cancelToken : (m.cancelToken token).inner = m.inner := rfl

@[simp] theorem length_tokens_cancelToken :
    (m.cancelToken token).tokens.length = m.tokens.length :=
  List.length_set

@[simp] theorem buffers_cancelToken : (m.cancelToken token).buffers = m.buffers := rfl

@[simp] theorem inner_closeInput : (m.closeInput address).inner = m.inner := by
  cases address <;> rfl

@[simp] theorem tokens_closeInput : (m.closeInput address).tokens = m.tokens := by
  cases address <;> rfl

@[simp] theorem length_buffers_closeInput :
    (m.closeInput address).buffers.length = m.buffers.length := by
  cases address <;> simp [closeInput]

theorem inner_cancel : (m.cancel id).inner = m.inner := by
  unfold cancel
  split <;> simp

theorem length_cancel : (m.cancel id).tokens.length = m.tokens.length ∧
    (m.cancel id).buffers.length = m.buffers.length := by
  unfold cancel
  split <;> simp

theorem input_keeps (seq : UInt64) (payload : String) :
    (m.input id nodeId seq payload).2.inner = m.inner ∧
      (m.input id nodeId seq payload).2.tokens.length = m.tokens.length ∧
      (m.input id nodeId seq payload).2.buffers.length = m.buffers.length := by
  unfold input
  split
  · exact ⟨rfl, rfl, rfl⟩
  · split
    · exact ⟨rfl, rfl, rfl⟩
    · split
      · exact ⟨rfl, rfl, rfl⟩
      · split
        · exact ⟨rfl, rfl, rfl⟩
        · dsimp only
          split <;> simp

theorem cancelAll_keeps : m.cancelAll.inner = ∅ ∧
    m.cancelAll.tokens.length = m.tokens.length ∧
    m.cancelAll.buffers.length = m.buffers.length := by
  have hfold : ∀ (entries : List ((_ : String) × ActiveInvocationState)) (k : ActiveInvocations),
      let k' := entries.foldl
        (fun k entry => (k.cancelToken entry.2.cancellation).closeInput entry.2.input) k
      k'.inner = k.inner ∧ k'.tokens.length = k.tokens.length ∧
        k'.buffers.length = k.buffers.length := by
    intro entries
    induction entries with
    | nil => exact fun k => ⟨rfl, rfl, rfl⟩
    | cons entry entries ih =>
      intro k
      obtain ⟨hinner, htokens, hbuffers⟩ :=
        ih ((k.cancelToken entry.2.cancellation).closeInput entry.2.input)
      exact ⟨by simpa using hinner, by simpa using htokens, by simpa using hbuffers⟩
  exact hfold m.inner.entries { m with inner := ∅ }

theorem dropGuard_keeps (g : ActiveInvocation) :
    (m.dropGuard g).inner = m.inner.erase g.id ∧
      (m.dropGuard g).tokens.length = m.tokens.length ∧
      (m.dropGuard g).buffers.length = m.buffers.length := by
  unfold dropGuard untrack
  cases g.cancelOnDrop <;> simp

end ActiveInvocations

/-- What holds of the guards that are alive as long as the condition is heeded. -/
structure ActiveRun.Sound (w : ActiveRun) : Prop where
  overflow : ∀ i g, w.guards i = some g → g.tracked.inputOverflow < w.scope.tokens.length
  token : ∀ i g, w.guards i = some g → g.tracked.cancellation < w.scope.tokens.length
  buffer : ∀ i g address, w.guards i = some g → g.tracked.input = some address →
    address < w.scope.buffers.length
  distinct : ∀ i j g h, w.guards i = some g → w.guards j = some h →
    g.tracked.inputOverflow = h.tracked.inputOverflow → i = j
  owned : w.Owned
  outdated : ∀ i g, w.guards i = some g → g.outdated = true → ∀ id e,
    w.scope.inner.lookup id = some e → e.inputOverflow ≠ g.tracked.inputOverflow

variable {w w' : ActiveRun} {a : ActiveAction} {i : Nat} {g : LiveGuard}

/-- A call that touches neither the entries nor the guards. -/
theorem ActiveRun.Sound.quiet {scope : ActiveInvocations} (h : w.Sound)
    (hinner : scope.inner = w.scope.inner)
    (htokens : w.scope.tokens.length ≤ scope.tokens.length)
    (hbuffers : w.scope.buffers.length ≤ scope.buffers.length) :
    ActiveRun.Sound { w with scope := scope } where
  overflow i g hg := Nat.lt_of_lt_of_le (h.overflow i g hg) htokens
  token i g hg := Nat.lt_of_lt_of_le (h.token i g hg) htokens
  buffer i g address hg ha := Nat.lt_of_lt_of_le (h.buffer i g address hg ha) hbuffers
  distinct := h.distinct
  owned i g hg ho := by
    rw [hinner]
    exact h.owned i g hg ho
  outdated i g hg ho id e he := by
    rw [hinner] at he
    exact h.outdated i g hg ho id e he

/-- The entry that a guard dropped under the condition removes is no other guard's. -/
theorem ActiveRun.Sound.drop (h : w.Sound) (hg : w.guards i = some g) (hc : w.Heeds (.drop i)) :
    ActiveRun.Sound { scope := w.scope.dropGuard g.tracked
                      guards := Function.update w.guards i none } := by
  obtain ⟨hinner, htokens, hbuffers⟩ := w.scope.dropGuard_keeps g.tracked
  have hold : ∀ j k, Function.update w.guards i none j = some k → j ≠ i ∧ w.guards j = some k := by
    intro j k hk
    by_cases hji : j = i
    · subst hji
      simp at hk
    · exact ⟨hji, by simpa [hji] using hk⟩
  refine ⟨?_, ?_, ?_, ?_, ?_, ?_⟩
  · intro j k hk
    rw [htokens]
    exact h.overflow j k (hold j k hk).2
  · intro j k hk
    rw [htokens]
    exact h.token j k (hold j k hk).2
  · intro j k address hk ha
    rw [hbuffers]
    exact h.buffer j k address (hold j k hk).2 ha
  · intro j l k k' hk hk'
    exact h.distinct j l k k' (hold j k hk).2 (hold l k' hk').2
  · intro j k hk ho
    obtain ⟨hji, hk⟩ := hold j k hk
    obtain ⟨e, he, hinstalled⟩ := h.owned j k hk ho
    have hid : k.tracked.id ≠ g.tracked.id := by
      intro hid
      rw [hid] at he
      cases hgo : g.outdated with
      | true =>
        rw [hc g hg hgo] at he
        cases he
      | false =>
        obtain ⟨e', he', hown⟩ := h.owned i g hg hgo
        cases he.symm.trans he'
        rw [hinstalled] at hown
        exact hji (h.distinct j i k g hk hg (congrArg ActiveInvocationState.inputOverflow hown))
    refine ⟨e, ?_, hinstalled⟩
    change AList.lookup k.tracked.id (w.scope.dropGuard g.tracked).inner = some e
    rw [hinner, AList.lookup_erase_ne hid]
    exact he
  · intro j k hk ho id e he
    change AList.lookup id (w.scope.dropGuard g.tracked).inner = some e at he
    rw [hinner] at he
    refine h.outdated j k (hold j k hk).2 ho id e ?_
    by_cases hid : id = g.tracked.id
    · rw [hid, AList.lookup_erase] at he
      cases he
    · rwa [AList.lookup_erase_ne hid] at he

/-- A guard starts out as the owner of the entry it installed. -/
theorem ActiveRun.Sound.install {id nodeId : String} {cancellation : Token} {duplex : Bool}
    (h : w.Sound) (hi : w.guards i = none) (ht : cancellation < w.scope.tokens.length)
    (hl : w.scope.inner.lookup id = none) :
    ActiveRun.Sound
      { scope := (w.scope.track id nodeId cancellation duplex).2
        guards := Function.update w.guards i
          ((w.scope.track id nodeId cancellation duplex).1.map fun g => ⟨g, nodeId, false⟩) } := by
  let input := if duplex then some w.scope.buffers.length else none
  let e : ActiveInvocationState := ⟨nodeId, cancellation, input, w.scope.tokens.length⟩
  let g : LiveGuard := ⟨⟨id, cancellation, input, w.scope.tokens.length, true⟩, nodeId, false⟩
  let buffers :=
    if duplex then w.scope.buffers ++ [.new defaultPendingInputBytes] else w.scope.buffers
  have htrack : w.scope.track id nodeId cancellation duplex =
      (some g.tracked, ⟨w.scope.inner.insert id e, w.scope.tokens ++ [false], buffers⟩) := by
    simp [ActiveInvocations.track, hl, g, e, input, buffers]
  have hlen : (w.scope.tokens ++ [false]).length = w.scope.tokens.length + 1 := by simp
  have hbuffers : w.scope.buffers.length ≤ buffers.length := by
    simp only [buffers]
    split <;> simp
  rw [htrack]
  have hcases : ∀ j k, Function.update w.guards i (some g) j = some k →
      j = i ∧ k = g ∨ j ≠ i ∧ w.guards j = some k := by
    intro j k hk
    by_cases hji : j = i
    · subst hji
      exact Or.inl ⟨rfl, by simpa using hk.symm⟩
    · exact Or.inr ⟨hji, by simpa [hji] using hk⟩
  refine ⟨?_, ?_, ?_, ?_, ?_, ?_⟩
  · intro j k hk
    change _ < (w.scope.tokens ++ [false]).length
    rcases hcases j k hk with ⟨-, rfl⟩ | ⟨-, hk⟩
    · rw [hlen]
      exact Nat.lt_succ_self _
    · rw [hlen]
      exact Nat.lt_succ_of_lt (h.overflow j k hk)
  · intro j k hk
    change _ < (w.scope.tokens ++ [false]).length
    rcases hcases j k hk with ⟨-, rfl⟩ | ⟨-, hk⟩
    · rw [hlen]
      exact Nat.lt_succ_of_lt ht
    · rw [hlen]
      exact Nat.lt_succ_of_lt (h.token j k hk)
  · intro j k address hk ha
    change address < buffers.length
    rcases hcases j k hk with ⟨-, rfl⟩ | ⟨-, hk⟩
    · simp only [g, input] at ha
      split at ha
      · next hd =>
        cases ha
        simp [buffers, hd]
      · cases ha
    · exact Nat.lt_of_lt_of_le (h.buffer j k address hk ha) hbuffers
  · intro j l k k' hk hk' hsame
    rcases hcases j k hk with ⟨hj, rfl⟩ | ⟨hj, hk⟩ <;>
      rcases hcases l k' hk' with ⟨hl', rfl⟩ | ⟨hl', hk'⟩
    · exact hj.trans hl'.symm
    · exact absurd hsame.symm (Nat.ne_of_lt (h.overflow l k' hk'))
    · exact absurd hsame (Nat.ne_of_lt (h.overflow j k hk))
    · exact h.distinct j l k k' hk hk' hsame
  · intro j k hk ho
    change ∃ e', (w.scope.inner.insert id e).lookup k.tracked.id = some e' ∧ _
    rcases hcases j k hk with ⟨-, rfl⟩ | ⟨-, hk⟩
    · exact ⟨e, AList.lookup_insert _, rfl⟩
    · obtain ⟨e', he, hinstalled⟩ := h.owned j k hk ho
      have hid : k.tracked.id ≠ id := by
        intro hid
        rw [hid, hl] at he
        cases he
      exact ⟨e', by rw [AList.lookup_insert_ne hid]; exact he, hinstalled⟩
  · intro j k hk ho id' e' he
    change (w.scope.inner.insert id e).lookup id' = some e' at he
    rcases hcases j k hk with ⟨-, rfl⟩ | ⟨-, hk⟩
    · cases ho
    · by_cases hid : id' = id
      · rw [hid, AList.lookup_insert] at he
        cases he
        exact (Nat.ne_of_lt (h.overflow j k hk)).symm
      · rw [AList.lookup_insert_ne hid] at he
        exact h.outdated j k hk ho id' e' he

theorem ActiveRun.Sound.disarm (h : w.Sound) (hg : w.guards i = some g) :
    (w.setGuard i (some
      { g with tracked := { g.tracked with cancelOnDrop := false } })).Sound := by
  -- The guard keeps everything but the flag.
  have hold : ∀ j k, (w.setGuard i (some
      { g with tracked := { g.tracked with cancelOnDrop := false } })).guards j = some k →
      ∃ k', w.guards j = some k' ∧ k.nodeId = k'.nodeId ∧ k.outdated = k'.outdated ∧
        k.tracked.id = k'.tracked.id ∧ k.tracked.cancellation = k'.tracked.cancellation ∧
        k.tracked.input = k'.tracked.input ∧
        k.tracked.inputOverflow = k'.tracked.inputOverflow := by
    intro j k hk
    by_cases hji : j = i
    · subst hji
      simp only [setGuard, Function.update_self, Option.some.injEq] at hk
      subst hk
      exact ⟨g, hg, rfl, rfl, rfl, rfl, rfl, rfl⟩
    · exact ⟨k, by simpa [setGuard, hji] using hk, rfl, rfl, rfl, rfl, rfl, rfl⟩
  refine ⟨?_, ?_, ?_, ?_, ?_, ?_⟩
  · intro j k hk
    obtain ⟨k', hk', -, -, -, -, -, ho⟩ := hold j k hk
    rw [ho]
    exact h.overflow j k' hk'
  · intro j k hk
    obtain ⟨k', hk', -, -, -, hc, -, -⟩ := hold j k hk
    rw [hc]
    exact h.token j k' hk'
  · intro j k address hk ha
    obtain ⟨k', hk', -, -, -, -, hin, -⟩ := hold j k hk
    rw [hin] at ha
    exact h.buffer j k' address hk' ha
  · intro j l k m hk hm hsame
    obtain ⟨k', hk', -, -, -, -, -, ho⟩ := hold j k hk
    obtain ⟨m', hm', -, -, -, -, -, ho'⟩ := hold l m hm
    rw [ho, ho'] at hsame
    exact h.distinct j l k' m' hk' hm' hsame
  · intro j k hk hout
    obtain ⟨k', hk', hn, hd, hid, hc, hin, ho⟩ := hold j k hk
    rw [hd] at hout
    obtain ⟨e, he, hinstalled⟩ := h.owned j k' hk' hout
    refine ⟨e, hid ▸ he, ?_⟩
    rw [ActiveInvocationState.InstalledBy, hn, hc, hin, ho]
    exact hinstalled
  · intro j k hk hout id e he
    obtain ⟨k', hk', -, hd, -, -, -, ho⟩ := hold j k hk
    rw [hd] at hout
    rw [ho]
    exact h.outdated j k' hk' hout id e he

theorem ActiveRun.Sound.cancelAll (h : w.Sound) :
    ActiveRun.Sound { scope := w.scope.cancelAll
                      guards := fun i => (w.guards i).map fun g => { g with outdated := true } } := by
  obtain ⟨hinner, htokens, hbuffers⟩ := w.scope.cancelAll_keeps
  have hold : ∀ j k, (w.guards j).map (fun g => { g with outdated := true }) = some k →
      ∃ k', w.guards j = some k' ∧ k.tracked = k'.tracked ∧ k.outdated = true := by
    intro j k hk
    obtain ⟨k', hk', rfl⟩ := Option.map_eq_some_iff.mp hk
    exact ⟨k', hk', rfl, rfl⟩
  refine ⟨?_, ?_, ?_, ?_, ?_, ?_⟩
  · intro j k hk
    obtain ⟨k', hk', ht, -⟩ := hold j k hk
    rw [ht, htokens]
    exact h.overflow j k' hk'
  · intro j k hk
    obtain ⟨k', hk', ht, -⟩ := hold j k hk
    rw [ht, htokens]
    exact h.token j k' hk'
  · intro j k address hk ha
    obtain ⟨k', hk', ht, -⟩ := hold j k hk
    rw [ht] at ha
    rw [hbuffers]
    exact h.buffer j k' address hk' ha
  · intro j l k m hk hm hsame
    obtain ⟨k', hk', ht, -⟩ := hold j k hk
    obtain ⟨m', hm', ht', -⟩ := hold l m hm
    rw [ht, ht'] at hsame
    exact h.distinct j l k' m' hk' hm' hsame
  · intro j k hk hout
    obtain ⟨k', -, -, ho⟩ := hold j k hk
    rw [ho] at hout
    cases hout
  · intro j k hk hout id e he
    change AList.lookup id w.scope.cancelAll.inner = some e at he
    rw [hinner, AList.lookup_empty] at he
    cases he

theorem ActiveRun.Sound.track {id nodeId : String} {cancellation : Token} {duplex : Bool}
    (h : w.Sound) (hi : w.guards i = none) (ht : cancellation < w.scope.tokens.length) :
    ActiveRun.Sound
      { scope := (w.scope.track id nodeId cancellation duplex).2
        guards := Function.update w.guards i
          ((w.scope.track id nodeId cancellation duplex).1.map fun g => ⟨g, nodeId, false⟩) } := by
  cases hl : w.scope.inner.lookup id with
  | some e =>
    have hrefused : w.scope.track id nodeId cancellation duplex = (none, w.scope) := by
      simp [ActiveInvocations.track, hl]
    have hsame : Function.update w.guards i none = w.guards := by
      rw [← hi]
      exact Function.update_eq_self i w.guards
    rw [hrefused]
    simpa [hsame] using h
  | none => exact h.install hi ht hl

theorem ActiveRun.Sound.step (hs : ActiveStep w a w') (hc : w.Heeds a) (h : w.Sound) :
    w'.Sound := by
  cases hs with
  | newToken => exact h.quiet rfl (by simp [ActiveInvocations.newToken]) (Nat.le_refl _)
  | track hi ht => exact h.track hi ht
  | @disarm i g hg => exact h.disarm hg
  | drop hg => exact h.drop hg hc
  | cancel id =>
    obtain ⟨htokens, hbuffers⟩ := w.scope.length_cancel id
    exact h.quiet (w.scope.inner_cancel id) htokens.ge hbuffers.ge
  | cancelAll => exact h.cancelAll
  | input id nodeId seq payload =>
    obtain ⟨hinner, htokens, hbuffers⟩ := w.scope.input_keeps id nodeId seq payload
    exact h.quiet hinner htokens.ge hbuffers.ge

theorem sound_reachable (hw : heedfulSystem.Reachable w) : w.Sound := by
  refine hw.invariant (P := ActiveRun.Sound) ?_ ?_
  · rintro w rfl
    constructor
    case owned => exact fun i g hg => nomatch hg
    all_goals intros; contradiction
  · rintro w a w' ⟨hs, hc⟩ h
    exact h.step hs hc

/-- What a guard's entry gives it: cancelling its id cancels its token, input for its id and node
goes to its buffer, and its id cannot be tracked again. -/
structure ActiveRun.Serves (w : ActiveRun) (g : LiveGuard) : Prop where
  installed : ∃ e, w.scope.inner.lookup g.tracked.id = some e ∧ e.InstalledBy g
  cancel : (w.scope.cancel g.tracked.id).tokens[g.tracked.cancellation]? = some true
  input : ∀ address, g.tracked.input = some address →
    ∃ buffer, w.scope.buffers[address]? = some buffer ∧ ∀ seq payload,
      (w.scope.input g.tracked.id g.nodeId seq payload).1 = (buffer.push seq payload).2 ∧
      (w.scope.input g.tracked.id g.nodeId seq payload).2.buffers =
        w.scope.buffers.set address (buffer.push seq payload).1
  refused : ∀ nodeId cancellation duplex,
    (w.scope.track g.tracked.id nodeId cancellation duplex).1 = none

theorem ActiveRun.Sound.serves (h : w.Sound) (hg : w.guards i = some g)
    (ho : g.outdated = false) : w.Serves g := by
  obtain ⟨e, he, rfl⟩ := h.owned i g hg ho
  refine ⟨⟨_, he, rfl⟩, ?_, ?_, ?_⟩
  · have ht := h.token i g hg
    simp [ActiveInvocations.cancel, he, ActiveInvocations.cancelToken, ht]
  · intro address ha
    have hlt := h.buffer i g address hg ha
    refine ⟨w.scope.buffers[address], List.getElem?_eq_getElem hlt, ?_⟩
    intro seq payload
    simp only [ActiveInvocations.input, he, ha, ne_eq, not_true_eq_false, if_false,
      List.getElem?_eq_getElem hlt]
    refine ⟨trivial, ?_⟩
    split <;> rfl
  · intro nodeId cancellation duplex
    simp [ActiveInvocations.track, he]

/-- A guard removes at most its own entry exactly when it is dropped as the condition asks. -/
theorem ActiveRun.Sound.dropsOwn_iff (h : w.Sound) (hg : w.guards i = some g) :
    w.DropsOwn g ↔ (g.outdated = true → w.scope.inner.lookup g.tracked.id = none) := by
  constructor
  · intro hown ho
    cases hl : w.scope.inner.lookup g.tracked.id with
    | none => rfl
    | some e =>
      have hsame := congrArg ActiveInvocationState.inputOverflow (hown e hl)
      exact absurd hsame (h.outdated i g hg ho _ e hl)
  · intro hc e he
    cases ho : g.outdated with
    | true =>
      rw [hc ho] at he
      cases he
    | false =>
      obtain ⟨e', he', hinstalled⟩ := h.owned i g hg ho
      cases he.symm.trans he'
      exact hinstalled

/-- In every run in which no outdated guard is dropped while its id is tracked again, each guard
that is not outdated owns its entry, and a drop removes at most the guard's own entry exactly when
it is such a drop. -/
theorem active_invocation_ownership (w : ActiveRun) (hw : heedfulSystem.Reachable w) :
    ∀ i g, w.guards i = some g →
      (g.outdated = false → w.Serves g) ∧ (w.DropsOwn g ↔ w.Heeds (.drop i)) := by
  intro i g hg
  have h := sound_reachable hw
  refine ⟨h.serves hg, ?_⟩
  rw [h.dropsOwn_iff hg]
  constructor
  · intro hc g' hg' ho
    cases hg.symm.trans hg'
    exact hc ho
  · exact fun hc => hc g hg

/-- Everything is cancelled and the outdated guard dropped before its id is tracked again. -/
theorem tracked_guard : ∃ w g, heedfulSystem.Reachable w ∧ w.guards 0 = none ∧
    w.guards 1 = some g ∧ g.tracked.id = "invoke-1" ∧ w.Serves g ∧ w.DropsOwn g := by
  have h₀ : heedfulSystem.Reachable ⟨.empty, fun _ => none⟩ := .initial rfl
  have h₁ := h₀.step ⟨.newToken, trivial⟩
  have h₂ : heedfulSystem.Reachable _ :=
    h₁.step (a := .track 0 "invoke-1" "node-1" 0 true) ⟨.track rfl (by decide), trivial⟩
  have h₃ := (h₂.step ⟨.cancelAll, trivial⟩).step ⟨.newToken, trivial⟩
  have h₄ : heedfulSystem.Reachable _ :=
    h₃.step (a := .drop 0) ⟨.drop rfl, fun g hg _ => by cases hg; rfl⟩
  have h₅ : heedfulSystem.Reachable _ :=
    h₄.step (a := .track 1 "invoke-1" "node-1" 2 true) ⟨.track rfl (by decide), trivial⟩
  obtain ⟨hserves, hdrops⟩ := active_invocation_ownership _ h₅ 1 _ rfl
  refine ⟨_, _, h₅, rfl, rfl, rfl, hserves rfl, hdrops.mpr fun g hg ho => ?_⟩
  cases hg
  cases ho

/-- The guard that is tracked first outlives a `cancel_all`, after which its id is tracked again. -/
def outlived : ActiveRun :=
  let tokens := ActiveInvocations.empty.newToken.2.newToken.2
  let first := (tokens.track "invoke-1" "node-1" 0 false).2.cancelAll
  { scope := (first.track "invoke-1" "node-1" 1 false).2
    guards := Function.update (Function.update (fun _ => none) 0
        (some ⟨⟨"invoke-1", 0, none, 2, true⟩, "node-1", true⟩)) 1
      (some ⟨⟨"invoke-1", 1, none, 3, true⟩, "node-1", false⟩) }

theorem outlived_reachable : activeSystem.Reachable outlived := by
  have h₀ : activeSystem.Reachable ⟨.empty, fun _ => none⟩ := .initial rfl
  have h₁ := (h₀.step .newToken).step .newToken
  have h₂ : activeSystem.Reachable _ :=
    h₁.step (a := .track 0 "invoke-1" "node-1" 0 false) (.track rfl (by decide))
  have h₃ := h₂.step .cancelAll
  have h₄ : activeSystem.Reachable _ :=
    h₃.step (a := .track 1 "invoke-1" "node-1" 1 false) (.track rfl (by decide))
  convert h₄ using 1
  simp only [outlived]
  congr 1
  funext j
  by_cases h1 : j = 1
  · subst h1
    decide
  · by_cases h0 : j = 0
    · subst h0
      decide
    · simp [h1, h0]

/-- The old guard removes the entry of the new one, which is then alive without an entry. -/
theorem outdated_guard_untracks : ∃ w' g old, activeSystem.Reachable outlived ∧
    outlived.guards 0 = some old ∧ ¬ outlived.DropsOwn old ∧
    ActiveStep outlived (.drop 0) w' ∧ w'.guards 1 = some g ∧ g.outdated = false ∧
    w'.scope.inner.lookup g.tracked.id = none ∧ ¬ w'.Serves g := by
  refine ⟨_, _, _, outlived_reachable, rfl, ?_, .drop rfl, rfl, rfl, by decide, ?_⟩
  · intro hown
    exact absurd (hown ⟨"node-1", 1, none, 3⟩ (by decide))
      (by simp [ActiveInvocationState.InstalledBy])
  · rintro ⟨⟨e, he, -⟩, -, -, -⟩
    revert he
    decide +revert

end OpenclawNode.Node
