import OpenclawNode.Node.InputQueue
import OpenclawNode.Node.RuntimeAccounting

/-! Any number of `recv` calls on one input, and the wakeups that its pushes and its end give them. -/
namespace OpenclawNode.Node

open Transition (System)

/-- Where one `recv` stands: it has made its `Notified` while so many calls of `notify_waiters` had
been made, it has then found nothing, it waits, it is woken, or it has returned. -/
inductive Receiver
  | created (generation : Nat)
  | checked (generation : Nat)
  | parked
  | woken
  | returned (payload : Option String)
  deriving DecidableEq, Repr

namespace Receiver

/-- What the check leaves of a `recv` that has made its `Notified`. -/
def afterCheck (generation : Nat) : Option (Option String) → Receiver
  | some payload => .returned payload
  | none => .checked generation

def wake : Receiver → Receiver
  | .parked => .woken
  | r => r

def isParked : Receiver → Bool
  | .parked => true
  | _ => false

def isChecked : Receiver → Bool
  | .checked _ => true
  | _ => false

/-- It will check the queue before it waits. -/
def isRunning : Receiver → Bool
  | .created _ | .woken => true
  | _ => false

end Receiver

/-- A buffer and its `Notify`: the stored permit and the calls of `notify_waiters` so far. A push
that was accepted is due to call `notify_one` once it has released the lock. -/
structure WakeRun where
  buffer : InputBuffer
  permit : Bool
  generation : Nat
  due : Nat
  recvs : List Receiver

namespace WakeRun

def notifyWaiters (w : WakeRun) : WakeRun :=
  { w with generation := w.generation + 1, recvs := w.recvs.map Receiver.wake }

def push (w : WakeRun) (seq : UInt64) (payload : String) : WakeRun :=
  match w.buffer.push seq payload with
  | (buffer, .accepted) => { w with buffer, due := w.due + 1 }
  | (buffer, .ignored) => { w with buffer }
  | (buffer, .overflow) => { w with buffer }.notifyWaiters

def close (w : WakeRun) : WakeRun := { w with buffer := w.buffer.close }.notifyWaiters

def parked (w : WakeRun) : Nat := w.recvs.countP Receiver.isParked

def checked (w : WakeRun) : Nat := w.recvs.countP Receiver.isChecked

def running (w : WakeRun) : Nat := w.recvs.countP Receiver.isRunning

end WakeRun

inductive WakeAction
  | recv
  | check
  | poll
  | again
  | push (seq : UInt64) (payload : String)
  | notify
  | close

/-- The steps of the calls on one input. A poll takes the stored permit, or sees that
`notify_waiters` was called since its `Notified` was made, or registers. -/
inductive WakeStep : WakeRun → WakeAction → WakeRun → Prop
  | recv {w} : WakeStep w .recv { w with recvs := w.recvs ++ [.created w.generation] }
  | check {w} (before after : List Receiver) (g : Nat) :
      w.recvs = before ++ .created g :: after →
      WakeStep w .check { w with
        buffer := w.buffer.check.2
        recvs := before ++ .afterCheck g w.buffer.check.1 :: after }
  | takePermit {w} (before after : List Receiver) (g : Nat) :
      w.recvs = before ++ .checked g :: after → w.permit = true →
      WakeStep w .poll { w with permit := false, recvs := before ++ .woken :: after }
  | outdated {w} (before after : List Receiver) (g : Nat) :
      w.recvs = before ++ .checked g :: after → w.permit = false → g ≠ w.generation →
      WakeStep w .poll { w with recvs := before ++ .woken :: after }
  | park {w} (before after : List Receiver) :
      w.recvs = before ++ .checked w.generation :: after → w.permit = false →
      WakeStep w .poll { w with recvs := before ++ .parked :: after }
  | again {w} (before after : List Receiver) : w.recvs = before ++ .woken :: after →
      WakeStep w .again { w with recvs := before ++ .created w.generation :: after }
  | push {w} (seq : UInt64) (payload : String) :
      WakeStep w (.push seq payload) (w.push seq payload)
  | notifyParked {w n} (before after : List Receiver) : w.due = n + 1 →
      w.recvs = before ++ .parked :: after →
      WakeStep w .notify { w with due := n, recvs := before ++ .woken :: after }
  | notifyStored {w n} : w.due = n + 1 → w.parked = 0 →
      WakeStep w .notify { w with due := n, permit := true }
  | close {w} : WakeStep w .close w.close

def wakeSystem (maximumBytes : Nat) : System WakeRun WakeAction where
  Initial w := w = ⟨.new maximumBytes, false, 0, 0, []⟩
  Step := WakeStep

/-- Something is there to return and some `recv` waits for it, but nothing is left to wake it. -/
structure WakeRun.Stalled (w : WakeRun) : Prop where
  waiting : w.buffer.queue ≠ [] ∨ w.buffer.closed = true
  parked : Receiver.parked ∈ w.recvs
  due : w.due = 0
  permit : w.permit = false
  idle : ∀ r ∈ w.recvs, r = .parked ∨ ∃ payload, r = .returned payload

/-- A wakeup that finds the permit stored is not needed: at most one `recv` has checked and not yet
polled, or the others that run and the wakeups that are due reach what is queued. -/
def WakeRun.Spares (w : WakeRun) : Prop :=
  w.permit = true → w.checked ≤ 1 ∨ w.buffer.queue.length ≤ w.running + w.due

/-- The runs in which no wakeup that is needed finds the permit stored. -/
def sparingSystem (maximumBytes : Nat) : System WakeRun WakeAction where
  Initial := (wakeSystem maximumBytes).Initial
  Step w a w' := WakeStep w a w' ∧ (a = .notify → w.Spares)

/-- What is queued is reached by the permit, by the receivers that run and by the wakeups due, as
soon as a receiver may be left waiting; and after the end none waits. -/
structure WakeRun.Served (w : WakeRun) : Prop where
  permit : w.permit = true → w.parked = 0
  generations : ∀ g, Receiver.created g ∈ w.recvs ∨ Receiver.checked g ∈ w.recvs →
    g ≤ w.generation
  closed : w.buffer.closed = true → w.buffer.queue = [] ∧ w.parked = 0 ∧
    ∀ g, Receiver.checked g ∈ w.recvs → g < w.generation
  served : 0 < w.parked ∨ 2 ≤ w.checked ∨ (0 < w.checked ∧ w.permit = false) →
    w.buffer.queue.length ≤ w.permit.toNat + w.running + w.due

variable {maximumBytes : Nat} {w w' : WakeRun} {before after : List Receiver} {r s : Receiver}

/-- How one receiver's move changes the number of those of a kind. -/
theorem countP_moved {p : Receiver → Bool} (h : w.recvs = before ++ r :: after) :
    (before ++ s :: after).countP p + (p r).toNat = w.recvs.countP p + (p s).toNat := by
  rw [h, countP_middle, countP_middle]
  omega

theorem mem_moved (h : w.recvs = before ++ r :: after) {t : Receiver}
    (ht : t ∈ before ++ s :: after) (hne : t ≠ s) : t ∈ w.recvs := by
  rw [h]
  simp only [List.mem_append, List.mem_cons] at ht ⊢
  rcases ht with ht | rfl | ht
  · exact Or.inl ht
  · exact absurd rfl hne
  · exact Or.inr (Or.inr ht)

theorem mem_snoc {t : Receiver} (ht : t ∈ w.recvs ++ [s]) (hne : t ≠ s) : t ∈ w.recvs := by
  rcases List.mem_append.mp ht with ht | ht
  · exact ht
  · exact absurd (List.mem_singleton.mp ht) hne

theorem WakeRun.Served.recv (h : w.Served) :
    WakeRun.Served { w with recvs := w.recvs ++ [Receiver.created w.generation] } := by
  have hcount : ∀ p : Receiver → Bool, (w.recvs ++ [Receiver.created w.generation]).countP p =
      w.recvs.countP p + (p (.created w.generation)).toNat := by
    intro p
    rw [List.countP_append, List.countP_singleton]
    cases p (.created w.generation) <;> rfl
  refine ⟨fun hp => (hcount _).trans (h.permit hp), ?_, fun hc => ?_, fun hs => ?_⟩
  · rintro g (hg | hg)
    · by_cases he : Receiver.created g = .created w.generation
      · cases he
        exact le_rfl
      · exact h.generations g (Or.inl (mem_snoc hg he))
    · exact h.generations g (Or.inr (mem_snoc hg (by simp)))
  · obtain ⟨hq, hp, hg⟩ := h.closed hc
    exact ⟨hq, (hcount _).trans hp, fun g hm => hg g (mem_snoc hm (by simp))⟩
  · have hle := h.served
    have hrunning := hcount Receiver.isRunning
    simp only [WakeRun.parked, WakeRun.checked, WakeRun.running, hcount] at hs hle ⊢
    have hle := hle hs
    omega

/-- A move after which the receiver runs, and which takes nothing of what reaches the queue. -/
theorem WakeRun.Served.moved (h : w.Served) (hr : w.recvs = before ++ r :: after) {permit : Bool}
    {due : Nat} (hs : s = .woken ∨ s = .created w.generation)
    (hpermit : permit = w.permit ∨ (permit = false ∧ r.isChecked = true))
    (hreach : w.permit.toNat + r.isRunning.toNat + w.due ≤ permit.toNat + 1 + due) :
    WakeRun.Served { w with permit, due, recvs := before ++ s :: after } := by
  have hcount (p : Receiver → Bool) := countP_moved (p := p) (s := s) hr
  have hparked : s.isParked = false := by rcases hs with rfl | rfl <;> rfl
  have hchecked : s.isChecked = false := by rcases hs with rfl | rfl <;> rfl
  have hrunning : s.isRunning = true := by rcases hs with rfl | rfl <;> rfl
  have hparkedCount := hcount Receiver.isParked
  have hcheckedCount := hcount Receiver.isChecked
  have hrunningCount := hcount Receiver.isRunning
  rw [hparked, Bool.toNat_false, Nat.add_zero] at hparkedCount
  rw [hchecked, Bool.toNat_false, Nat.add_zero] at hcheckedCount
  rw [hrunning, Bool.toNat_true] at hrunningCount
  have hnone : w.parked = 0 → (before ++ s :: after).countP Receiver.isParked = 0 := fun hp => by
    change w.recvs.countP Receiver.isParked = 0 at hp
    omega
  refine ⟨fun hp => hnone (h.permit ?_), ?_, fun hc => ?_, fun hw => ?_⟩
  · rcases hpermit with rfl | ⟨rfl, -⟩
    · exact hp
    · cases hp
  · rintro g (hg | hg)
    · by_cases he : Receiver.created g = s
      · rcases hs with rfl | rfl
        · cases he
        · cases he
          exact le_rfl
      · exact h.generations g (Or.inl (mem_moved hr hg he))
    · refine h.generations g (Or.inr (mem_moved hr hg ?_))
      rintro rfl
      cases hchecked
  · obtain ⟨hq, hp, hg⟩ := h.closed hc
    refine ⟨hq, hnone hp, fun g hm => hg g (mem_moved hr hm ?_)⟩
    rintro rfl
    cases hchecked
  · have hle := h.served
    simp only [WakeRun.parked, WakeRun.checked, WakeRun.running] at hw hle ⊢
    have hbefore : 0 < w.recvs.countP Receiver.isParked ∨ 2 ≤ w.recvs.countP Receiver.isChecked ∨
        (0 < w.recvs.countP Receiver.isChecked ∧ w.permit = false) := by
      rcases hpermit with rfl | ⟨rfl, hc⟩
      · rcases hw with hw | hw | ⟨hw, hp⟩
        · exact Or.inl (by omega)
        · exact Or.inr (Or.inl (by omega))
        · exact Or.inr (Or.inr ⟨by omega, hp⟩)
      · rw [hc, Bool.toNat_true] at hcheckedCount
        rcases hw with hw | hw | ⟨hw, -⟩
        · exact Or.inl (by omega)
        · exact Or.inr (Or.inl (by omega))
        · exact Or.inr (Or.inl (by omega))
    have hle := hle hbefore
    omega

theorem WakeRun.Served.park (h : w.Served) (hr : w.recvs = before ++ .checked w.generation :: after)
    (hp : w.permit = false) :
    WakeRun.Served { w with recvs := before ++ .parked :: after } := by
  have hmem : Receiver.checked w.generation ∈ w.recvs := by
    rw [hr]
    exact List.mem_append_right _ List.mem_cons_self
  refine ⟨fun ht => absurd ht (by simp [hp]), ?_, fun hc => ?_, fun _ => ?_⟩
  · rintro g (hg | hg)
    · exact h.generations g (Or.inl (mem_moved hr hg (by simp)))
    · exact h.generations g (Or.inr (mem_moved hr hg (by simp)))
  · exact absurd ((h.closed hc).2.2 _ hmem) (lt_irrefl _)
  · have hpos : 0 < w.recvs.countP Receiver.isChecked :=
      List.countP_pos_iff.mpr ⟨_, hmem, rfl⟩
    have hle := h.served (Or.inr (Or.inr ⟨hpos, hp⟩))
    have hrunning := countP_moved (p := Receiver.isRunning) (s := .parked) hr
    simp only [Receiver.isRunning, Bool.toNat_false, Nat.add_zero] at hrunning
    simp only [WakeRun.running] at hle ⊢
    omega

theorem WakeRun.Served.check {g : Nat} (h : w.Served)
    (hr : w.recvs = before ++ .created g :: after) :
    WakeRun.Served { w with
      buffer := w.buffer.check.2
      recvs := before ++ .afterCheck g w.buffer.check.1 :: after } := by
  have hmem : Receiver.created g ∈ w.recvs := by
    rw [hr]
    exact List.mem_append_right _ List.mem_cons_self
  have hparked (s : Receiver) := countP_moved (p := Receiver.isParked) (s := s) hr
  have hchecked (s : Receiver) := countP_moved (p := Receiver.isChecked) (s := s) hr
  have hrunning (s : Receiver) := countP_moved (p := Receiver.isRunning) (s := s) hr
  simp only [Receiver.isParked, Receiver.isChecked, Receiver.isRunning, Bool.toNat_false,
    Bool.toNat_true, Nat.add_zero] at hparked hchecked hrunning
  have hgen : ∀ s : Receiver, (∀ g', s ≠ .created g') → (∀ g', s = .checked g' → g' = g) →
      ∀ g', .created g' ∈ before ++ s :: after ∨ .checked g' ∈ before ++ s :: after →
        g' ≤ w.generation := by
    rintro s hc hk g' (hg | hg)
    · exact h.generations g' (Or.inl (mem_moved hr hg (hc g').symm))
    · by_cases he : .checked g' = s
      · exact hk g' he.symm ▸ h.generations g (Or.inl hmem)
      · exact h.generations g' (Or.inr (mem_moved hr hg he))
  obtain ⟨payload, queue, hq, hp⟩ | ⟨hq, hc, hp⟩ | ⟨hq, hc, hp⟩ := w.buffer.check_cases
  · rw [hp]
    have hparked := hparked (.returned (some payload))
    have hchecked := hchecked (.returned (some payload))
    have hrunning := hrunning (.returned (some payload))
    simp only [Bool.toNat_false, Nat.add_zero] at hparked hchecked hrunning
    refine ⟨fun ht => hparked.trans (h.permit ht), hgen _ (by simp [Receiver.afterCheck])
      (by simp [Receiver.afterCheck]), fun hc => ?_, fun hs => ?_⟩
    · exact absurd ((h.closed hc).1) (by simp [hq])
    · have hle := h.served
      simp only [WakeRun.parked, WakeRun.checked, WakeRun.running, Receiver.afterCheck] at hs hle ⊢
      rw [hparked, hchecked] at hs
      have hle := hle hs
      rw [hq, List.length_cons] at hle
      omega
  · rw [hp]
    have hparked := hparked (.returned none)
    simp only [Bool.toNat_false, Nat.add_zero] at hparked
    refine ⟨fun ht => hparked.trans (h.permit ht), hgen _ (by simp [Receiver.afterCheck])
      (by simp [Receiver.afterCheck]), fun _ => ?_, fun _ => ?_⟩
    · obtain ⟨hq, hnone, hg⟩ := h.closed hc
      exact ⟨hq, hparked.trans hnone, fun g' hm => hg g' (mem_moved hr hm (by simp
        [Receiver.afterCheck]))⟩
    · simp [hq]
  · rw [hp]
    have hparked := hparked (.checked g)
    simp only [Bool.toNat_false, Nat.add_zero] at hparked
    refine ⟨fun ht => hparked.trans (h.permit ht), hgen _ (by simp [Receiver.afterCheck])
      (by simp [Receiver.afterCheck]), fun ht => ?_, fun _ => ?_⟩
    · exact absurd ht (by simp [hc])
    · simp [hq]

/-- Closing clears the queue and wakes every receiver that waits or has yet to poll. -/
theorem WakeRun.Served.ended (h : w.Served) {buffer : InputBuffer} (hq : buffer.queue = []) :
    WakeRun.Served (notifyWaiters { w with buffer }) := by
  have hparked : (w.recvs.map Receiver.wake).countP Receiver.isParked = 0 := by
    rw [List.countP_eq_zero]
    simp only [List.mem_map]
    rintro _ ⟨r, -, rfl⟩
    cases r <;> simp [Receiver.wake, Receiver.isParked]
  have hgen : ∀ g, Receiver.created g ∈ w.recvs.map Receiver.wake ∨
      Receiver.checked g ∈ w.recvs.map Receiver.wake → g ≤ w.generation := by
    simp only [List.mem_map]
    rintro g (⟨r, hr, he⟩ | ⟨r, hr, he⟩)
    · cases r <;> cases he
      exact h.generations g (Or.inl hr)
    · cases r <;> cases he
      exact h.generations g (Or.inr hr)
  refine ⟨fun _ => hparked, fun g hg => (hgen g hg).trans (Nat.le_succ _), fun _ => ?_, fun _ => ?_⟩
  · exact ⟨hq, hparked, fun g hg => Nat.lt_succ_of_le (hgen g (Or.inr hg))⟩
  · simp [WakeRun.notifyWaiters, hq]

theorem WakeRun.Served.push (h : w.Served) (seq : UInt64) (payload : String) :
    (w.push seq payload).Served := by
  unfold WakeRun.push
  obtain ⟨-, hp⟩ | ⟨-, -, -, hp⟩ | ⟨-, hf, hp⟩ := w.buffer.push_cases seq payload <;> rw [hp]
  · exact h
  · exact h.ended rfl
  · refine ⟨h.permit, h.generations, fun hc => ?_, fun hs => ?_⟩
    · exact absurd hf.1 (by simpa using hc)
    · have hle := h.served hs
      show (w.buffer.queue ++ [payload]).length ≤ w.permit.toNat + w.running + (w.due + 1)
      rw [List.length_append, List.length_singleton]
      omega

/-- A wakeup that nobody waits for is stored. When the permit is there already one wakeup less is to
come, which the condition on the step makes up for. -/
theorem WakeRun.Served.stored {n : Nat} (h : w.Served) (hd : w.due = n + 1) (hn : w.parked = 0)
    (hs : w.Spares) : WakeRun.Served { w with due := n, permit := true } := by
  refine ⟨fun _ => hn, h.generations, h.closed, fun hw => ?_⟩
  show w.buffer.queue.length ≤ 1 + w.running + n
  have hchecked : 2 ≤ w.checked := by
    rcases hw with hw | hw | ⟨-, hw⟩
    · exact absurd hn hw.ne'
    · exact hw
    · cases hw
  cases hp : w.permit with
  | true =>
    rcases hs hp with hle | hle
    · omega
    · omega
  | false =>
    have hle := h.served (Or.inr (Or.inl hchecked))
    rw [hp, Bool.toNat_false] at hle
    omega

theorem WakeRun.Served.step {a : WakeAction} (h : w.Served) (hstep : WakeStep w a w')
    (hs : a = .notify → w.Spares) : w'.Served := by
  cases hstep with
  | recv => exact h.recv
  | check before after g hr => exact h.check hr
  | takePermit before after g hr hp =>
    exact h.moved hr (Or.inl rfl) (Or.inr ⟨rfl, rfl⟩) (by simp [hp, Receiver.isRunning])
  | outdated before after g hr hp hg =>
    exact h.moved hr (Or.inl rfl) (Or.inl rfl) (by simp [Receiver.isRunning])
  | park before after hr hp => exact h.park hr hp
  | again before after hr =>
    exact h.moved hr (Or.inr rfl) (Or.inl rfl) (by simp [Receiver.isRunning])
  | push seq payload => exact h.push seq payload
  | notifyParked before after hd hr =>
    exact h.moved hr (Or.inl rfl) (Or.inl rfl) (by
      simp only [Receiver.isRunning, hd, Bool.toNat_false]
      omega)
  | notifyStored hd hn => exact h.stored hd hn (hs rfl)
  | close => exact h.ended rfl

theorem served_wake_reachable (hw : (sparingSystem maximumBytes).Reachable w) : w.Served := by
  refine hw.invariant ?_ ?_
  · rintro w rfl
    exact ⟨fun _ => rfl, by simp, (fun hc => nomatch hc), fun _ => Nat.zero_le _⟩
  · rintro w a w' ⟨hs, hn⟩ h
    exact h.step hs hn

/-- While every wakeup that finds the permit stored can be spared, no receiver is left waiting for
something that is there. -/
theorem no_wakeup_lost (maximumBytes : Nat) (w : WakeRun)
    (hw : (sparingSystem maximumBytes).Reachable w) : ¬ w.Stalled := by
  intro hstalled
  have h := served_wake_reachable hw
  have hparked : 0 < w.parked := List.countP_pos_iff.mpr ⟨_, hstalled.parked, rfl⟩
  rcases hstalled.waiting with hq | hc
  · have hrunning : w.running = 0 := by
      refine List.countP_eq_zero.mpr fun r hr => ?_
      obtain rfl | ⟨payload, rfl⟩ := hstalled.idle r hr <;> simp [Receiver.isRunning]
    have hle := h.served (Or.inl hparked)
    rw [hstalled.permit, hstalled.due, hrunning] at hle
    exact hq (List.length_eq_zero_iff.mp (Nat.le_zero.mp hle))
  · exact absurd (h.closed hc).2.1 hparked.ne'

/-- Two receivers that have both found nothing, with two payloads pushed but no wakeup made yet. -/
def twoChecked : WakeRun where
  buffer := ((InputBuffer.new 8).push 0 "a").1.push 1 "b" |>.1
  permit := false
  generation := 0
  due := 2
  recvs := [.checked 0, .checked 0]

theorem two_checked_reachable : (wakeSystem 8).Reachable twoChecked := by
  have h₀ : (wakeSystem 8).Reachable ⟨.new 8, false, 0, 0, []⟩ := .initial rfl
  have h₁ := ((h₀.step .recv).step .recv).step (.check [] [.created 0] 0 rfl)
  have h₂ := (h₁.step (.check [.checked 0] [] 0 rfl)).step (.push 0 "a")
  exact h₂.step (.push 1 "b")

/-- Both wakeups leave one permit. The receiver that takes it returns with the first payload, and
the other waits while the second is there. -/
theorem second_payload_stalls : ∃ w, (wakeSystem 8).Reachable w ∧ w.buffer.queue = ["b"] ∧
    w.recvs = [.returned (some "a"), .parked] ∧ w.Stalled := by
  have h₁ := (two_checked_reachable.step (.notifyStored rfl rfl)).step (.notifyStored rfl rfl)
  have h₂ := (h₁.step (.takePermit [] [.checked 0] 0 rfl rfl)).step (.park [.woken] [] rfl rfl)
  have h₃ := (h₂.step (.again [] [.parked] rfl)).step (.check [] [.parked] 0 rfl)
  refine ⟨_, h₃, by rfl, by rfl, Or.inl (List.cons_ne_nil "b" []), ?_, rfl, rfl, ?_⟩
  · exact List.mem_append_right [Receiver.returned (some "a")] List.mem_cons_self
  · show ∀ r ∈ [Receiver.returned (some "a"), .parked], r = .parked ∨ ∃ p, r = .returned p
    simp

/-- One receiver that has found nothing and two payloads: the permit is enough. -/
theorem one_receiver_not_stalled : ∃ w, (sparingSystem 8).Reachable w ∧
    w.recvs = [.checked 0] ∧ w.buffer.queue = ["a", "b"] ∧ w.due = 0 ∧ ¬ w.Stalled := by
  have h₀ : (sparingSystem 8).Reachable ⟨.new 8, false, 0, 0, []⟩ := .initial rfl
  have h₁ := (h₀.step ⟨.recv, fun h => nomatch h⟩).step
    ⟨.check [] [] 0 rfl, fun h => nomatch h⟩
  have h₂ := (h₁.step ⟨.push 0 "a", fun h => nomatch h⟩).step ⟨.push 1 "b", fun h => nomatch h⟩
  have h₃ := h₂.step ⟨.notifyStored rfl rfl, fun _ h => nomatch h⟩
  have h₄ := h₃.step ⟨.notifyStored rfl rfl, fun _ _ => Or.inl le_rfl⟩
  exact ⟨_, h₄, rfl, rfl, rfl, no_wakeup_lost 8 _ h₄⟩

end OpenclawNode.Node
