import OpenclawNode.Base.Window
import OpenclawNode.Base.FixedWidth
import OpenclawNode.Gateway.EventHub

/-! What is retained is the longest window that fits, and every subscriber accounts for every
event. -/
namespace OpenclawNode.Gateway

open Transition (System)
open FixedWidth (toNat_succ)

variable {hub : EventHub} {published : List String} {raw : String}

/-- The published frames that are not oversized, with their indices. -/
def kept (maxBytes : Nat) (published : List String) : List (String × Nat) :=
  published.zipIdx.filter fun frame => rawLen frame.1 ≤ maxBytes

def RetainedEvent.indexed (frame : RetainedEvent) : String × Nat := (frame.raw, frame.index.toNat)

def retainedTotal (frames : List RetainedEvent) : Nat := (frames.map fun f => rawLen f.raw).sum

/-- What the hub holds of everything that was published. -/
structure EventHub.Retains (hub : EventHub) (published : List String) : Prop where
  nextIndex : hub.state.nextIndex.toNat = published.length
  retainedBytes : hub.state.retainedBytes = retainedTotal hub.state.frames
  longest : Window.Longest (fun f => rawLen f.1) hub.capacity hub.maxBytes
    (hub.state.frames.map RetainedEvent.indexed) (kept hub.maxBytes published)

theorem total_indexed (frames : List RetainedEvent) :
    Window.total (fun f => rawLen f.1) (frames.map RetainedEvent.indexed) =
      retainedTotal frames := by
  simp only [Window.total, retainedTotal, List.map_map]
  rfl

/-- The eviction loop is the eviction of the window, and keeps the byte count exact. -/
theorem evictFrames_eq (capacity maxBytes added : Nat) (frames : List RetainedEvent) :
    ∃ frames', evictFrames capacity maxBytes added frames (retainedTotal frames) =
        (frames', retainedTotal frames') ∧
      frames'.map RetainedEvent.indexed =
        Window.evict (fun f => rawLen f.1) capacity maxBytes added
          (frames.map RetainedEvent.indexed) := by
  induction frames with
  | nil => exact ⟨[], rfl, rfl⟩
  | cons frame frames ih =>
    have htotal : retainedTotal (frame :: frames) - rawLen frame.raw = retainedTotal frames := by
      simp [retainedTotal]
    have hcond : (capacity ≤ (frame :: frames).length ∨
          maxBytes < retainedTotal (frame :: frames) + added) ↔
        (capacity ≤ (frame.indexed :: frames.map RetainedEvent.indexed).length ∨
          maxBytes < Window.total (fun f => rawLen f.1)
            (frame.indexed :: frames.map RetainedEvent.indexed) + added) := by
      rw [← total_indexed, List.map_cons]
      simp
    rw [evictFrames, List.map_cons, Window.evict, htotal]
    by_cases h : capacity ≤ (frame :: frames).length ∨
        maxBytes < retainedTotal (frame :: frames) + added
    · rw [if_pos h, if_pos (hcond.mp h)]
      exact ih
    · rw [if_neg h, if_neg (fun hn => h (hcond.mpr hn))]
      exact ⟨frame :: frames, rfl, rfl⟩

theorem kept_append (maxBytes : Nat) (published : List String) (raw : String) :
    kept maxBytes (published ++ [raw]) = kept maxBytes published ++
      if rawLen raw ≤ maxBytes then [(raw, published.length)] else [] := by
  simp only [kept, List.zipIdx_append, List.filter_append]
  split <;> simp_all

theorem mem_kept {maxBytes : Nat} {frame : String × Nat} (h : frame ∈ kept maxBytes published) :
    published[frame.2]? = some frame.1 :=
  List.mem_zipIdx_iff_getElem?.mp (List.mem_filter.mp h).1

theorem EventHub.Retains.new (capacity maxBytes : Nat) :
    (EventHub.new capacity maxBytes).Retains [] :=
  ⟨rfl, rfl, Window.Longest.nil⟩

theorem EventHub.Retains.publish (h : hub.Retains published)
    (hroom : published.length + 1 < 2 ^ 64) :
    (hub.publish raw).Retains (published ++ [raw]) := by
  have hindex : (hub.state.nextIndex + 1).toNat = published.length + 1 := by
    rw [toNat_succ (by rw [h.nextIndex]; exact hroom), h.nextIndex]
  unfold EventHub.publish
  dsimp only
  split
  · next hover =>
    refine ⟨by simpa using hindex, h.retainedBytes, ?_⟩
    have hlongest := h.longest
    simpa [kept_append, Nat.not_le.mpr hover] using hlongest
  · next hfit =>
    obtain ⟨frames, hevict, hwindow⟩ := evictFrames_eq hub.capacity hub.maxBytes (rawLen raw)
      hub.state.frames
    rw [h.retainedBytes, hevict]
    refine ⟨by simpa using hindex, by simp [retainedTotal], ?_⟩
    have hpush := h.longest.push (x := (raw, published.length)) hub.capacity_pos
      (Nat.not_lt.mp hfit)
    rw [← hwindow] at hpush
    simpa [kept_append, Nat.not_lt.mp hfit, RetainedEvent.indexed, h.nextIndex] using hpush

theorem EventHub.Retains.close (h : hub.Retains published) : hub.close.Retains published :=
  ⟨h.nextIndex, h.retainedBytes, h.longest⟩

/-- A retained frame is a published one, under its own index. -/
theorem EventHub.Retains.published_of_mem (h : hub.Retains published) {frame : RetainedEvent}
    (hf : frame ∈ hub.state.frames) : published[frame.index.toNat]? = some frame.raw :=
  mem_kept (h.longest.suffix.subset (List.mem_map_of_mem hf))

/-- The four ways a look at the retained events ends for a cursor that is not ahead. -/
theorem EventHub.Retains.recv_cases (h : hub.Retains published) {cursor : UInt64}
    (hc : cursor.toNat ≤ published.length) (hroom : published.length < 2 ^ 64) :
    (∃ raw, hub.recv cursor = (some (.event raw), cursor + 1) ∧
      published[cursor.toNat]? = some raw ∧ (cursor + 1).toNat = cursor.toNat + 1) ∨
    (∃ count cursor', hub.recv cursor = (some (.lagged count), cursor') ∧ 0 < count.toNat ∧
      cursor'.toNat = cursor.toNat + count.toNat ∧ cursor'.toNat ≤ published.length) ∨
    (hub.recv cursor = (some .closed, cursor) ∧ hub.state.closed = true ∧
      cursor = hub.state.nextIndex) ∨
    (hub.recv cursor = (none, cursor) ∧ hub.state.closed = false ∧
      cursor = hub.state.nextIndex) := by
  have hahead : ∀ {index : UInt64}, cursor < index →
      0 < (index - cursor).toNat ∧ index.toNat = cursor.toNat + (index - cursor).toNat := by
    intro index hlt
    have hle := UInt64.le_of_lt hlt
    have hlt := UInt64.lt_iff_toNat_lt.mp hlt
    rw [UInt64.toNat_sub_of_le _ _ hle]
    omega
  unfold EventHub.recv
  split
  · next frame hfind =>
    have hmem := List.mem_of_find?_eq_some hfind
    have hpub := h.published_of_mem hmem
    have hindex := (List.getElem?_eq_some_iff.mp hpub).1
    have hge := List.find?_some hfind
    split
    · next hlt =>
      obtain ⟨hpos, hsum⟩ := hahead hlt
      exact Or.inr (Or.inl ⟨_, _, rfl, hpos, hsum, Nat.le_of_lt hindex⟩)
    · next hnot =>
      have hsame : frame.index = cursor :=
        UInt64.le_antisymm (UInt64.not_lt.mp hnot) (by simpa using hge)
      rw [hsame] at hpub hindex
      exact Or.inl ⟨frame.raw, rfl, hpub, toNat_succ (by omega)⟩
  · split
    · next hlt =>
      obtain ⟨hpos, hsum⟩ := hahead hlt
      exact Or.inr (Or.inl ⟨_, _, rfl, hpos, hsum, h.nextIndex.le⟩)
    · next hnot =>
      have hsame : cursor = hub.state.nextIndex := by
        apply UInt64.le_antisymm _ (UInt64.not_lt.mp hnot)
        rw [UInt64.le_iff_toNat_le, h.nextIndex]
        exact hc
      split
      · next hclosed => exact Or.inr (Or.inr (Or.inl ⟨rfl, hclosed, hsame⟩))
      · next hopen => exact Or.inr (Or.inr (Or.inr ⟨rfl, by simpa using hopen, hsame⟩))

/-- What a subscriber has received covers every index from its start to its cursor once, by a frame
or by a lag. -/
inductive Covers (published : List String) (start : Nat) : List (UInt64 × EventOutcome) → Nat → Prop
  | start : Covers published start [] start
  | event {received cursor raw} : Covers published start received cursor.toNat →
      published[cursor.toNat]? = some raw →
      Covers published start (received ++ [(cursor, .event raw)]) (cursor.toNat + 1)
  | lagged {received cursor count} : Covers published start received cursor.toNat →
      Covers published start (received ++ [(cursor, .lagged count)])
        (cursor.toNat + count.toNat)
  | closed {received cursor} : Covers published start received cursor.toNat →
      Covers published start (received ++ [(cursor, .closed)]) cursor.toNat

/-- The frames a subscriber was handed, whether they parse or not, with their indices. -/
def deliveries (received : List (UInt64 × EventOutcome)) : List (UInt64 × String) :=
  received.filterMap fun r =>
    match r.2 with
    | .event raw => some (r.1, raw)
    | _ => none

/-- All events a subscriber was told it missed. -/
def lag (received : List (UInt64 × EventOutcome)) : Nat :=
  (received.map fun r =>
    match r.2 with
    | .lagged count => count.toNat
    | _ => 0).sum

section

variable (received : List (UInt64 × EventOutcome)) (index count : UInt64) (raw : String)

@[simp] theorem deliveries_event :
    deliveries (received ++ [(index, .event raw)]) = deliveries received ++ [(index, raw)] := by
  simp [deliveries]

@[simp] theorem deliveries_lagged :
    deliveries (received ++ [(index, .lagged count)]) = deliveries received := by
  simp [deliveries]

@[simp] theorem deliveries_closed :
    deliveries (received ++ [(index, .closed)]) = deliveries received := by
  simp [deliveries]

@[simp] theorem lag_event : lag (received ++ [(index, .event raw)]) = lag received := by
  simp [lag]

@[simp] theorem lag_lagged :
    lag (received ++ [(index, .lagged count)]) = lag received + count.toNat := by
  simp [lag]

@[simp] theorem lag_closed : lag (received ++ [(index, .closed)]) = lag received := by
  simp [lag]

end

namespace Covers

variable {start cursor : Nat} {received : List (UInt64 × EventOutcome)}

theorem mono (h : Covers published start received cursor) (raw : String) :
    Covers (published ++ [raw]) start received cursor := by
  induction h with
  | start => exact .start
  | event _ hp ih =>
    have hlt := (List.getElem?_eq_some_iff.mp hp).1
    exact .event ih (by rw [List.getElem?_append_left hlt, hp])
  | lagged _ ih => exact .lagged ih
  | closed _ ih => exact .closed ih

/-- Frames and lags add up to the way the cursor has gone. -/
theorem count (h : Covers published start received cursor) :
    start + (deliveries received).length + lag received = cursor := by
  induction h with
  | start => simp [deliveries, lag]
  | event _ _ ih =>
    simp only [deliveries_event, lag_event, List.length_append, List.length_singleton]
    omega
  | lagged _ ih =>
    simp only [deliveries_lagged, lag_lagged]
    omega
  | closed _ ih =>
    simp only [deliveries_closed, lag_closed]
    exact ih

theorem published_of_delivery (h : Covers published start received cursor) :
    ∀ d ∈ deliveries received, start ≤ d.1.toNat ∧ d.1.toNat < cursor ∧
      published[d.1.toNat]? = some d.2 := by
  induction h with
  | start => simp [deliveries]
  | @event received index raw hcovers hp ih =>
    have hcount := hcovers.count
    intro d hd
    rw [deliveries_event, List.mem_append, List.mem_singleton] at hd
    rcases hd with hd | rfl
    · obtain ⟨hs, hc, hd⟩ := ih d hd
      exact ⟨hs, Nat.lt_succ_of_lt hc, hd⟩
    · have hstart : start ≤ index.toNat := by omega
      exact ⟨hstart, Nat.lt_succ_self _, hp⟩
  | @lagged received index lost _ ih =>
    intro d hd
    rw [deliveries_lagged] at hd
    obtain ⟨hs, hc, hd⟩ := ih d hd
    exact ⟨hs, Nat.lt_add_right _ hc, hd⟩
  | closed _ ih =>
    intro d hd
    rw [deliveries_closed] at hd
    exact ih d hd

/-- Nothing is handed out twice or out of order. -/
theorem increasing (h : Covers published start received cursor) :
    (deliveries received).Pairwise fun a b => a.1 < b.1 := by
  induction h with
  | start => simp [deliveries]
  | event hcovers _ ih =>
    rw [deliveries_event]
    refine List.pairwise_append.mpr ⟨ih, List.pairwise_singleton _ _, ?_⟩
    intro d hd d' hd'
    rw [List.mem_singleton] at hd'
    subst hd'
    exact UInt64.lt_iff_toNat_lt.mpr (hcovers.published_of_delivery d hd).2.1
  | lagged _ ih => simpa using ih
  | closed _ ih => simpa using ih

end Covers

/-- What holds of a hub and its subscribers after fewer publishes than there are indices. -/
structure HubRun.Accounts (w : HubRun) : Prop where
  retains : w.hub.Retains w.published
  subscription : ∀ i sub, w.subscription i = some sub →
    Covers w.published sub.start.toNat sub.received sub.cursor.toNat ∧
      sub.cursor.toNat ≤ w.published.length

variable {w w' : HubRun} {a : HubAction} {capacity maxBytes : Nat}

theorem HubRun.Accounts.set (h : w.Accounts) {i : Nat} {sub : EventSubscription}
    (hsub : Covers w.published sub.start.toNat sub.received sub.cursor.toNat)
    (hcursor : sub.cursor.toNat ≤ w.published.length) : (w.set i sub).Accounts where
  retains := h.retains
  subscription := by
    intro j sub' hj
    by_cases hji : j = i
    · subst hji
      simp only [HubRun.set, Function.update_self, Option.some.injEq] at hj
      subst hj
      exact ⟨hsub, hcursor⟩
    · simp only [HubRun.set, Function.update_of_ne hji] at hj
      exact h.subscription j sub' hj

theorem accounts_step (hs : HubStep w a w') (hroom : w'.published.length < 2 ^ 64)
    (h : w.Accounts) : w'.Accounts := by
  cases hs with
  | @publish raw =>
    refine ⟨h.retains.publish (by simpa using hroom), ?_⟩
    intro i sub hi
    obtain ⟨hcovers, hcursor⟩ := h.subscription i sub hi
    exact ⟨hcovers.mono raw, by simp; omega⟩
  | close => exact ⟨h.retains.close, h.subscription⟩
  | initialSubscription hi => exact h.set .start (Nat.zero_le _)
  | subscribe hi => exact h.set .start h.retains.nextIndex.le
  | @recv i sub outcome cursor hi hr =>
    obtain ⟨hcovers, hcursor⟩ := h.subscription i sub hi
    rcases h.retains.recv_cases hcursor hroom with
      ⟨raw, he, hp, hsucc⟩ | ⟨count, cursor', he, hpos, hsum, hle⟩ | ⟨he, _, _⟩ | ⟨he, _, _⟩ <;>
      rw [hr] at he <;> cases he
    · have hlt := (List.getElem?_eq_some_iff.mp hp).1
      refine h.set ?_ (by rw [hsucc]; exact hlt)
      rw [hsucc]
      exact .event hcovers hp
    · refine h.set ?_ hle
      rw [hsum]
      exact .lagged hcovers
    · exact h.set (.closed hcovers) hcursor
  | @wait i sub cursor hi hr =>
    obtain ⟨hcovers, hcursor⟩ := h.subscription i sub hi
    rcases h.retains.recv_cases hcursor hroom with
      ⟨raw, he, _, _⟩ | ⟨count, cursor', he, _, _, _⟩ | ⟨he, _, _⟩ | ⟨he, _, _⟩ <;>
      rw [hr] at he <;> cases he
    exact h.set hcovers hcursor

theorem published_step (hs : HubStep w a w') : w.published.length ≤ w'.published.length := by
  cases hs with
  | publish => simp
  | close | initialSubscription _ | subscribe _ | recv _ _ | wait _ _ => exact Nat.le_refl _

theorem bounds_step (hs : HubStep w a w') :
    w'.hub.capacity = w.hub.capacity ∧ w'.hub.maxBytes = w.hub.maxBytes := by
  cases hs with
  | publish =>
    simp only [EventHub.publish]
    split <;> exact ⟨rfl, rfl⟩
  | close | initialSubscription _ | subscribe _ | recv _ _ | wait _ _ => exact ⟨rfl, rfl⟩

theorem accounts_reachable (hw : (hubSystem capacity maxBytes).Reachable w)
    (hroom : w.published.length < 2 ^ 64) : w.Accounts := by
  refine hw.invariant (P := fun w => w.published.length < 2 ^ 64 → w.Accounts) ?_ ?_ hroom
  · rintro w ⟨hhub, hpublished, hsubscription⟩ _
    refine ⟨?_, ?_⟩
    · rw [hhub, hpublished]
      exact EventHub.Retains.new capacity maxBytes
    · intro i sub hi
      rw [hsubscription] at hi
      cases hi
  · intro w a w' hs ih hroom
    exact accounts_step hs hroom (ih (Nat.lt_of_le_of_lt (published_step hs) hroom))

theorem bounds_reachable (hw : (hubSystem capacity maxBytes).Reachable w) :
    w.hub.capacity = max capacity 1 ∧ w.hub.maxBytes = max maxBytes 1 := by
  refine hw.invariant (P := fun w =>
    w.hub.capacity = max capacity 1 ∧ w.hub.maxBytes = max maxBytes 1) ?_ ?_
  · rintro w ⟨hhub, -, -⟩
    rw [hhub]
    exact ⟨rfl, rfl⟩
  · intro w a w' hs ih
    obtain ⟨hcapacity, hmax⟩ := bounds_step hs
    exact ⟨hcapacity.trans ih.1, hmax.trans ih.2⟩

/-- Delivery accounting: the hub retains the longest suffix of the frames that are not oversized
that fits both bounds, and every subscriber is handed published frames in order, is told of every
event it missed, and sees the end only when it has seen everything. -/
theorem event_delivery_accounting (capacity maxBytes : Nat) (w : HubRun)
    (hw : (hubSystem capacity maxBytes).Reachable w) (hroom : w.published.length < 2 ^ 64) :
    w.hub.state.retainedBytes = retainedTotal w.hub.state.frames ∧
    w.hub.state.frames.length ≤ max capacity 1 ∧
    w.hub.state.retainedBytes ≤ max maxBytes 1 ∧
    Window.Longest (fun f => rawLen f.1) (max capacity 1) (max maxBytes 1)
      (w.hub.state.frames.map RetainedEvent.indexed) (kept (max maxBytes 1) w.published) ∧
    ∀ i sub, w.subscription i = some sub →
      (∀ d ∈ deliveries sub.received, w.published[d.1.toNat]? = some d.2) ∧
      ((deliveries sub.received).Pairwise fun a b => a.1 < b.1) ∧
      sub.start ≤ sub.cursor ∧ sub.cursor ≤ w.hub.state.nextIndex ∧
      (deliveries sub.received).length + lag sub.received =
        sub.cursor.toNat - sub.start.toNat ∧
      ∀ cursor, w.hub.recv sub.cursor = (some .closed, cursor) →
        sub.cursor = w.hub.state.nextIndex := by
  obtain ⟨hretains, hsubs⟩ := accounts_reachable hw hroom
  obtain ⟨hcapacity, hmax⟩ := bounds_reachable hw
  have hlongest := hretains.longest
  have hlength := hlongest.fits.length_le
  have htotal := hlongest.fits.total_le
  rw [total_indexed, ← hretains.retainedBytes] at htotal
  rw [hcapacity, hmax] at hlongest
  refine ⟨hretains.retainedBytes, by simpa [hcapacity] using hlength, by simpa [hmax] using htotal,
    hlongest, ?_⟩
  intro i sub hi
  obtain ⟨hcovers, hcursor⟩ := hsubs i sub hi
  have hcount := hcovers.count
  refine ⟨fun d hd => (hcovers.published_of_delivery d hd).2.2, hcovers.increasing, ?_, ?_, by omega,
    ?_⟩
  · exact UInt64.le_iff_toNat_le.mpr (by omega)
  · rw [UInt64.le_iff_toNat_le, hretains.nextIndex]
    exact hcursor
  · intro cursor hr
    rcases hretains.recv_cases hcursor hroom with
      ⟨_, he, _, _⟩ | ⟨_, _, he, _, _, _⟩ | ⟨_, _, hsame⟩ | ⟨he, _, _⟩
    · rw [hr] at he
      cases he
    · rw [hr] at he
      cases he
    · exact hsame
    · rw [hr] at he
      cases he

/-- Three events through a hub that retains two. -/
def laggingHub : EventHub :=
  (((EventHub.new 2 4096).publish "one").publish "two").publish "three"

theorem lagging_subscriber : ∃ w sub, (hubSystem 2 4096).Reachable w ∧ w.subscription 0 = some sub ∧
    sub.received = [(0, .lagged 1), (1, .event "two")] ∧
    (deliveries sub.received).length + lag sub.received = sub.cursor.toNat - sub.start.toNat := by
  have hlag : laggingHub.recv 0 = (some (.lagged 1), 1) := by decide +kernel
  have hevent : laggingHub.recv 1 = (some (.event "two"), 2) := by decide +kernel
  have h₀ : (hubSystem 2 4096).Reachable ⟨EventHub.new 2 4096, [], fun _ => none⟩ :=
    .initial ⟨rfl, rfl, rfl⟩
  have h₁ := h₀.step (.initialSubscription (i := 0) rfl)
  have h₂ := ((h₁.step (.publish "one")).step (.publish "two")).step (.publish "three")
  have h₃ := h₂.step (.recv (i := 0) rfl hlag)
  have h₄ := h₃.step (.recv (i := 0) rfl hevent)
  obtain ⟨-, -, -, -, hsubs⟩ := event_delivery_accounting 2 4096 _ h₄ (by decide)
  exact ⟨_, ⟨0, 2, _⟩, h₄, rfl, rfl, (hsubs 0 _ rfl).2.2.2.2.1⟩

end OpenclawNode.Gateway
