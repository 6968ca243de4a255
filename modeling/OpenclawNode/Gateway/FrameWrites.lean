import OpenclawNode.Gateway.FrameOrder

/-! How a caller's frame comes to the wire when nothing is in its way. -/
namespace OpenclawNode.Gateway

open Node (Nanos)
open SessionRun

variable {n : Nat} {writeTimeout : Nanos} {s s' s'' : SessionRun} {i : Nat} {c : Caller}

/-- A step of the session that calls nothing. -/
def Quiet (n : Nat) (writeTimeout : Nanos) (s s' : SessionRun) : Prop :=
  ∃ a, SessionStep n writeTimeout s a s' ∧ ∀ i, s.callers i = none → s'.callers i = none

theorem quiet_caller (ht : s.Tidy) (hc : s.callers i = some c)
    (hs : SessionStep n writeTimeout s (.caller i) s') : Quiet n writeTimeout s s' := by
  refine ⟨_, hs, ?_⟩
  intro j hn
  cases hj : s'.callers j with
  | none => rfl
  | some d =>
    have he := (follows_step ht hs).new j d hn hj
    cases he
    rw [hc] at hn
    cases hn

theorem quiet_session (ht : s.Tidy) (hs : SessionStep n writeTimeout s .session s') :
    Quiet n writeTimeout s s' := by
  refine ⟨_, hs, ?_⟩
  intro j hn
  cases hj : s'.callers j with
  | none => rfl
  | some d => cases (follows_step ht hs).new j d hn hj

/-- The request that a caller is given with the next permit. -/
def SessionRun.nextRequest (s : SessionRun) (i : Nat) (c : Caller) (permit : Nat) : Request :=
  ⟨requestId s.nextRequestId, c.method, c.params, c.deadline, c.guarded, i, permit⟩

/-- The session once the frame is on the wire and its answer awaited. -/
def SessionRun.wrote (s : SessionRun) (i : Nat) (c : Caller) (permit : Nat) (rest : List Nat) :
    SessionRun :=
  { s with
    permits := rest
    nextRequestId := s.nextRequestId + 1
    callers := Function.update s.callers i
      (some { c with id := some (requestId s.nextRequestId), phase := .waitingReply })
    assigned := s.assigned ++ [requestId s.nextRequestId]
    pending := s.pending ++ [s.nextRequest i c permit]
    wire := s.wire ++ [⟨requestId s.nextRequestId, c.method, c.params⟩]
    phase := .top }

theorem settle_none (answer : Request → Option Reply) : s.settle [] answer = s := by
  simp [settle]

theorem settle_one {r : Request} {answer : Request → Option Reply} (hri : r.caller = i)
    (hc : s.callers i = some c) : s.settle [r] answer = { s with
      permits := s.permits ++ [r.permit]
      callers := Function.update s.callers i (some (c.answered (answer r))) } := by
  have hcallers : (s.settle [r] answer).callers =
      Function.update s.callers i (some (c.answered (answer r))) := by
    funext j
    by_cases hj : j = i
    · subst hj
      simp [settle, hri, hc]
    · have hne : ¬ r.caller = j := fun he => hj (he.symm.trans hri)
      simp [settle, hne, Function.update_of_ne hj]
  rw [← hcallers]
  rfl

theorem purge_none : s.purge (fun _ => false) = { s with phase := .selecting } := by
  have hf : s.pending.filter (fun _ => false) = [] := by simp
  have hp : s.pending.filter (fun _ => !false) = s.pending := by simp
  rw [purge, hf, hp, settle_none]

theorem insertPending_fresh {r : Request} (h : ∀ q ∈ s.pending, q.id ≠ r.id) :
    s.insertPending r = { s with pending := s.pending ++ [r], phase := .top } := by
  have hf : s.pending.filter (·.id = r.id) = [] := by
    rw [List.filter_eq_nil_iff]
    intro q hq
    simpa using h q hq
  have hp : s.pending.filter (¬ ·.id = r.id) = s.pending := by
    rw [List.filter_eq_self]
    intro q hq
    simpa using h q hq
  rw [insertPending, hf, hp, settle_none]

/-- An idle session with a free permit writes the frame of a caller that waits for one. -/
theorem caller_writes {permit : Nat} {rest : List Nat} (hn : 1 ≤ n) (ht : s.Tidy)
    (hc : s.callers i = some c) (hp : c.phase = .waitingPermit) (hcancel : c.cancelled = false)
    (hpermit : s.permits = permit :: rest) (hsending : s.sending = []) (hqueue : s.queue = [])
    (hphase : s.phase = .top) (hdeadline : s.now < c.deadline)
    (hid : ∀ r ∈ s.pending, r.id ≠ requestId s.nextRequestId) :
    Relation.ReflTransGen (Quiet n writeTimeout) s (s.wrote i c permit rest) := by
  let r := s.nextRequest i c permit
  let c' : Caller := { c with id := some (requestId s.nextRequestId), phase := .waitingReply }
  -- the request joins the queue
  have h₁ : SessionStep n writeTimeout s (.caller i) (s.acquire i c permit rest) :=
    .acquire hc hp hpermit
  have ht₁ := tidy_step ht h₁
  let s₂ : SessionRun := { s with
    permits := rest
    nextRequestId := s.nextRequestId + 1
    callers := Function.update s.callers i (some c')
    assigned := s.assigned ++ [requestId s.nextRequestId]
    queue := [.request r] }
  have h₂ : SessionStep n writeTimeout (s.acquire i c permit rest) (.caller i) s₂ := by
    have hsend : (s.acquire i c permit rest).sending = [] ++ r :: [] := by
      simp [SessionRun.acquire, SessionRun.setCaller, hsending, r, SessionRun.nextRequest]
    have hself : (s.acquire i c permit rest).callers i =
        some { c with id := some (requestId s.nextRequestId), phase := .sending } := setCaller_self
    have hroom : (s.acquire i c permit rest).queue.length < n := by
      have hempty : (s.acquire i c permit rest).queue = [] := hqueue
      rw [hempty]
      exact hn
    have hopen : (s.acquire i c permit rest).phase ≠ .ended := by
      have htop : (s.acquire i c permit rest).phase = .top := hphase
      rw [htop]
      simp
    have h : SessionStep n writeTimeout (s.acquire i c permit rest) (.caller i)
        { (s.acquire i c permit rest).setCaller i c' with
          sending := [] ++ [], queue := (s.acquire i c permit rest).queue ++ [.request r] } :=
      .enqueue hself rfl hsend rfl hroom hopen
    have he : { (s.acquire i c permit rest).setCaller i c' with
        sending := [] ++ [], queue := (s.acquire i c permit rest).queue ++ [.request r] } = s₂ := by
      simp [s₂, SessionRun.acquire, SessionRun.setCaller, hsending, hqueue]
    exact he ▸ h
  have ht₂ := tidy_step ht₁ h₂
  -- the session task takes it and writes its frame
  have h₃ : SessionStep n writeTimeout s₂ .session { s₂ with phase := .selecting } := by
    have h : SessionStep n writeTimeout s₂ .session (s₂.purge fun _ => false) :=
      .purge _ hphase fun _ _ hf => by cases hf
    rw [purge_none] at h
    exact h
  have ht₃ := tidy_step ht₂ h₃
  let s₄ : SessionRun := { s₂ with
    queue := []
    phase := .readying r (s.now + min writeTimeout (c.deadline - s.now))
      (c.deadline - s.now ≤ writeTimeout) }
  have h₄ : SessionStep n writeTimeout { s₂ with phase := .selecting } .session s₄ := by
    have h : SessionStep n writeTimeout { s₂ with phase := .selecting } .session
        (onRequest writeTimeout { { s₂ with phase := .selecting } with queue := [] } r s.now) :=
      .request s.now rfl rfl (Nat.le_refl _)
    have hflag : isCancelled { { s₂ with phase := .selecting } with queue := [] } r = false := by
      simp [isCancelled, s₂, r, SessionRun.nextRequest, c', hcancel]
    have hearly : ¬ r.deadline ≤ s.now := not_le.mpr hdeadline
    rw [onRequest, if_neg (by rw [hflag]; simp), if_neg hearly] at h
    exact h
  have ht₄ := tidy_step ht₃ h₄
  let s₅ : SessionRun := s₄.start r (s.now + min writeTimeout (c.deadline - s.now))
    (c.deadline - s.now ≤ writeTimeout)
  have h₅ : SessionStep n writeTimeout s₄ .session s₅ := .start rfl
  have ht₅ := tidy_step ht₄ h₅
  have h₆ : SessionStep n writeTimeout s₅ .session (s.wrote i c permit rest) := by
    have h : SessionStep n writeTimeout s₅ .session (s₅.insertPending r) := .written rfl
    rw [insertPending_fresh (show ∀ q ∈ s₅.pending, q.id ≠ r.id from hid)] at h
    have he : { s₅ with pending := s₅.pending ++ [r], phase := .top } =
        s.wrote i c permit rest := by
      simp [s₅, s₄, s₂, SessionRun.start, SessionRun.wrote, c', r, hqueue, SessionRun.nextRequest]
    exact he ▸ h
  exact (((((Relation.ReflTransGen.single (quiet_caller ht hc h₁)).tail
    (quiet_caller ht₁ setCaller_self h₂)).tail (quiet_session ht₂ h₃)).tail
    (quiet_session ht₃ h₄)).tail (quiet_session ht₄ h₅)).tail (quiet_session ht₅ h₆)

/-- The session once a caller has given up the only request that awaits its answer. -/
def SessionRun.forgot (s : SessionRun) (i : Nat) (c : Caller) (r : Request) : SessionRun :=
  { s with
    permits := s.permits ++ [r.permit]
    callers := Function.update s.callers i
      (some { c with phase := .done, cancelled := true, reply := .closed })
    queue := []
    pending := []
    phase := .top }

/-- A caller that is dropped while it awaits its answer cancels its request. -/
theorem caller_forgets {r : Request} {id : String} (hn : 1 ≤ n) (ht : s.Tidy)
    (hc : s.callers i = some c) (hp : c.phase = .waitingReply) (hid : c.id = some id)
    (hr : s.pending = [r]) (hrid : r.id = id) (hri : r.caller = i) (hqueue : s.queue = [])
    (hphase : s.phase = .top) :
    Relation.ReflTransGen (Quiet n writeTimeout) s (s.forgot i c r) := by
  let c₁ : Caller := { c with phase := .cancelling }
  let c₂ : Caller := { c with phase := .cancelled, cancelled := true }
  let c₃ : Caller := { c with phase := .done, cancelled := true }
  have hupdate : ∀ (s : SessionRun) (d d' : Caller), (s.setCaller i d).setCaller i d' =
      s.setCaller i d' := by
    intro s d d'
    simp [SessionRun.setCaller]
  have h₁ : SessionStep n writeTimeout s (.caller i) (s.setCaller i c₁) := .replyDropped hc hp
  have ht₁ := tidy_step ht h₁
  have h₂ : SessionStep n writeTimeout (s.setCaller i c₁) (.caller i) (s.setCaller i c₂) := by
    have h : SessionStep n writeTimeout (s.setCaller i c₁) (.caller i)
        ((s.setCaller i c₁).setCaller i c₂) := .setCancelled (c := c₁) setCaller_self rfl
    exact hupdate s c₁ c₂ ▸ h
  have ht₂ := tidy_step ht₁ h₂
  let s₃ : SessionRun := { s.setCaller i c₃ with queue := [.cancelRequest id] }
  have h₃ : SessionStep n writeTimeout (s.setCaller i c₂) (.caller i) s₃ := by
    have hroom : (s.setCaller i c₂).queue.length < n := by
      have hempty : (s.setCaller i c₂).queue = [] := hqueue
      rw [hempty]
      exact hn
    have hopen : (s.setCaller i c₂).phase ≠ .ended := by
      have htop : (s.setCaller i c₂).phase = .top := hphase
      rw [htop]
      simp
    have h : SessionStep n writeTimeout (s.setCaller i c₂) (.caller i)
        { (s.setCaller i c₂).setCaller i { c₂ with phase := .done } with
          queue := (s.setCaller i c₂).queue ++ [.cancelRequest id] } :=
      .offerCancel setCaller_self rfl hid hroom hopen
    have he : { (s.setCaller i c₂).setCaller i { c₂ with phase := .done } with
        queue := (s.setCaller i c₂).queue ++ [.cancelRequest id] } = s₃ := by
      rw [hupdate]
      simp [s₃, SessionRun.setCaller, hqueue, c₂, c₃]
    exact he ▸ h
  have ht₃ := tidy_step ht₂ h₃
  -- the session task drops what awaits the answer
  have h₄ : SessionStep n writeTimeout s₃ .session { s₃ with phase := .selecting } := by
    have h : SessionStep n writeTimeout s₃ .session (s₃.purge fun _ => false) :=
      .purge _ hphase fun _ _ hf => by cases hf
    rw [purge_none] at h
    exact h
  have ht₄ := tidy_step ht₃ h₄
  have h₅ : SessionStep n writeTimeout { s₃ with phase := .selecting } .session
      (s.forgot i c r) := by
    have h : SessionStep n writeTimeout { s₃ with phase := .selecting } .session
        (onCancelRequest { { s₃ with phase := .selecting } with queue := [] } id) :=
      .cancelRequest rfl rfl
    have he : onCancelRequest { { s₃ with phase := .selecting } with queue := [] } id =
        s.forgot i c r := by
      have hmine : s₃.pending.filter (·.id = id) = [r] := by
        simp [s₃, SessionRun.setCaller, hr, hrid]
      have hother : s₃.pending.filter (¬ ·.id = id) = [] := by
        simp [s₃, SessionRun.setCaller, hr, hrid]
      have hself : ({ { s₃ with phase := .selecting } with queue := [] } : SessionRun).callers i =
          some c₃ := setCaller_self
      rw [onCancelRequest, hmine, hother, settle_one hri hself]
      simp [s₃, SessionRun.setCaller, SessionRun.forgot, c₃, Caller.answered]
    exact he ▸ h
  exact ((((Relation.ReflTransGen.single (quiet_caller ht hc h₁)).tail
    (quiet_caller ht₁ setCaller_self h₂)).tail (quiet_caller ht₂ setCaller_self h₃)).tail
    (quiet_session ht₃ h₄)).tail (quiet_session ht₄ h₅)

/-- The session once a caller has returned the payload of the only request that awaited an answer. -/
def SessionRun.returned (s : SessionRun) (i : Nat) (c : Caller) (r : Request)
    (payload : Json.Value) : SessionRun :=
  { s with
    permits := s.permits ++ [r.permit]
    callers := Function.update s.callers i (some ({ c with reply := .value (.ok payload) }.finish
      (.ok payload)))
    pending := []
    phase := .top
    arrivals := s.arrivals ++ [⟨r.id, true, payload, none, true⟩] }

/-- A caller that awaits its answer returns what the Gateway accepts its request with. -/
theorem caller_returns {r : Request} (payload : Json.Value) (ht : s.Tidy)
    (hc : s.callers i = some c) (hp : c.phase = .waitingReply) (hr : s.pending = [r])
    (hri : r.caller = i) (hphase : s.phase = .top) :
    Relation.ReflTransGen (Quiet n writeTimeout) s (s.returned i c r payload) := by
  let c₁ : Caller := { c with reply := .value (.ok payload) }
  let s₂ : SessionRun := { s with
    permits := s.permits ++ [r.permit]
    callers := Function.update s.callers i (some c₁)
    pending := []
    phase := .top
    arrivals := s.arrivals ++ [⟨r.id, true, payload, none, true⟩] }
  have h₁ : SessionStep n writeTimeout s .session { s with phase := .selecting } := by
    have h : SessionStep n writeTimeout s .session (s.purge fun _ => false) :=
      .purge _ hphase fun _ _ hf => by cases hf
    rw [purge_none] at h
    exact h
  have ht₁ := tidy_step ht h₁
  -- the session task reads the response
  have h₂ : SessionStep n writeTimeout { s with phase := .selecting } .session s₂ := by
    have h : SessionStep n writeTimeout { s with phase := .selecting } .session
        (onResponse { s with phase := .selecting } r.id true payload none) :=
      .message (.response r.id true payload none) rfl
    have he : onResponse { s with phase := .selecting } r.id true payload none = s₂ := by
      have hmine : s.pending.filter (·.id = r.id) = [r] := by simp [hr]
      have hother : s.pending.filter (¬ ·.id = r.id) = [] := by simp [hr]
      have hany : s.pending.any (·.id = r.id) = true := by simp [hr]
      have hself : ({ s with phase := .selecting } : SessionRun).callers i = some c := hc
      rw [onResponse, hmine, hother, hany, settle_one hri hself]
      simp [s₂, c₁, Caller.answered, responseResult]
    exact he ▸ h
  have ht₂ := tidy_step ht₁ h₂
  have h₃ : SessionStep n writeTimeout s₂ (.caller i) (s.returned i c r payload) := by
    have h : SessionStep n writeTimeout s₂ (.caller i) (s₂.setCaller i (c₁.finish (.ok payload))) :=
      .receive setCaller_self hp rfl
    have he : s₂.setCaller i (c₁.finish (.ok payload)) = s.returned i c r payload := by
      simp [s₂, c₁, SessionRun.setCaller, SessionRun.returned]
    exact he ▸ h
  exact ((Relation.ReflTransGen.single (quiet_session ht h₁)).tail (quiet_session ht₁ h₂)).tail
    (quiet_caller ht₂ setCaller_self h₃)

end OpenclawNode.Gateway
