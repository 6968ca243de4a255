import Mathlib.Tactic
import OpenclawNode.Base.SplitWords
import OpenclawNode.Node.HostCredentials
import OpenclawNode.Node.ReconnectRuns

/-! Which credentials a headless host presents over a whole run. -/
namespace OpenclawNode.Node

open Transition (System)

variable {Policy : Type} {rules : ReconnectRules Policy} {delays : LifecycleDelays}
  {credentials : HostCredentials} {h h' : HostRun Policy} {a : HostAction}
  {s l : LifecycleRun Policy} {past : List CredentialEvent} {event : CredentialEvent}

namespace HostCredentials

theorem adoptedToken_snoc : credentials.adoptedToken (past ++ [event]) =
    event.adopt (credentials.adoptedToken past) := by
  simp [adoptedToken]

theorem Grounded.nil : credentials.Grounded [] := by
  intro past event rest h
  cases past <;> cases h

theorem Grounded.snoc (h : credentials.Grounded past) (he : credentials.MayFollow past event) :
    credentials.Grounded (past ++ [event]) := by
  intro past' event' rest heq
  rcases List.eq_nil_or_concat rest with rfl | ⟨rest, last, rfl⟩
  · obtain ⟨rfl, hlast⟩ := List.append_inj' heq rfl
    cases hlast
    exact he
  · rw [List.concat_eq_append, ← List.cons_append, ← List.append_assoc] at heq
    obtain ⟨heq, -⟩ := List.append_inj' heq rfl
    exact h past' event' rest heq

end HostCredentials

open HostCredentials
open CredentialEvent (presentedIn)

/-- A failed connection or session ends the wait for the factory. -/
theorem handleClientFailure_kept (error : ClientError) :
    (s.handleClientFailure rules delays error).connects = s.connects ∧
    (s.handleClientFailure rules delays error).issuedTokens = s.issuedTokens ∧
    (s.handleClientFailure rules delays error).phase ≠ .connecting := by
  unfold LifecycleRun.handleClientFailure
  dsimp only
  split <;> exact ⟨rfl, rfl, nofun⟩

theorem onRuntimeResult_kept (result : RuntimeResult) :
    (s.onRuntimeResult rules delays result).connects = s.connects ∧
    (s.onRuntimeResult rules delays result).issuedTokens = s.issuedTokens ∧
    (s.onRuntimeResult rules delays result).phase ≠ .connecting := by
  cases result with
  | client error => exact handleClientFailure_kept error
  | deliverySaturated | resultTask | ended => exact ⟨rfl, rfl, nofun⟩

theorem won_kept (polled : Bool) : (s.won polled).connects = s.connects ∧
    (s.won polled).issuedTokens = s.issuedTokens ∧ (s.won polled).attempt = s.attempt := by
  cases polled <;> exact ⟨rfl, rfl, rfl⟩

/-- What wakes the driver besides the factory neither calls it nor adopts a token. -/
theorem outside_step {a : LifecycleAction} (ha : a.outside = true)
    (hs : LifecycleStep rules delays s a l) : l.connects = s.connects ∧
    l.issuedTokens = s.issuedTokens ∧ (l.phase = .connecting → s.phase = .connecting) := by
  cases hs with
  | begin | connected | connectFailed => cases ha
  | pending => exact ⟨rfl, rfl, id⟩
  | connectShutdown | runShutdown | drained | backoffShutdown => exact ⟨rfl, rfl, nofun⟩
  | runtime polled result =>
    obtain ⟨hc, ht, -⟩ := won_kept (s := s) polled
    obtain ⟨hc', ht', hp⟩ := @onRuntimeResult_kept _ rules delays (s.won polled) result
    exact ⟨hc'.trans hc, ht'.trans ht, fun h => absurd h hp⟩
  | delayElapsed polled =>
    obtain ⟨hc, ht, -⟩ := won_kept (s := s) polled
    exact ⟨hc, ht, nofun⟩

theorem connectFailed_step {error : ClientError}
    (hs : LifecycleStep rules delays s (.connectFailed error) l) :
    l.connects = s.connects ∧ l.issuedTokens = s.issuedTokens ∧ l.phase ≠ .connecting := by
  cases hs with
  | connectFailed polled =>
    obtain ⟨hc, ht, -⟩ := won_kept (s := s) polled
    obtain ⟨hc', ht', hp⟩ := @handleClientFailure_kept _ rules delays (s.won polled) error
    exact ⟨hc'.trans hc, ht'.trans ht, hp⟩

theorem connected_step {session : ConnectedSession}
    (hs : LifecycleStep rules delays s (.connected session) l) :
    l.connects = s.connects ∧ l.issuedTokens = s.issuedTokens ++
      session.issuedDeviceToken.toList.map (s.attempt, ·) ∧ l.phase = .running := by
  cases hs with
  | connected polled =>
    cases polled <;> exact ⟨rfl, rfl, rfl⟩

theorem begin_step (hs : LifecycleStep rules delays s .begin l) :
    l.connects.length = s.connects.length + 1 ∧ l.issuedTokens = s.issuedTokens ∧
      l.phase = .connecting := by
  cases hs
  exact ⟨List.length_append, rfl, rfl⟩

/-- What is known of the future of the factory where it awaits. -/
def HostRun.Awaits (credentials : HostCredentials) (h : HostRun Policy) :
    Option HostConnect → Prop
  | none => h.lifecycle.phase ≠ .connecting
  | some .created => h.lifecycle.phase = .connecting ∧ ∀ event ∈ h.history, event.call < h.call
  | some (.adopted token) => h.lifecycle.phase = .connecting ∧ h.issuedDeviceToken = some token ∧
    h.history.getLast? = some (.presented h.call (.ofDeviceToken token)) ∧
    h.history.countP (presentedIn h.call) = 1
  | some .configured => h.lifecycle.phase = .connecting ∧ h.issuedDeviceToken = none ∧
    h.history.getLast? = some (.presented h.call credentials.configuredAuth)

/-- What holds of a host in every reachable state. -/
structure HostRun.Accounted (credentials : HostCredentials) (h : HostRun Policy) : Prop where
  grounded : credentials.Grounded h.history
  issued : h.issuedDeviceToken = credentials.adoptedToken h.history
  calls : ∀ event ∈ h.history, event.call ≤ h.call
  twice : ∀ call, h.history.countP (presentedIn call) ≤ 2
  tokens : h.history.filterMap CredentialEvent.token? = h.lifecycle.issuedTokens.map Prod.snd
  spent : h.history.countP CredentialEvent.isRejected + h.issuedDeviceToken.toList.length ≤
    h.lifecycle.issuedTokens.length + credentials.issuedDeviceToken.toList.length
  connect : h.Awaits credentials h.connect

/-- No call but the present one has presented anything yet. -/
theorem countP_presentedIn_of_lt {call : Nat} (h : ∀ event ∈ past, event.call < call) :
    past.countP (presentedIn call) = 0 := by
  rw [List.countP_eq_zero]
  intro event hevent
  have hlt := h event hevent
  cases event with
  | presented call' auth =>
    have hne : call' ≠ call := Nat.ne_of_lt hlt
    simp [presentedIn, hne]
  | rejected | issued => simp [presentedIn]

theorem presentedIn_snoc {call n : Nat} {auth : ConnectAuth} :
    (past ++ [CredentialEvent.presented call auth]).countP (presentedIn n) =
      past.countP (presentedIn n) + (call == n).toNat := by
  rw [List.countP_append]
  cases hn : call == n <;> simp [presentedIn, hn]

/-- The lifecycle goes on without the factory, or leaves it. -/
theorem HostRun.Accounted.move (hh : h.Accounted credentials) (connect : Option HostConnect)
    (hc : l.connects = h.lifecycle.connects) (ht : l.issuedTokens = h.lifecycle.issuedTokens)
    (hw : HostRun.Awaits credentials { h with lifecycle := l, connect := connect } connect) :
    HostRun.Accounted credentials { h with lifecycle := l, connect := connect } where
  grounded := hh.grounded
  issued := hh.issued
  calls := by
    intro event hevent
    have hle := hh.calls event hevent
    unfold HostRun.call at hle ⊢
    rw [hc]
    exact hle
  twice := hh.twice
  tokens := by rw [ht]; exact hh.tokens
  spent := by rw [ht]; exact hh.spent
  connect := hw

theorem accounted_begin (hs : LifecycleStep rules delays h.lifecycle .begin l)
    (hh : h.Accounted credentials) :
    HostRun.Accounted credentials { h with lifecycle := l, connect := some .created } := by
  obtain ⟨hc, ht, hp⟩ := begin_step hs
  have hcalls : ∀ event ∈ h.history, event.call < l.connects.length := by
    intro event hevent
    rw [hc]
    exact Nat.lt_succ_of_le (hh.calls event hevent)
  refine ⟨hh.grounded, hh.issued, fun event hevent => (hcalls event hevent).le, hh.twice, ?_, ?_,
    hp, hcalls⟩
  · rw [ht]
    exact hh.tokens
  · rw [ht]
    exact hh.spent

/-- The first attempt of a call is made with what is in force. -/
theorem accounted_present (hh : h.Accounted credentials) (hc : h.connect = some .created)
    {auth : ConnectAuth} {connect : HostConnect}
    (hauth : auth = credentials.authAfter h.history)
    (hw : (h.present auth connect).Awaits credentials (some connect)) :
    (h.present auth connect).Accounted credentials := by
  have hconnect := hh.connect
  rw [hc] at hconnect
  refine ⟨hh.grounded.snoc ⟨hauth, Or.inl hconnect.2⟩, ?_, ?_, ?_, ?_, ?_, hw⟩
  · change h.issuedDeviceToken = _
    rw [HostRun.present, adoptedToken_snoc]
    exact hh.issued
  · intro event hevent
    rcases List.mem_append.mp hevent with hevent | hevent
    · exact hh.calls event hevent
    · rw [List.mem_singleton.mp hevent]
      exact Nat.le_refl h.call
  · intro call
    change (h.history ++ [_]).countP _ ≤ 2
    rw [presentedIn_snoc]
    have hle := hh.twice call
    by_cases heq : h.call = call
    · rw [← heq, countP_presentedIn_of_lt hconnect.2]
      cases (h.call == h.call) <;> decide
    · rw [beq_false_of_ne heq]
      exact hle
  · change (h.history ++ [_]).filterMap _ = _
    rw [List.filterMap_append, hh.tokens]
    exact List.append_nil _
  · change (h.history ++ [_]).countP _ + _ ≤ _
    rw [List.countP_append]
    exact hh.spent

theorem accounted_connectPolled (hc : h.connect = some .created)
    (hh : h.Accounted credentials) : (h.connectPolled credentials).Accounted credentials := by
  have hconnect := hh.connect
  rw [hc] at hconnect
  obtain ⟨hp, hcalls⟩ := hconnect
  have hlast : ∀ auth : ConnectAuth,
      (h.history ++ [CredentialEvent.presented h.call auth]).getLast? =
        some (.presented h.call auth) := by simp
  unfold HostRun.connectPolled
  cases hi : h.issuedDeviceToken with
  | some deviceToken =>
    refine accounted_present hh hc ?_ ⟨hp, hi, hlast _, ?_⟩
    · rw [authAfter, ← hh.issued, hi]
    · change (h.history ++ [_]).countP (presentedIn h.call) = 1
      rw [presentedIn_snoc, countP_presentedIn_of_lt hcalls, beq_self_eq_true]
      rfl
  | none =>
    refine accounted_present hh hc ?_ ⟨hp, hi, hlast _⟩
    rw [authAfter, ← hh.issued, hi]

/-- The rejection of an adopted token is answered in the same call. -/
theorem accounted_deviceTokenRejected {token : String} (hc : h.connect = some (.adopted token))
    (hh : h.Accounted credentials) :
    (h.deviceTokenRejected credentials token).Accounted credentials := by
  have hconnect := hh.connect
  rw [hc] at hconnect
  obtain ⟨hp, hi, hlast, honce⟩ := hconnect
  have hforce : credentials.adoptedToken h.history = some token := by rw [← hh.issued, hi]
  have hnone : credentials.adoptedToken
      (h.history ++ [CredentialEvent.rejected h.call token]) = none := adoptedToken_snoc
  have hauth : credentials.configuredAuth = credentials.authAfter
      (h.history ++ [CredentialEvent.rejected h.call token]) := by rw [authAfter, hnone]
  have hrejected : (h.history ++ [CredentialEvent.rejected h.call token]).getLast? =
      some (.rejected h.call token) := by simp
  have hfirst : credentials.MayFollow h.history (.rejected h.call token) := ⟨hforce, hlast⟩
  have hsecond : credentials.MayFollow (h.history ++ [CredentialEvent.rejected h.call token])
      (.presented h.call credentials.configuredAuth) := ⟨hauth, Or.inr ⟨token, hrejected⟩⟩
  refine ⟨(hh.grounded.snoc hfirst).snoc hsecond, ?_, ?_, ?_, ?_, ?_, hp, rfl, ?_⟩
  · change none = credentials.adoptedToken (_ ++ [CredentialEvent.presented h.call _])
    rw [adoptedToken_snoc]
    exact hnone.symm
  · intro event hevent
    rcases List.mem_append.mp hevent with hevent | hevent
    · rcases List.mem_append.mp hevent with hevent | hevent
      · exact hh.calls event hevent
      · rw [List.mem_singleton.mp hevent]
        exact Nat.le_refl h.call
    · rw [List.mem_singleton.mp hevent]
      exact Nat.le_refl h.call
  · intro call
    change (h.history ++ [CredentialEvent.rejected h.call token] ++
      [CredentialEvent.presented h.call _]).countP _ ≤ 2
    rw [presentedIn_snoc, List.countP_append]
    have hle := hh.twice call
    by_cases heq : h.call = call
    · rw [← heq, honce, beq_self_eq_true]
      exact Nat.le_refl 2
    · rw [beq_false_of_ne heq]
      exact hle
  · change (h.history ++ [CredentialEvent.rejected h.call token] ++
      [CredentialEvent.presented h.call _]).filterMap _ = _
    rw [List.filterMap_append, List.filterMap_append, hh.tokens]
    simp [HostRun.deviceTokenRejected, HostRun.present, CredentialEvent.token?]
  · have hspent := hh.spent
    rw [hi] at hspent
    change (h.history ++ [CredentialEvent.rejected h.call token] ++
      [CredentialEvent.presented h.call _]).countP _ + 0 ≤ _
    rw [List.countP_append, List.countP_append]
    exact hspent
  · simp [HostRun.deviceTokenRejected, HostRun.present, HostRun.call]

theorem accounted_attemptConnected {session : ConnectedSession} {connect : HostConnect}
    (hc : h.connect = some connect) (ha : connect.attempting)
    (hs : LifecycleStep rules delays h.lifecycle (.connected session) l)
    (hh : h.Accounted credentials) : (h.attemptConnected l session).Accounted credentials := by
  obtain ⟨hcalls, htokens, hp⟩ := connected_step hs
  have hp' : l.phase ≠ .connecting := by rw [hp]; nofun
  have hconnect := hh.connect
  rw [hc] at hconnect
  -- the attempt under way was made with what is still in force
  have hlast : h.history.getLast? =
      some (.presented h.call (credentials.authAfter h.history)) := by
    rw [authAfter, ← hh.issued]
    cases connect with
    | created => cases ha
    | adopted token =>
      obtain ⟨-, hi, hlast, -⟩ := hconnect
      rw [hlast, hi]
    | configured =>
      obtain ⟨-, hi, hlast⟩ := hconnect
      rw [hlast, hi]
  unfold HostRun.attemptConnected
  cases ht : session.issuedDeviceToken with
  | none =>
    rw [ht] at htokens
    have htokens : l.issuedTokens = h.lifecycle.issuedTokens := by
      rw [htokens]
      exact List.append_nil _
    have hmoved := hh.move none hcalls htokens hp'
    simpa using hmoved
  | some token =>
    rw [ht] at htokens
    refine ⟨hh.grounded.snoc hlast, ?_, ?_, ?_, ?_, ?_, hp'⟩
    · change some token =
        credentials.adoptedToken (h.history ++ [CredentialEvent.issued h.call token])
      rw [adoptedToken_snoc]
      rfl
    · intro event hevent
      change event.call ≤ l.connects.length
      rw [hcalls]
      rcases List.mem_append.mp hevent with hevent | hevent
      · exact hh.calls event hevent
      · rw [List.mem_singleton.mp hevent]
        exact Nat.le_refl h.call
    · intro call
      change (h.history ++ [CredentialEvent.issued h.call token]).countP _ ≤ 2
      rw [List.countP_append]
      exact hh.twice call
    · change (h.history ++ [CredentialEvent.issued h.call token]).filterMap _ = _
      rw [List.filterMap_append, hh.tokens, htokens, List.map_append]
      rfl
    · have hspent := hh.spent
      change (h.history ++ [CredentialEvent.issued h.call token]).countP _ + 1 ≤ _
      rw [List.countP_append, htokens, List.length_append]
      simp only [List.countP_singleton, CredentialEvent.isRejected, Option.toList_some,
        List.length_map, List.length_singleton, Bool.false_eq_true, if_false]
      omega

theorem credentials_step (hs : HostStep rules delays credentials h a h')
    (hh : h.Accounted credentials) : h'.Accounted credentials := by
  cases hs with
  | begin hs => exact accounted_begin hs hh
  | connectPolled hc => exact accounted_connectPolled hc hh
  | deviceTokenRejected error hc he => exact accounted_deviceTokenRejected hc hh
  | attemptConnected session hc ha hs => exact accounted_attemptConnected hc ha hs hh
  | attemptFailed error hc he hs =>
    obtain ⟨hcalls, htokens, hp⟩ := connectFailed_step hs
    exact hh.move none hcalls htokens hp
  | @driver a l ha hs =>
    obtain ⟨hcalls, htokens, hp⟩ := outside_step ha hs
    refine hh.move _ hcalls htokens ?_
    by_cases hl : l.phase = .connecting
    · have hconnect := hh.connect
      rw [if_pos hl]
      cases hc : h.connect with
      | none =>
        rw [hc] at hconnect
        exact absurd (hp hl) hconnect
      | some connect =>
        rw [hc] at hconnect
        have hcall : HostRun.call { h with lifecycle := l, connect := some connect } = h.call :=
          congrArg List.length hcalls
        cases connect with
        | created =>
          refine ⟨hl, ?_⟩
          rw [hcall]
          exact hconnect.2
        | adopted token =>
          refine ⟨hl, hconnect.2.1, ?_, ?_⟩
          · rw [hcall]
            exact hconnect.2.2.1
          · rw [hcall]
            exact hconnect.2.2.2
        | configured =>
          refine ⟨hl, hconnect.2.1, ?_⟩
          rw [hcall]
          exact hconnect.2.2
    · rw [if_neg hl]
      exact hl

theorem credentials_reachable (hr : (hostSystem rules delays credentials).Reachable h) :
    h.Accounted credentials := by
  refine hr.invariant (P := HostRun.Accounted credentials) ?_ fun h a h' => credentials_step
  rintro h ⟨⟨policy, hl⟩, hi, hc, hhist⟩
  refine ⟨?_, ?_, ?_, ?_, ?_, ?_, ?_⟩
  · rw [hhist]
    exact Grounded.nil
  · rw [hhist]
    exact hi
  · rw [hhist]
    exact fun event hevent => absurd hevent List.not_mem_nil
  · rw [hhist]
    exact fun _ => Nat.zero_le 2
  · rw [hhist, hl]
    rfl
  · rw [hhist, hl, hi]
    exact Nat.le_refl _
  · rw [hc, HostRun.Awaits, hl]
    nofun

/-- A host presents what is in force and nothing else: the token that the Gateway issued last, until
it is rejected, and the configured credentials when there is none. A call makes at most two
attempts, and every token is rejected at most once for each time it was issued. -/
theorem host_presents_credentials_in_force {Policy : Type} (rules : ReconnectRules Policy)
    (delays : LifecycleDelays) (credentials : HostCredentials) (h : HostRun Policy)
    (hr : (hostSystem rules delays credentials).Reachable h) :
    (∀ past event rest, h.history = past ++ event :: rest →
      credentials.MayFollow past event) ∧
    (∀ call, h.history.countP (presentedIn call) ≤ 2) ∧
    h.issuedDeviceToken = credentials.adoptedToken h.history ∧
    h.history.filterMap CredentialEvent.token? = h.lifecycle.issuedTokens.map Prod.snd ∧
    h.history.countP CredentialEvent.isRejected + h.issuedDeviceToken.toList.length ≤
      h.lifecycle.issuedTokens.length + credentials.issuedDeviceToken.toList.length := by
  have hh := credentials_reachable hr
  exact ⟨hh.grounded, hh.twice, hh.issued, hh.tokens, hh.spent⟩

def rejection : ClientError :=
  .gateway "connect" "UNAUTHORIZED" "device token rejected"
    (some (.object [("code", .string "AUTH_DEVICE_TOKEN_MISMATCH")])) none none

def storedCredentials : HostCredentials :=
  ⟨⟨some "configured-token", none, none, none⟩, some "adopted-device-token"⟩

/-- An adopted token is rejected, and the configured one presented in the same call. -/
theorem rejected_token_host : ∃ h : HostRun Unit,
    (hostSystem ⟨id, fun _ _ => (.keepSession, ())⟩ ⟨1, 1⟩ storedCredentials).Reachable h ∧
    h.history = [.presented 1 (.ofDeviceToken "adopted-device-token"),
      .rejected 1 "adopted-device-token", .presented 1 storedCredentials.configuredAuth] ∧
    h.issuedDeviceToken = none ∧ h.history.countP (presentedIn 1) ≤ 2 := by
  have h₀ : (hostSystem ⟨id, fun _ _ => (.keepSession, ())⟩ ⟨1, 1⟩ storedCredentials).Reachable
      (⟨⟨(), 0, .starting, [], [], [], false, []⟩, some "adopted-device-token", none, []⟩ :
        HostRun Unit) := .initial ⟨⟨(), rfl⟩, rfl, rfl, rfl⟩
  have h₁ := h₀.step (.begin (.begin rfl))
  have h₂ := h₁.step (.connectPolled rfl)
  have h₃ := h₂.step (.deviceTokenRejected rejection rfl (by decide +kernel))
  obtain ⟨-, htwice, -⟩ := host_presents_credentials_in_force _ _ _ _ h₃
  exact ⟨_, h₃, rfl, rfl, htwice 1⟩

end OpenclawNode.Node
