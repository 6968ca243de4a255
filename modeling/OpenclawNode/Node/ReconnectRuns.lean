import OpenclawNode.Node.Reconnect

/-! What the reconnect policy answers to a failure, over all the calls that are made of it. -/
namespace OpenclawNode.Node

open Json (Value)
open Transition (System)

theorem classifyGatewayPause_isSome_iff {code : String} {details : Option Value}
    {retryable : Option Bool} (h : retryable = some false ∨
      (ConnectErrorDetails.fromValue details).shouldPauseReconnect = true) :
    (classifyGatewayPause code details retryable).isSome = true ↔
      ¬ (connectDetailCode code details = "PAIRING_REQUIRED" ∧
        (parsePairingRequest details).waits = true) := by
  unfold classifyGatewayPause
  by_cases hp : connectDetailCode code details = "PAIRING_REQUIRED"
  · cases hw : (parsePairingRequest details).waits <;> simp [hp, hw]
  · by_cases hv : connectDetailCode code details = "PROTOCOL_MISMATCH" ∨
        connectDetailCode code details = "CLIENT_VERSION_MISMATCH"
    · simp [hp, hv]
    · simp [hp, hv, h]

/-- Without a stored token a connect failure is answered by what its classification says. -/
theorem afterFailure_pause_iff (p : ReconnectPolicy) {error : ClientError}
    (hs : isSessionRequestError error = false) :
    (∃ pause, (p.afterFailure error).1 = .pause pause) ↔ (classifyPause error).isSome = true := by
  have ht : p.requestsStoredToken error .unavailable = false := by
    simp [ReconnectPolicy.requestsStoredToken]
  unfold ReconnectPolicy.afterFailure ReconnectPolicy.afterFailureWithDeviceToken
  simp only [hs, ht, Bool.false_eq_true, if_false]
  cases classifyPause error with
  | some pause => simp
  | none => cases gatewayRetryAfter error <;> simp

/-- An explicit pause of the Gateway is honoured, unless it comes with a pairing failure for which
the Gateway says to go on. -/
theorem explicit_pause_honoured (p : ReconnectPolicy) (code message : String)
    (details : Option Value) (retryable : Option Bool) (retryAfterMs : Option UInt64)
    (h : retryable = some false ∨
      (ConnectErrorDetails.fromValue details).shouldPauseReconnect = true) :
    (∃ pause, (p.afterFailure
      (.gateway "connect" code message details retryable retryAfterMs)).1 = .pause pause) ↔
      ¬ (connectDetailCode code details = "PAIRING_REQUIRED" ∧
        ((parsePairingRequest details).pauseReconnect = some false ∨
          (parsePairingRequest details).recommendedNextStep = some .waitThenRetry)) := by
  have hs : isSessionRequestError
      (.gateway "connect" code message details retryable retryAfterMs) = false := by
    simp [isSessionRequestError]
  have hw : (parsePairingRequest details).waits = true ↔
      (parsePairingRequest details).pauseReconnect = some false ∨
        (parsePairingRequest details).recommendedNextStep = some .waitThenRetry := by
    simp [DevicePairingRequest.waits]
  rw [afterFailure_pause_iff p hs, ← hw]
  exact classifyGatewayPause_isSome_iff h

/-- One second, up to thirty. -/
def defaultPolicy : ReconnectPolicy := .new (Duration.fromSecs 1) (Duration.fromSecs 30)

theorem unknown_terminal_error_pauses : ∃ pause, (defaultPolicy.afterFailure
    (.gateway "connect" "NEW_GATEWAY_ERROR" "connect failed" none (some false) none)).1 =
      .pause pause := by
  refine (explicit_pause_honoured defaultPolicy _ _ none (some false) none (Or.inl rfl)).mpr ?_
  rintro ⟨-, h⟩
  rcases h with h | h <;> cases h

def waitingPairing : Value :=
  .object [("code", .string "PAIRING_REQUIRED"), ("pauseReconnect", .bool true),
    ("recommendedNextStep", .string "wait_then_retry")]

/-- A pairing failure that demands a pause and recommends to wait is retried. -/
theorem pairing_pause_retried :
    (ConnectErrorDetails.fromValue (some waitingPairing)).shouldPauseReconnect = true ∧
    (defaultPolicy.afterFailure (.gateway "connect" "NOT_PAIRED" "connect failed"
      (some waitingPairing) none none)).1 = .retryAfter 1000000000 := by
  decide +kernel

/-- The four ways in which a failure is answered. -/
theorem afterFailure_cases (p : ReconnectPolicy) (error : ClientError)
    (storedToken : StoredDeviceTokenRetry) :
    (p.fallsThrough error storedToken = true ∧
      p.afterFailureWithDeviceToken error storedToken = (.retryAfter p.nextDelay.val, { p with
        nextDelay := min (p.nextDelay.checkedDouble.getD p.maximumDelay) p.maximumDelay })) ∨
    (p.fallsThrough error storedToken = false ∧ p.requestsStoredToken error storedToken = true ∧
      p.afterFailureWithDeviceToken error storedToken =
        (.retryWithStoredDeviceTokenAfter deviceTokenRetryDelay.val,
          { p with deviceTokenRetryUsed := true })) ∨
    (p.fallsThrough error storedToken = false ∧ ∃ delay : Duration,
      p.afterFailureWithDeviceToken error storedToken =
        (.retryAfter (min delay p.maximumDelay).val, p)) ∨
    (p.fallsThrough error storedToken = false ∧ ∃ action,
      p.afterFailureWithDeviceToken error storedToken = (action, p) ∧
        (action = .keepSession ∨ ∃ pause, action = .pause pause)) := by
  unfold ReconnectPolicy.fallsThrough ReconnectPolicy.afterFailureWithDeviceToken
  by_cases hs : isSessionRequestError error = true
  · simp [hs]
  · by_cases ht : p.requestsStoredToken error storedToken = true
    · simp [hs, ht]
    · cases hc : classifyPause error with
      | some pause => simp [hs, ht]
      | none =>
        cases hg : gatewayRetryAfter error with
        | none => simp [hs, ht]
        | some delay =>
          right; right; left
          exact ⟨by simp, delay, by simp [hs, ht]⟩

theorem val_min (a b : Duration) : (min a b).val = min a.val b.val := by
  rcases le_total a b with h | h
  · rw [min_eq_left h, min_eq_left (show a.val ≤ b.val from h)]
  · rw [min_eq_right h, min_eq_right (show b.val ≤ a.val from h)]

theorem val_max (a b : Duration) : (max a b).val = max a.val b.val := by
  rcases le_total a b with h | h
  · rw [max_eq_right h, max_eq_right (show a.val ≤ b.val from h)]
  · rw [max_eq_left h, max_eq_left (show b.val ≤ a.val from h)]

/-- Doubling with saturation under the ceiling, in exact arithmetic. -/
theorem val_doubled (d ceiling : Duration) :
    (min (d.checkedDouble.getD ceiling) ceiling).val = min (d.val * 2) ceiling.val := by
  rw [val_min]
  unfold Duration.checkedDouble
  split
  · rfl
  · next h =>
    have hc := ceiling.property
    rw [Option.getD_none, min_self, min_eq_right (by omega)]

variable {initialDelay maximumDelay : Duration} {w w' : PolicyRun} {a : PolicyCall}

/-- The delay doubles with each failure that falls through, and one stored token is asked for at
most. -/
structure PolicyRun.Counted (initialDelay maximumDelay : Duration) (w : PolicyRun) : Prop where
  initial : w.policy.initialDelay = initialDelay
  maximum : w.policy.maximumDelay = max maximumDelay initialDelay
  next : w.policy.nextDelay.val =
    min (initialDelay.val * 2 ^ w.plain) (max initialDelay.val maximumDelay.val)
  storedTokens : w.storedTokens = w.policy.deviceTokenRetryUsed.toNat

theorem PolicyRun.Counted.ceiling (h : w.Counted initialDelay maximumDelay) :
    w.policy.maximumDelay.val = max initialDelay.val maximumDelay.val := by
  rw [h.maximum, val_max, max_comm]

theorem PolicyRun.Counted.failed (h : w.Counted initialDelay maximumDelay) (error : ClientError)
    (storedToken : StoredDeviceTokenRetry) :
    (w.failed error storedToken).Counted initialDelay maximumDelay := by
  obtain ⟨hf, ha⟩ | ⟨hf, hr, ha⟩ | ⟨hf, delay, ha⟩ | ⟨hf, action, ha, hk⟩ :=
    afterFailure_cases w.policy error storedToken
  · unfold PolicyRun.failed
    rw [ha, hf]
    refine ⟨h.initial, h.maximum, ?_, h.storedTokens⟩
    show (min (w.policy.nextDelay.checkedDouble.getD w.policy.maximumDelay)
      w.policy.maximumDelay).val = min (initialDelay.val * 2 ^ (w.plain + 1)) _
    rw [val_doubled, h.next, h.ceiling, pow_succ, ← mul_assoc]
    omega
  · unfold PolicyRun.failed
    rw [ha, hf]
    refine ⟨h.initial, h.maximum, h.next, ?_⟩
    have hunused : w.policy.deviceTokenRetryUsed = false := by
      unfold ReconnectPolicy.requestsStoredToken at hr
      simp only [Bool.and_eq_true, Bool.not_eq_true'] at hr
      exact hr.1.1
    have hcount := h.storedTokens
    rw [hunused] at hcount
    show w.storedTokens + 1 = 1
    rw [hcount]
    rfl
  · unfold PolicyRun.failed
    rw [ha, hf]
    exact ⟨h.initial, h.maximum, h.next, h.storedTokens⟩
  · unfold PolicyRun.failed
    rw [ha, hf]
    refine ⟨h.initial, h.maximum, h.next, ?_⟩
    rcases hk with rfl | ⟨pause, rfl⟩ <;> exact h.storedTokens

theorem PolicyRun.Counted.connected (h : w.Counted initialDelay maximumDelay) :
    w.connected.Counted initialDelay maximumDelay := by
  refine ⟨h.initial, h.maximum, ?_, rfl⟩
  show w.policy.initialDelay.val = min (initialDelay.val * 2 ^ 0) _
  rw [h.initial, pow_zero, mul_one, min_eq_left (le_max_left _ _)]

theorem counted_policy_reachable (hw : (policySystem initialDelay maximumDelay).Reachable w) :
    w.Counted initialDelay maximumDelay := by
  refine hw.invariant (P := PolicyRun.Counted initialDelay maximumDelay) ?_ ?_
  · rintro w rfl
    refine ⟨rfl, rfl, ?_, rfl⟩
    show initialDelay.val = min (initialDelay.val * 2 ^ 0) _
    rw [pow_zero, mul_one, min_eq_left (le_max_left _ _)]
  · intro w a w' hs h
    cases hs with
    | failed error storedToken => exact h.failed error storedToken
    | connected => exact h.connected

/-- From one second on, the backoff is that of the Gateway client. -/
theorem backoff_agrees {k : Nat} {seconds : UInt64} (hs : 1 ≤ seconds.toNat)
    (hk : k + 1 < 2 ^ 32) :
    (reconnectBackoff (UInt32.ofNat (k + 1)) (Duration.fromSecs seconds)).val =
      min ((Duration.fromSecs 1).val * 2 ^ k) (Duration.fromSecs seconds).val := by
  have hsecs : (Duration.fromSecs seconds).asSecs = seconds := by
    unfold Duration.asSecs Duration.fromSecs
    simp
  have hmax := seconds.toNat_lt
  have hfrom : ∀ n : UInt64, (Duration.fromSecs n).val = n.toNat * 1000000000 := fun _ => rfl
  unfold reconnectBackoff
  rw [hsecs, UInt32.toNat_ofNat_of_lt' (by simpa using hk), Nat.add_sub_cancel]
  simp only [hfrom, UInt64.toNat_min]
  by_cases hlt : k < 64
  · have hpow : 2 ^ k < 2 ^ 64 := Nat.pow_lt_pow_right (by omega) hlt
    rw [if_pos hlt, UInt64.toNat_ofNat_of_lt' (by simpa using hpow)]
    simp
    omega
  · have hpow : 2 ^ 64 ≤ 2 ^ k := Nat.pow_le_pow_right (by omega) (by omega)
    rw [if_neg hlt, UInt64.toNat_ofNat_of_lt' (by simp)]
    simp
    omega

/-- What the policy answers to a failure, given what it answered since the last connection. -/
structure PolicyRun.Answers (initialDelay maximumDelay : Duration) (w : PolicyRun)
    (error : ClientError) (storedToken : StoredDeviceTokenRetry) (action : ReconnectAction)
    (next : ReconnectPolicy) : Prop where
  plain : w.policy.fallsThrough error storedToken = true → action = .retryAfter
    (min (initialDelay.val * 2 ^ w.plain) (max initialDelay.val maximumDelay.val))
  bounded : ∀ delay, action = .retryAfter delay → delay ≤ max initialDelay.val maximumDelay.val
  once : ∀ delay, action = .retryWithStoredDeviceTokenAfter delay →
    storedToken = .availableForTrustedEndpoint ∧ w.storedTokens = 0
  unchanged : w.policy.fallsThrough error storedToken = false →
    next.nextDelay = w.policy.nextDelay
  backoff : (∀ delay, action ≠ .retryAfter delay) → next.nextDelay = w.policy.nextDelay

theorem PolicyRun.Counted.answers (h : w.Counted initialDelay maximumDelay) (error : ClientError)
    (storedToken : StoredDeviceTokenRetry) :
    w.Answers initialDelay maximumDelay error storedToken
      (w.policy.afterFailureWithDeviceToken error storedToken).1
      (w.policy.afterFailureWithDeviceToken error storedToken).2 := by
  obtain ⟨hf, ha⟩ | ⟨hf, hr, ha⟩ | ⟨hf, delay, ha⟩ | ⟨hf, action, ha, hk⟩ :=
    afterFailure_cases w.policy error storedToken
  · rw [ha]
    refine ⟨fun _ => congrArg _ h.next, ?_, (fun _ hd => nomatch hd), fun hn => ?_,
      fun hn => absurd rfl (hn _)⟩
    · rintro _ ⟨⟩
      rw [h.next]
      exact min_le_right _ _
    · rw [hf] at hn
      cases hn
  · rw [ha]
    refine ⟨fun hn => ?_, (fun _ hd => nomatch hd), fun _ _ => ?_, fun _ => rfl, fun _ => rfl⟩
    · rw [hf] at hn
      cases hn
    · unfold ReconnectPolicy.requestsStoredToken at hr
      simp only [Bool.and_eq_true, Bool.not_eq_true', beq_iff_eq] at hr
      exact ⟨hr.1.2, by rw [h.storedTokens, hr.1.1]; rfl⟩
  · rw [ha]
    refine ⟨fun hn => ?_, ?_, (fun _ hd => nomatch hd), fun _ => rfl, fun _ => rfl⟩
    · rw [hf] at hn
      cases hn
    · rintro _ ⟨⟩
      rw [← h.ceiling, val_min]
      exact min_le_right _ _
  · rw [ha]
    refine ⟨fun hn => ?_, fun _ hd => ?_, fun _ hd => ?_, fun _ => rfl, fun _ => rfl⟩
    · rw [hf] at hn
      cases hn
    · rcases hk with rfl | ⟨pause, rfl⟩ <;> cases hd
    · rcases hk with rfl | ⟨pause, rfl⟩ <;> cases hd

/-- Over any calls of a policy its delays follow the closed form, stay under the ceiling, ask for
one stored token at most, and agree with the backoff of the Gateway client. -/
theorem reconnect_policy_runs (initialDelay maximumDelay : Duration) (w : PolicyRun)
    (hw : (policySystem initialDelay maximumDelay).Reachable w) :
    (∀ error storedToken, w.Answers initialDelay maximumDelay error storedToken
      (w.policy.afterFailureWithDeviceToken error storedToken).1
      (w.policy.afterFailureWithDeviceToken error storedToken).2) ∧
    w.storedTokens ≤ 1 ∧
    ∀ seconds : UInt64, 1 ≤ seconds.toNat → initialDelay = Duration.fromSecs 1 →
      maximumDelay = Duration.fromSecs seconds → w.plain + 1 < 2 ^ 32 →
      min (initialDelay.val * 2 ^ w.plain) (max initialDelay.val maximumDelay.val) =
        (reconnectBackoff (UInt32.ofNat (w.plain + 1)) maximumDelay).val := by
  have h := counted_policy_reachable hw
  refine ⟨h.answers, ?_, ?_⟩
  · rw [h.storedTokens]
    exact Bool.toNat_le _
  · rintro seconds hs rfl rfl hk
    have hle : (Duration.fromSecs 1).val ≤ (Duration.fromSecs seconds).val :=
      Nat.mul_le_mul_right _ hs
    rw [backoff_agrees hs hk, max_eq_right hle]

/-- The third failure since the connection waits four seconds. -/
theorem third_backoff : ∃ w, (policySystem (Duration.fromSecs 1) (Duration.fromSecs 30)).Reachable w ∧
    w.plain = 2 ∧ (w.policy.afterFailure (.transport "offline")).1 = .retryAfter 4000000000 ∧
    (reconnectBackoff 3 (Duration.fromSecs 30)).val = 4000000000 := by
  have h₀ : (policySystem (Duration.fromSecs 1) (Duration.fromSecs 30)).Reachable
      ⟨.new (Duration.fromSecs 1) (Duration.fromSecs 30), 0, 0⟩ := .initial rfl
  have h₁ := (h₀.step (.failed (.transport "offline") .unavailable)).step
    (.failed (.transport "offline") .unavailable)
  obtain ⟨hanswers, -, hbackoff⟩ := reconnect_policy_runs _ _ _ h₁
  refine ⟨_, h₁, rfl, ?_, ?_⟩
  · exact (hanswers (.transport "offline") .unavailable).plain rfl
  · exact (hbackoff 30 (by decide) rfl rfl (by decide)).symm

end OpenclawNode.Node
