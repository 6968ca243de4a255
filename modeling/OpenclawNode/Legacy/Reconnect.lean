import OpenclawNode.Node.ReconnectRuns

/-! The reconnect policy of the first client, and what the present one changed of it. -/
namespace OpenclawNode.Legacy

open Json (Value)
open Node (ConnectErrorDetails DevicePairingRequest Duration ReconnectAction ReconnectPause
  ReconnectPolicy StoredDeviceTokenRetry connectDetailCode deviceTokenRetryDelay isAuthPauseCode
  parsePairingRequest recoveryStep)

/-- The errors of the first client. -/
inductive ClientError
  | invalidUrl (reason : String)
  | insecureRemoteGateway
  | transport (reason : String)
  | challengeTimeout
  | invalidChallenge (reason : String)
  | connectParams (reason : String)
  | identity (reason : String)
  | gateway (method code message : String) (details : Option Value) (retryable : Option Bool)
      (retryAfterMs : Option UInt64)
  | requestTimeout (method : String)
  | closed (reason : String)
  | invalidFrame (reason : String)
  | eventLagged (count : UInt64)
  | notActivated

/-- The same error of the present client. -/
def ClientError.toNode : ClientError → Node.ClientError
  | .invalidUrl reason => .invalidUrl reason
  | .insecureRemoteGateway => .insecureRemoteGateway
  | .transport reason => .transport reason
  | .challengeTimeout => .challengeTimeout
  | .invalidChallenge reason => .invalidChallenge reason
  | .connectParams reason => .connectParams reason
  | .identity reason => .identity reason
  | .gateway method code message details retryable retryAfterMs =>
    .gateway method code message details retryable retryAfterMs
  | .requestTimeout method => .requestTimeout method
  | .closed reason => .closed reason
  | .invalidFrame reason => .invalidFrame reason
  | .eventLagged count => .eventLagged count
  | .notActivated => .notActivated

def gatewayRetryAfter : ClientError → Option Duration
  | .gateway _ _ _ _ _ retryAfterMs => retryAfterMs.map Duration.fromMillis
  | _ => none

def gatewayRequestsDeviceTokenRetry : ClientError → Bool
  | .gateway method code _ details _ _ =>
    method == "connect" && (connectDetailCode code details == "AUTH_TOKEN_MISMATCH" ||
      recoveryStep details == some .retryWithDeviceToken)
  | _ => false

def isSessionRequestError : ClientError → Bool
  | .gateway method _ _ _ _ _ => method != "connect"
  | .requestTimeout method => method != "connect"
  | .eventLagged _ => true
  | .notActivated => true
  | _ => false

def isProtocolCode (detailCode : String) : Bool :=
  detailCode ∈ ["PROTOCOL_MISMATCH", "CLIENT_VERSION_MISMATCH"]

def classifyGatewayPause (code : String) (details : Option Value) : Option ReconnectPause :=
  let detailCode := connectDetailCode code details
  if detailCode = "PAIRING_REQUIRED" then
    let pairing := parsePairingRequest details
    if pairing.pauseReconnect = some false ∨
        pairing.recommendedNextStep = some .waitThenRetry then none
    else some (.devicePairing pairing)
  else if detailCode = "AUTH_RATE_LIMITED" then some (.authentication detailCode)
  else
    match recoveryStep details with
    | some .waitThenRetry => none
    | some .retryWithDeviceToken => some (.authentication detailCode)
    | some .updateAuthConfiguration => some (.authentication detailCode)
    | some .updateAuthCredentials => some (.authentication detailCode)
    | some .reviewAuthConfiguration => some (.authentication detailCode)
    | none =>
      if isAuthPauseCode detailCode then some (.authentication detailCode)
      else if isProtocolCode detailCode then some (.protocol (some detailCode))
      else none

def classifyPause : ClientError → Option ReconnectPause
  | .invalidUrl _ => some .configuration
  | .insecureRemoteGateway => some .configuration
  | .connectParams _ => some .localIdentity
  | .identity _ => some .localIdentity
  | .invalidChallenge _ => some (.protocol none)
  | .invalidFrame _ => some (.protocol none)
  | .gateway _ code _ details _ _ => classifyGatewayPause code details
  | .transport _ => none
  | .challengeTimeout => none
  | .requestTimeout _ => none
  | .closed _ => none
  | .eventLagged _ => none
  | .notActivated => none

/-- `Ord::min` of two durations. -/
def atMost (delay maximum : Duration) : Duration := if delay ≤ maximum then delay else maximum

def afterFailureWithDeviceToken (p : ReconnectPolicy) (error : ClientError)
    (storedToken : StoredDeviceTokenRetry) : ReconnectAction × ReconnectPolicy :=
  if isSessionRequestError error then (.keepSession, p)
  else if !p.deviceTokenRetryUsed && storedToken == .availableForTrustedEndpoint &&
      gatewayRequestsDeviceTokenRetry error then
    (.retryWithStoredDeviceTokenAfter deviceTokenRetryDelay.val,
      { p with deviceTokenRetryUsed := true })
  else
    match classifyPause error with
    | some pause => (.pause pause, p)
    | none =>
      match gatewayRetryAfter error with
      | some delay => (.retryAfter (atMost delay p.maximumDelay).val, p)
      | none =>
        (.retryAfter p.nextDelay.val, { p with
          nextDelay := atMost (p.nextDelay.checkedDouble.getD p.maximumDelay) p.maximumDelay })

/-- The Gateway demands a pause. -/
def demandsPause (details : Option Value) (retryable : Option Bool) : Bool :=
  retryable == some false || (ConnectErrorDetails.fromValue details).shouldPauseReconnect

/-- A failed connect that the present client classifies otherwise: a dialect that does not fit,
whatever else is recommended, and a pause that is demanded though nothing else calls for it. -/
def ClientError.reclassified : ClientError → Bool
  | .gateway _ code _ details retryable _ =>
    let detailCode := connectDetailCode code details
    if isProtocolCode detailCode then (recoveryStep details).isSome
    else detailCode != "PAIRING_REQUIRED" && detailCode != "AUTH_RATE_LIMITED" &&
      demandsPause details retryable && (recoveryStep details == some .waitThenRetry ||
        (recoveryStep details).isNone && !isAuthPauseCode detailCode)
  | _ => false

variable {p : ReconnectPolicy} {error : ClientError} {storedToken : StoredDeviceTokenRetry}

theorem isSessionRequestError_toNode :
    Node.isSessionRequestError error.toNode = isSessionRequestError error := by
  cases error <;> rfl

theorem requestsStoredToken_toNode : p.requestsStoredToken error.toNode storedToken =
    (!p.deviceTokenRetryUsed && storedToken == .availableForTrustedEndpoint &&
      gatewayRequestsDeviceTokenRetry error) := by
  cases error <;> rfl

theorem gatewayRetryAfter_toNode :
    Node.gatewayRetryAfter error.toNode = gatewayRetryAfter error := by
  cases error <;> rfl

theorem isProtocolCode_iff {detailCode : String} : isProtocolCode detailCode = true ↔
    detailCode = "PROTOCOL_MISMATCH" ∨ detailCode = "CLIENT_VERSION_MISMATCH" := by
  simp [isProtocolCode]

theorem not_isAuthPauseCode {detailCode : String} (h : isProtocolCode detailCode = true) :
    isAuthPauseCode detailCode = false ∧ detailCode ≠ "PAIRING_REQUIRED" ∧
      detailCode ≠ "AUTH_RATE_LIMITED" := by
  rcases isProtocolCode_iff.mp h with rfl | rfl <;> decide

theorem atMost_eq (delay maximum : Duration) : atMost delay maximum = min delay maximum :=
  min_def delay maximum |>.symm

/-- The two classifications differ exactly where a failure is classified otherwise, and there the
present one pauses. -/
theorem classifyPause_toNode :
    (error.reclassified = false → Node.classifyPause error.toNode = classifyPause error) ∧
    (error.reclassified = true → (Node.classifyPause error.toNode).isSome = true ∧
      Node.classifyPause error.toNode ≠ classifyPause error) := by
  cases error with
  | gateway method code message details retryable retryAfterMs =>
    unfold ClientError.reclassified ClientError.toNode Node.classifyPause classifyPause
      Node.classifyGatewayPause classifyGatewayPause demandsPause
    dsimp only
    generalize connectDetailCode code details = detailCode
    by_cases hprotocol : isProtocolCode detailCode = true
    · obtain ⟨hauth, hpairing, hlimited⟩ := not_isAuthPauseCode hprotocol
      have hcode := isProtocolCode_iff.mp hprotocol
      rcases hstep : recoveryStep details with _ | step
      · simp [hprotocol, hauth, hpairing, hlimited, hcode]
      · cases step <;> simp [hprotocol, hpairing, hlimited, hcode]
    · have hcode : ¬ (detailCode = "PROTOCOL_MISMATCH" ∨
          detailCode = "CLIENT_VERSION_MISMATCH") := fun h => hprotocol (isProtocolCode_iff.mpr h)
      by_cases hpairing : detailCode = "PAIRING_REQUIRED"
      · cases hwait : (parsePairingRequest details).waits <;>
          simp_all [DevicePairingRequest.waits]
      · by_cases hlimited : detailCode = "AUTH_RATE_LIMITED"
        · subst hlimited
          simp [isProtocolCode]
        · -- neither client has settled the failure by its code alone
          by_cases hdemand : retryable = some false ∨
              (ConnectErrorDetails.fromValue details).shouldPauseReconnect = true
          · have hdemand' : (retryable == some false ||
                (ConnectErrorDetails.fromValue details).shouldPauseReconnect) = true := by
              simpa using hdemand
            rcases hstep : recoveryStep details with _ | step
            · cases hauth : isAuthPauseCode detailCode <;>
                simp [-Bool.or_eq_true, hprotocol, hpairing, hlimited, hcode, hdemand, hdemand']
            · cases step <;>
                simp [-Bool.or_eq_true, hprotocol, hpairing, hlimited, hcode, hdemand, hdemand']
          · rcases hstep : recoveryStep details with _ | step
            · cases hauth : isAuthPauseCode detailCode <;>
                simp [hprotocol, hpairing, hlimited, hcode, hdemand]
            · cases step <;> simp [hprotocol, hpairing, hlimited, hcode, hdemand]
  | _ => simp [ClientError.reclassified, ClientError.toNode, Node.classifyPause, classifyPause]

/-- What the present client makes of the same failure. -/
def presentAnswer (p : ReconnectPolicy) (error : ClientError)
    (storedToken : StoredDeviceTokenRetry) : ReconnectAction × ReconnectPolicy :=
  p.afterFailureWithDeviceToken error.toNode storedToken

/-- One failure is answered alike, or is classified otherwise and paused at. -/
theorem presentAnswer_cases (p : ReconnectPolicy) (error : ClientError)
    (storedToken : StoredDeviceTokenRetry) :
    presentAnswer p error storedToken = afterFailureWithDeviceToken p error storedToken ∨
    error.reclassified = true ∧ ∃ pause,
      (presentAnswer p error storedToken).1 = .pause pause ∧
      (afterFailureWithDeviceToken p error storedToken).1 ≠ .pause pause := by
  unfold presentAnswer ReconnectPolicy.afterFailureWithDeviceToken afterFailureWithDeviceToken
  rw [isSessionRequestError_toNode, requestsStoredToken_toNode, gatewayRetryAfter_toNode]
  simp only [atMost_eq]
  by_cases hs : isSessionRequestError error = true
  · rw [if_pos hs, if_pos hs]
    exact Or.inl rfl
  · rw [if_neg hs, if_neg hs]
    split
    · exact Or.inl rfl
    · obtain ⟨hsame, hdiffer⟩ := @classifyPause_toNode error
      cases hr : error.reclassified with
      | false =>
        rw [hsame hr]
        exact Or.inl rfl
      | true =>
        obtain ⟨hsome, hne⟩ := hdiffer hr
        obtain ⟨pause, hpause⟩ := Option.isSome_iff_exists.mp hsome
        rw [hpause] at hne ⊢
        refine Or.inr ⟨rfl, pause, rfl, ?_⟩
        cases hlegacy : classifyPause error with
        | none =>
          intro h
          cases hdelay : gatewayRetryAfter error <;> (rw [hdelay] at h; cases h)
        | some other =>
          rw [hlegacy] at hne
          rintro ⟨⟩
          exact hne rfl

/-- The first client's pauses are pauses of the present one. -/
theorem pause_kept {pause : ReconnectPause}
    (h : (afterFailureWithDeviceToken p error storedToken).1 = .pause pause) :
    ∃ pause', (presentAnswer p error storedToken).1 = .pause pause' := by
  rcases presentAnswer_cases p error storedToken with hsame | ⟨-, pause', hpause, -⟩
  · exact ⟨pause, by rw [hsame, h]⟩
  · exact ⟨pause', hpause⟩

/-- What an embedding tells its policy. -/
inductive PolicyCall
  | failed (error : ClientError) (storedToken : StoredDeviceTokenRetry)
  | connected

/-- The answers to calls one after another, and the policy they leave. -/
def runPolicy (answer : ReconnectPolicy → ClientError → StoredDeviceTokenRetry →
    ReconnectAction × ReconnectPolicy) :
    ReconnectPolicy → List PolicyCall → List ReconnectAction × ReconnectPolicy
  | p, [] => ([], p)
  | p, .connected :: calls => runPolicy answer p.connected calls
  | p, .failed error storedToken :: calls =>
    let (action, p) := answer p error storedToken
    let (actions, p) := runPolicy answer p calls
    (action :: actions, p)

/-- Over any calls the present policy answers as the first one did, up to a failure that it
classifies otherwise and where it pauses; and it pauses wherever the first one did. -/
theorem present_policy_only_adds_pauses (p : ReconnectPolicy) (calls : List PolicyCall) :
    (runPolicy presentAnswer p calls = runPolicy afterFailureWithDeviceToken p calls ∨
      ∃ before error storedToken after pause, calls = before ++ .failed error storedToken :: after ∧
        error.reclassified = true ∧
        runPolicy presentAnswer p before = runPolicy afterFailureWithDeviceToken p before ∧
        (presentAnswer (runPolicy presentAnswer p before).2 error storedToken).1 = .pause pause ∧
        (afterFailureWithDeviceToken (runPolicy presentAnswer p before).2 error storedToken).1 ≠
          .pause pause) ∧
    ∀ q error storedToken pause, (afterFailureWithDeviceToken q error storedToken).1 =
      .pause pause → ∃ pause', (presentAnswer q error storedToken).1 = .pause pause' := by
  refine ⟨?_, fun q error storedToken pause => pause_kept⟩
  induction calls generalizing p with
  | nil => exact Or.inl rfl
  | cons call calls ih =>
    cases call with
    | connected =>
      rcases ih p.connected with hsame | ⟨before, error, token, after, pause, rfl, h⟩
      · exact Or.inl hsame
      · exact Or.inr ⟨.connected :: before, error, token, after, pause, rfl, h⟩
    | failed error storedToken =>
      rcases presentAnswer_cases p error storedToken with hsame | ⟨hr, pause, hpause, hne⟩
      · rcases ih (afterFailureWithDeviceToken p error storedToken).2 with hrest |
          ⟨before, error', token, after, pause, rfl, hr, hrun, h⟩
        · left
          simp only [runPolicy, hsame, hrest]
        · refine Or.inr ⟨.failed error storedToken :: before, error', token, after, pause, rfl, hr,
            ?_, ?_⟩
          · simp only [runPolicy, hsame, hrun]
          · simp only [runPolicy, hsame]
            exact h
      · exact Or.inr ⟨[], error, storedToken, calls, pause, rfl, hr, rfl, hpause, hne⟩

end OpenclawNode.Legacy
