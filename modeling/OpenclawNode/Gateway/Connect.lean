import OpenclawNode.Base.Decode
import OpenclawNode.Base.Text
import OpenclawNode.Gateway.Session

/-! Opening a Gateway session, with one bounded fallback for a protocol mismatch. -/
namespace OpenclawNode.Gateway

open Json (Value asString asU64)
open Text (trim)

/-- An error of a connect, besides those that a session has as well. -/
inductive ConnectError
  | tls (reason : String)
  | connectTimeout
  | challengeTimeout
  | invalidChallenge (reason : String)
  | connectParams (reason : String)
  | session (error : ClientError)

structure ConnectChallenge where
  nonce : String
  issuedAtMs : UInt64
  deriving DecidableEq, Repr

/-- Identifies which bounded connect envelope a parameter callback must build. -/
inductive ConnectAttempt
  | current
  | protocolFallback (expectedProtocol : UInt32)
  deriving DecidableEq, Repr

/-- What is next read from a connection: a frame, the end of the connection or of the time to
wait. -/
inductive ConnectFrame
  | event (event : String) (payload : Value)
  | response (id : String) (ok : Bool) (payload : Value) (error : Option GatewayErrorShape)
  | failed (cause : SessionCloseCause)
  | elapsed

/-- Why a WebSocket was not opened. -/
inductive HandshakeFailure
  | tls (reason : String)
  | timeout
  | transport (reason : String)

def HandshakeFailure.toConnectError : HandshakeFailure → ConnectError
  | .tls reason => .tls reason
  | .timeout => .connectTimeout
  | .transport reason => .session (.transport reason)

/-- How the Gateway and the network behave on one connection. -/
structure Connection where
  refusal : Option HandshakeFailure
  greeting : List ConnectFrame
  written : Value → Option SessionCloseCause
  replies : Value → List ConnectFrame

/-- A member of a value that is an object. -/
def getMember (key : String) : Value → Option Value
  | .object members => (members.find? (·.1 = key)).map Prod.snd
  | _ => none

def streamEnded : ConnectError := .session (.closed "Gateway ended the WebSocket stream")

def readChallenge (payload : Value) : Except ConnectError ConnectChallenge :=
  match (((getMember "nonce" payload).bind asString).map trim).filter (· ≠ "") with
  | none => .error (.invalidChallenge "missing nonce")
  | some nonce =>
    match (getMember "ts" payload).bind asU64 with
    | none => .error (.invalidChallenge "missing timestamp")
    | some issuedAtMs => .ok ⟨nonce, issuedAtMs⟩

/-- The challenge, and what is read after it. -/
def waitForChallenge :
    List ConnectFrame → Except ConnectError (ConnectChallenge × List ConnectFrame)
  | [] => .error streamEnded
  | .failed cause :: _ => .error (.session cause.toClientError)
  | .elapsed :: _ => .error .challengeTimeout
  | .response _ _ _ _ :: frames => waitForChallenge frames
  | .event event payload :: frames =>
    if event = "connect.challenge" then (readChallenge payload).map (·, frames)
    else waitForChallenge frames

def waitForResponse (expectedId method : String) : List ConnectFrame → Except ConnectError Value
  | [] => .error streamEnded
  | .failed cause :: _ => .error (.session cause.toClientError)
  | .elapsed :: _ => .error (.session (.requestTimeout method))
  | .event _ _ :: frames => waitForResponse expectedId method frames
  | .response id ok payload error :: frames =>
    if id = expectedId then (responseResult method ok payload error).mapError .session
    else waitForResponse expectedId method frames

/-- One connection that was opened: its challenge and the params sent on it, if it came so far, and
how it ended. -/
structure Opened where
  challenge : Option ConnectChallenge
  params : Option Value
  result : Except ConnectError Value

variable {σ : Type}

/-- Open a connection. The callback that makes the params has a state of its own. -/
def connectOnce (connection : Connection)
    (makeParams : ConnectChallenge → σ → Except String Value × σ) (s : σ) : Opened × σ :=
  match connection.refusal with
  | some failure => (⟨none, none, .error failure.toConnectError⟩, s)
  | none =>
    match waitForChallenge connection.greeting with
    | .error error => (⟨none, none, .error error⟩, s)
    | .ok (challenge, frames) =>
      match makeParams challenge s with
      | (.error error, s) => (⟨some challenge, none, .error (.connectParams error)⟩, s)
      | (.ok params, s) =>
        match connection.written params with
        | some cause => (⟨some challenge, some params, .error (.session cause.toClientError)⟩, s)
        | none =>
          (⟨some challenge, some params,
            waitForResponse connectId "connect" (frames ++ connection.replies params)⟩, s)

variable (toLowercase : String → String)

/-- Whether a connect was rejected for its protocol by a Gateway that expects the given one. -/
def isExpectedProtocolMismatch (error : ConnectError) (expectedProtocol : UInt32) : Bool :=
  match error with
  | .session (.gateway method _ message (some details) _ _) =>
    let matchesExpectedProtocol :=
      (getMember "expectedProtocol" details).bind asU64 = some expectedProtocol.toUInt64
    let matchesMismatch :=
      (getMember "code" details).bind asString = some "PROTOCOL_MISMATCH" ∨
        "protocol mismatch".toList <:+: (toLowercase (trim message)).toList
    method = "connect" ∧ matchesExpectedProtocol ∧ matchesMismatch
  | _ => false

/-- The connections that are opened, in order. What the Gateway does on a connection may depend on
those before it. -/
def connectWithProtocolFallback (gateway : List Opened → Connection) (expectedProtocol : UInt32)
    (makeParams : ConnectChallenge → ConnectAttempt → σ → Except String Value × σ) (s : σ) :
    List Opened × Except ConnectError Value × σ :=
  let (first, s) := connectOnce (gateway []) (makeParams · .current) s
  match first.result with
  | .error error =>
    if isExpectedProtocolMismatch toLowercase error expectedProtocol then
      let (second, s) :=
        connectOnce (gateway [first]) (makeParams · (.protocolFallback expectedProtocol)) s
      ([first, second], second.result, s)
    else ([first], .error error, s)
  | .ok hello => ([first], .ok hello, s)

variable {toLowercase : String → String} {connection : Connection} {s s' : σ} {opened : Opened}
  {makeParams : ConnectChallenge → σ → Except String Value × σ} {hello : Value}

/-- A hello answers the params that the callback made of the connection's own challenge. -/
theorem connectOnce_hello (h : connectOnce connection makeParams s = (opened, s'))
    (hresult : opened.result = .ok hello) :
    ∃ challenge params, opened.challenge = some challenge ∧ opened.params = some params ∧
      makeParams challenge s = (.ok params, s') := by
  rw [connectOnce] at h
  split at h
  · cases h
    cases hresult
  · split at h
    · cases h
      cases hresult
    · next challenge frames _ =>
      split at h
      · cases h
        cases hresult
      · next params s₁ hmade =>
        split at h
        · cases h
          cases hresult
        · cases h
          exact ⟨challenge, params, rfl, rfl, hmade⟩

theorem waitForChallenge_error {frames : List ConnectFrame} {error : ConnectError}
    (h : waitForChallenge frames = .error error) (method code message : String)
    (details : Option Value) (retryable : Option Bool) (retryAfterMs : Option UInt64) :
    error ≠ .session (.gateway method code message details retryable retryAfterMs) := by
  induction frames with
  | nil =>
    cases h
    exact fun he => by cases he
  | cons frame frames ih =>
    cases frame with
    | failed cause =>
      cases h
      cases cause <;> exact fun he => by cases he
    | elapsed =>
      cases h
      exact fun he => by cases he
    | response id ok payload e => exact ih h
    | event event payload =>
      rw [waitForChallenge] at h
      split at h
      · rw [readChallenge] at h
        split at h
        · cases h
          exact fun he => by cases he
        · split at h
          · cases h
            exact fun he => by cases he
          · cases h
      · exact ih h

/-- A rejection answers params that were sent, and the callback was called for them. -/
theorem connectOnce_rejection {method code message : String} {details : Option Value}
    {retryable : Option Bool} {retryAfterMs : Option UInt64}
    (h : connectOnce connection makeParams s = (opened, s'))
    (hresult : opened.result =
      .error (.session (.gateway method code message details retryable retryAfterMs))) :
    ∃ challenge params, opened.challenge = some challenge ∧ opened.params = some params ∧
      makeParams challenge s = (.ok params, s') := by
  rw [connectOnce] at h
  split at h
  · next failure _ =>
    cases h
    cases failure <;> cases hresult
  · split at h
    · next hwait =>
      cases h
      exact absurd (Except.error.inj hresult) (waitForChallenge_error hwait _ _ _ _ _ _)
    · next challenge frames _ =>
      split at h
      · cases h
        cases hresult
      · next params s₁ hmade =>
        split at h
        · next cause _ =>
          cases h
          cases cause <;> cases hresult
        · cases h
          exact ⟨challenge, params, rfl, rfl, hmade⟩

/-- A mismatch is a rejection of the connect with the expected version and a marker. -/
theorem isExpectedProtocolMismatch_iff {error : ConnectError} {expectedProtocol : UInt32} :
    isExpectedProtocolMismatch toLowercase error expectedProtocol = true ↔
      ∃ code message details retryable retryAfterMs,
        error = .session (.gateway "connect" code message (some details) retryable retryAfterMs) ∧
        (getMember "expectedProtocol" details).bind asU64 = some expectedProtocol.toUInt64 ∧
        ((getMember "code" details).bind asString = some "PROTOCOL_MISMATCH" ∨
          "protocol mismatch".toList <:+: (toLowercase (trim message)).toList) := by
  constructor
  · intro h
    unfold isExpectedProtocolMismatch at h
    split at h
    · next method code message details retryable retryAfterMs =>
      obtain ⟨rfl, hexpected, hmarker⟩ := of_decide_eq_true h
      exact ⟨code, message, details, retryable, retryAfterMs, rfl, hexpected, hmarker⟩
    · cases h
  · rintro ⟨code, message, details, retryable, retryAfterMs, rfl, hexpected, hmarker⟩
    exact decide_eq_true ⟨rfl, hexpected, hmarker⟩

variable {gateway : List Opened → Connection} {expectedProtocol : UInt32}
  {makeAttempt : ConnectChallenge → ConnectAttempt → σ → Except String Value × σ}
  {connections : List Opened} {result : Except ConnectError Value}

/-- One connection is opened, or a second one after the first was rejected for its protocol. The
last one opened gives the result. -/
theorem connectWithProtocolFallback_cases
    (h : connectWithProtocolFallback toLowercase gateway expectedProtocol makeAttempt s =
      (connections, result, s')) :
    (∃ first, connections = [first] ∧ result = first.result ∧
      connectOnce (gateway []) (makeAttempt · .current) s = (first, s')) ∨
    ∃ first second error s₁, connections = [first, second] ∧ result = second.result ∧
      first.result = .error error ∧
      isExpectedProtocolMismatch toLowercase error expectedProtocol = true ∧
      connectOnce (gateway []) (makeAttempt · .current) s = (first, s₁) ∧
      connectOnce (gateway [first]) (makeAttempt · (.protocolFallback expectedProtocol)) s₁ =
        (second, s') := by
  rw [connectWithProtocolFallback] at h
  cases hfirst : connectOnce (gateway []) (makeAttempt · .current) s with
  | mk first s₁ =>
    rw [hfirst] at h
    cases hresult : first.result with
    | ok hello =>
      simp only [hresult] at h
      cases h
      exact .inl ⟨first, rfl, hresult.symm, rfl⟩
    | error error =>
      simp only [hresult] at h
      split at h
      · next hmismatch =>
        cases hsecond : connectOnce (gateway [first])
          (makeAttempt · (.protocolFallback expectedProtocol)) s₁ with
        | mk second s₂ =>
          rw [hsecond] at h
          cases h
          exact .inr ⟨first, second, error, s₁, rfl, rfl, hresult, hmismatch, rfl, hsecond⟩
      · cases h
        exact .inl ⟨first, rfl, hresult.symm, rfl⟩

end OpenclawNode.Gateway
