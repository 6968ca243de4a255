import OpenclawNode.Base.JsonRoundTrip
import OpenclawNode.Gateway.Session
import OpenclawNode.Node.Deliverable
import OpenclawNode.Node.FixtureContract

/-! Every result that a runtime sends meets the pinned contract of results. -/
namespace OpenclawNode.Node

open Gateway (requestId)
open Json (Value Number ForallMembers readText recursionLimit)
open Wire

/-- The frame of a request. -/
def requestFrame (id method : String) (params : Value) : Value :=
  .object [("id", .string id), ("method", .string method), ("params", params),
    ("type", .string "req")]

/-- The text that a request is sent as. -/
def requestText (formatDouble : Json.Double → String) (id method : String) (params : Value) :
    String := String.ofList ((requestFrame id method params).text formatDouble)

/-- The payload that is sent, if any. -/
def InvocationResult.payload? : InvocationResult → Option Value
  | .success payload => some payload
  | .failure .. => none

variable {H P ω ν : Type} {runtime : CommandRuntime H P} {formatDouble : Json.Double → String}
  {invocation : NodeInvocation} {result : InvocationResult} {describe : Value → String}
  {params : Value}

theorem requireNonEmptyResultField_eq_ok {name value value' : String} :
    requireNonEmptyResultField name value = .ok value' ↔ value ≠ "" ∧ value' = value := by
  unfold requireNonEmptyResultField
  split
  · next h => simp [h]
  · next h => simp [h, eq_comm]

/-- Both shapes of the parameters of a result. -/
theorem invocationResultParams_cases (h : invocationResultParams invocation result = .ok params) :
    (∃ payload, result = .success payload ∧ params = .object [("id", .string invocation.id),
      ("nodeId", .string invocation.nodeId), ("ok", .bool true), ("payload", payload)]) ∨
    (∃ code message, result = .failure code message ∧ code ≠ "" ∧ message ≠ "" ∧
      params = .object [
        ("error", .object [("code", .string code), ("message", .string message)]),
        ("id", .string invocation.id), ("nodeId", .string invocation.nodeId),
        ("ok", .bool false)]) := by
  cases result with
  | success payload =>
    cases h
    exact Or.inl ⟨payload, rfl, rfl⟩
  | failure code message =>
    refine Or.inr ⟨code, message, rfl, ?_⟩
    rw [invocationResultParams] at h
    obtain ⟨code', hcode, hrest⟩ := Except.bind_eq_ok.mp h
    obtain ⟨message', hmessage, hparams⟩ := Except.bind_eq_ok.mp hrest
    obtain ⟨hcode, hcode'⟩ := requireNonEmptyResultField_eq_ok.mp hcode
    obtain ⟨hmessage, hmessage'⟩ := requireNonEmptyResultField_eq_ok.mp hmessage
    rw [hcode', hmessage'] at hparams
    exact ⟨hcode, hmessage, (Except.ok.inj hparams).symm⟩

/-- A request frame is read as a request, with its parameters in order. -/
theorem frame_of_request (id method : String) (params : Value) :
    Frame.fromValue (requestFrame id method params) =
      some (.request id method params.normal) := by
  simp [Frame.fromValue, requestFrame, Json.splitTag, Json.structFields,
    Json.required, Json.asString, anyValue]

theorem decode_success (id nodeId : String) (payload : Value) :
    NodeInvokeResult.fromValue (Value.object [("id", .string id), ("nodeId", .string nodeId),
      ("ok", .bool true), ("payload", payload)]).normal =
        some ⟨id, nodeId, true, payload.normal.normal, none, none⟩ := by
  have hnormal : (Value.object [("id", .string id), ("nodeId", .string nodeId),
      ("ok", .bool true), ("payload", payload)]).normal = .object [("id", .string id),
        ("nodeId", .string nodeId), ("ok", .bool true), ("payload", payload.normal)] := rfl
  rw [hnormal]
  simp [NodeInvokeResult.fromValue, Json.structFields, Json.required, Json.asString, asBool,
    Json.optionalNonNull, anyValue]

theorem decode_failure (id nodeId code message : String) :
    NodeInvokeResult.fromValue (Value.object [
      ("error", .object [("code", .string code), ("message", .string message)]),
      ("id", .string id), ("nodeId", .string nodeId), ("ok", .bool false)]).normal =
        some ⟨id, nodeId, false, .null, none, some ⟨some code, some message⟩⟩ := by
  have hnormal : (Value.object [
      ("error", .object [("code", .string code), ("message", .string message)]),
      ("id", .string id), ("nodeId", .string nodeId), ("ok", .bool false)]).normal = .object [
      ("error", .object [("code", .string code), ("message", .string message)]),
      ("id", .string id), ("nodeId", .string nodeId), ("ok", .bool false)] := rfl
  rw [hnormal]
  simp [NodeInvokeResult.fromValue, InvokeError.fromValue, Json.structFields, Json.required,
    Json.asString, asBool, Json.optionalNonNull, anyValue]

/-- A result of an invocation that has its names is one the contract allows. -/
theorem result_request_valid (h : invocationResultParams invocation result = .ok params)
    (hid : invocation.id ≠ "") (hnode : invocation.nodeId ≠ "") {id : String} (hne : id ≠ "") :
    validateFrame describe "node.invoke.result" (requestFrame id "node.invoke.result" params) =
      .ok () := by
  have hpayload : checkPayload describe NodeInvokeResult.fromValue NodeInvokeResult.validate
      params.normal = .ok () := by
    unfold checkPayload decodePayload
    rcases invocationResultParams_cases h with ⟨payload, -, rfl⟩ |
      ⟨code, message, -, hcode, hmessage, rfl⟩
    · rw [decode_success]
      simp [NodeInvokeResult.validate, requireNonEmpty, Except.ensure, hid, hnode, bind,
        Except.bind, pure, Except.pure, Except.map, Except.mapError]
    · rw [decode_failure]
      simp [NodeInvokeResult.validate, InvokeError.validate, requireNonEmptyField, requireNonEmpty,
        Except.ensure, hid, hnode, hcode, hmessage, bind, Except.bind, pure, Except.pure,
        Except.map, Except.mapError]
  rw [validateFrame, frame_of_request]
  simp [Frame.validate, requireNonEmpty, Except.ensure, hne, validateContract, validateEventName,
    hpayload, bind, Except.bind, Except.mapError]

theorem requestId_ne_empty (k : UInt64) : requestId k ≠ "" := by
  intro h
  have hlist := congrArg String.toList h
  rw [requestId, String.toList_append] at hlist
  cases (List.append_eq_nil_iff.mp hlist).1

/-- How deep the frame of a result nests. -/
theorem depth_of_result (h : invocationResultParams invocation result = .ok params) (id : String) :
    (requestFrame id "node.invoke.result" params).depth ≤ recursionLimit ↔
      ∀ payload, result.payload? = some payload → payload.depth ≤ 125 := by
  rcases invocationResultParams_cases h with ⟨payload, rfl, rfl⟩ |
    ⟨code, message, rfl, -, -, rfl⟩
  · simp only [requestFrame, Value.depth, Json.depthMembers, InvocationResult.payload?,
      Option.some.injEq, forall_eq', recursionLimit]
    omega
  · simp [requestFrame, Value.depth, Json.depthMembers, InvocationResult.payload?, recursionLimit]

theorem exact_of_result (h : invocationResultParams invocation result = .ok params) (id : String)
    (hexact : ∀ payload, result.payload? = some payload →
      payload.Forall Number.Exact fun _ => True) :
    (requestFrame id "node.invoke.result" params).Forall Number.Exact fun _ => True := by
  rcases invocationResultParams_cases h with ⟨payload, rfl, rfl⟩ |
    ⟨code, message, rfl, -, -, rfl⟩
  · have hpayload := hexact payload rfl
    simp [requestFrame, Value.Forall, ForallMembers, hpayload]
  · simp [requestFrame, Value.Forall, ForallMembers]

theorem parseInvocation_names {fromStr : String → Except String Value} {payload : Value}
    {receivedAt : Nanos} (h : parseInvocation describe fromStr payload receivedAt = .ok invocation) :
    invocation.id ≠ "" ∧ invocation.nodeId ≠ "" := by
  unfold parseInvocation at h
  simp only [Except.bind_eq_ok, requireNonEmptyResultField_eq_ok, pure, Except.pure,
    Except.ok.injEq] at h
  obtain ⟨decoded, -, id, ⟨hid, hid'⟩, nodeId, ⟨hnode, hnode'⟩, command, -, key, -, session, -,
    rfl⟩ := h
  exact ⟨hid' ▸ hid, hnode' ▸ hnode⟩

/-- Whatever the policy and the handler of an invocation do, the request that its result is sent in
meets the pinned contract, and without doubles its text does exactly where the payload nests in at
most 125 levels. -/
theorem result_request_meets_contract (c : RuntimeClosures H P ω ν) (runtime : CommandRuntime H P)
    (formatDouble : Json.Double → String) (readDouble : List Char → Option Json.Double)
    (advertised : Finset String) (active : ActiveInvocations) (invocation : NodeInvocation)
    (describe : Value → String) (describeText : String → String)
    (fromStr : String → Except String Value) (payload : Value) (receivedAt : Nanos)
    (hparsed : parseInvocation describe fromStr payload receivedAt = .ok invocation)
    (s : EvaluationRun c) (result : InvocationResult)
    (hs : (evaluationSystem c runtime formatDouble advertised active invocation).Reachable s)
    (hresult : s.phase = .done result) (k : UInt64) : ∃ params,
      completeInvocation true invocation result = .ok ("node.invoke.result", params) ∧
      validateFrame describe "node.invoke.result"
        (requestFrame (requestId k) "node.invoke.result" params) = .ok () ∧
      ((∀ payload, result.payload? = some payload →
          payload.Forall Number.Exact fun _ => True) →
        (validateFixture describe readDouble describeText "node.invoke.result"
            (requestText formatDouble (requestId k) "node.invoke.result" params) = .ok () ↔
          ∀ payload, result.payload? = some payload → payload.depth ≤ 125)) := by
  have hd := delivers_reachable hs
  rw [hresult] at hd
  have hdeliverable : Deliverable runtime formatDouble result := hd
  obtain ⟨params, hparams, hcomplete⟩ := hdeliverable.completes invocation
  obtain ⟨hid, hnode⟩ := parseInvocation_names hparsed
  have hvalid := @result_request_valid _ _ describe _ hparams hid hnode _ (requestId_ne_empty k)
  refine ⟨params, hcomplete, hvalid, fun hexact => ?_⟩
  rw [validateFixture, requestText, Json.readText_text (exact_of_result hparams _ hexact),
    ← depth_of_result hparams (requestId k)]
  by_cases hdepth : (requestFrame (requestId k) "node.invoke.result" params).depth ≤ recursionLimit
  · rw [if_pos hdepth]
    exact ⟨fun _ => hdepth, fun _ => hvalid⟩
  · rw [if_neg hdepth]
    exact ⟨nofun, fun h => absurd h hdepth⟩

def echoRequest : Value :=
  .object [("command", .string "echo"), ("id", .string "invoke-1"), ("nodeId", .string "node-1"),
    ("paramsJSON", .string "null")]

theorem echo_result_meets_contract : ∃ params,
    completeInvocation true echoInvocation (.success .null) = .ok ("node.invoke.result", params) ∧
    validateFixture (fun _ => "") (fun _ => none) id "node.invoke.result"
      (requestText (fun _ => "") (requestId 2) "node.invoke.result" params) = .ok () := by
  have hparsed : parseInvocation (fun _ => "") (fun _ => .ok .null) echoRequest 0 =
      .ok echoInvocation := rfl
  obtain ⟨params, hcomplete, -, htext⟩ := result_request_meets_contract echoClosures echoRuntime
    (fun _ => "") (fun _ => none) {"echo"} .empty echoInvocation (fun _ => "") id _ _ 0 hparsed _ _
    echo_reachable rfl 2
  refine ⟨params, hcomplete, (htext ?_).mpr ?_⟩
  · rintro payload ⟨⟩
    trivial
  · rintro payload ⟨⟩
    exact Nat.zero_le 125

end OpenclawNode.Node
