import OpenclawNode.Node.InvocationEvents

/-! The pinned shapes of invocation events, and what the runtime makes of what they allow. -/
namespace OpenclawNode.Node

open Except (ensure)
open Json (Value asString asU64 optionalNonNull required structFields)
open Text (utf8)

namespace Wire

def requireNonEmpty (field value : String) : Except String Unit :=
  ensure (value ≠ "") (field ++ " must have minLength 1")

structure NodeInvokeRequest where
  id : String
  nodeId : String
  command : String
  paramsJson : Option String
  timeoutMs : Option UInt64
  idempotencyKey : Option String

def NodeInvokeRequest.fromValue (v : Value) : Option NodeInvokeRequest := do
  let field ← structFields ["id", "nodeId", "command", "paramsJSON", "timeoutMs",
    "idempotencyKey"] v
  let id ← required asString (field "id")
  let nodeId ← required asString (field "nodeId")
  let command ← required asString (field "command")
  let paramsJson ← optionalNonNull asString (field "paramsJSON")
  let timeoutMs ← optionalNonNull asU64 (field "timeoutMs")
  let idempotencyKey ← optionalNonNull asString (field "idempotencyKey")
  return { id, nodeId, command, paramsJson, timeoutMs, idempotencyKey }

def NodeInvokeRequest.validate (r : NodeInvokeRequest) : Except String Unit := do
  requireNonEmpty "id" r.id
  requireNonEmpty "nodeId" r.nodeId
  requireNonEmpty "command" r.command
  match r.idempotencyKey with
  | some idempotencyKey => requireNonEmpty "idempotencyKey" idempotencyKey
  | none => .ok ()

structure NodeInvokeInput where
  id : String
  nodeId : String
  seq : UInt64
  payloadJson : String

def NodeInvokeInput.fromValue (v : Value) : Option NodeInvokeInput := do
  let field ← structFields ["id", "nodeId", "seq", "payloadJSON"] v
  let id ← required asString (field "id")
  let nodeId ← required asString (field "nodeId")
  let seq ← required asU64 (field "seq")
  let payloadJson ← required asString (field "payloadJSON")
  return { id, nodeId, seq, payloadJson }

def NodeInvokeInput.validate (r : NodeInvokeInput) : Except String Unit := do
  requireNonEmpty "id" r.id
  requireNonEmpty "nodeId" r.nodeId
  ensure (r.payloadJson.toList.length ≤ 16384) "payloadJSON exceeds maxLength 16384"

/-- The decoded payload, when the contract allows it. -/
def decodePayload {α : Type} (fromValue : Value → Option α) (validate : α → Except String Unit)
    (describe : Value → String) (payload : Value) : Except String α :=
  match fromValue payload with
  | none => .error (describe payload)
  | some r => do
    validate r
    return r

def decodeInput (describe : Value → String) (payload : Value) : Except String NodeInvokeInput :=
  decodePayload NodeInvokeInput.fromValue NodeInvokeInput.validate describe payload

def decodeRequest (describe : Value → String) (payload : Value) :
    Except String NodeInvokeRequest :=
  decodePayload NodeInvokeRequest.fromValue NodeInvokeRequest.validate describe payload

theorem decodePayload_eq_ok {α : Type} {fromValue : Value → Option α}
    {validate : α → Except String Unit} {describe : Value → String} {payload : Value} {r : α} :
    decodePayload fromValue validate describe payload = .ok r ↔
      fromValue payload = some r ∧ validate r = .ok () := by
  unfold decodePayload
  cases hf : fromValue payload with
  | none => simp
  | some r' =>
    simp only [Except.bind_eq_ok, pure, Except.pure, Except.ok.injEq, Option.some.injEq]
    constructor
    · rintro ⟨_, hv, rfl⟩
      exact ⟨rfl, hv⟩
    · rintro ⟨rfl, hv⟩
      exact ⟨(), hv, rfl⟩

end Wire

open Wire

theorem requireNonEmpty_eq_ok {field value : String} {u : Unit} :
    requireNonEmpty field value = .ok u ↔ value ≠ "" := Except.ensure_eq_ok

theorem requireNonEmptyResultField_eq {name value : String} (h : value ≠ "") :
    requireNonEmptyResultField name value = .ok value := if_neg h

/-- Both decoders read the same fields of an input frame. -/
theorem InputPayload.fromValue_of_contract {v : Value} {r : NodeInvokeInput}
    (h : NodeInvokeInput.fromValue v = some r) :
    InputPayload.fromValue v = some ⟨r.id, r.nodeId, r.seq, r.payloadJson⟩ := by
  simp only [NodeInvokeInput.fromValue, Option.bind_eq_bind, Option.bind_eq_some_iff, pure,
    Option.some.injEq] at h
  obtain ⟨field, hfield, id, hid, nodeId, hnode, seq, hseq, json, hjson, rfl⟩ := h
  simp only [InputPayload.fromValue, hfield, hid, hnode, hseq, hjson, Option.bind_eq_bind,
    Option.bind_some, pure]

/-- The runtime's decoder finds no session key where the contract knows none, and reads the other
fields alike. -/
theorem InvocationPayload.fromValue_of_contract {v : Value} {r : NodeInvokeRequest}
    (h : NodeInvokeRequest.fromValue v = some r) :
    InvocationPayload.fromValue v = some ⟨r.id, r.nodeId, r.command, r.paramsJson, r.timeoutMs,
      r.idempotencyKey, none⟩ := by
  simp only [NodeInvokeRequest.fromValue, Option.bind_eq_bind, Option.bind_eq_some_iff, pure,
    Option.some.injEq] at h
  obtain ⟨field, hfield, id, hid, nodeId, hnode, command, hcommand, paramsJson, hparams, timeoutMs,
    htimeout, idempotencyKey, hkey, rfl⟩ := h
  have hnew : "sessionKey" ∉ ["id", "nodeId", "command", "paramsJSON", "timeoutMs",
    "idempotencyKey"] := by decide
  obtain ⟨read, hread, hextra, hsame⟩ := Json.structFields_snoc hfield hnew
  rw [← hsame _ (by decide)] at hid hnode hcommand hparams htimeout hkey
  have hread : structFields ["id", "nodeId", "command", "paramsJSON", "timeoutMs",
    "idempotencyKey", "sessionKey"] v = some read := hread
  have hparams := Json.nullable_of_optionalNonNull hparams
  have hsession : Json.nullable asString (read "sessionKey") = some none := by
    rw [hextra]
    rfl
  simp only [InvocationPayload.fromValue, hread, hid, hnode, hcommand, hparams, htimeout, hkey,
    hsession, Option.bind_eq_bind, Option.bind_some, pure]

/-- An accepted input frame is parsed when its text is short enough in bytes, and only then. -/
theorem parseInvocationInput_of_contract (describe : Value → String) {v : Value}
    {r : NodeInvokeInput} (h : decodeInput describe v = .ok r) :
    parseInvocationInput describe v =
      if (utf8 r.payloadJson).length ≤ maxInputFrameBytes then
        .ok (.invocationInput r.id r.nodeId r.seq r.payloadJson)
      else .error (.invalidFrame "node.invoke.input payloadJSON exceeds 16 KiB") := by
  obtain ⟨hvalue, hvalid⟩ := decodePayload_eq_ok.mp h
  simp only [NodeInvokeInput.validate, Except.bind_eq_ok, requireNonEmpty_eq_ok] at hvalid
  obtain ⟨-, hid, -, hnode, -⟩ := hvalid
  rw [parseInvocationInput, InputPayload.fromValue_of_contract hvalue]
  split
  · next hle =>
    simp [decoded, ensure, hle, requireNonEmptyResultField_eq hid,
      requireNonEmptyResultField_eq hnode, bind, Except.bind, pure, Except.pure]
  · next hlt => simp [decoded, ensure, hlt, bind, Except.bind]

/-- What the contract reads of an invocation, as the runtime reports it. -/
structure Wire.NodeInvokeRequest.Same (fromStr : String → Except String Value)
    (r : NodeInvokeRequest) (i : NodeInvocation) : Prop where
  id : i.id = r.id
  nodeId : i.nodeId = r.nodeId
  command : i.command = r.command
  timeoutMs : i.timeoutMs = r.timeoutMs
  idempotencyKey : i.idempotencyKey = r.idempotencyKey
  params : match r.paramsJson with
    | none => i.params = .null
    | some text => fromStr text = .ok i.params

theorem parseInvocation_of_contract (describe : Value → String)
    {fromStr : String → Except String Value} {v : Value} {r : NodeInvokeRequest}
    (h : decodeRequest describe v = .ok r)
    (hparams : ∀ text, r.paramsJson = some text → ∃ params, fromStr text = .ok params)
    (receivedAt : Nanos) :
    ∃ i, parseInvocation describe fromStr v receivedAt = .ok i ∧ r.Same fromStr i := by
  obtain ⟨hvalue, hvalid⟩ := decodePayload_eq_ok.mp h
  simp only [NodeInvokeRequest.validate, Except.bind_eq_ok, requireNonEmpty_eq_ok] at hvalid
  obtain ⟨-, hid, -, hnode, -, hcommand, hkey⟩ := hvalid
  have hkey : requireNonEmptyOptional "invocation idempotency key" r.idempotencyKey =
      .ok r.idempotencyKey := by
    cases hk : r.idempotencyKey with
    | none => rfl
    | some key =>
      rw [hk] at hkey
      rw [requireNonEmptyOptional, requireNonEmptyResultField_eq (requireNonEmpty_eq_ok.mp hkey)]
      rfl
  have hsession : requireNonEmptyOptional "invocation session key" none = .ok none := rfl
  obtain ⟨params, bytes, hdecode, hsame⟩ : ∃ params bytes,
      decodeParams fromStr r.paramsJson = .ok (params, bytes) ∧ (match r.paramsJson with
        | none => params = .null
        | some text => fromStr text = .ok params) := by
    cases hp : r.paramsJson with
    | none => exact ⟨_, _, rfl, rfl⟩
    | some text =>
      obtain ⟨params, hok⟩ := hparams text hp
      exact ⟨params, _, by rw [decodeParams, hok], hok⟩
  refine ⟨⟨r.id, r.nodeId, r.command, params, r.timeoutMs, r.idempotencyKey, none, bytes,
    some receivedAt⟩, ?_, rfl, rfl, rfl, rfl, rfl, hsame⟩
  simp [parseInvocation, decodeInvocation, InvocationPayload.fromValue_of_contract hvalue, decoded,
    hdecode, requireNonEmptyResultField_eq hid, requireNonEmptyResultField_eq hnode,
    requireNonEmptyResultField_eq hcommand, hkey, hsession, bind, Except.bind, pure, Except.pure]

/-- The runtime parses what the contract allows under this payload, to the same values. -/
structure AcceptsContract (describe : Value → String) (fromStr : String → Except String Value)
    (v : Value) (receivedAt : Nanos) : Prop where
  input : ∀ r, decodeInput describe v = .ok r →
    parseInvocationInput describe v = .ok (.invocationInput r.id r.nodeId r.seq r.payloadJson)
  request : ∀ r, decodeRequest describe v = .ok r →
    (∀ text, r.paramsJson = some text → ∃ params, fromStr text = .ok params) →
    ∃ i, parseInvocation describe fromStr v receivedAt = .ok i ∧ r.Same fromStr i

/-- The runtime accepts what the contract allows, except input of more than 16384 bytes: the
contract counts its characters. -/
theorem accepts_contract_iff (describe : Value → String) (fromStr : String → Except String Value)
    (v : Value) (receivedAt : Nanos) :
    AcceptsContract describe fromStr v receivedAt ↔
      ∀ r, decodeInput describe v = .ok r → (utf8 r.payloadJson).length ≤ 16384 := by
  constructor
  · intro h r hr
    have hparse := h.input r hr
    rw [parseInvocationInput_of_contract describe hr] at hparse
    split at hparse
    · next hle => exact hle
    · cases hparse
  · intro h
    constructor
    · intro r hr
      rw [parseInvocationInput_of_contract describe hr]
      exact if_pos (h r hr)
    · intro r hr hparams
      exact parseInvocation_of_contract describe hr hparams receivedAt

/-- Text of 8193 characters of two bytes each. -/
def longInput : Value :=
  .object [("id", .string "invoke-1"), ("nodeId", .string "node-1"),
    ("payloadJSON", .string (String.ofList (List.replicate 8193 'é'))),
    ("seq", .number (.posInt 0))]

theorem long_input_refused : ¬ ∀ (describe : Value → String)
    (fromStr : String → Except String Value) (v : Value) (receivedAt : Nanos),
    AcceptsContract describe fromStr v receivedAt := by
  intro h
  have hdecode : decodeInput (fun _ => "") longInput =
      .ok ⟨"invoke-1", "node-1", 0, String.ofList (List.replicate 8193 'é')⟩ := by
    have hlength : (String.ofList (List.replicate 8193 'é')).toList.length ≤ 16384 := by
      rw [String.toList_ofList, List.length_replicate]
      decide
    refine decodePayload_eq_ok.mpr ⟨rfl, ?_⟩
    simp only [NodeInvokeInput.validate, Except.bind_eq_ok, requireNonEmpty_eq_ok]
    exact ⟨(), by decide, (), by decide, Except.ensure_eq_ok.mpr hlength⟩
  have hbytes : (utf8 (String.ofList (List.replicate 8193 'é'))).length = 16386 := by
    have hsize : 'é'.utf8Size = 2 := by decide
    rw [Text.length_utf8_ofList, List.map_replicate, List.sum_replicate, hsize]
    rfl
  have hparse := (h (fun _ => "") (fun _ => .ok .null) longInput 0).input _ hdecode
  rw [parseInvocationInput_of_contract _ hdecode, if_neg (by rw [hbytes]; decide)] at hparse
  cases hparse

end OpenclawNode.Node
