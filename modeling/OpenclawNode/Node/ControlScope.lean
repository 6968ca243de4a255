import OpenclawNode.Node.RuntimeLoop

/-! Which control events of another node leave a session's invocations as they are. -/
namespace OpenclawNode.Node

variable {m : ActiveInvocations} {invokeId nodeId : String} {seq : UInt64} {payload : String}
  {event : NodeSessionEvent}

/-- A control event whose id is not tracked for its node. -/
def ActiveInvocations.Foreign (m : ActiveInvocations) : NodeSessionEvent → Prop
  | .invocationInput invokeId nodeId _ _ =>
    ∀ e, m.inner.lookup invokeId = some e → e.nodeId ≠ nodeId
  | .invocationCancelled invokeId nodeId =>
    ∀ e, m.inner.lookup invokeId = some e → e.nodeId ≠ nodeId
  | .invocation _ => False

/-- There is nothing left to cancel under an id: its token is cancelled and its input is closed. -/
def ActiveInvocations.Settled (m : ActiveInvocations) (invokeId : String) : Prop :=
  ∀ e, m.inner.lookup invokeId = some e →
    m.tokens[e.cancellation]? ≠ some false ∧
    ∀ address b, e.input = some address → m.buffers[address]? = some b → b.close = b

/-- The event is an input, or the cancel of an id that has nothing left to cancel. -/
def ActiveInvocations.Harmless (m : ActiveInvocations) : NodeSessionEvent → Prop
  | .invocationCancelled invokeId _ => m.Settled invokeId
  | _ => True

namespace ActiveInvocations

theorem cancelToken_eq_self {token : Token} :
    m.cancelToken token = m ↔ m.tokens[token]? ≠ some false := by
  constructor
  · intro h hlive
    have htokens := congrArg ActiveInvocations.tokens h
    obtain ⟨hlt, hfalse⟩ := List.getElem?_eq_some_iff.mp hlive
    have hset : (m.tokens.set token true)[token]? = some true := List.getElem?_set_self hlt
    rw [show m.tokens.set token true = m.tokens from htokens, hlive] at hset
    cases hset
  · intro h
    have htokens : m.tokens.set token true = m.tokens := by
      refine List.ext_getElem? fun i => ?_
      rw [List.getElem?_set]
      split
      · next hi =>
        subst hi
        split
        · next hlt =>
          rw [List.getElem?_eq_getElem hlt] at h ⊢
          cases hb : m.tokens[token] with
          | false => exact absurd (congrArg some hb) h
          | true => rfl
        · next hge => exact (List.getElem?_eq_none (by omega)).symm
      · rfl
    rw [cancelToken, htokens]

theorem closeInput_eq_self {input : Option Nat} :
    m.closeInput input = m ↔
      ∀ address b, input = some address → m.buffers[address]? = some b → b.close = b := by
  cases input with
  | none =>
    refine ⟨?_, fun _ => rfl⟩
    rintro - address b ⟨⟩
  | some address =>
    have hmodify : m.closeInput (some address) = m ↔
        m.buffers.modify address InputBuffer.close = m.buffers := by
      constructor
      · exact fun h => congrArg ActiveInvocations.buffers h
      · intro h
        rw [closeInput, h]
    rw [hmodify]
    constructor
    · intro h other b he hb
      cases he
      have hat := congrArg (·[address]?) h
      simp only [List.getElem?_modify_eq, hb] at hat
      exact Option.some.inj hat
    · intro h
      refine List.ext_getElem? fun i => ?_
      rw [List.getElem?_modify]
      cases hb : m.buffers[i]? with
      | none => rfl
      | some b =>
        by_cases hi : address = i
        · subst hi
          simp [h address b rfl hb]
        · simp [hi]

/-- A cancel leaves everything as it is when its id has nothing left to cancel. -/
theorem cancel_eq_self : m.cancel invokeId = m ↔ m.Settled invokeId := by
  rw [cancel, Settled]
  cases he : m.inner.lookup invokeId with
  | none =>
    refine ⟨?_, fun _ => rfl⟩
    rintro - e ⟨⟩
  | some e =>
    have hentry : (∀ e', some e = some e' → m.tokens[e'.cancellation]? ≠ some false ∧
        ∀ address b, e'.input = some address → m.buffers[address]? = some b → b.close = b) ↔
        m.cancelToken e.cancellation = m ∧ m.closeInput e.input = m := by
      rw [cancelToken_eq_self, closeInput_eq_self]
      exact ⟨fun h => h e rfl, fun h e' he' => by cases he'; exact h⟩
    rw [hentry]
    change (m.cancelToken e.cancellation).closeInput e.input = m ↔ _
    constructor
    · intro h
      have htoken : m.cancelToken e.cancellation = m := by
        have htokens := congrArg ActiveInvocations.tokens h
        rw [tokens_closeInput] at htokens
        rw [cancelToken]
        exact congrArg (fun tokens => { m with tokens := tokens }) htokens
      exact ⟨htoken, by rwa [htoken] at h⟩
    · rintro ⟨htoken, hinput⟩
      rw [htoken]
      exact hinput

/-- Input for another node is ignored. -/
theorem input_foreign (h : ∀ e, m.inner.lookup invokeId = some e → e.nodeId ≠ nodeId) :
    m.input invokeId nodeId seq payload = (.ignored, m) := by
  rw [input]
  cases he : m.inner.lookup invokeId with
  | none => rfl
  | some e => exact if_pos (h e he)

end ActiveInvocations

/-- A control event of another node changes nothing exactly when it is an input, or a cancel of an
id that has nothing left to cancel: a cancel does not look at its node. -/
theorem route_foreign_iff (m : ActiveInvocations) (event : NodeSessionEvent) (h : m.Foreign event) :
    routeInvocationControl m event = m ↔ m.Harmless event := by
  cases event with
  | invocation invocation => exact absurd h id
  | invocationInput invokeId nodeId seq payload =>
    rw [routeInvocationControl, ActiveInvocations.input_foreign h]
    exact ⟨fun _ => trivial, fun _ => rfl⟩
  | invocationCancelled invokeId nodeId => exact ActiveInvocations.cancel_eq_self

/-- One invocation, tracked for its node. -/
def trackedForNode : ActiveInvocations :=
  (ActiveInvocations.empty.newToken.2.track "invoke-1" "node-1" 0 true).2

theorem route_foreign_iff_input :
    routeInvocationControl trackedForNode (.invocationInput "invoke-1" "node-2" 0 "payload") =
      trackedForNode :=
  (route_foreign_iff trackedForNode (.invocationInput "invoke-1" "node-2" 0 "payload") (by
    intro e he
    cases he
    decide)).mpr trivial

/-- A cancel that names another node cancels the invocation. -/
theorem route_foreign_cancels :
    ¬ ∀ (m : ActiveInvocations) (event : NodeSessionEvent), m.Foreign event →
      routeInvocationControl m event = m := by
  intro h
  have hforeign : trackedForNode.Foreign (.invocationCancelled "invoke-1" "node-2") := by
    intro e he
    cases he
    decide
  have htokens := congrArg ActiveInvocations.tokens (h trackedForNode _ hforeign)
  exact absurd htokens (by decide)

end OpenclawNode.Node
