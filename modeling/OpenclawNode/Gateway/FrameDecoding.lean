import OpenclawNode.Base.Content
import OpenclawNode.Base.JsonRoundTrip
import OpenclawNode.Gateway.Session

/-! The two decoders of a text frame: that of the session task and that of an event's consumer. -/
namespace OpenclawNode.Gateway

open Json (Value asString asU64 nullable readText required)

/-- The values of a struct's fields, where an object may hold other members as well: none of the
fields may come twice. An array gives the fields in order, and may leave out the last ones. -/
def looseFields (names : List String) : Value → Option (String → Option Value)
  | .object members =>
    if ∀ name ∈ names, (members.filter (·.1 = name)).length ≤ 1 then
      some fun name => (members.find? (·.1 = name)).map Prod.snd
    else none
  | .array values =>
    if values.length ≤ names.length then some fun name => values[names.idxOf name]? else none
  | _ => none

/-- A field that may be left out. -/
def orDefault {α : Type} (default : α) (decode : Value → Option α) : Option Value → Option α
  | none => some default
  | some v => decode v

def asBool : Value → Option Bool
  | .bool b => some b
  | _ => none

/-- Any value, with each name of its objects once. -/
def asValue (v : Value) : Option Value := some v.normal

def GatewayErrorShape.decode (v : Value) : Option GatewayErrorShape := do
  let field ← looseFields ["code", "message", "details", "retryable", "retryAfterMs"] v
  let code ← orDefault "" asString (field "code")
  let message ← orDefault "" asString (field "message")
  let details ← nullable asValue (field "details")
  let retryable ← nullable asBool (field "retryable")
  let retryAfterMs ← nullable asU64 (field "retryAfterMs")
  return ⟨code, message, details, retryable, retryAfterMs⟩

inductive IncomingFrame
  | event (event : String) (payload : Value)
  | response (id : String) (ok : Bool) (payload : Value) (error : Option GatewayErrorShape)

/-- A frame by its tag. What is left beside the tag is decoded as its variant. -/
def IncomingFrame.decode (v : Value) : Option IncomingFrame := do
  let (tag, content) ← Json.splitTag "type" v
  let tag ← asString tag
  if tag = "event" then do
    let field ← looseFields ["event", "payload"] content
    let event ← required asString (field "event")
    let payload ← orDefault .null asValue (field "payload")
    return .event event payload
  else if tag = "res" then do
    let field ← looseFields ["id", "ok", "payload", "error"] content
    let id ← required asString (field "id")
    let ok ← required asBool (field "ok")
    let payload ← orDefault .null asValue (field "payload")
    let error ← nullable GatewayErrorShape.decode (field "error")
    return .response id ok payload error
  else none

structure Event where
  event : String
  payload : Value
  seq : Option UInt64

def Event.decode (v : Value) : Option Event := do
  let field ← looseFields ["event", "payload", "seq"] v
  let event ← required asString (field "event")
  let payload ← orDefault .null asValue (field "payload")
  let seq ← nullable asU64 (field "seq")
  return ⟨event, payload, seq⟩

variable (readDouble : List Char → Option Json.Double)

/-- What the session task makes of a text. -/
def readIncoming (text : String) : Option IncomingFrame :=
  (readText readDouble text).bind IncomingFrame.decode

/-- What a consumer makes of a frame that was published. A frame that is published is read as a
whole, so that skipping a member here reads no less of it. -/
def parseRetainedEvent (describe : String → String) (text : String) : Except String Event :=
  ((readText readDouble text).bind Event.decode).elim (.error (describe text)) .ok

/-- The frame is an object whose `seq`, if any, comes once and is null or an unsigned integer. -/
def SequencedObject (v : Value) : Prop :=
  ∃ members, v = .object members ∧ (members.filter (·.1 = "seq")).length ≤ 1 ∧
    ∀ seq, ("seq", seq) ∈ members → seq = .null ∨ asU64 seq ≠ none

variable {readDouble} {v : Value} {event : String} {payload : Value}
  {members : List (String × Value)} {field : String → Option Value}

theorem asString_eq_some {s : String} : asString v = some s ↔ v = .string s := by
  cases v <;> simp [asString]

/-- What the session task takes for an event. -/
theorem IncomingFrame.decode_event :
    IncomingFrame.decode v = some (.event event payload) ↔ ∃ content field,
      Json.splitTag "type" v = some (.string "event", content) ∧
      looseFields ["event", "payload"] content = some field ∧
      required asString (field "event") = some event ∧
      orDefault .null asValue (field "payload") = some payload := by
  constructor
  · intro h
    obtain ⟨⟨tag, content⟩, hsplit, hvariant⟩ := Option.bind_eq_some_iff.mp h
    obtain ⟨name, htag, hnamed⟩ := Option.bind_eq_some_iff.mp hvariant
    obtain rfl := asString_eq_some.mp htag
    split at hnamed
    · next hname =>
      subst hname
      obtain ⟨field, hfield, hrest⟩ := Option.bind_eq_some_iff.mp hnamed
      obtain ⟨name, hevent, hrest'⟩ := Option.bind_eq_some_iff.mp hrest
      obtain ⟨value, hpayload, hframe⟩ := Option.bind_eq_some_iff.mp hrest'
      cases hframe
      exact ⟨content, field, hsplit, hfield, hevent, hpayload⟩
    · split at hnamed
      · obtain ⟨_, _, hid⟩ := Option.bind_eq_some_iff.mp hnamed
        obtain ⟨_, _, hok⟩ := Option.bind_eq_some_iff.mp hid
        obtain ⟨_, _, hpayload⟩ := Option.bind_eq_some_iff.mp hok
        obtain ⟨_, _, herror⟩ := Option.bind_eq_some_iff.mp hpayload
        obtain ⟨_, _, hframe⟩ := Option.bind_eq_some_iff.mp herror
        cases hframe
      · cases hnamed
  · rintro ⟨content, field, hsplit, hfield, hevent, hpayload⟩
    simp [IncomingFrame.decode, hsplit, asString, hfield, hevent, hpayload]

/-- What a consumer takes for an event. -/
theorem Event.decode_eq_some {e : Event} : Event.decode v = some e ↔ ∃ field,
    looseFields ["event", "payload", "seq"] v = some field ∧
      required asString (field "event") = some e.event ∧
      orDefault .null asValue (field "payload") = some e.payload ∧
      nullable asU64 (field "seq") = some e.seq := by
  constructor
  · intro h
    obtain ⟨field, hfield, h⟩ := Option.bind_eq_some_iff.mp h
    obtain ⟨event, hevent, h⟩ := Option.bind_eq_some_iff.mp h
    obtain ⟨payload, hpayload, h⟩ := Option.bind_eq_some_iff.mp h
    obtain ⟨seq, hseq, h⟩ := Option.bind_eq_some_iff.mp h
    cases h
    exact ⟨field, hfield, hevent, hpayload, hseq⟩
  · rintro ⟨field, hfield, hevent, hpayload, hseq⟩
    simp [Event.decode, hfield, hevent, hpayload, hseq]

theorem looseFields_object {names : List String} :
    looseFields names (.object members) = some field ↔
      (∀ name ∈ names, (members.filter (·.1 = name)).length ≤ 1) ∧
        field = fun name => (members.find? (·.1 = name)).map Prod.snd := by
  rw [looseFields]
  split
  · next h => exact ⟨fun he => ⟨h, (Option.some.inj he).symm⟩, fun he => by rw [he.2]⟩
  · next h => exact ⟨fun he => absurd he (Option.some_ne_none _).symm, fun he => absurd he.1 h⟩

/-- The members that are left beside the tag are found by their names as before. -/
theorem find_beside_tag {name : String} (hname : name ≠ "type") :
    (members.filter (·.1 ≠ "type")).find? (·.1 = name) = members.find? (·.1 = name) ∧
      (members.filter (·.1 ≠ "type")).filter (·.1 = name) = members.filter (·.1 = name) := by
  constructor
  · rw [List.find?_filter]
    refine congrArg (members.find? ·) (funext fun m => ?_)
    by_cases h : m.1 = name <;> simp [h, hname]
  · rw [List.filter_filter]
    refine congrArg (members.filter ·) (funext fun m => ?_)
    by_cases h : m.1 = name <;> simp [h, hname]

theorem nullable_of_ne_null {α : Type} {decode : Value → Option α} (h : v ≠ .null) :
    nullable decode (some v) = (decode v).map some := by
  cases v with
  | null => exact absurd rfl h
  | bool _ | number _ | string _ | array _ | object _ => rfl

/-- A member that comes at most once is read exactly when each value of it can be. -/
theorem nullable_isSome {name : String} (hcount : (members.filter (·.1 = name)).length ≤ 1) :
    (∃ seq, nullable asU64 ((members.find? (·.1 = name)).map Prod.snd) = some seq) ↔
      ∀ value, (name, value) ∈ members → value = .null ∨ asU64 value ≠ none := by
  have hall : ∀ value, (name, value) ∈ members →
      (members.find? (·.1 = name)).map Prod.snd = some value := by
    intro value hmem
    have hfiltered : (name, value) ∈ members.filter (·.1 = name) :=
      List.mem_filter.mpr ⟨hmem, decide_eq_true rfl⟩
    obtain ⟨m, hm⟩ := List.length_eq_one_iff.mp
      (Nat.le_antisymm hcount (List.length_pos_of_mem hfiltered))
    rw [← List.head?_filter, hm]
    rw [hm, List.mem_singleton] at hfiltered
    rw [← hfiltered]
    rfl
  constructor
  · rintro ⟨seq, hseq⟩ value hmem
    by_cases hnull : value = .null
    · exact .inl hnull
    · refine .inr fun hnone => ?_
      rw [hall value hmem, nullable_of_ne_null hnull, hnone] at hseq
      cases hseq
  · intro h
    cases hfind : members.find? (·.1 = name) with
    | none => exact ⟨none, rfl⟩
    | some m =>
      obtain ⟨other, value⟩ := m
      have hother : other = name := by simpa using List.find?_some hfind
      subst hother
      by_cases hnull : value = .null
      · subst hnull
        exact ⟨none, rfl⟩
      · obtain ⟨n, hn⟩ := Option.ne_none_iff_exists'.mp
          ((h value (List.mem_of_find?_eq_some hfind)).resolve_left hnull)
        exact ⟨some n, by rw [Option.map_some, nullable_of_ne_null hnull, hn]; rfl⟩

/-- An object that is taken for an event is the same event to a consumer, whenever it can read the
sequence number. -/
theorem decode_object_agrees
    (h : IncomingFrame.decode (.object members) = some (.event event payload)) :
    (∃ e, Event.decode (.object members) = some e ∧ e.event = event ∧ e.payload = payload) ↔
      (members.filter (·.1 = "seq")).length ≤ 1 ∧
        ∀ seq, ("seq", seq) ∈ members → seq = .null ∨ asU64 seq ≠ none := by
  obtain ⟨content, field, hsplit, hfield, hevent, hpayload⟩ := IncomingFrame.decode_event.mp h
  have hcontent : content = .object (members.filter (·.1 ≠ "type")) := by
    rw [Json.splitTag] at hsplit
    split at hsplit
    · cases hsplit
      rfl
    · cases hsplit
  subst hcontent
  obtain ⟨hcounts, rfl⟩ := looseFields_object.mp hfield
  have hname : ∀ name ∈ ["event", "payload"], name ≠ "type" := by decide
  have hfind : ∀ name ∈ ["event", "payload"],
      (members.filter (·.1 ≠ "type")).find? (·.1 = name) = members.find? (·.1 = name) :=
    fun name hmem => (find_beside_tag (hname name hmem)).1
  have hcount : ∀ name ∈ ["event", "payload"], (members.filter (·.1 = name)).length ≤ 1 := by
    intro name hmem
    rw [← (find_beside_tag (hname name hmem)).2]
    exact hcounts name hmem
  dsimp only at hevent hpayload
  rw [hfind "event" (by simp)] at hevent
  rw [hfind "payload" (by simp)] at hpayload
  constructor
  · rintro ⟨e, he, _, _⟩
    obtain ⟨field, hfields, _, _, hseq⟩ := Event.decode_eq_some.mp he
    obtain ⟨hall, rfl⟩ := looseFields_object.mp hfields
    have hseqs := hall "seq" (by simp)
    exact ⟨hseqs, (nullable_isSome hseqs).mp ⟨_, hseq⟩⟩
  · rintro ⟨hseqs, hread⟩
    obtain ⟨seq, hseq⟩ := (nullable_isSome hseqs).mpr hread
    refine ⟨⟨event, payload, seq⟩, Event.decode_eq_some.mpr ⟨_, looseFields_object.mpr
      ⟨fun name hmem => ?_, rfl⟩, hevent, hpayload, hseq⟩, rfl, rfl⟩
    simp only [List.mem_cons, List.not_mem_nil, or_false] at hmem
    obtain rfl | rfl | rfl := hmem
    · exact hcount _ (by simp)
    · exact hcount _ (by simp)
    · exact hseqs

theorem normal_eq_string {s : String} (h : v.normal = .string s) : v = .string s := by
  cases v <;> first | exact h | cases h

/-- An array that is taken for an event is another event to a consumer, which takes its tag for the
name, or none. -/
theorem decode_array_disagrees {values : List Value}
    (h : IncomingFrame.decode (.array values) = some (.event event payload)) :
    ¬ ∃ e, Event.decode (.array values) = some e ∧ e.event = event ∧ e.payload = payload := by
  rintro ⟨e, he, rfl, rfl⟩
  obtain ⟨content, field, hsplit, hfield, hevent, hpayload⟩ := IncomingFrame.decode_event.mp h
  obtain ⟨field', hfield', _, hpayload', hseq⟩ := Event.decode_eq_some.mp he
  cases values with
  | nil => cases hsplit
  | cons tag rest =>
    cases hsplit
    rw [looseFields] at hfield hfield'
    split at hfield
    · split at hfield'
      · cases hfield
        cases hfield'
        -- What is the name to one is the payload to the other, and its payload their number.
        have hname : rest[0]? = some (.string e.event) := by
          obtain ⟨name, hat, hname⟩ := Option.bind_eq_some_iff.mp hevent
          rw [← asString_eq_some.mp hname]
          exact hat
        have hsame : e.payload = .string e.event := by
          change orDefault .null asValue rest[0]? = some e.payload at hpayload'
          rw [hname] at hpayload'
          exact (Option.some.inj hpayload').symm
        change orDefault .null asValue rest[1]? = some e.payload at hpayload
        change nullable asU64 rest[1]? = some e.seq at hseq
        cases hnext : rest[1]? with
        | none =>
          rw [hnext, hsame] at hpayload
          cases hpayload
        | some v =>
          rw [hnext, hsame] at hpayload
          rw [hnext, normal_eq_string (Option.some.inj hpayload)] at hseq
          cases hseq
      · cases hfield'
    · cases hfield

/-- Every text that the session task takes for an event is the same event to a consumer exactly
when it is an object whose sequence number can be read. -/
theorem decoders_agree_iff (readDouble : List Char → Option Json.Double)
    (describe : String → String) (text event : String) (payload : Value)
    (h : readIncoming readDouble text = some (.event event payload)) :
    (∃ e, parseRetainedEvent readDouble describe text = .ok e ∧ e.event = event ∧
        e.payload = payload) ↔
      ∃ v, readText readDouble text = some v ∧ SequencedObject v := by
  obtain ⟨v, hv, hdecode⟩ := Option.bind_eq_some_iff.mp h
  have hparse : ∀ e, parseRetainedEvent readDouble describe text = .ok e ↔
      Event.decode v = some e := by
    intro e
    rw [parseRetainedEvent, hv, Option.bind_some]
    cases Event.decode v <;> simp
  simp only [hparse, hv, Option.some.injEq, exists_eq_left']
  cases v with
  | object members =>
    rw [decode_object_agrees hdecode]
    constructor
    · rintro ⟨hcount, hseq⟩
      exact ⟨members, rfl, hcount, hseq⟩
    · rintro ⟨_, hobject, hcount, hseq⟩
      cases hobject
      exact ⟨hcount, hseq⟩
  | array values =>
    refine ⟨fun hagree => absurd hagree (decode_array_disagrees hdecode), ?_⟩
    rintro ⟨_, hobject, _⟩
    cases hobject
  | null | bool _ | number _ | string _ =>
    obtain ⟨_, _, hsplit, _⟩ := IncomingFrame.decode_event.mp hdecode
    cases hsplit

/-- A tick with a sequence number. -/
def tick (seq : Json.Number) : Value :=
  .object [("type", .string "event"), ("event", .string "tick"), ("seq", .number seq)]

def tickText (seq : Json.Number) : String := String.ofList ((tick seq).text fun _ => "")

theorem readText_tick {seq : Json.Number} (h : seq.Exact) :
    readText (fun _ => none) (tickText seq) = some (tick seq) := by
  have hforall : (tick seq).Forall Json.Number.Exact (fun _ => True) := by
    simp [tick, Json.Value.Forall, Json.ForallMembers, h]
  have hdepth : (tick seq).depth ≤ Json.recursionLimit := by
    simp [tick, Json.Value.depth, Json.depthMembers, Json.recursionLimit]
  rw [tickText, Json.readText_text hforall, if_pos hdepth]

theorem readIncoming_tick {seq : Json.Number} (h : seq.Exact) :
    readIncoming (fun _ => none) (tickText seq) = some (.event "tick" .null) := by
  rw [readIncoming, readText_tick h]
  rfl

theorem decoders_agree_iff_tick :
    ∃ e, parseRetainedEvent (fun _ => none) id (tickText (.posInt 5)) = .ok e ∧
      e.event = "tick" ∧ e.payload = .null := by
  refine (decoders_agree_iff (fun _ => none) id (tickText (.posInt 5)) "tick" .null
    (readIncoming_tick trivial)).mpr ⟨_, readText_tick trivial, _, rfl, by decide, ?_⟩
  intro seq hseq
  obtain ⟨-, rfl⟩ : "seq" = "seq" ∧ seq = .number (.posInt 5) := by simpa using hseq
  exact .inr (Option.some_ne_none 5)

/-- A negative sequence number is no matter to the session task and an error to a consumer. -/
theorem decoders_disagree :
    ¬ ∀ (readDouble : List Char → Option Json.Double) (describe : String → String)
      (text event : String) (payload : Value),
      readIncoming readDouble text = some (.event event payload) →
      ∃ e, parseRetainedEvent readDouble describe text = .ok e ∧ e.event = event ∧
        e.payload = payload := by
  intro h
  have htext : tickText (.negInt (-1)) =
      "\x7b\"type\":\"event\",\"event\":\"tick\",\"seq\":-1\x7d" := by decide +kernel
  have hexact : (Json.Number.negInt (-1)).Exact := by
    rw [Json.Number.Exact]
    decide
  obtain ⟨e, he, _⟩ := h (fun _ => none) id _ "tick" .null (htext ▸ readIncoming_tick hexact)
  rw [← htext, parseRetainedEvent, readText_tick hexact] at he
  cases he

end OpenclawNode.Gateway
