import OpenclawNode.Sidecar.MessageDecoding

/-! What the texts hold that are read as sidecar messages, and what they may not. -/
namespace OpenclawNode.Sidecar

open Json (Value asArrayOf asList exactFields required required_eq_some splitTag)

section

variable (arrays extra : Bool)

/-- Only these fields, whatever they hold. -/
def Declared (names : List String) (v : Value) : Prop :=
  Json.WrittenAs arrays names (fun _ _ => True) v

/-- Only these fields, of which this one is as it should be. -/
def DeclaredWith (names : List String) (name : String) (P : Value → Prop) (v : Value) : Prop :=
  Json.WrittenAs arrays names (fun other value => other = name → P value) v

def SidecarRuntimeConfiguration.Written (v : Value) : Prop :=
  DeclaredWith arrays fields "commands"
    (asArrayOf (Declared arrays SidecarCommandRegistration.fields)) v

/-- Only the tag and the fields of its variant; an allow decision may hold other members too, where
they are passed over. -/
def SidecarAdmissionDecision.Written (v : Value) : SidecarAdmissionDecision → Prop
  | .allow => (extra = true ∧ ∃ members, v = .object members) ∨ Declared arrays ["outcome"] v
  | .deny _ _ => Declared arrays ("outcome" :: denyFields) v

def SidecarInvocationResult.Written (v : Value) : SidecarInvocationResult → Prop
  | .success _ => Declared arrays ("outcome" :: successFields) v
  | .failure _ _ => Declared arrays ("outcome" :: failureFields) v

/-- The message and everything in it is written with its declared fields and no others. -/
def SidecarRuntimeMessage.Written (v : Value) : SidecarRuntimeMessage → Prop
  | .configure _ => DeclaredWith arrays ["type", "configuration"] "configuration"
    (SidecarRuntimeConfiguration.Written arrays) v
  | .configured _ => DeclaredWith arrays ["type", "manifest"] "manifest"
    (Declared arrays SidecarRuntimeManifest.fields) v
  | .admissionRequest _ => DeclaredWith arrays ["type", "invocation"] "invocation"
    (Declared arrays SidecarInvocation.fields) v
  | .admissionDecision _ decision => DeclaredWith arrays ["type", "invocationId", "decision"]
    "decision" (decision.Written arrays extra) v
  | .invoke _ => DeclaredWith arrays ["type", "invocation"] "invocation"
    (Declared arrays SidecarInvocation.fields) v
  | .result _ outcome => DeclaredWith arrays ["type", "invocationId", "result"] "result"
    (outcome.Written arrays) v
  | .cancel _ => Declared arrays ["type", "invocationId"] v
  | .status _ => DeclaredWith arrays ["type", "status"] "status"
    (Declared arrays SidecarRuntimeStatus.fields) v

end

variable {names : List String} {v content value : Value} {field : String → Option Value}

theorem declared_of_exactFields (hn : names.Nodup) (h : exactFields names v = some field) :
    Declared true names v :=
  Json.writtenAs_of_exactFields hn h fun _ _ _ _ => trivial

theorem declaredWith_of_exactFields (hn : names.Nodup) {name : String} {P : Value → Prop}
    (h : exactFields names v = some field) (hp : ∀ value, field name = some value → P value) :
    DeclaredWith true names name P v := by
  refine Json.writtenAs_of_exactFields hn h ?_
  rintro _ - value hf rfl
  exact hp value hf

/-- A variant is declared with its tag. -/
theorem declared_of_splitTag {tag : String} (h : splitTag tag v = some (value, content))
    (hc : Declared true names content) : Declared true (tag :: names) v :=
  Json.writtenAs_of_splitTag h hc fun _ => trivial

theorem declaredWith_of_splitTag {tag name : String} (hne : tag ≠ name) {P : Value → Prop}
    (h : splitTag tag v = some (value, content)) (hc : DeclaredWith true names name P content) :
    DeclaredWith true (tag :: names) name P v :=
  Json.writtenAs_of_splitTag h hc fun _ he => absurd he hne

theorem SidecarCommandRegistration.declared {c : SidecarCommandRegistration}
    (h : fromContent v = some c) : Declared true fields v := by
  simp only [fromContent, Option.bind_eq_bind, Option.bind_eq_some_iff] at h
  obtain ⟨field, hfield, -⟩ := h
  exact declared_of_exactFields (by decide) hfield

theorem SidecarRuntimeConfiguration.written {c : SidecarRuntimeConfiguration}
    (h : fromContent v = some c) : Written true v := by
  simp only [fromContent, Option.bind_eq_bind, Option.bind_eq_some_iff, required_eq_some] at h
  obtain ⟨field, hfield, -, -, -, -, commands, ⟨value, hvalue, hcommands⟩, -⟩ := h
  refine declaredWith_of_exactFields (by decide) hfield fun value' hvalue' => ?_
  cases hvalue.symm.trans hvalue'
  refine (Json.asArrayOf_of_asList hcommands).imp ?_
  rintro v ⟨c, hc⟩
  exact SidecarCommandRegistration.declared hc

theorem SidecarRuntimeManifest.declared {m : SidecarRuntimeManifest} (h : fromContent v = some m) :
    Declared true fields v := by
  simp only [fromContent, Option.bind_eq_bind, Option.bind_eq_some_iff] at h
  obtain ⟨field, hfield, -⟩ := h
  exact declared_of_exactFields (by decide) hfield

theorem SidecarInvocation.declared {i : SidecarInvocation} (h : fromContent v = some i) :
    Declared true fields v := by
  simp only [fromContent, Option.bind_eq_bind, Option.bind_eq_some_iff] at h
  obtain ⟨field, hfield, -⟩ := h
  exact declared_of_exactFields (by decide) hfield

theorem SidecarRuntimeStatus.declared {s : SidecarRuntimeStatus} (h : fromContent v = some s) :
    Declared true fields v := by
  simp only [fromContent, Option.bind_eq_bind, Option.bind_eq_some_iff] at h
  obtain ⟨field, hfield, -⟩ := h
  exact declared_of_exactFields (by decide) hfield

/-- Only an object leaves an object beside its tag. -/
theorem object_of_splitTag {tag : String} {members : List (String × Value)}
    (h : splitTag tag v = some (value, .object members)) : ∃ all, v = .object all := by
  cases v with
  | object all => exact ⟨all, rfl⟩
  | array values => cases values <;> cases h
  | null | bool _ | number _ | string _ => cases h

theorem SidecarAdmissionDecision.written {d : SidecarAdmissionDecision}
    (h : fromContent v = some d) : d.Written true true v := by
  simp only [fromContent, Option.bind_eq_bind, Option.bind_eq_some_iff, Prod.exists] at h
  obtain ⟨outcome, content, hsplit, variant, -, h⟩ := h
  split at h
  · simp only [Option.bind_eq_some_iff] at h
    obtain ⟨_, hcontent, hd⟩ := h
    cases hd
    unfold allowContent at hcontent
    split at hcontent
    · exact Or.inl ⟨rfl, object_of_splitTag hsplit⟩
    · exact Or.inr (declared_of_splitTag hsplit ⟨rfl, rfl, fun _ _ _ hi => by simp at hi⟩)
    · cases hcontent
  · simp only [Option.bind_eq_some_iff] at h
    obtain ⟨field, hfield, _, -, _, -, hd⟩ := h
    cases hd
    exact declared_of_splitTag hsplit (declared_of_exactFields (by decide) hfield)

theorem SidecarInvocationResult.written {r : SidecarInvocationResult}
    (h : fromContent v = some r) : r.Written true v := by
  simp only [fromContent, Option.bind_eq_bind, Option.bind_eq_some_iff, Prod.exists] at h
  obtain ⟨outcome, content, hsplit, variant, -, h⟩ := h
  split at h
  · simp only [Option.bind_eq_some_iff] at h
    obtain ⟨field, hfield, _, -, hr⟩ := h
    cases hr
    exact declared_of_splitTag hsplit (declared_of_exactFields (by decide) hfield)
  · simp only [Option.bind_eq_some_iff] at h
    obtain ⟨field, hfield, _, -, _, -, hr⟩ := h
    cases hr
    exact declared_of_splitTag hsplit (declared_of_exactFields (by decide) hfield)

/-- A component that a field is decoded to makes what the field holds be as it should be. -/
theorem declaredWith_of_required {α : Type} (hn : names.Nodup) {name : String} {P : Value → Prop}
    {decode : Value → Option α} {a : α} (h : exactFields names content = some field)
    (hd : required decode (field name) = some a) (hp : ∀ value, decode value = some a → P value)
    (hs : splitTag "type" v = some (value, content)) (hne : "type" ≠ name) :
    DeclaredWith true ("type" :: names) name P v := by
  refine declaredWith_of_splitTag hne hs (declaredWith_of_exactFields hn h fun value' hv => ?_)
  obtain ⟨found, hfound, ha⟩ := required_eq_some.mp hd
  cases hfound.symm.trans hv
  exact hp _ ha

theorem SidecarRuntimeMessage.written {m : SidecarRuntimeMessage} (h : fromContent v = some m) :
    m.Written true true v := by
  simp only [fromContent, Option.bind_eq_bind, Option.bind_eq_some_iff, Prod.exists] at h
  obtain ⟨tag, content, hsplit, kind, -, field, hfield, h⟩ := h
  unfold fromFields at h
  split at h
  · simp only [Option.bind_eq_bind, Option.bind_eq_some_iff] at h
    obtain ⟨c, hc, hm⟩ := h
    cases hm
    exact declaredWith_of_required (by decide) hfield hc
      (fun _ => SidecarRuntimeConfiguration.written) hsplit (by decide)
  · simp only [Option.bind_eq_bind, Option.bind_eq_some_iff] at h
    obtain ⟨c, hc, hm⟩ := h
    cases hm
    exact declaredWith_of_required (by decide) hfield hc
      (fun _ => SidecarRuntimeManifest.declared) hsplit (by decide)
  · simp only [Option.bind_eq_bind, Option.bind_eq_some_iff] at h
    obtain ⟨c, hc, hm⟩ := h
    cases hm
    exact declaredWith_of_required (by decide) hfield hc
      (fun _ => SidecarInvocation.declared) hsplit (by decide)
  · simp only [Option.bind_eq_bind, Option.bind_eq_some_iff] at h
    obtain ⟨_, -, d, hd, hm⟩ := h
    cases hm
    exact declaredWith_of_required (by decide) hfield hd
      (fun _ => SidecarAdmissionDecision.written) hsplit (by decide)
  · simp only [Option.bind_eq_bind, Option.bind_eq_some_iff] at h
    obtain ⟨c, hc, hm⟩ := h
    cases hm
    exact declaredWith_of_required (by decide) hfield hc
      (fun _ => SidecarInvocation.declared) hsplit (by decide)
  · simp only [Option.bind_eq_bind, Option.bind_eq_some_iff] at h
    obtain ⟨_, -, r, hr, hm⟩ := h
    cases hm
    exact declaredWith_of_required (by decide) hfield hr
      (fun _ => SidecarInvocationResult.written) hsplit (by decide)
  · simp only [Option.bind_eq_bind, Option.bind_eq_some_iff] at h
    obtain ⟨_, -, hm⟩ := h
    cases hm
    exact declared_of_splitTag hsplit (declared_of_exactFields (by decide) hfield)
  · simp only [Option.bind_eq_bind, Option.bind_eq_some_iff] at h
    obtain ⟨c, hc, hm⟩ := h
    cases hm
    exact declaredWith_of_required (by decide) hfield hc
      (fun _ => SidecarRuntimeStatus.declared) hsplit (by decide)
  · cases h

/-- Whatever text is read as a message is written with the declared fields of the message and of
everything in it and with no others, by name or by position, but for what an allow decision holds
beside its outcome. -/
theorem decoded_message_written (readDouble : List Char → Option Json.Double) (text : String)
    (message : SidecarRuntimeMessage)
    (h : SidecarRuntimeMessage.fromStr readDouble text = some message) :
    ∃ v, Json.readText readDouble text = some v ∧ message.Written true true v := by
  obtain ⟨v, hread, hv⟩ := Option.bind_eq_some_iff.mp h
  exact ⟨v, hread, SidecarRuntimeMessage.written hv⟩

def noDoubles (_ : List Char) : Option Json.Double := none

def plainCancel : String := "\x7b\"type\":\"cancel\",\"invocationId\":\"invoke-1\"\x7d"

/-- A cancellation as it is usually written. -/
theorem plain_cancel_written : ∃ message v,
    SidecarRuntimeMessage.fromStr noDoubles plainCancel = some message ∧
    Json.readText noDoubles plainCancel = some v ∧ message.Written true true v := by
  obtain ⟨message, hmessage⟩ := Option.isSome_iff_exists.mp
    (show (SidecarRuntimeMessage.fromStr noDoubles plainCancel).isSome = true by decide +kernel)
  obtain ⟨v, hread, hwritten⟩ := decoded_message_written noDoubles plainCancel message hmessage
  exact ⟨message, v, hmessage, hread, hwritten⟩

def positionalCancel : String := "[\"cancel\",\"invoke-1\"]"

def foreignAllow : String :=
  "\x7b\"type\":\"admission-decision\",\"invocationId\":\"invoke-1\",\"decision\":" ++
    "\x7b\"outcome\":\"allow\",\"code\":\"LOCAL_DENY\"\x7d\x7d"

/-- An array is not written as an object. -/
theorem not_declared_array {values : List Value} :
    ¬ Declared false names (.array values) := fun h => nomatch h.1

def isCancel : Option SidecarRuntimeMessage → Bool
  | some (.cancel _) => true
  | _ => false

def isAllow : Option SidecarRuntimeMessage → Bool
  | some (.admissionDecision _ .allow) => true
  | _ => false

def isArray : Option Value → Bool
  | some (.array _) => true
  | _ => false

/-- An object whose third member is a decision whose second member is a code. -/
def isCodedDecision : Option Value → Bool
  | some (.object [_, _, (name, .object [_, (code, _)])]) =>
    name == "decision" && code == "code"
  | _ => false

theorem exists_of_isCancel {found : Option SidecarRuntimeMessage} (h : isCancel found = true) :
    ∃ id, found = some (.cancel id) := by
  unfold isCancel at h
  split at h
  · exact ⟨_, rfl⟩
  · cases h

theorem exists_of_isAllow {found : Option SidecarRuntimeMessage} (h : isAllow found = true) :
    ∃ id, found = some (.admissionDecision id .allow) := by
  unfold isAllow at h
  split at h
  · exact ⟨_, rfl⟩
  · cases h

theorem exists_of_isArray {v : Value} (h : isArray (some v) = true) :
    ∃ values, v = .array values := by
  cases v with
  | array values => exact ⟨values, rfl⟩
  | null | bool _ | number _ | string _ | object _ => cases h

theorem exists_of_isCodedDecision {v : Value} (h : isCodedDecision (some v) = true) :
    ∃ first second outcome code,
      v = .object [first, second, ("decision", .object [outcome, ("code", code)])] := by
  unfold isCodedDecision at h
  split at h
  · next he =>
    cases he
    obtain ⟨hname, hcode⟩ := Bool.and_eq_true_iff.mp h
    cases eq_of_beq hname
    cases eq_of_beq hcode
    exact ⟨_, _, _, _, rfl⟩
  · cases h

/-- A message is read from an array, and an allow decision with a field that is not its own. -/
theorem undeclared_messages_read :
    (∃ message, SidecarRuntimeMessage.fromStr noDoubles positionalCancel = some message ∧
      ∀ v, Json.readText noDoubles positionalCancel = some v → ¬ message.Written false true v) ∧
    (∃ message, SidecarRuntimeMessage.fromStr noDoubles foreignAllow = some message ∧
      ∀ v, Json.readText noDoubles foreignAllow = some v → ¬ message.Written true false v) := by
  constructor
  · have hcancel : isCancel (SidecarRuntimeMessage.fromStr noDoubles positionalCancel) = true := by
      decide +kernel
    have harray : isArray (Json.readText noDoubles positionalCancel) = true := by decide +kernel
    obtain ⟨id, hid⟩ := exists_of_isCancel hcancel
    refine ⟨_, hid, fun v hread => ?_⟩
    rw [hread] at harray
    obtain ⟨values, rfl⟩ := exists_of_isArray harray
    exact not_declared_array
  · have hallow : isAllow (SidecarRuntimeMessage.fromStr noDoubles foreignAllow) = true := by
      decide +kernel
    have hcoded : isCodedDecision (Json.readText noDoubles foreignAllow) = true := by
      decide +kernel
    obtain ⟨id, hid⟩ := exists_of_isAllow hallow
    refine ⟨_, hid, fun v hread => ?_⟩
    rw [hread] at hcoded
    obtain ⟨first, second, outcome, code, rfl⟩ := exists_of_isCodedDecision hcoded
    rintro ⟨-, hfields⟩
    obtain ⟨-, hdecision⟩ := hfields _
      (List.mem_cons_of_mem _ (List.mem_cons_of_mem _ List.mem_cons_self))
    rcases hdecision rfl with ⟨he, -⟩ | ⟨-, hfields⟩
    · cases he
    · obtain ⟨hname, -⟩ := hfields _ (List.mem_cons_of_mem _ List.mem_cons_self)
      exact absurd hname (by simp)

end OpenclawNode.Sidecar
