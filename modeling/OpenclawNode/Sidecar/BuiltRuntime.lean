import OpenclawNode.Sidecar.ConfigurationFacts

/-! The command runtime built from a valid configuration, and the limits it enforces. -/
namespace OpenclawNode.Sidecar

open Node (CommandRuntimeBuilder Registration RegisteredHandler fromMillis isReserved
  nonzeroDuration_fromMillis)
open Text (trim isWhitespace)

/-- A name that trimming and the builder leave alone. -/
def PlainName (name : String) : Prop :=
  name ≠ "" ∧ trim name = name

theorem isWhitespace_of_nameChar {c : Char} (h : nameChar c) : isWhitespace c = false := by
  have hc : c.toNat < 128 ∧ 45 ≤ c.toNat := by
    have hupper : c.isUpper = decide (c.val ≥ 65 ∧ c.val ≤ 90) := rfl
    have hlower : c.isLower = (decide (c.val ≥ 97) && decide (c.val ≤ 122)) := rfl
    have halpha : c.isAlpha = (c.isUpper || c.isLower) := rfl
    simp only [nameChar, Char.isAlphanum, halpha, hupper, hlower, Char.isDigit, Bool.or_eq_true,
      Bool.and_eq_true, decide_eq_true_eq, UInt32.le_iff_toNat_le,
      Char.toNat] at h ⊢
    rcases h with ((((⟨h₁, h₂⟩ | ⟨h₁, h₂⟩) | ⟨h₁, h₂⟩) | rfl) | rfl) | rfl <;>
      simp_all <;> omega
  simp only [isWhitespace, Bool.or_eq_false_iff, Bool.and_eq_false_iff, decide_eq_false_iff_not,
    beq_eq_false_iff_ne]
  omega

theorem plainName_of_nameChar {name : String} (hne : name ≠ "")
    (hall : name.toList.all nameChar) : PlainName name :=
  ⟨hne, Text.trim_of_none fun c hc => isWhitespace_of_nameChar (List.all_eq_true.mp hall c hc)⟩

/-- Valid names are plain and used once, and valid command names are not reserved. -/
theorem validateNames_eq_ok {commands : Bool} {seen names : List String}
    (h : validateNames commands seen names = .ok ()) :
    (∀ name ∈ names, PlainName name ∧ name ∉ seen ∧ (commands → ¬ isReserved name)) ∧
      names.Nodup := by
  induction names generalizing seen with
  | nil => simp
  | cons name rest ih =>
    rw [validateNames] at h
    split at h
    · cases h
    next hplain =>
    split at h
    · cases h
    next hreserved =>
    split at h
    · cases h
    next hfresh =>
    obtain ⟨hall, hnodup⟩ := ih h
    simp only [not_or, Bool.not_eq_false] at hplain
    refine ⟨?_, List.nodup_cons.mpr ⟨?_, hnodup⟩⟩
    · intro other ho
      rcases List.mem_cons.mp ho with rfl | ho
      · exact ⟨plainName_of_nameChar hplain.1 hplain.2.2, hfresh, fun hc hr => hreserved ⟨hc, hr⟩⟩
      · obtain ⟨hp, hn, hr⟩ := hall other ho
        exact ⟨hp, fun hs => hn (List.mem_cons_of_mem _ hs), hr⟩
    · exact fun hm => (hall name hm).2.1 List.mem_cons_self

section

variable {H P : Type}

theorem collectCapabilities_eq (names : List String) (hp : ∀ name ∈ names, PlainName name)
    (acc : Finset String) :
    CommandRuntimeBuilder.collectCapabilities names acc = .ok (acc ∪ names.toFinset) := by
  induction names generalizing acc with
  | nil => simp [CommandRuntimeBuilder.collectCapabilities]
  | cons name rest ih =>
    obtain ⟨hne, htrim⟩ := hp name List.mem_cons_self
    rw [CommandRuntimeBuilder.collectCapabilities, htrim, if_neg hne,
      ih (fun other ho => hp other (List.mem_cons_of_mem _ ho))]
    simp [Finset.insert_union, Finset.union_insert]

/-- Fresh plain names are all registered, the last one first. -/
theorem collectHandlers_eq (names : List String)
    (hp : ∀ name ∈ names, PlainName name ∧ ¬ isReserved name) (hn : names.Nodup) (handler : H)
    (acc : AList fun _ : String => RegisteredHandler H) (hfresh : ∀ name ∈ names, name ∉ acc) :
    ∃ handlers, CommandRuntimeBuilder.collectHandlers
        (names.map fun name => ⟨name, handler, false⟩) acc = .ok handlers ∧
      handlers.keys = names.reverse ++ acc.keys ∧
      ∀ name, handlers.lookup name =
        if name ∈ names then some ⟨handler, false⟩ else acc.lookup name := by
  induction names generalizing acc with
  | nil => exact ⟨acc, by simp [CommandRuntimeBuilder.collectHandlers]⟩
  | cons name rest ih =>
    obtain ⟨⟨hne, htrim⟩, hreserved⟩ := hp name List.mem_cons_self
    obtain ⟨hnot, hrest⟩ := List.nodup_cons.mp hn
    have hnew : name ∉ acc := hfresh name List.mem_cons_self
    obtain ⟨handlers, hok, hkeys, hlookup⟩ := ih
      (fun other ho => hp other (List.mem_cons_of_mem _ ho)) hrest
      (acc.insert name ⟨handler, false⟩) (by
        intro other ho hin
        rcases (AList.mem_insert acc).mp hin with rfl | hin
        · exact hnot ho
        · exact hfresh other (List.mem_cons_of_mem _ ho) hin)
    refine ⟨handlers, ?_, ?_, ?_⟩
    · simp only [List.map_cons, CommandRuntimeBuilder.collectHandlers]
      rw [htrim, if_neg hne, if_neg hreserved, if_neg hnew]
      exact hok
    · have herase : acc.keys.erase name = acc.keys :=
        List.erase_of_not_mem fun hm => hnew (AList.mem_keys.mpr hm)
      rw [hkeys, AList.keys_insert, herase]
      simp
    · intro other
      rw [hlookup]
      by_cases ho : other = name
      · subst ho
        simp [hnot]
      · simp [ho, AList.lookup_insert_ne ho]

theorem foldl_capability (b : CommandRuntimeBuilder H P) (names : List String) :
    names.foldl CommandRuntimeBuilder.capability b =
      { b with capabilities := b.capabilities ++ names } := by
  induction names generalizing b with
  | nil => simp
  | cons name rest ih => simp [ih, CommandRuntimeBuilder.capability]

theorem foldl_command (b : CommandRuntimeBuilder H P) (names : List String) (handler : H) :
    names.foldl (fun b name => b.command name handler) b =
      { b with
        registrations := b.registrations ++ names.map fun name => ⟨name, handler, false⟩ } := by
  induction names generalizing b with
  | nil => simp
  | cons name rest ih =>
    rw [List.foldl_cons, ih]
    simp [CommandRuntimeBuilder.command, CommandRuntimeBuilder.register]

end

/-- The runtime serves the configured names, each bound to the same adapter and channel, under the
configured limits. -/
structure Enforces (runtime : SidecarCommandRuntime) (c : SidecarRuntimeConfiguration)
    (binding : SidecarBinding) : Prop where
  commandNames : runtime.commandNames = c.commandNames.mergeSort
  capabilityNames : runtime.capabilityNames = c.capabilities.mergeSort
  handlers : ∀ command, runtime.handlers.lookup command =
    if command ∈ c.commandNames then some ⟨binding, false⟩ else none
  admissionPolicy : runtime.admissionPolicy = some binding
  permits : runtime.permits = c.maxConcurrency.toNat
  deliveryCapacity : runtime.deliveryCapacity = c.maxConcurrency.toNat
  maxInputBytes : runtime.maxInputBytes = c.maxInputBytes.toNat
  maxOutputBytes : runtime.maxOutputBytes = c.maxOutputBytes.toNat
  defaultTimeout : runtime.defaultTimeout = fromMillis c.defaultTimeoutMs.toNat
  maxTimeout : runtime.maxTimeout = fromMillis c.maxTimeoutMs.toNat
  resultGrace : runtime.resultGrace = fromMillis c.resultGraceMs.toNat

/-- What a valid configuration promises. -/
structure SidecarRuntimeConfiguration.Valid (c : SidecarRuntimeConfiguration)
    (negotiated : SidecarProtocolSelection) : Prop where
  manifestGeneration : c.manifestGeneration ≠ 0 ∧ c.manifestGeneration ≤ maxPortableJsonInteger
  maxConcurrency : c.maxConcurrency ≠ 0 ∧ c.maxConcurrency ≤ negotiated.limits.maxInFlight
  maxInputBytes : c.maxInputBytes ≠ 0 ∧ c.maxInputBytes ≤ negotiated.limits.maxFrameBytes
  maxOutputBytes : c.maxOutputBytes ≠ 0 ∧ minimumBridgeFailureBytes ≤ c.maxOutputBytes.toNat ∧
    c.maxOutputBytes ≤ negotiated.limits.maxFrameBytes
  timeouts : c.defaultTimeoutMs ≠ 0 ∧ c.defaultTimeoutMs ≤ c.maxTimeoutMs ∧
    c.resultGraceMs < c.defaultTimeoutMs
  capabilities : (∀ name ∈ c.capabilities, PlainName name) ∧ c.capabilities.Nodup
  commands : (∀ name ∈ c.commandNames, PlainName name ∧ ¬ isReserved name) ∧
    c.commandNames.Nodup

theorem validateConfiguration_eq_ok {c : SidecarRuntimeConfiguration}
    {negotiated : SidecarProtocolSelection} (h : validateConfiguration c negotiated = .ok ()) :
    c.Valid negotiated := by
  simp only [validateConfiguration, Except.bind_eq_ok, Except.ensure_eq_ok, not_or, not_lt,
    UInt64.not_lt, UInt32.not_lt, UInt16.not_lt, UInt32.not_le] at h
  obtain ⟨-, hgen, -, hconc, -, hin, -, hout, -, htime, _, hcap, hcmd⟩ := h
  obtain ⟨hcap, hcapn⟩ := validateNames_eq_ok hcap
  obtain ⟨hcmd, hcmdn⟩ := validateNames_eq_ok hcmd
  exact {
    manifestGeneration := hgen
    maxConcurrency := hconc
    maxInputBytes := hin
    maxOutputBytes := hout
    timeouts := ⟨htime.1, htime.2.2⟩
    capabilities := ⟨fun name hn => (hcap name hn).1, hcapn⟩
    commands := ⟨fun name hn => ⟨(hcmd name hn).1, (hcmd name hn).2.2 rfl⟩, hcmdn⟩ }

theorem mergeSort_eq_of_perm {l l' : List String} (h : l.Perm l') : l.mergeSort = l'.mergeSort :=
  (((List.mergeSort_perm l _).trans h).trans (List.mergeSort_perm l' _).symm).eq_of_pairwise'
    (List.pairwise_mergeSort' (· ≤ ·) l) (List.pairwise_mergeSort' (· ≤ ·) l')

/-- A valid configuration always builds, into a runtime that enforces it. -/
theorem buildCommandRuntime_enforces {c : SidecarRuntimeConfiguration}
    {negotiated : SidecarProtocolSelection} (hv : validateConfiguration c negotiated = .ok ())
    (binding : SidecarBinding) :
    ∃ runtime, buildCommandRuntime c (manifestFromConfiguration c) binding = .ok runtime ∧
      Enforces runtime c binding := by
  have hvalid := validateConfiguration_eq_ok hv
  obtain ⟨hplain, hcapn⟩ := hvalid.capabilities
  obtain ⟨hcmd, hcmdn⟩ := hvalid.commands
  obtain ⟨handlers, hok, hkeys, hlookup⟩ := collectHandlers_eq
    c.commandNames.mergeSort (fun name hn => hcmd name (List.mem_mergeSort.mp hn))
    ((List.mergeSort_perm _ _).nodup_iff.mpr hcmdn) binding ∅ (by simp)
  have hcaps := collectCapabilities_eq c.capabilities.mergeSort
    (fun name hn => hplain name (List.mem_mergeSort.mp hn)) ∅
  refine ⟨_, by
    simp only [buildCommandRuntime, manifestFromConfiguration, foldl_capability, foldl_command,
      CommandRuntimeBuilder.build, CommandRuntimeBuilder.withAdmissionPolicy]
    simp only [CommandRuntimeBuilder.withMaxConcurrency, CommandRuntimeBuilder.withMaxInputBytes,
      CommandRuntimeBuilder.withMaxOutputBytes, CommandRuntimeBuilder.withDefaultTimeout,
      CommandRuntimeBuilder.withMaxTimeout, CommandRuntimeBuilder.withResultGrace,
      List.nil_append, hcaps, hok]
    rfl, ?_⟩
  have hconc : 1 ≤ c.maxConcurrency.toNat :=
    Nat.pos_of_ne_zero fun h => hvalid.maxConcurrency.1 (UInt16.toNat_inj.mp h)
  have hin : 1 ≤ c.maxInputBytes.toNat :=
    Nat.pos_of_ne_zero fun h => hvalid.maxInputBytes.1 (UInt32.toNat_inj.mp h)
  have hout : 1 ≤ c.maxOutputBytes.toNat :=
    Nat.pos_of_ne_zero fun h => hvalid.maxOutputBytes.1 (UInt32.toNat_inj.mp h)
  have hdefault : 1 ≤ c.defaultTimeoutMs.toNat :=
    Nat.pos_of_ne_zero fun h => hvalid.timeouts.1 (UInt32.toNat_inj.mp h)
  have hmax : c.defaultTimeoutMs.toNat ≤ c.maxTimeoutMs.toNat :=
    UInt32.le_iff_toNat_le.mp hvalid.timeouts.2.1
  have hmaximum : 1 ≤ c.maxTimeoutMs.toNat := hdefault.trans hmax
  constructor
  case commandNames =>
    simp only [Node.CommandRuntime.commandNames, hkeys, AList.keys_empty, List.append_nil]
    exact mergeSort_eq_of_perm ((List.reverse_perm _).trans (List.mergeSort_perm _ _))
  case capabilityNames =>
    simp only [Node.CommandRuntime.capabilityNames, Finset.empty_union]
    exact (List.toFinset_sort (· ≤ ·) ((List.mergeSort_perm _ _).nodup_iff.mpr hcapn)).mpr
      (List.pairwise_mergeSort' (· ≤ ·) _)
  case handlers =>
    intro command
    simpa using hlookup command
  case admissionPolicy => rfl
  case permits => simp [hconc]
  case deliveryCapacity => simp [hconc]
  case maxInputBytes => simp [hin]
  case maxOutputBytes => simp [hout]
  case defaultTimeout =>
    simp only [nonzeroDuration_fromMillis hdefault, nonzeroDuration_fromMillis hmaximum]
    exact min_eq_left (Nat.mul_le_mul_right 1000000 hmax)
  case maxTimeout => simp only [nonzeroDuration_fromMillis hmaximum]
  case resultGrace => rfl

end OpenclawNode.Sidecar
