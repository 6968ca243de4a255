import Mathlib.Data.List.AList
import Mathlib.Data.String.Basic
import OpenclawNode.Node.Invocation

/-! Building a command runtime with explicit resource bounds. -/
namespace OpenclawNode.Node

open Text (trim)

inductive RuntimeBuildError
  | emptyCapability
  | emptyCommand
  | reservedCommand (command : String)
  | duplicateCommand (command : String)
  deriving DecidableEq, Repr

structure Registration (H : Type) where
  command : String
  handler : H
  duplex : Bool

structure RegisteredHandler (H : Type) where
  handler : H
  duplex : Bool

/-- Builder for a command runtime whose handlers and admission policy are of the given types. -/
structure CommandRuntimeBuilder (H P : Type) where
  registrations : List (Registration H) := []
  capabilities : List String := []
  admissionPolicy : Option P := none
  maxConcurrency : Nat := 8
  maxInputBytes : Nat := 256 * 1024
  maxOutputBytes : Nat := 256 * 1024
  defaultTimeout : Nanos := fromMillis 30000
  maxTimeout : Nanos := fromMillis 300000
  resultGrace : Nanos := fromMillis 100

/-- The parts of a runtime that every invocation shares. -/
structure CommandRuntime (H P : Type) where
  handlers : AList fun _ : String => RegisteredHandler H
  capabilities : Finset String
  admissionPolicy : Option P
  permits : Nat
  deliveryCapacity : Nat
  maxInputBytes : Nat
  maxOutputBytes : Nat
  defaultTimeout : Nanos
  maxTimeout : Nanos
  resultGrace : Nanos
  permits_pos : 1 ≤ permits
  deliveryCapacity_eq : deliveryCapacity = permits

def nonzeroDuration (value : Nanos) : Nanos := max value (fromMillis 1)

theorem nonzeroDuration_fromMillis {ms : Nat} (h : 1 ≤ ms) :
    nonzeroDuration (fromMillis ms) = fromMillis ms :=
  max_eq_left (Nat.mul_le_mul_right 1000000 h)

/-- Whether a command belongs to the reserved `system` namespace. -/
def isReserved (command : String) : Prop :=
  command = "system" ∨ "system.".toList <+: command.toList

instance (command : String) : Decidable (isReserved command) := by
  unfold isReserved
  infer_instance

namespace CommandRuntimeBuilder

variable {H P : Type}

def capability (b : CommandRuntimeBuilder H P) (capability : String) : CommandRuntimeBuilder H P :=
  { b with capabilities := b.capabilities ++ [capability] }

def withAdmissionPolicy (b : CommandRuntimeBuilder H P) (policy : P) : CommandRuntimeBuilder H P :=
  { b with admissionPolicy := some policy }

def register (b : CommandRuntimeBuilder H P) (command : String) (handler : H) (duplex : Bool) :
    CommandRuntimeBuilder H P :=
  { b with registrations := b.registrations ++ [⟨command, handler, duplex⟩] }

def command (b : CommandRuntimeBuilder H P) (command : String) (handler : H) :
    CommandRuntimeBuilder H P :=
  b.register command handler false

def withMaxConcurrency (b : CommandRuntimeBuilder H P) (maximum : Nat) :
    CommandRuntimeBuilder H P :=
  { b with maxConcurrency := max maximum 1 }

def withMaxInputBytes (b : CommandRuntimeBuilder H P) (maximum : Nat) :
    CommandRuntimeBuilder H P :=
  { b with maxInputBytes := max maximum 1 }

def withMaxOutputBytes (b : CommandRuntimeBuilder H P) (maximum : Nat) :
    CommandRuntimeBuilder H P :=
  { b with maxOutputBytes := max maximum 1 }

def withDefaultTimeout (b : CommandRuntimeBuilder H P) (timeout : Nanos) :
    CommandRuntimeBuilder H P :=
  { b with defaultTimeout := nonzeroDuration timeout }

def withMaxTimeout (b : CommandRuntimeBuilder H P) (timeout : Nanos) :
    CommandRuntimeBuilder H P :=
  { b with maxTimeout := nonzeroDuration timeout }

def withResultGrace (b : CommandRuntimeBuilder H P) (duration : Nanos) :
    CommandRuntimeBuilder H P :=
  { b with resultGrace := duration }

/-- The set of trimmed capability names. -/
def collectCapabilities : List String → Finset String → Except RuntimeBuildError (Finset String)
  | [], capabilities => .ok capabilities
  | capability :: rest, capabilities =>
    if trim capability = "" then .error .emptyCapability
    else collectCapabilities rest (insert (trim capability) capabilities)

/-- The handlers by trimmed command name, each name once. -/
def collectHandlers : List (Registration H) → (AList fun _ : String => RegisteredHandler H) →
    Except RuntimeBuildError (AList fun _ : String => RegisteredHandler H)
  | [], handlers => .ok handlers
  | registration :: rest, handlers =>
    let command := trim registration.command
    if command = "" then .error .emptyCommand
    else if isReserved command then .error (.reservedCommand command)
    else if command ∈ handlers then .error (.duplicateCommand command)
    else collectHandlers rest
      (handlers.insert command ⟨registration.handler, registration.duplex⟩)

/-- Validate registrations and construct the runtime. -/
def build (b : CommandRuntimeBuilder H P) : Except RuntimeBuildError (CommandRuntime H P) := do
  let capabilities ← collectCapabilities b.capabilities ∅
  let handlers ← collectHandlers b.registrations ∅
  let maxTimeout := nonzeroDuration b.maxTimeout
  return {
    handlers, capabilities, admissionPolicy := b.admissionPolicy
    permits := max b.maxConcurrency 1
    deliveryCapacity := max b.maxConcurrency 1
    maxInputBytes := max b.maxInputBytes 1
    maxOutputBytes := max b.maxOutputBytes 1
    defaultTimeout := min (nonzeroDuration b.defaultTimeout) maxTimeout
    maxTimeout
    resultGrace := b.resultGrace
    permits_pos := le_max_right _ _
    deliveryCapacity_eq := rfl }

end CommandRuntimeBuilder

/-- The exact command names registered by a runtime, in ascending order. -/
def CommandRuntime.commandNames {H P : Type} (runtime : CommandRuntime H P) : List String :=
  runtime.handlers.keys.mergeSort

/-- The exact capability names declared by a runtime, in ascending order. -/
def CommandRuntime.capabilityNames {H P : Type} (runtime : CommandRuntime H P) : List String :=
  runtime.capabilities.sort

end OpenclawNode.Node
