import OpenclawNode.Base.Simulation
import OpenclawNode.Node.HandlerGates

/-! How the first runtime evaluates an invocation, and that the present one still does so. -/
namespace OpenclawNode.Legacy

open Future (Polled)
open Json (object string)
open Node (EvaluationEvent EvaluationWorld HandlerError InvocationResult Nanos NodeInvocation
  RuntimeClosures failure fromMillis serializedJsonWithinLimit)
open Transition (System)

/-- What an invocation needs of the first runtime. -/
structure CommandRuntime (H : Type) where
  handlers : AList fun _ : String => H
  maxInputBytes : Nat
  maxOutputBytes : Nat
  defaultTimeout : Nanos
  maxTimeout : Nanos
  resultGrace : Nanos

variable {H P ω ν : Type}

namespace CommandRuntime

variable (runtime : CommandRuntime H)

/-- The time that is left. A limit of zero milliseconds counts as one. -/
def resolveTimeout (invocation : NodeInvocation) (now : Nanos) : Option Nanos :=
  let total := invocation.timeoutMs.elim runtime.defaultTimeout fun milliseconds =>
    min (fromMillis (max milliseconds.toNat 1)) runtime.maxTimeout - runtime.resultGrace
  let elapsed := (invocation.receivedAt.map (now - ·)).getD 0
  if elapsed < total then some (total - elapsed) else none

def inputWithinLimit (formatDouble : Json.Double → String) (invocation : NodeInvocation) : Bool :=
  invocation.receivedParamsBytes.all (· ≤ runtime.maxInputBytes) &&
    serializedJsonWithinLimit (invocation.params.serialize formatDouble) runtime.maxInputBytes

/-- The failure that a handler error becomes, unless it is too large. -/
def handlerError (error : HandlerError) : InvocationResult :=
  let code := if error.code = "" then "HANDLER_ERROR" else error.code
  let message := if error.message = "" then "command handler failed" else error.message
  let payload := object [("code", string code), ("message", string message)]
  if serializedJsonWithinLimit payload runtime.maxOutputBytes then .failure code message
  else failure "OUTPUT_TOO_LARGE" "command error exceeds the runtime limit"

/-- What a poll of the handler's future under its time limit means: a result, or none yet. -/
def handlerOutcome (formatDouble : Json.Double → String) (expires : Nanos)
    (w : EvaluationWorld ω) :
    Polled (Except HandlerError Json.Value) → Option InvocationResult × EvaluationWorld ω
  | .pending =>
    if expires ≤ w.now then
      (some (failure "HANDLER_TIMEOUT" "command handler exceeded its deadline"), w.cancel)
    else (none, w)
  | .panicked => (some (failure "HANDLER_PANIC" "command handler panicked"), w.cancel)
  | .ready (.error error) => (some (runtime.handlerError error), w)
  | .ready (.ok result) =>
    if serializedJsonWithinLimit (result.serialize formatDouble) runtime.maxOutputBytes then
      (some (.success result), w)
    else
      (some (failure "OUTPUT_TOO_LARGE" "command result exceeds the runtime limit"), w)

end CommandRuntime

/-- Where the evaluation of an invocation stands between two polls. -/
inductive EvaluationPhase (c : RuntimeClosures H P ω ν)
  | tracked
  | executing (handler : H) (future : (c.handler handler).State) (expires : Nanos)
  | done (result : InvocationResult)
  | aborted

section

variable (c : RuntimeClosures H P ω ν) (runtime : CommandRuntime H)
  (formatDouble : Json.Double → String)

/-- One poll of a handler that was called. -/
inductive ExecutePoll (handler : H) (future : (c.handler handler).State) (expires : Nanos)
    (w : EvaluationWorld ω) : List ν → EvaluationPhase c → EvaluationWorld ω → Prop
  | pending {notes future' w' w''} (outcome : Polled (Except HandlerError Json.Value)) :
      (c.handler handler).Poll future w notes outcome future' w' →
      runtime.handlerOutcome formatDouble expires w' outcome = (none, w'') →
      ExecutePoll handler future expires w notes (.executing handler future' expires) w''
  | result {notes future' w' w''} (outcome : Polled (Except HandlerError Json.Value))
      (result : InvocationResult) :
      (c.handler handler).Poll future w notes outcome future' w' →
      runtime.handlerOutcome formatDouble expires w' outcome = (some result, w'') →
      ExecutePoll handler future expires w notes (.done result) w''

/-- One poll of an evaluation. -/
inductive EvaluationPoll (invocation : NodeInvocation) :
    EvaluationPhase c → EvaluationWorld ω → List ν → EvaluationPhase c → EvaluationWorld ω → Prop
  | notFound {w} : runtime.handlers.lookup invocation.command = none →
      EvaluationPoll invocation .tracked w []
        (.done (failure "COMMAND_NOT_FOUND" "no handler registered for command")) w
  | tooLarge {w handler} : runtime.handlers.lookup invocation.command = some handler →
      runtime.inputWithinLimit formatDouble invocation = false →
      EvaluationPoll invocation .tracked w []
        (.done (failure "INPUT_TOO_LARGE" "command parameters exceed the runtime limit")) w
  | elapsed {w handler} : runtime.handlers.lookup invocation.command = some handler →
      runtime.inputWithinLimit formatDouble invocation = true →
      runtime.resolveTimeout invocation w.now = none →
      EvaluationPoll invocation .tracked w []
        (.done (failure "HANDLER_TIMEOUT" "command handler deadline already elapsed")) w.cancel
  | panicked {w w' handler timeout notes} :
      runtime.handlers.lookup invocation.command = some handler →
      runtime.inputWithinLimit formatDouble invocation = true →
      runtime.resolveTimeout invocation w.now = some timeout →
      (c.handler handler).Call invocation w notes none w' →
      EvaluationPoll invocation .tracked w notes
        (.done (failure "HANDLER_PANIC" "command handler panicked")) w'.cancel
  | called {w w' w'' handler timeout notes notes' phase future} :
      runtime.handlers.lookup invocation.command = some handler →
      runtime.inputWithinLimit formatDouble invocation = true →
      runtime.resolveTimeout invocation w.now = some timeout →
      (c.handler handler).Call invocation w notes (some future) w' →
      ExecutePoll c runtime formatDouble handler future (w'.now + timeout) w' notes' phase w'' →
      EvaluationPoll invocation .tracked w (notes ++ notes') phase w''
  | executing {w w' handler future expires notes phase} :
      ExecutePoll c runtime formatDouble handler future expires w notes phase w' →
      EvaluationPoll invocation (.executing handler future expires) w notes phase w'

end

/-- The same phase of the present evaluation. -/
def EvaluationPhase.toNode {c : RuntimeClosures H P ω ν} :
    EvaluationPhase c → Node.EvaluationPhase c
  | .tracked => .tracked
  | .executing handler future expires => .executing ⟨handler, false⟩ future (some expires)
  | .done result => .done result
  | .aborted => .aborted

/-- A present runtime with the commands and the bounds of a first one, and nothing besides. -/
structure CommandRuntime.Serves (legacy : CommandRuntime H) (runtime : Node.CommandRuntime H P) :
    Prop where
  handlers : ∀ command, runtime.handlers.lookup command =
    (legacy.handlers.lookup command).map fun handler => ⟨handler, false⟩
  admissionPolicy : runtime.admissionPolicy = none
  maxInputBytes : runtime.maxInputBytes = legacy.maxInputBytes
  maxOutputBytes : runtime.maxOutputBytes = legacy.maxOutputBytes
  defaultTimeout : runtime.defaultTimeout = legacy.defaultTimeout
  maxTimeout : runtime.maxTimeout = legacy.maxTimeout
  resultGrace : runtime.resultGrace = legacy.resultGrace

section

variable {c : RuntimeClosures H P ω ν} {legacy : CommandRuntime H}
  {runtime : Node.CommandRuntime H P} {formatDouble : Json.Double → String}
  {advertised : Finset String} {invocation : NodeInvocation} {w w' : EvaluationWorld ω}
  {notes : List ν} {handler : H} {expires : Nanos} {phase' : Node.EvaluationPhase c}

theorem CommandRuntime.Serves.handlerOutcome (hs : legacy.Serves runtime)
    (outcome : Polled (Except HandlerError Json.Value)) :
    Node.handlerOutcome runtime formatDouble (some expires) w outcome =
      legacy.handlerOutcome formatDouble expires w outcome := by
  cases outcome with
  | pending => simp [Node.handlerOutcome, CommandRuntime.handlerOutcome, Node.expired]
  | panicked => rfl
  | ready value =>
    unfold Node.handlerOutcome CommandRuntime.handlerOutcome
    rw [hs.maxOutputBytes]
    cases value <;> rfl

/-- A limit of more than no milliseconds is resolved alike. -/
theorem CommandRuntime.Serves.resolveTimeout (hs : legacy.Serves runtime)
    (ht : invocation.timeoutMs ≠ some 0) (now : Nanos) :
    runtime.resolveTimeout invocation now = (legacy.resolveTimeout invocation now).map some := by
  unfold Node.CommandRuntime.resolveTimeout CommandRuntime.resolveTimeout
  rw [if_neg ht, hs.defaultTimeout, hs.maxTimeout, hs.resultGrace]
  have htotal : ∀ milliseconds ∈ invocation.timeoutMs,
      max milliseconds.toNat 1 = milliseconds.toNat := by
    intro milliseconds hm
    refine Nat.max_eq_left (Nat.one_le_iff_ne_zero.mpr fun hzero => ht ?_)
    rw [Option.mem_def.mp hm]
    exact congrArg some (UInt64.toNat_inj.mp hzero)
  cases hm : invocation.timeoutMs with
  | none =>
    dsimp only [Option.elim]
    split <;> rfl
  | some milliseconds =>
    dsimp only [Option.elim]
    rw [htotal milliseconds hm]
    split <;> rfl

/-- A poll of a handler that is no duplex one is the same poll. -/
theorem CommandRuntime.Serves.executePoll (hs : legacy.Serves runtime)
    {future : (c.handler handler).State} :
    Node.ExecutePoll c runtime formatDouble ⟨handler, false⟩ future (some expires) w notes phase'
      w' ↔ ∃ phase, ExecutePoll c legacy formatDouble handler future expires w notes phase w' ∧
        phase' = phase.toNode := by
  constructor
  · intro h
    cases h with
    | overflow hduplex _ => cases hduplex
    | pending outcome _ hpoll houtcome =>
      rw [hs.handlerOutcome] at houtcome
      exact ⟨_, .pending outcome hpoll houtcome, rfl⟩
    | result outcome result _ hpoll houtcome =>
      rw [hs.handlerOutcome] at houtcome
      exact ⟨_, .result outcome result hpoll houtcome, rfl⟩
  · rintro ⟨phase, h, rfl⟩
    cases h with
    | pending outcome hpoll houtcome =>
      rw [← hs.handlerOutcome] at houtcome
      exact .pending outcome nofun hpoll houtcome
    | result outcome result hpoll houtcome =>
      rw [← hs.handlerOutcome] at houtcome
      exact .result outcome result nofun hpoll houtcome

theorem CommandRuntime.Serves.resolveSessionHandler (hs : legacy.Serves runtime)
    (ha : invocation.command ∈ advertised) :
    runtime.resolveSessionHandler advertised invocation =
      (legacy.handlers.lookup invocation.command).elim
        (.error (failure "COMMAND_NOT_FOUND" "no handler registered for command"))
        fun handler => .ok ⟨handler, false⟩ := by
  unfold Node.CommandRuntime.resolveSessionHandler
  rw [if_neg (not_not_intro ha), hs.handlers]
  cases legacy.handlers.lookup invocation.command <;> rfl

theorem CommandRuntime.Serves.resolved (hs : legacy.Serves runtime)
    (ha : invocation.command ∈ advertised) {registration : Node.RegisteredHandler H} :
    runtime.resolveSessionHandler advertised invocation = .ok registration ↔
      ∃ handler, legacy.handlers.lookup invocation.command = some handler ∧
        registration = ⟨handler, false⟩ := by
  rw [hs.resolveSessionHandler ha]
  cases legacy.handlers.lookup invocation.command with
  | none => simp
  | some handler =>
    constructor
    · rintro ⟨⟩
      exact ⟨handler, rfl, rfl⟩
    · rintro ⟨_, ⟨⟩, rfl⟩
      rfl

theorem CommandRuntime.Serves.inputWithinLimit (hs : legacy.Serves runtime) :
    runtime.inputWithinLimit formatDouble invocation =
      legacy.inputWithinLimit formatDouble invocation := by
  unfold Node.CommandRuntime.inputWithinLimit CommandRuntime.inputWithinLimit
  rw [hs.maxInputBytes]

theorem handlerEntryRejection_open (hopen : w.Open) :
    Node.handlerEntryRejection w = (none, w) := by
  unfold Node.handlerEntryRejection
  rw [hopen.active, hopen.serving]
  rfl

/-- With every gate open a handler is entered alike. -/
theorem CommandRuntime.Serves.entryPoll (hs : legacy.Serves runtime) (hopen : w.Open)
    {timeout : Nanos} : (∃ events, Node.EntryPoll c runtime formatDouble invocation
      ⟨handler, false⟩ (some timeout) w events notes phase' w') ↔
    (∃ w'', (c.handler handler).Call invocation w notes none w'' ∧
      phase' = .done (failure "HANDLER_PANIC" "command handler panicked") ∧ w' = w''.cancel) ∨
    ∃ notes' notes'' future w'' phase, notes = notes' ++ notes'' ∧
      (c.handler handler).Call invocation w notes' (some future) w'' ∧
      ExecutePoll c legacy formatDouble handler future (w''.now + timeout) w'' notes'' phase w' ∧
      phase' = phase.toNode := by
  constructor
  · rintro ⟨events, h⟩
    cases h with
    | overflow ho => exact absurd (ho.symm.trans hopen.accepting) (by decide)
    | rejected result _ hrejected =>
      rw [handlerEntryRejection_open hopen] at hrejected
      cases hrejected
    | panicked _ hentry hcall =>
      rw [handlerEntryRejection_open hopen] at hentry
      cases hentry
      exact Or.inl ⟨_, hcall, rfl, rfl⟩
    | called _ hentry hcall hpoll =>
      rw [handlerEntryRejection_open hopen] at hentry
      cases hentry
      obtain ⟨phase, hpoll, hphase⟩ := hs.executePoll.mp hpoll
      exact Or.inr ⟨_, _, _, _, phase, rfl, hcall, hpoll, hphase⟩
  · rintro (⟨w'', hcall, rfl, rfl⟩ |
      ⟨notes', notes'', future, w'', phase, rfl, hcall, hpoll, rfl⟩)
    · exact ⟨_, .panicked hopen.accepting (handlerEntryRejection_open hopen) hcall⟩
    · exact ⟨_, .called hopen.accepting (handlerEntryRejection_open hopen) hcall
        (hs.executePoll.mpr ⟨phase, hpoll, rfl⟩)⟩

/-- One poll is the same poll, where the command is advertised, its time is limited, and every gate
is open when the handler is entered. -/
theorem CommandRuntime.Serves.evaluationPoll (hs : legacy.Serves runtime)
    (ha : invocation.command ∈ advertised) (ht : invocation.timeoutMs ≠ some 0)
    {phase : EvaluationPhase c} (hopen : phase = .tracked → w.Open) :
    (∃ events, Node.EvaluationPoll c runtime formatDouble advertised invocation phase.toNode w
      events notes phase' w') ↔
    ∃ next, EvaluationPoll c legacy formatDouble invocation phase w notes next w' ∧
      phase' = next.toNode := by
  constructor
  · rintro ⟨events, h⟩
    cases phase with
    | tracked =>
      have hopen := hopen rfl
      cases h with
      | unresolved result hresolve =>
        rw [hs.resolveSessionHandler ha] at hresolve
        cases hlookup : legacy.handlers.lookup invocation.command with
        | none =>
          rw [hlookup] at hresolve
          cases hresolve
          exact ⟨_, .notFound hlookup, rfl⟩
        | some handler =>
          rw [hlookup] at hresolve
          cases hresolve
      | tooLarge hresolve hinput =>
        obtain ⟨handler, hlookup, rfl⟩ := (hs.resolved ha).mp hresolve
        exact ⟨_, .tooLarge hlookup (hs.inputWithinLimit ▸ hinput), rfl⟩
      | elapsed hresolve hinput htime =>
        obtain ⟨handler, hlookup, rfl⟩ := (hs.resolved ha).mp hresolve
        rw [hs.resolveTimeout ht, Option.map_eq_none_iff] at htime
        exact ⟨_, .elapsed hlookup (hs.inputWithinLimit ▸ hinput) htime, rfl⟩
      | unguarded hresolve hinput htime _ hentry =>
        obtain ⟨handler, hlookup, rfl⟩ := (hs.resolved ha).mp hresolve
        rw [hs.resolveTimeout ht] at htime
        obtain ⟨timeout, hleft, rfl⟩ := Option.map_eq_some_iff.mp htime
        have hinput := hs.inputWithinLimit ▸ hinput
        rcases (hs.entryPoll hopen).mp ⟨_, hentry⟩ with ⟨w'', hcall, rfl, rfl⟩ |
          ⟨notes', notes'', future, w'', next, rfl, hcall, hpoll, rfl⟩
        · exact ⟨_, .panicked hlookup hinput hleft hcall, rfl⟩
        · exact ⟨next, .called hlookup hinput hleft hcall hpoll, rfl⟩
      | policyPanicked _ _ _ hpolicy _ => exact nomatch hs.admissionPolicy.symm.trans hpolicy
      | guarded _ _ _ hpolicy _ _ => exact nomatch hs.admissionPolicy.symm.trans hpolicy
    | executing handler future expires =>
      cases h with
      | executing hpoll =>
        obtain ⟨next, hpoll, hnext⟩ := hs.executePoll.mp hpoll
        exact ⟨next, .executing hpoll, hnext⟩
    | done result => cases h
    | aborted => cases h
  · rintro ⟨next, h, rfl⟩
    cases h with
    | notFound hlookup =>
      refine ⟨_, .unresolved _ ?_⟩
      rw [hs.resolveSessionHandler ha, hlookup]
      rfl
    | tooLarge hlookup hinput =>
      exact ⟨_, .tooLarge ((hs.resolved ha).mpr ⟨_, hlookup, rfl⟩)
        (hs.inputWithinLimit.trans hinput)⟩
    | elapsed hlookup hinput htime =>
      refine ⟨_, .elapsed ((hs.resolved ha).mpr ⟨_, hlookup, rfl⟩)
        (hs.inputWithinLimit.trans hinput) ?_⟩
      rw [hs.resolveTimeout ht, htime]
      rfl
    | @panicked w w' handler timeout notes hlookup hinput htime hcall =>
      have htime' : runtime.resolveTimeout invocation w.now = some (some timeout) := by
        rw [hs.resolveTimeout ht, htime]
        rfl
      have hpanic : ∃ events, Node.EntryPoll c runtime formatDouble invocation ⟨handler, false⟩
          (some timeout) w events notes
          (.done (failure "HANDLER_PANIC" "command handler panicked")) w'.cancel :=
        (hs.entryPoll (hopen rfl)).mpr (Or.inl ⟨_, hcall, rfl, rfl⟩)
      obtain ⟨events, hentry⟩ := hpanic
      exact ⟨_, .unguarded ((hs.resolved ha).mpr ⟨_, hlookup, rfl⟩)
        (hs.inputWithinLimit.trans hinput) htime' hs.admissionPolicy hentry⟩
    | @called w w' w'' handler timeout notes notes' next future hlookup hinput htime hcall hpoll =>
      have htime' : runtime.resolveTimeout invocation w.now = some (some timeout) := by
        rw [hs.resolveTimeout ht, htime]
        rfl
      obtain ⟨events, hentry⟩ := (hs.entryPoll (hopen rfl)).mpr
        (Or.inr ⟨_, _, _, _, _, rfl, hcall, hpoll, rfl⟩)
      exact ⟨_, .unguarded ((hs.resolved ha).mpr ⟨_, hlookup, rfl⟩)
        (hs.inputWithinLimit.trans hinput) htime' hs.admissionPolicy hentry⟩
    | executing hpoll => exact ⟨_, .executing (hs.executePoll.mpr ⟨_, hpoll, rfl⟩)⟩

end

/-- The evaluation of one invocation by the first runtime, and its world. -/
structure EvaluationRun (c : RuntimeClosures H P ω ν) where
  phase : EvaluationPhase c
  world : EvaluationWorld ω

section

variable (c : RuntimeClosures H P ω ν) (legacy : CommandRuntime H)
  (runtime : Node.CommandRuntime H P) (formatDouble : Json.Double → String)
  (advertised : Finset String) (invocation : NodeInvocation)

/-- The environment may change anything in the world between two polls, and drop the evaluation. -/
inductive EvaluationStep :
    EvaluationRun c → Node.EvaluationAction ν → EvaluationRun c → Prop
  | poll {s phase world notes} :
      EvaluationPoll c legacy formatDouble invocation s.phase s.world notes phase world →
      EvaluationStep s (.poll notes) ⟨phase, world⟩
  | environment {s} (world : EvaluationWorld ω) :
      EvaluationStep s .environment { s with world := world }
  | abort {s} : EvaluationStep s .abort { s with phase := .aborted }

/-- The first runtime's evaluations that are first polled in an open world. -/
def evaluationSystem : System (EvaluationRun c) (Node.EvaluationAction ν) where
  Initial s := s.phase = .tracked
  Step s a s' := EvaluationStep c legacy formatDouble invocation s a s' ∧
    ∀ notes, a = .poll notes → s.phase = .tracked → s.world.Open

/-- The present runtime's evaluations that are first polled in an open world. -/
def openSystem : System (Node.EvaluationRun c) (Node.EvaluationAction ν) where
  Initial s := s.phase = .tracked ∧ s.events = []
  Step s a s' := Node.EvaluationStep c runtime formatDouble advertised invocation s a s' ∧
    ∀ notes, a = .poll notes → s.phase = .tracked → s.world.Open

end

/-- The same phase in the same world. -/
def SameEvaluation {c : RuntimeClosures H P ω ν} (s : Node.EvaluationRun c)
    (q : EvaluationRun c) : Prop := s.phase = q.phase.toNode ∧ s.world = q.world

theorem EvaluationPhase.toNode_tracked {c : RuntimeClosures H P ω ν} {phase : EvaluationPhase c} :
    phase.toNode = .tracked ↔ phase = .tracked := by
  cases phase <;> simp [toNode]

section

variable {c : RuntimeClosures H P ω ν} {legacy : CommandRuntime H}
  {runtime : Node.CommandRuntime H P} {formatDouble : Json.Double → String}
  {advertised : Finset String} {invocation : NodeInvocation}

theorem legacy_simulates (hs : legacy.Serves runtime) (ha : invocation.command ∈ advertised)
    (ht : invocation.timeoutMs ≠ some 0) :
    (evaluationSystem c legacy formatDouble invocation).Simulates
      (openSystem c runtime formatDouble advertised invocation) SameEvaluation := by
  rintro ⟨phase, world, events⟩ q a s' ⟨rfl, rfl⟩ ⟨hstep, hopen⟩
  cases hstep with
  | poll hpoll =>
    have htracked : q.phase = .tracked → q.world.Open := fun h =>
      hopen _ rfl (EvaluationPhase.toNode_tracked.mpr h)
    obtain ⟨next, hnext, rfl⟩ := (hs.evaluationPoll ha ht htracked).mp ⟨_, hpoll⟩
    exact ⟨⟨next, _⟩, ⟨.poll hnext, fun _ _ => htracked⟩, rfl, rfl⟩
  | environment world => exact ⟨⟨q.phase, world⟩, ⟨.environment world, nofun⟩, rfl, rfl⟩
  | abort => exact ⟨⟨.aborted, q.world⟩, ⟨.abort, nofun⟩, rfl, rfl⟩

theorem present_simulates (hs : legacy.Serves runtime) (ha : invocation.command ∈ advertised)
    (ht : invocation.timeoutMs ≠ some 0) :
    (openSystem c runtime formatDouble advertised invocation).Simulates
      (evaluationSystem c legacy formatDouble invocation) fun q s => SameEvaluation s q := by
  rintro q ⟨phase, world, events⟩ a q' ⟨rfl, rfl⟩ ⟨hstep, hopen⟩
  cases hstep with
  | @poll next world' notes hpoll =>
    obtain ⟨more, hnext⟩ := (hs.evaluationPoll ha ht (hopen _ rfl)).mpr ⟨next, hpoll, rfl⟩
    exact ⟨⟨next.toNode, world', events ++ more⟩, ⟨.poll hnext, fun _ _ h =>
      hopen _ rfl (EvaluationPhase.toNode_tracked.mp h)⟩, rfl, rfl⟩
  | environment world =>
    exact ⟨⟨q.phase.toNode, world, events⟩, ⟨.environment world, nofun⟩, rfl, rfl⟩
  | abort => exact ⟨⟨.aborted, q.world, events⟩, ⟨.abort, nofun⟩, rfl, rfl⟩

end

/-- The present runtime evaluates what the first one could be asked as the first one did: over any
polls and whatever its environment does, the two go through the same phases to the same result, in
the same world, where the command is advertised, the invocation has a time limit and no gate is
closed when it is first polled. A limit of no milliseconds was one millisecond to the first runtime
and is no limit to the present one. -/
theorem present_runtime_keeps_evaluation {H P ω ν : Type} (c : RuntimeClosures H P ω ν)
    (legacy : CommandRuntime H) (runtime : Node.CommandRuntime H P) (hs : legacy.Serves runtime)
    (formatDouble : Json.Double → String) (advertised : Finset String)
    (invocation : NodeInvocation) (ha : invocation.command ∈ advertised) :
    (invocation.timeoutMs ≠ some 0 → ∀ world actions,
      (∀ s, (openSystem c runtime formatDouble advertised invocation).Trace
        ⟨.tracked, world, []⟩ actions s → ∃ q,
        (evaluationSystem c legacy formatDouble invocation).Trace ⟨.tracked, world⟩ actions q ∧
          s.phase = q.phase.toNode ∧ s.world = q.world) ∧
      ∀ q, (evaluationSystem c legacy formatDouble invocation).Trace
        ⟨.tracked, world⟩ actions q → ∃ s,
        (openSystem c runtime formatDouble advertised invocation).Trace
          ⟨.tracked, world, []⟩ actions s ∧ s.phase = q.phase.toNode ∧ s.world = q.world) ∧
    (invocation.timeoutMs = some 0 → ∀ now,
      legacy.resolveTimeout invocation now =
        legacy.resolveTimeout { invocation with timeoutMs := some 1 } now ∧
      runtime.resolveTimeout invocation now = some none) := by
  refine ⟨fun ht world actions => ⟨fun s h => ?_, fun q h => ?_⟩, fun hzero now => ⟨?_, ?_⟩⟩
  · exact (legacy_simulates hs ha ht).trace ⟨rfl, rfl⟩ h
  · exact (present_simulates hs ha ht).trace ⟨rfl, rfl⟩ h
  · unfold CommandRuntime.resolveTimeout
    rw [hzero]
    rfl
  · exact if_pos hzero

def firstRuntime : CommandRuntime Unit where
  handlers := AList.singleton "echo" ()
  maxInputBytes := 16
  maxOutputBytes := 16
  defaultTimeout := fromMillis 1
  maxTimeout := fromMillis 1
  resultGrace := 0

theorem lookup_singleton_ne {α : Type} {name command : String} {a : α} (h : command ≠ name) :
    (AList.singleton name a : AList fun _ : String => α).lookup command = none :=
  AList.lookup_eq_none.mpr fun hm => h (by simpa [AList.mem_keys, AList.keys_singleton] using hm)

theorem firstRuntime_serves : firstRuntime.Serves (Node.timedRuntime none false) where
  handlers command := by
    by_cases h : command = "echo"
    · subst h
      rfl
    · have hlegacy : firstRuntime.handlers.lookup command = none := lookup_singleton_ne h
      rw [hlegacy]
      exact lookup_singleton_ne h
  admissionPolicy := rfl
  maxInputBytes := rfl
  maxOutputBytes := rfl
  defaultTimeout := rfl
  maxTimeout := rfl
  resultGrace := rfl

/-- Both runtimes answer the echo in one poll. -/
theorem echo_evaluated_alike : ∃ s, (openSystem Node.echoClosures (Node.timedRuntime none false)
    (fun _ => "") {"echo"} Node.echoInvocation).Trace ⟨.tracked, Node.echoWorld, []⟩ [.poll []] s ∧
    s.phase = .done (.success .null) ∧ s.world = Node.echoWorld := by
  have hkeeps := present_runtime_keeps_evaluation Node.echoClosures firstRuntime
    (Node.timedRuntime none false) firstRuntime_serves (fun _ => "") {"echo"} Node.echoInvocation
    (by decide)
  obtain ⟨-, hback⟩ := hkeeps.1 (by decide) Node.echoWorld [.poll []]
  have hfits : serializedJsonWithinLimit (Json.Value.null.serialize fun _ => "")
      firstRuntime.maxOutputBytes = true := by decide
  have hresult : firstRuntime.handlerOutcome (fun _ => "") (1 + 999999) Node.echoWorld
      (.ready (.ok .null)) = (some (.success .null), Node.echoWorld) := by
    simp only [CommandRuntime.handlerOutcome, hfits, if_true]
  have hready : (Node.echoClosures.handler ()).Poll () Node.echoWorld [] (.ready (.ok .null)) ()
      Node.echoWorld := ⟨rfl, rfl, rfl⟩
  have hcall : (Node.echoClosures.handler ()).Call Node.echoInvocation Node.echoWorld []
      (some ()) Node.echoWorld := ⟨rfl, rfl, rfl⟩
  have hpoll : EvaluationPoll Node.echoClosures firstRuntime (fun _ => "") Node.echoInvocation
      .tracked Node.echoWorld ([] ++ []) (.done (.success .null)) Node.echoWorld :=
    .called rfl (by decide) rfl hcall (.result _ _ hready hresult)
  exact hback ⟨.done (.success .null), Node.echoWorld⟩
    ((System.Trace.nil _).snoc ⟨.poll hpoll, fun _ _ _ => ⟨rfl, rfl, rfl⟩⟩)

end OpenclawNode.Legacy
