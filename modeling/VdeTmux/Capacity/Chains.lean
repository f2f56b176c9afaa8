import VdeTmux.AgentState.RunStore
import VdeTmux.Capacity.Terminal
import VdeTmux.SessionManager.KillServer

/-!
# Chains of automatic prompts

When a turn of Codex ends because its model is at capacity, the daemon may send a prompt to resume
it, and again when that turn ends so. Each pane has a chain of such prompts. What the records of
the panes, the store of runs, the transcript on disk, the screen of the pane and the dispatcher
answer is given from outside; an instant is a number of nanoseconds.
-/

open Foundation VdeTmux.Pane
namespace VdeTmux.Capacity
open AgentState (ExecutionPhase SemanticOutcome)
open QuestionNotice (TranscriptLocator)
open SessionManager (ServerIdentity)

structure AgentBinding where
  serverIdentity : ServerIdentity
  paneInstance : PaneInstance
  paneStateId : StateId
  agentEpoch : ℕ
  agentKind : AgentKind
  providerSessionId : AgentSessionId
  process : AgentProcessIdentity
deriving DecidableEq

structure ProviderEventReference where
  eventRef : String
  ingressRequestId : String
  payloadDigest : String
  disposition : String
  receipt : String
  count : ℕ
  firstObservedAt : ℤ
  lastObservedAt : ℤ
deriving DecidableEq

structure RunEvidenceSummary where
  providerEvents : List ProviderEventReference
  firstObservedAt : Option ℤ
  lastObservedAt : Option ℤ
deriving DecidableEq

structure RunRecord where
  runId : String
  revision : ℕ
  binding : AgentBinding
  providerTurnKey : Option String
  operationId : Option String
  executionPhase : ExecutionPhase
  semanticOutcome : SemanticOutcome
  evidence : RunEvidenceSummary
  updatedAt : ℤ
deriving DecidableEq

structure Runs where
  required : String → Option RunRecord
  required_runId : ∀ {id run}, required id = some run → run.runId = id
  currentRunForBinding : AgentBinding → Option RunRecord
  currentRuns : List RunRecord
  saves : RunRecord → Bool

section
variable [Sha256]

def terminalFailure (run : RunRecord) (turn : String) (observedAt : ℤ) : ProviderEventReference :=
  let digest := sha256Hex (utf8
    (run.binding.providerSessionId.value ++ ":" ++ turn ++ ":task_complete_error"))
  { eventRef := "capacity:" ++ digest
    ingressRequestId := "terminal_failure"
    payloadDigest := digest
    disposition := "provider_overloaded"
    receipt := "terminal_failure"
    count := 1
    firstObservedAt := observedAt
    lastObservedAt := observedAt }

def RunRecord.knows (run : RunRecord) (event : ProviderEventReference) : Bool :=
  run.evidence.providerEvents.any fun known => known.eventRef = event.eventRef

/-- The record of a run that failed for lack of capacity; a revision may run out. -/
def RunRecord.failed (run : RunRecord) (turn : String) (observedAt : ℤ) : Option RunRecord :=
  let event := terminalFailure run turn observedAt
  let changed := !run.knows event || run.executionPhase ≠ .error
  if changed = true ∧ u64Max ≤ run.revision then none
  else some
    { run with
      revision := if changed then run.revision + 1 else run.revision
      updatedAt := if changed then max run.updatedAt observedAt else run.updatedAt
      executionPhase := .error
      evidence :=
        { providerEvents :=
            if run.knows event then run.evidence.providerEvents
            else run.evidence.providerEvents ++ [event]
          firstObservedAt := some (run.evidence.firstObservedAt.getD observedAt)
          lastObservedAt := some (max (run.evidence.lastObservedAt.getD observedAt) observedAt) } }

def capacityFailure (runs : Runs) (id : String) (observedAt : ℤ) : Option RunRecord := do
  let run ← runs.required id
  guard ((runs.currentRunForBinding run.binding).map RunRecord.runId = some id ∧
    run.semanticOutcome = .unresolved ∧ run.executionPhase ≠ .ended)
  let turn ← run.providerTurnKey
  let failed ← run.failed turn observedAt
  guard (runs.saves failed = true)
  some failed

end

structure CapacityConfig where
  enabled : Bool
  prompt : String
deriving DecidableEq

structure BoundTurn where
  locator : TranscriptLocator
  size : ℕ
  eligible : Bool
deriving DecidableEq

structure ReadyFrame where
  digest : Vector UInt8 32
  shape : String
deriving DecidableEq

structure Chain where
  run : RunRecord
  prompt : String
  attempts : ℕ
  due : Option ℕ
  frame : Option ReadyFrame
  failedAt : ℤ
  pending : Option String
  reason : Option String
deriving DecidableEq

structure CapacityState where
  config : CapacityConfig
  bound : Std.ExtTreeMap String BoundTurn
  chains : PaneMap Chain
  lastSend : Option ℕ
  failures : ℕ
  missingLocator : Std.ExtTreeSet String

def CapacityState.new (config : CapacityConfig) : CapacityState :=
  ⟨config, ∅, ∅, none, 0, ∅⟩

namespace CapacityState

def updateChain (state : CapacityState) (pane : PaneInstance) (f : Chain → Chain) :
    CapacityState :=
  match state.chains[pane]? with
  | none => state
  | some chain => { state with chains := state.chains.insert pane (f chain) }

def stop (state : CapacityState) (pane : PaneInstance) (reason : String) : CapacityState :=
  state.updateChain pane fun c => { c with reason := some reason, due := none }

/-- A turn is bound while there is room for it. -/
def bind (state : CapacityState) (runId : String) (turn : BoundTurn) : CapacityState :=
  if state.bound.size < 512 ∨ state.bound.contains runId = true then
    { state with bound := state.bound.insert runId turn }
  else state

end CapacityState

structure Daemon where
  serverIdentity : ServerIdentity
  incarnationHash : String
  daemonInstanceId : DaemonInstanceId
deriving DecidableEq

/-- Whether a record is still the pane, agent, session, process and run a run is bound to. -/
def current (record : PaneState) (run : RunRecord) : Bool :=
  record.agentPresent && record.paneInstance = run.binding.paneInstance &&
    record.stateId = run.binding.paneStateId && record.agentEpoch = run.binding.agentEpoch &&
    record.agentSessionId = some run.binding.providerSessionId &&
    record.agentProcess = some run.binding.process &&
    record.currentRun.any fun r => r.runId = run.runId

def Daemon.binding (daemon : Daemon) (record : PaneState) : Option AgentBinding := do
  let session ← record.agentSessionId
  let process ← record.agentProcess
  some ⟨daemon.serverIdentity, record.paneInstance, record.stateId, record.agentEpoch,
    record.agent, session, process⟩

inductive ProviderHookKind
  | sessionStart
  | userPromptSubmit
  | activity
  | waiting
  | stop
deriving DecidableEq

structure ResolverInput where
  daemonGeneration : Option DaemonInstanceId
  parentOriginVerified : Bool
  locator : Option TranscriptLocator
deriving DecidableEq

structure ProviderObservation where
  hookKind : ProviderHookKind
  providerTurnKey : Option String
  questionResolver : Option ResolverInput
deriving DecidableEq

structure ObserveAnswers where
  record : Option PaneState
  runs : Runs

def observedRun (daemon : Daemon) (answers : ObserveAnswers) (turn : Option String) :
    Option RunRecord := do
  let record ← answers.record
  let binding ← daemon.binding record
  (answers.runs.currentRunForBinding binding).filter fun run => run.providerTurnKey = turn

def Chain.sessionStarted (chain : Chain) : Chain :=
  { chain with
    reason := some
      (if chain.pending.isSome then "session_rollover_after_send" else "session_start")
    due := none }

def Chain.submitted (chain : Chain) (run : RunRecord) : Chain :=
  if chain.reason.isNone = true ∧ run.binding = chain.run.binding ∧
      run.operationId = chain.pending ∧ chain.pending.isSome = true then
    { chain with run := run, pending := none, due := none, frame := none }
  else
    { chain with
      reason := some (chain.reason.getD "session_rollover_after_send")
      due := none }

/-- Whether the run of a prompt may start a chain. -/
def eligible (daemon : Daemon) (metadata : Option ResolverInput) (automatic : Bool) : Bool :=
  metadata.any fun m =>
    m.parentOriginVerified && m.daemonGeneration = some daemon.daemonInstanceId && !automatic

def CapacityState.retain (state : CapacityState) (active : List String) : CapacityState :=
  let keep := ((Maps.values state.chains).filter fun c => c.reason.isNone).map fun c => c.run.runId
  let kept (id : String) : Bool := active.contains id || keep.contains id
  { state with
    bound := state.bound.filter fun id _ => kept id
    missingLocator := state.missingLocator.filter kept }

def observe (daemon : Daemon) (pane : PaneInstance) (observation : ProviderObservation)
    (automatic : Bool) (answers : ObserveAnswers) (state : CapacityState) : CapacityState :=
  match observation.hookKind with
  | .sessionStart => state.updateChain pane Chain.sessionStarted
  | .userPromptSubmit =>
    match observedRun daemon answers observation.providerTurnKey with
    | none => state
    | some run =>
      let active := (answers.runs.currentRuns.filter fun r => r.executionPhase ≠ .ended).map
        RunRecord.runId
      let moved : CapacityState :=
        if automatic = false then { state with chains := state.chains.erase pane }
        else state.updateChain pane fun chain => chain.submitted run
      let kept := moved.retain active
      match (observation.questionResolver.filter fun m => m.parentOriginVerified).bind
          ResolverInput.locator with
      | none => kept
      | some locator =>
        kept.bind run.runId ⟨locator, 0, eligible daemon observation.questionResolver automatic⟩
  | _ => state

/-- The seconds to wait before an attempt, with up to a fifth more. -/
def delay (attempt : Fin 3) (jitter : ℕ) : ℕ :=
  let seconds := #v[60, 120, 300][attempt]
  seconds + jitter % (seconds / 5 + 1)

def seconds (n : ℕ) : ℕ := n * 1000000000

def failureReason : String := "provider_overloaded"

structure CapacitySample where
  pane : PaneInstance
  failureHint : Bool
  working : Bool
  frame : Option (Vector UInt8 32)
deriving DecidableEq

/-- What the rest of the daemon answers while a sample is looked at. -/
structure DetectAnswers where
  record : Option PaneState
  runs : Runs
  recoveredLocator : RunRecord → Option TranscriptLocator
  found : TranscriptLocator → Found
  eventId : EventId
  applied : PaneEventEnvelope → RunRecord → Bool
  supported : AgentProcessIdentity → Bool
  readyFrame : PaneInstance → Except String ReadyFrame

/-- When a sample is looked at, and the random number for its delay. -/
structure Moment where
  now : ℕ
  epoch : ℤ
  random : ℕ
deriving DecidableEq

def sampledRun (daemon : Daemon) (answers : DetectAnswers) : Option (PaneState × RunRecord) := do
  let record ← answers.record
  let binding ← daemon.binding record
  let run ← answers.runs.currentRunForBinding binding
  guard (current record run = true ∧ run.executionPhase ≠ .ended ∧
    run.semanticOutcome = .unresolved)
  some (record, run)

def checkViewport (state : CapacityState) (sample : CapacitySample) : CapacityState :=
  if (state.chains[sample.pane]?).any (fun c =>
      c.reason.isNone && c.due.isSome && c.frame.map ReadyFrame.digest ≠ sample.frame) then
    state.stop sample.pane "viewport_changed"
  else state

def suspect (chain : Option Chain) (sample : CapacitySample) : Bool :=
  sample.failureHint ||
    (chain.any fun c => c.reason.isNone && c.due.isNone && c.pending.isNone) && !sample.working

def lookUpTurn (answers : DetectAnswers) (state : CapacityState) (run : RunRecord) :
    Option BoundTurn × CapacityState :=
  match state.bound[run.runId]? with
  | some turn => (some turn, state)
  | none =>
    if state.missingLocator.contains run.runId = true ∨ 512 ≤ state.missingLocator.size then
      (none, state)
    else
      match answers.recoveredLocator run with
      | none =>
        (none, { state with missingLocator := state.missingLocator.insert run.runId })
      | some locator => (some ⟨locator, 0, false⟩, state)

def failureEvent (daemon : Daemon) (answers : DetectAnswers) (sample : CapacitySample)
    (run : RunRecord) (epoch : ℤ) : PaneEventEnvelope where
  daemonInstanceId := daemon.daemonInstanceId
  eventId := answers.eventId
  paneInstance := sample.pane
  agent := some run.binding.agentKind
  agentSessionId := some run.binding.providerSessionId
  event := .failRun epoch (some failureReason)

/-- Whether a failure is one to resume: of the chain of its pane, or of a prompt of the user. -/
def resumable (state : CapacityState) (pane : PaneInstance) (failed : RunRecord)
    (turn : BoundTurn) : Bool :=
  state.config.enabled &&
    ((state.chains[pane]?).any (fun c => c.reason.isNone && c.run.runId = failed.runId) ||
      turn.eligible)

def CapacityConfig.chainPrompt (config : CapacityConfig) : String :=
  String.ofList (config.prompt.toList.rdropWhile fun c => c = '\n')

def openChain (state : CapacityState) (pane : PaneInstance) (failed : RunRecord)
    (turn : BoundTurn) (epoch : ℤ) : CapacityState :=
  if state.chains.contains pane = true ∨ turn.eligible = false then state
  else
    let cleared : CapacityState :=
      if 512 ≤ state.chains.size then
        { state with chains := state.chains.filter fun _ c => c.reason.isNone }
      else state
    if cleared.chains.size < 512 then
      { cleared with
        chains := cleared.chains.insert pane
          ⟨failed, state.config.chainPrompt, 0, none, none, epoch, none, none⟩ }
    else cleared

def Chain.schedule (chain : Chain) (failed : RunRecord) (frame : Except String ReadyFrame)
    (moment : Moment) : Chain :=
  if chain.reason.isSome = true ∨ chain.run.runId ≠ failed.runId then chain
  else if h : chain.attempts < 3 then
    match frame with
    | .ok frame =>
      { chain with
        run := failed
        failedAt := moment.epoch
        frame := some frame
        due := some (moment.now + seconds (delay ⟨chain.attempts, h⟩ moment.random)) }
    | .error reason =>
      { chain with run := failed, failedAt := moment.epoch, reason := some reason }
  else
    { chain with run := failed, failedAt := moment.epoch, reason := some "attempt_limit" }

section
variable [Sha256] [FromSlice]

def resume (answers : DetectAnswers) (moment : Moment) (state : CapacityState)
    (pane : PaneInstance) (failed : RunRecord) (turn : BoundTurn) : CapacityState :=
  let counted : CapacityState := { state with failures := min (state.failures + 1) u64Max }
  if resumable counted pane failed turn = false then counted
  else
    let frame :=
      if answers.supported failed.binding.process = true then answers.readyFrame pane
      else .error "unsupported_codex_version"
    (openChain counted pane failed turn moment.epoch).updateChain pane fun c =>
      c.schedule failed frame moment

def failRun (daemon : Daemon) (answers : DetectAnswers) (moment : Moment) (state : CapacityState)
    (sample : CapacitySample) (record : PaneState) (run : RunRecord) (turn : BoundTurn) :
    CapacityState :=
  if run.executionPhase = .error ∧ record.lifecycle = .error (some failureReason) then state
  else
    match capacityFailure answers.runs run.runId moment.epoch with
    | none => state
    | some failed =>
      if answers.applied (failureEvent daemon answers sample run moment.epoch) failed = false then
        state
      else resume answers moment state sample.pane failed turn

def judge (daemon : Daemon) (answers : DetectAnswers) (moment : Moment) (state : CapacityState)
    (sample : CapacitySample) (record : PaneState) (run : RunRecord) (turn : BoundTurn) :
    Except String TerminalOutcome → CapacityState
  | .ok .otherError => state.stop sample.pane "other_error"
  | .ok .success => state.stop sample.pane "completed"
  | .ok .pending => state
  | .error _ => state.stop sample.pane "transcript_invalid"
  | .ok .capacity => failRun daemon answers moment state sample record run turn

def readTranscript (daemon : Daemon) (answers : DetectAnswers) (moment : Moment)
    (state : CapacityState) (sample : CapacitySample) (record : PaneState) (run : RunRecord)
    (key : String) : CapacityState :=
  match lookUpTurn answers state run with
  | (none, looked) => looked
  | (some turn, looked) =>
    let terminal := readTerminal turn.locator (answers.found turn.locator) key turn.size
    let read : BoundTurn := ⟨turn.locator, terminal.2, turn.eligible⟩
    judge daemon answers moment (looked.bind run.runId read) sample record run read terminal.1

def detectSample (daemon : Daemon) (answers : DetectAnswers) (moment : Moment)
    (sample : CapacitySample) (state : CapacityState) : CapacityState :=
  match sampledRun daemon answers with
  | none => state
  | some (record, run) =>
    let seen := checkViewport state sample
    if suspect state.chains[sample.pane]? sample = false then seen
    else
      match run.providerTurnKey with
      | none => seen
      | some key => readTranscript daemon answers moment seen sample record run key

def detect (daemon : Daemon) (moment : Moment)
    (samples : List (CapacitySample × DetectAnswers)) (state : CapacityState) : CapacityState :=
  samples.foldl (fun state s => detectSample daemon s.2 moment s.1 state) state

end

inductive DispatchState
  | prepared
  | dispatchStarted
  | promptConfirmed
  | deliveryUnknown
  | rejected
deriving DecidableEq

/-- What the candidate for a recovery is verified with once more before it is sent. -/
structure RecoveryCandidate where
  failed : RunRecord
  locator : TranscriptLocator
  size : ℕ
  frame : ReadyFrame
  failedAt : ℤ
deriving DecidableEq

structure PromptRequest where
  target : String
  operationId : String
  prompt : String
  promptDigest : String
  candidate : RecoveryCandidate
  epoch : ℤ
deriving DecidableEq

inductive PromptResponse
  | agentPromptResult (dispatchState : DispatchState)
  | promptDispatchBusy
  | error
  | other
deriving DecidableEq

/-- What the rest of the daemon answers while the chain of a pane is looked at. -/
structure TickAnswers where
  record : Option PaneState
  loadOperation : String → Option DispatchState
  operationId : String
  respond : PromptRequest → PromptResponse
  dispatchClock : ℕ

/-- A prompt handed to the dispatcher, when it was decided on and when it was answered. -/
structure Dispatch where
  request : PromptRequest
  response : PromptResponse
  now : ℕ
  clock : ℕ
deriving DecidableEq

def CapacityState.intervalReady (state : CapacityState) (now : ℕ) : Bool :=
  state.lastSend.all fun last => seconds 2 ≤ now - last

/-- What the state of its operation means for a chain that waits for the prompt to come back. -/
def awaitConfirmation (state : CapacityState) (pane : PaneInstance) :
    Option DispatchState → CapacityState
  | some .dispatchStarted => state
  | some .promptConfirmed => state.stop pane "session_rollover_after_send"
  | some .deliveryUnknown => state.stop pane "delivery_unknown"
  | _ => state.stop pane "dispatch_rejected"

def awaitEnd (state : CapacityState) (pane : PaneInstance) : LifecycleState → CapacityState
  | .idle => state.stop pane "completed"
  | .error _ => state.stop pane "other_error"
  | _ => state

section
variable [Sha256]

def targetRef (daemon : Daemon) (pane : PaneInstance) (run : RunRecord) : String :=
  ":".intercalate ["vta1", daemon.incarnationHash,
    String.ofList (pane.paneId.toList.dropWhile fun c => c = '%'), toString pane.panePid,
    run.binding.paneStateId.value, toString run.binding.agentEpoch,
    toString run.binding.process.pid, sha256Hex (utf8 run.binding.process.startToken)]

def digestDecodedPrompt (prompt : String) : String :=
  sha256Hex (utf8 ("vde-tmux:prompt:v1" ++ String.singleton '\x00' ++ prompt))

def promptRequest (daemon : Daemon) (pane : PaneInstance) (chain : Chain) (turn : BoundTurn)
    (frame : ReadyFrame) (operationId : String) (epoch : ℤ) : PromptRequest where
  target := targetRef daemon pane chain.run
  operationId := operationId
  prompt := chain.prompt
  promptDigest := digestDecodedPrompt chain.prompt
  candidate := ⟨chain.run, turn.locator, turn.size, frame, chain.failedAt⟩
  epoch := epoch

def PromptResponse.isResult : PromptResponse → Bool
  | .agentPromptResult _ => true
  | _ => false

def Chain.answered (chain : Chain) (operationId : String) : PromptResponse → Chain
  | .agentPromptResult dispatchState =>
    { chain with
      attempts := chain.attempts + 1
      due := none
      pending := some operationId
      reason :=
        if dispatchState = .rejected then some "dispatch_rejected"
        else if dispatchState = .deliveryUnknown then some "delivery_unknown"
        else chain.reason }
  | .promptDispatchBusy => { chain with reason := some "binding_ambiguous", due := none }
  | .error | .other => { chain with reason := some "dispatch_rejected", due := none }

def answer (state : CapacityState) (pane : PaneInstance) (operationId : String)
    (response : PromptResponse) (clock : ℕ) : CapacityState :=
  if state.chains.contains pane = false then state
  else
    let clocked : CapacityState :=
      if response.isResult = true then { state with lastSend := some clock } else state
    clocked.updateChain pane fun c => c.answered operationId response

def sendDue (daemon : Daemon) (answers : TickAnswers) (now : ℕ) (epoch : ℤ)
    (pane : PaneInstance) (chain : Chain) (state : CapacityState) :
    CapacityState × Option Dispatch :=
  match state.bound[chain.run.runId]? with
  | none => (state.stop pane "locator_unavailable", none)
  | some turn =>
    match chain.frame with
    | none => (state.stop pane "frame_unavailable", none)
    | some frame =>
      let request := promptRequest daemon pane chain turn frame answers.operationId epoch
      let response := answers.respond request
      (answer state pane answers.operationId response answers.dispatchClock,
        some ⟨request, response, now, answers.dispatchClock⟩)

def tickChain (daemon : Daemon) (answers : TickAnswers) (now : ℕ) (epoch : ℤ)
    (pane : PaneInstance) (chain : Chain) (state : CapacityState) :
    CapacityState × Option Dispatch :=
  if chain.reason.isSome = true then (state, none)
  else
    match answers.record.filter fun record => current record chain.run with
    | none => (state.stop pane "agent_identity_changed", none)
    | some record =>
      if state.config.enabled = false then (state.stop pane "disabled", none)
      else
        match chain.pending, chain.due with
        | some id, _ => (awaitConfirmation state pane (answers.loadOperation id), none)
        | none, none => (awaitEnd state pane record.lifecycle, none)
        | none, some due =>
          if state.intervalReady now = false ∨ now < due then (state, none)
          else sendDue daemon answers now epoch pane chain state

def tickTurn (daemon : Daemon) (answers : PaneInstance → TickAnswers) (now : ℕ) (epoch : ℤ)
    (done : CapacityState × List Dispatch) (entry : PaneInstance × Chain) :
    CapacityState × List Dispatch :=
  let turned := tickChain daemon (answers entry.1) now epoch entry.1 entry.2 done.1
  (turned.1, done.2 ++ turned.2.toList)

/-- The chains are those at the beginning of the loop. -/
def tick (daemon : Daemon) (answers : PaneInstance → TickAnswers) (now : ℕ) (epoch : ℤ)
    (state : CapacityState) : CapacityState × List Dispatch :=
  state.chains.toList.foldl (tickTurn daemon answers now epoch) (state, [])

end

end VdeTmux.Capacity
