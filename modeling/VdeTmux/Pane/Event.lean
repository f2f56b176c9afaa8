import VdeTmux.Pane.Record

/-!
# Pane events

What the reducer is given: the events of agents, of the user and of the observation loop, the
capture tracker that lives beside a record, and the context of one reduction.
-/

open Foundation Foundation.Text
namespace VdeTmux.Pane

inductive AgentSessionSource
  | startup
  | resume
  | clear
  | compact
deriving DecidableEq

inductive AgentPresenceObservation
  | present (agent : AgentKind)
  | absent
  | unknown
deriving DecidableEq

inductive CodexModal
  | approval
  | synchronousQuestion
  | trustDirectory
  | startupUpdate
deriving DecidableEq

structure CodexEvidence where
  working : Bool := false
  modal : Option CodexModal := none
  asynchronousQuestion : Bool := false
  transcriptViewer : Bool := false
deriving DecidableEq

inductive CaptureInference
  | permissionWait (reason : WaitReason)
  | usageLimit
  | providerError (reason : String)
  | activityObserved
  | staleRunCompleted
  | noChange
deriving DecidableEq

abbrev Fingerprint := Vector UInt8 32

structure CaptureObservation where
  inference : CaptureInference
  observedFingerprint : Option Fingerprint
  codexScreen : Option CodexEvidence
  codexIdleVerified : Bool
deriving DecidableEq

inductive ProgressOperation
  | setPrompt (prompt : PromptState)
  | clearPrompt
  | taskCreated
  | taskCompleted
  | replaceTasks (progress : TaskProgress) (items : List TaskItemState)
  | upsertTaskItem (id step : String)
  | updateTaskItemStatus (id : String) (status : TaskItemStatus)
  | clearTasks
  | upsertSubagent (subagent : SubagentState)
  | removeSubagent (agentId : String)
  | replaceSubagents (subagents : List SubagentState)
  | clearSubagents
  | setWorktreeActivity (activity : WorktreeActivity)
  | clearWorktreeActivity
  | setBackgroundProcess (process : BackgroundProcessState)
  | clearBackgroundProcess
deriving DecidableEq

inductive ReportedLifecycle
  | running
  | waiting (reason : WaitReason)
  | idle
  | error (reason : Option String)
deriving DecidableEq

inductive FieldUpdate (α : Type)
  | set (value : α)
  | clear
deriving DecidableEq

def FieldUpdate.value {α : Type} (default : α) : FieldUpdate α → α
  | set value => value
  | clear => default

structure ExplicitStateReport where
  observedAt : ℤ
  lifecycle : Option ReportedLifecycle := none
  startedAt : Option ℤ := none
  completedAt : Option ℤ := none
  prompt : Option (FieldUpdate PromptState) := none
  tasks : Option (FieldUpdate TaskProgress) := none
  subagents : Option (FieldUpdate (List SubagentState)) := none
  attention : Bool := false
deriving DecidableEq

/-- The parts of a report that become part of the record pass their own checks. -/
structure ExplicitStateReport.PartsValid (report : ExplicitStateReport) : Prop where
  waiting : ∀ reason, report.lifecycle = some (.waiting reason) → reason.validate = .ok ()
  error : ∀ reason, report.lifecycle = some (.error reason) →
    (LifecycleState.error reason).validateReason = .ok ()
  prompt : ∀ prompt, report.prompt = some (.set prompt) → prompt.validate = .ok ()
  tasks : ∀ progress, report.tasks = some (.set progress) →
    validateTasks ⟨progress, []⟩ = .ok ()
  subagents : ∀ subagents, report.subagents = some (.set subagents) →
    validateSubagents subagents = .ok ()

def CaptureInference.PartsValid : CaptureInference → Prop
  | permissionWait reason => reason.validate = .ok ()
  | providerError reason => (LifecycleState.error (some reason)).validateReason = .ok ()
  | _ => True

def ExplicitStateReport.isSemanticallyEmpty (report : ExplicitStateReport) : Bool :=
  report.lifecycle.isNone && report.startedAt.isNone && report.completedAt.isNone &&
    report.prompt.isNone && report.tasks.isNone && report.subagents.isNone && !report.attention

inductive PaneEvent
  | claudeToolResultObserved (observedAt : ℤ) (result : ClaudeToolResult)
      (operations : List ProgressOperation)
  | claudeTaskNotificationsObserved (observedAt : ℤ)
      (notifications : List ClaudeTaskNotification)
  | claudeStopped (observedAt : ℤ) (response : Option ResponseState)
      (registry : Option (List ClaudeRegistryEntry)) (crons : Option (List ClaudeCron))
  | claudeSessionEnded (observedAt : ℤ)
  | agentSessionStarted (observedAt : ℤ) (source : AgentSessionSource)
      (resumedPrompt : Option PromptState)
  | beginRun (startedAt : ℤ) (prompt : Option PromptState)
  | activityObserved (observedAt : ℤ)
  | activityAndProgressObserved (observedAt : ℤ) (operations : List ProgressOperation)
  | waitRequested (observedAt : ℤ) (reason : WaitReason)
  | completeRun (completedAt : ℤ)
  | responseAndCompleteRun (completedAt : ℤ) (response : ResponseState)
  | failRun (observedAt : ℤ) (reason : Option String)
  | markPaneRead (throughOrder : ℕ)
  | markDone (expected : StateVersion) (completedAt : ℤ)
  | taskSummaryGenerated (expectedStateId : StateId) (expectedAgentEpoch : ℕ)
      (summary : TaskSummaryState)
  | progressUpdated (observedAt : ℤ) (operations : List ProgressOperation)
  | explicitStateReported (report : ExplicitStateReport)
  | observationBatch (base : Option StoredStateDescriptor) (trackerGeneration : ℕ)
      (observedAt : ℤ) (presence : AgentPresenceObservation)
      (capture : Option CaptureObservation) (process : Option ProcessObservation)
  | paneRemoved (expected : Option StoredStateDescriptor)
deriving DecidableEq

namespace PaneEvent

def isExternal : PaneEvent → Bool
  | markPaneRead .. | markDone .. | taskSummaryGenerated .. | observationBatch ..
  | paneRemoved .. => false
  | _ => true

def isSemanticallyEmpty : PaneEvent → Bool
  | progressUpdated _ operations => operations.isEmpty
  | explicitStateReported report => report.isSemanticallyEmpty
  | _ => false

def isClaude : PaneEvent → Bool
  | claudeToolResultObserved .. | claudeTaskNotificationsObserved .. | claudeStopped ..
  | claudeSessionEnded .. => true
  | _ => false

def isCompact : PaneEvent → Bool
  | agentSessionStarted _ .compact _ => true
  | _ => false

def isSessionStart : PaneEvent → Bool
  | agentSessionStarted .. => true
  | _ => false

def isClaudeStopped : PaneEvent → Bool
  | claudeStopped .. => true
  | _ => false

def isClaudeSessionEnded : PaneEvent → Bool
  | claudeSessionEnded .. => true
  | _ => false

def isMarkDone : PaneEvent → Bool
  | markDone .. => true
  | _ => false

def isMarkPaneRead : PaneEvent → Bool
  | markPaneRead .. => true
  | _ => false

/-- The parts of an event pass their own checks, and the timestamps that the record checks are
not negative. -/
def PartsValid : PaneEvent → Prop
  | claudeToolResultObserved observedAt _ _ => 0 ≤ observedAt
  | claudeStopped observedAt response _ _ =>
    0 ≤ observedAt ∧ forSome ResponseState.validate response = .ok ()
  | agentSessionStarted _ _ prompt => forSome PromptState.validate prompt = .ok ()
  | beginRun _ prompt => forSome PromptState.validate prompt = .ok ()
  | waitRequested _ reason => reason.validate = .ok ()
  | responseAndCompleteRun _ response => response.validate = .ok ()
  | failRun _ reason => (LifecycleState.error reason).validateReason = .ok ()
  | explicitStateReported report => report.PartsValid
  | observationBatch _ _ _ _ capture process =>
    (∀ c ∈ capture, c.inference.PartsValid) ∧
      forSome ProcessObservation.validate process = .ok ()
  | _ => True

end PaneEvent

structure PaneEventEnvelope where
  daemonInstanceId : DaemonInstanceId
  eventId : EventId
  paneInstance : PaneInstance
  agent : Option AgentKind
  agentSessionId : Option AgentSessionId
  event : PaneEvent
deriving DecidableEq

structure VisibilitySnapshot where
  paneVisibleToEligibleClient : Bool := false
deriving DecidableEq

structure CodexBindingRejection where
  stateId : StateId
  agentEpoch : ℕ
  process : AgentProcessIdentity
deriving DecidableEq

structure CaptureTrackerSnapshot where
  generation : ℕ := 0
  epoch : Option (StateId × ℕ) := none
  hookAuthoritative : Bool := false
  codexBindingRejected : Option CodexBindingRejection := none
  codexIdleVerifiedAt : Option ℤ := none
  codexScreen : Option (CodexEvidence × ℤ) := none
  codexScreenExpiredAt : Option ℤ := none
  interruptionVerificationPending : Bool := false
  agentProcess : Option AgentProcessIdentity := none
  lastAgentProcess : Option AgentProcessIdentity := none
  absenceCount : ℕ := 0
  replacementKind : Option AgentKind := none
  replacementStreak : ℕ := 0
  fingerprint : Option Fingerprint := none
  lastChangeAt : Option ℤ := none
  lastSemanticScanAt : Option ℤ := none
  rebaselinePending : Bool := false
deriving DecidableEq

structure CaptureTrackerDelta where
  next : CaptureTrackerSnapshot
deriving DecidableEq

structure ReductionContext where
  visibility : VisibilitySnapshot
  tracker : CaptureTrackerSnapshot
  newStateId : Option StateId
  latestUnreadOrder : ℕ
  privateTaskPrompt : Option String
deriving DecidableEq

end VdeTmux.Pane
