import VdeTmux.Pane.Event

/-!
# The pane reducer

One event is reduced against the record of its pane. A branch of the reducer ends either without
a new record or with a record and a tracker to finish with; finishing gives the revision, the
check and the outcome, and a changed record then passes through the unread transition and is
checked once more.
-/

open Foundation Foundation.Text
namespace VdeTmux.Pane

inductive ReductionOutcome
  | noop
  | trackerOnly
  | canonicalChanged
deriving DecidableEq

structure Reduction where
  record : Option PaneState
  trackerDelta : Option CaptureTrackerDelta
  outcome : ReductionOutcome
deriving DecidableEq

def Reduction.unchanged (current : Option PaneState) : Reduction := ⟨current, none, .noop⟩

inductive ReduceError
  | invalidRequest (message : String)
  | invalidPaneInstance
  | staleStateIdentity
  | staleSelection
  | staleAgentEvent
  | invalidProgressOperation (message : String)
  | stateInvariantViolation (message : String)
  | counterOverflow (counter : String)
  | missingStateId
deriving DecidableEq

inductive EpochSource
  | explicit
  | process
  | processVerifiedExplicitHandover
deriving DecidableEq

inductive ExistingIdentity
  | exactPresent
  | exactAbsent
  | unboundPresent
  | unboundAbsent
  | mismatchPresent
  | mismatchAbsent
deriving DecidableEq

/-! ## Runs -/

def openRun (state : PaneState) (runSeq : ℕ) (startedAt : ℤ) : PaneState :=
  { state with
    runSeq := runSeq
    currentRun := none
    startedAt := some startedAt
    prompt := none
    latestResponse := none
    tasks := {}
    subagents := []
    worktreeActivity := none
    claudeBackground := {} }

def startNewRun (state : PaneState) (startedAt : ℤ) : Except ReduceError PaneState := do
  if state.runSeq = state.completedSeq then
    let runSeq ← increment u64Max (.counterOverflow "run sequence") state.runSeq
    return { openRun state runSeq startedAt with syntheticCompletionArmed := false }
  else
    return { state with syntheticCompletionArmed := false }

def activityObserved (state : PaneState) (observedAt : ℤ) : Except ReduceError PaneState := do
  let state ← startNewRun state observedAt
  return { state with lifecycle := .running, claudeBackground := state.claudeBackground.activity }

def waitRequested (state : PaneState) (observedAt : ℤ) (reason : WaitReason) :
    Except ReduceError PaneState := do
  let state ← startNewRun state observedAt
  return { state with lifecycle := .waiting reason }

def failRun (state : PaneState) (observedAt : ℤ) (reason : Option String) :
    Except ReduceError PaneState := do
  let state ← startNewRun state observedAt
  return { state with lifecycle := .error reason }

/-- The prompt and the task context of a run that begins. A private prompt never reaches the
record's own prompt. -/
def recordPrompt [Sha256] (state : PaneState) (prompt : Option PromptState)
    (privateTaskPrompt : Option String) (startsNewRun : Bool) (reference : Option String) :
    PaneState :=
  match privateTaskPrompt with
  | some text =>
    { state with
      prompt := none
      taskContext :=
        if startsNewRun then state.taskContext.observePrivatePromptWithReference text reference
        else state.taskContext.observePrivatePrompt text }
  | none =>
    { state with
      prompt := prompt
      taskContext :=
        match prompt with
        | none => state.taskContext
        | some prompt =>
          if startsNewRun then state.taskContext.observePromptWithReference prompt.text reference
          else state.taskContext.observePrompt prompt.text }

def beginRun [Sha256] (state : PaneState) (startedAt : ℤ) (prompt : Option PromptState)
    (privateTaskPrompt : Option String) : Except ReduceError PaneState := do
  let startsNewRun := decide (state.runSeq = state.completedSeq)
  let reference := if startsNewRun then state.latestResponse.map (·.text) else none
  let state ← activityObserved state startedAt
  return recordPrompt state prompt privateTaskPrompt startsNewRun reference

def closeRun (state : PaneState) (completedAt : ℤ) : PaneState :=
  { state with
    completedSeq := state.runSeq
    lifecycle := .idle
    completedAt := some completedAt
    syntheticCompletionArmed := false
    subagents := []
    claudeBackground := {}
    worktreeActivity := none }

/-- A parent may stop its turn while subagents or background tasks go on; the run then stays
open until a later stop. -/
def completeRun (state : PaneState) (completedAt : ℤ) (allowUnarmedSynthetic : Bool) :
    PaneState :=
  if state.subagents ≠ [] ∨ state.claudeBackground.tasks ≠ [] ∨
      state.claudeBackground.blocksCompletion = true then state
  else if state.runSeq = 0 then
    if state.syntheticCompletionArmed = false ∧ allowUnarmedSynthetic = false then state
    else closeRun { state with runSeq := 1, startedAt := some completedAt } completedAt
  else if state.runSeq = state.completedSeq then state
  else closeRun state completedAt

def completeRunWithResponse (state : PaneState) (completedAt : ℤ) (response : ResponseState)
    (allowUnarmedSynthetic : Bool) : Except ReduceError PaneState := do
  response.validate.mapError fun error => .invalidRequest error.message
  let completed := completeRun state completedAt allowUnarmedSynthetic
  if state.completedSeq < completed.completedSeq then
    return { completed with latestResponse := some response }
  else
    return completed

def markDone (state : PaneState) (completedAt : ℤ) : Except ReduceError PaneState := do
  let runSeq ←
    if state.runSeq = state.completedSeq then
      increment u64Max (.counterOverflow "run sequence") state.runSeq
    else pure state.runSeq
  return { state with
    runSeq := runSeq
    startedAt := if state.runSeq = state.completedSeq then some completedAt else state.startedAt
    completedSeq := runSeq
    lifecycle := .idle
    completedAt := some completedAt
    syntheticCompletionArmed := false
    tasks := {}
    latestResponse :=
      if state.claudeBackground.tasks ≠ [] ∨ state.claudeBackground.blocksCompletion = true then
        none
      else state.latestResponse
    claudeBackground := {}
    subagents := []
    worktreeActivity := none }

/-- The unread state a new epoch takes over: an unread wait or error counts as read. -/
def epochUnread (unread : UnreadState) : UnreadState :=
  if unread.isUnread = true ∧
      ∃ latest ∈ unread.latest, latest.reason = .waiting ∨ latest.reason = .error then
    { unread with readSeq := unread.occurrenceSeq }
  else unread

def beginAgentEpoch (state : PaneState) (agent : AgentKind) (session : Option AgentSessionId)
    (source : EpochSource) : Except ReduceError PaneState := do
  let agentEpoch ← increment u64Max (.counterOverflow "agent epoch") state.agentEpoch
  return { state with
    unread := epochUnread state.unread
    agentEpoch := agentEpoch
    agent := agent
    agentSessionId := session
    agentProcess := none
    agentPresent := true
    scanVerified :=
      match source with
      | .explicit => false
      | .process | .processVerifiedExplicitHandover => true
    syntheticCompletionArmed := false
    lifecycle := .idle
    runSeq := 0
    currentRun := none
    completedSeq := 0
    startedAt := none
    completedAt := none
    prompt := none
    latestResponse := none
    taskContext := {}
    tasks := {}
    subagents := []
    worktreeActivity := none
    backgroundProcess := none
    claudeBackground := {}
    claudeCrons := {}
    listeningPorts := [] }

/-! ## Progress -/

def deriveTaskProgress (tasks : TaskState) : TaskState :=
  if tasks.items.isEmpty then tasks
  else { tasks with progress := ⟨completedCount tasks.items, tasks.items.length⟩ }

def validateProgressOperation : ProgressOperation → Except ModelError Unit
  | .setPrompt prompt => prompt.validate
  | .replaceTasks progress items => validateTasks (deriveTaskProgress ⟨progress, items⟩)
  | .upsertTaskItem id step => do
    validateRequiredText id "task item ID" identifierMaxBytes
    validateRequiredText step "task step" bodyMaxBytes
  | .updateTaskItemStatus id _ => validateRequiredText id "task item ID" identifierMaxBytes
  | .upsertSubagent subagent => validateSubagents [subagent]
  | .removeSubagent agentId => validateRequiredText agentId "subagent ID" identifierMaxBytes
  | .replaceSubagents subagents => validateSubagents subagents
  | .setWorktreeActivity activity => validateWorktreeActivity activity
  | .setBackgroundProcess process => process.validate
  | _ => .ok ()

def upsertTaskItem (items : List TaskItemState) (id step : String) : List TaskItemState :=
  let matching := fun item : TaskItemState => decide (item.id = some id)
  if items.any matching then
    updateFirst matching (fun item => { item with step := step, status := .pending }) items
  else items ++ [⟨some id, step, .pending⟩]

def upsertSubagent (subagents : List SubagentState) (subagent : SubagentState) :
    List SubagentState :=
  let matching := fun existing : SubagentState => decide (existing.agentId = subagent.agentId)
  if subagents.any matching then updateFirst matching (fun _ => subagent) subagents
  else subagents ++ [subagent]

def applyProgressOperation (state : PaneState) :
    ProgressOperation → Except ReduceError PaneState
  | .setPrompt prompt => .ok { state with prompt := some prompt }
  | .clearPrompt => .ok { state with prompt := none }
  | .taskCreated => do
    let total ← increment u64Max (.counterOverflow "task total") state.tasks.progress.total
    return { state with tasks := ⟨⟨state.tasks.progress.done, total⟩, []⟩ }
  | .taskCompleted => do
    let done ← increment u64Max (.counterOverflow "task completed") state.tasks.progress.done
    refuse (state.tasks.progress.total < done)
      (.invalidProgressOperation "task completion exceeds total")
    return { state with tasks := ⟨⟨done, state.tasks.progress.total⟩, []⟩ }
  | .replaceTasks progress items =>
    .ok { state with tasks := deriveTaskProgress ⟨progress, items⟩ }
  | .upsertTaskItem id step =>
    .ok { state with
      tasks := deriveTaskProgress
        { state.tasks with items := upsertTaskItem state.tasks.items id step } }
  | .updateTaskItemStatus id status =>
    if state.tasks.items.any fun item => item.id = some id then
      .ok { state with
        tasks := deriveTaskProgress
          { state.tasks with
            items := updateFirst (fun item => decide (item.id = some id))
              (fun item => { item with status := status }) state.tasks.items } }
    else .error (.invalidProgressOperation ("unknown task item ID " ++ id.quote))
  | .clearTasks => .ok { state with tasks := {} }
  | .upsertSubagent subagent =>
    .ok { state with subagents := upsertSubagent state.subagents subagent }
  | .removeSubagent agentId =>
    .ok { state with
      subagents := state.subagents.filter fun subagent => subagent.agentId ≠ agentId }
  | .replaceSubagents subagents => .ok { state with subagents := subagents }
  | .clearSubagents => .ok { state with subagents := [] }
  | .setWorktreeActivity activity => .ok { state with worktreeActivity := some activity }
  | .clearWorktreeActivity => .ok { state with worktreeActivity := none }
  | .setBackgroundProcess process => .ok { state with backgroundProcess := some process }
  | .clearBackgroundProcess => .ok { state with backgroundProcess := none }

def applyOperations (state : PaneState) :
    List ProgressOperation → Except ReduceError PaneState
  | [] => .ok state
  | operation :: rest => do
    (validateProgressOperation operation).mapError fun error =>
      .invalidProgressOperation error.message
    let state ← applyProgressOperation state operation
    applyOperations state rest

def validateProgress (state : PaneState) : Except ModelError Unit := do
  validateTasks state.tasks
  validateSubagents state.subagents
  forSome BackgroundProcessState.validate state.backgroundProcess

def applyProgress (state : PaneState) (operations : List ProgressOperation) :
    Except ReduceError PaneState := do
  let state ← applyOperations state operations
  (validateProgress state).mapError fun error => .invalidProgressOperation error.message
  return state

/-! ## Claude background results -/

def registerTask (background : ClaudeBackgroundState) (runSeq : ℕ)
    (taskId toolUseId command : String) (observedAt : ℤ) : ClaudeBackgroundState :=
  match background.tasks.find? fun task => task.taskId = taskId with
  | some task =>
    if task.toolUseId ≠ toolUseId ∨ task.command ≠ command then
      background.fault "await_identity_conflict" taskId
    else background
  | none =>
    if background.tasks.any fun task => task.toolUseId = toolUseId then
      background.fault "await_identity_conflict" taskId
    else if maxBackgroundTasks ≤ background.tasks.length then
      background.fault overflowReason "overflow"
    else
      background.register ⟨taskId, toolUseId, runSeq, command, observedAt, .pending, none,
        .unknown, none⟩

def applyClaudeToolResult (state : PaneState) (result : ClaudeToolResult) (observedAt : ℤ) :
    Except ReduceError PaneState :=
  match result with
  | .registered taskId toolUseId command => do
    refuse (validBackgroundId taskId = false ∨ validBackgroundId toolUseId = false ∨
        command = "" ∨ bodyMaxBytes < byteLen command)
      (.invalidRequest "invalid background registration")
    return { state with
      claudeBackground := (registerTask state.claudeBackground state.runSeq taskId toolUseId
        command observedAt).confirmLaunch toolUseId }
  | .launchUnconfirmed toolUseId => do
    refuse (validBackgroundId toolUseId = false) (.invalidRequest "invalid tool-use ID")
    return { state with
      claudeBackground := state.claudeBackground.fault "await_launch_unconfirmed" toolUseId }
  | .taskStopped taskId command =>
    .ok { state with claudeBackground := state.claudeBackground.cancel taskId command }

def notificationActivity (state : PaneState) (observedAt : ℤ) : Except ReduceError PaneState :=
  let resumes :=
    match state.lifecycle with
    | .running | .idle => true
    | .error (some reason) => state.claudeBackground.faults.any fun fault => fault.reason = reason
    | _ => false
  if resumes then activityObserved state observedAt
  else .ok { state with claudeBackground := state.claudeBackground.activity }

def applyClaudeNotifications (state : PaneState) (observedAt : ℤ)
    (notifications : List ClaudeTaskNotification) : Except ReduceError PaneState := do
  let state ← notificationActivity state observedAt
  refuse (notifications = [] ∨ maxBackgroundTasks < notifications.length)
    (.invalidRequest "invalid notification count")
  return { state with
    claudeBackground :=
      notifications.foldl ClaudeBackgroundState.observeNotification state.claudeBackground }

def cronSnapshot (crons : Option (List ClaudeCron)) (observedAt : ℤ) : ClaudeCronSnapshot :=
  let snapshot : ClaudeCronSnapshot := ⟨crons.getD [], crons.map fun _ => observedAt⟩
  if snapshot.validate = .ok () then snapshot else {}

def blockedLifecycle (background : ClaudeBackgroundState) : LifecycleState :=
  match background.shownFault with
  | some fault => .error (some fault.reason)
  | none => .running

def checkStop (state : PaneState) (observedAt : ℤ) (registry : Option (List ClaudeRegistryEntry))
    (crons : Option (List ClaudeCron)) : PaneState :=
  { state with
    claudeBackground := state.claudeBackground.checkRegistry registry observedAt
    claudeCrons := cronSnapshot crons observedAt }

def releaseStop (state : PaneState) (observedAt : ℤ) (response : Option ResponseState)
    (initial : Bool) : Except ReduceError PaneState :=
  match response with
  | some response => completeRunWithResponse state observedAt response initial
  | none =>
    let completed := completeRun state observedAt initial
    if state.completedSeq < completed.completedSeq then
      .ok { completed with latestResponse := none }
    else .ok completed

def applyClaudeStop (state : PaneState) (observedAt : ℤ) (response : Option ResponseState)
    (registry : Option (List ClaudeRegistryEntry)) (crons : Option (List ClaudeCron))
    (initial : Bool) : Except ReduceError PaneState :=
  let state := checkStop state observedAt registry crons
  if state.claudeBackground.blocksCompletion then
    .ok { state with
      lifecycle := blockedLifecycle state.claudeBackground
      claudeBackground := state.claudeBackground.pause observedAt }
  else if state.subagents ≠ [] then .ok state
  else releaseStop { state with claudeBackground := {} } observedAt response initial

def backgroundOpen (state : PaneState) : Bool :=
  state.claudeBackground.tasks ≠ [] || state.claudeBackground.blocksCompletion

def endClaudeTracking (state : PaneState) : PaneState :=
  if backgroundOpen state then
    { state with
      claudeBackground := ({} : ClaudeBackgroundState).fault agentEndedReason "session"
      claudeCrons := {}
      lifecycle :=
        if state.lifecycle.isUsageLimited then state.lifecycle
        else .error (some agentEndedReason) }
  else { state with claudeBackground := {}, claudeCrons := {} }

/-! ## Explicit events -/

def applyAgentSessionStarted [Sha256] (state : PaneState) (source : AgentSessionSource)
    (resumedPrompt : Option PromptState) : PaneState :=
  let prompt := if source = .resume then resumedPrompt else none
  { state with
    prompt := prompt
    taskContext :=
      match prompt with
      | none => state.taskContext
      | some prompt => state.taskContext.observePrompt prompt.text }

def applyReportFields (state : PaneState) (report : ExplicitStateReport) : PaneState :=
  { state with
    prompt :=
      match report.prompt with
      | none => state.prompt
      | some (.set prompt) => some prompt
      | some .clear => none
    tasks :=
      match report.tasks with
      | none => state.tasks
      | some (.set progress) => ⟨progress, []⟩
      | some .clear => {}
    subagents :=
      match report.subagents with
      | none => state.subagents
      | some (.set subagents) => subagents
      | some .clear => [] }

def applyReportLifecycle (state : PaneState) (report : ExplicitStateReport) :
    Except ReduceError PaneState :=
  match report.lifecycle with
  | some .running => activityObserved state (report.startedAt.getD report.observedAt)
  | some (.waiting reason) => waitRequested state report.observedAt reason
  | some .idle =>
    if state.completedSeq < state.runSeq ∨ (state.syntheticCompletionArmed = true ∧
        state.runSeq = 0 ∧ (report.completedAt.isSome = true ∨ report.attention = true)) then
      .ok (completeRun state (report.completedAt.getD report.observedAt) false)
    else .ok state
  | some (.error reason) => failRun state report.observedAt reason
  | none => .ok state

def applyExplicitReport (state : PaneState) (report : ExplicitStateReport) :
    Except ReduceError PaneState := do
  let state ← applyReportLifecycle state report
  return applyReportFields state report

def applyRegularExplicitEvent [Sha256] (state : PaneState) (event : PaneEvent)
    (privateTaskPrompt : Option String) : Except ReduceError PaneState :=
  match event with
  | .claudeToolResultObserved observedAt result operations => do
    let state ← activityObserved state observedAt
    let state ← applyProgress state operations
    applyClaudeToolResult state result observedAt
  | .claudeTaskNotificationsObserved observedAt notifications =>
    applyClaudeNotifications state observedAt notifications
  | .claudeStopped observedAt response registry crons =>
    applyClaudeStop state observedAt response registry crons false
  | .claudeSessionEnded _ => .ok (endClaudeTracking state)
  | .agentSessionStarted _ source resumedPrompt =>
    .ok (applyAgentSessionStarted state source resumedPrompt)
  | .beginRun startedAt prompt => beginRun state startedAt prompt privateTaskPrompt
  | .activityObserved observedAt => activityObserved state observedAt
  | .activityAndProgressObserved observedAt operations => do
    let state ← activityObserved state observedAt
    applyProgress state operations
  | .waitRequested observedAt reason => waitRequested state observedAt reason
  | .completeRun completedAt => .ok (completeRun state completedAt false)
  | .responseAndCompleteRun completedAt response =>
    completeRunWithResponse state completedAt response false
  | .failRun observedAt reason => failRun state observedAt reason
  | .progressUpdated _ operations => applyProgress state operations
  | .explicitStateReported report => applyExplicitReport state report
  | .markPaneRead .. | .markDone .. | .taskSummaryGenerated .. | .observationBatch ..
  | .paneRemoved .. => .error (.invalidRequest "event is not an explicit agent event")

def applyInitialExplicitEvent [Sha256] (state : PaneState) (event : PaneEvent)
    (privateTaskPrompt : Option String) : Except ReduceError PaneState :=
  match event with
  | .claudeStopped observedAt response registry crons =>
    applyClaudeStop state observedAt response registry crons true
  | .completeRun completedAt => .ok (completeRun state completedAt true)
  | .responseAndCompleteRun completedAt response =>
    completeRunWithResponse state completedAt response true
  | .explicitStateReported report =>
    if report.lifecycle = some .idle then
      .ok (applyReportFields
        (completeRun state (report.completedAt.getD report.observedAt) true) report)
    else applyRegularExplicitEvent state event privateTaskPrompt
  | event => applyRegularExplicitEvent state event privateTaskPrompt

def classifyIdentity (state : PaneState) (agent : AgentKind) (session : AgentSessionId) :
    ExistingIdentity :=
  if state.agent = agent then
    match state.agentSessionId, state.agentPresent with
    | some current, true => if current = session then .exactPresent else .mismatchPresent
    | some current, false => if current = session then .exactAbsent else .mismatchAbsent
    | none, true => .unboundPresent
    | none, false => .unboundAbsent
  else if state.agentPresent then .mismatchPresent
  else .mismatchAbsent

def isEpochStartEvidence : PaneEvent → Bool
  | .claudeToolResultObserved .. | .claudeTaskNotificationsObserved .. | .agentSessionStarted ..
  | .beginRun .. | .activityObserved .. | .activityAndProgressObserved .. | .waitRequested ..
  | .failRun .. => true
  | .explicitStateReported report =>
    match report.lifecycle with
    | some .running | some (.waiting _) | some (.error _) => true
    | _ => false
  | _ => false

def isCompletion : PaneEvent → Bool
  | .completeRun .. | .responseAndCompleteRun .. | .claudeStopped .. => true
  | .explicitStateReported report =>
    report.lifecycle = some .idle && (report.completedAt.isSome || report.attention)
  | _ => false

def isCompletionForState (state : PaneState) (event : PaneEvent) : Bool :=
  match event with
  | .completeRun .. | .responseAndCompleteRun .. | .claudeStopped .. => true
  | .explicitStateReported report =>
    report.lifecycle = some .idle &&
      (state.completedSeq < state.runSeq ||
        (state.syntheticCompletionArmed && isCompletion event))
  | _ => false

def canCreateFromExplicit (event : PaneEvent) : Bool :=
  isEpochStartEvidence event || isCompletion event

def isInterruption : PaneEvent → Bool
  | .failRun .. => true
  | .waitRequested _ reason => reason.isUsageLimit
  | _ => false

/-- An interruption of a session whose runs are all completed waits for a look at the terminal. -/
def interruptionNeedsTerminalVerification (state : PaneState) (identity : ExistingIdentity)
    (event : PaneEvent) : Bool :=
  state.agent.value = "claude" && (identity = .exactPresent || identity = .exactAbsent) &&
    0 < state.completedSeq && state.runSeq = state.completedSeq && isInterruption event

/-! ## The capture tracker -/

def trackerMatchesState (tracker : CaptureTrackerSnapshot) (state : PaneState) : Bool :=
  tracker.epoch = some (state.stateId, state.agentEpoch)

def resetTrackerForState (tracker : CaptureTrackerSnapshot) (state : PaneState) :
    CaptureTrackerSnapshot :=
  { generation := tracker.generation
    epoch := some (state.stateId, state.agentEpoch)
    lastAgentProcess := state.agentProcess }

def bumpTracker (tracker : CaptureTrackerSnapshot) :
    Except ReduceError CaptureTrackerSnapshot := do
  let generation ←
    increment u64Max (.counterOverflow "capture tracker generation") tracker.generation
  return { tracker with generation := generation }

def checkedProcess (process : Option ProcessObservation) : Option AgentProcessIdentity :=
  (process.filter (·.agentProcessChecked)).bind (·.agentProcess)

def observedTracker (tracker : CaptureTrackerSnapshot) (state : PaneState)
    (process lastProcess : Option AgentProcessIdentity) (capture : Option CaptureObservation)
    (observedAt : ℤ) : CaptureTrackerSnapshot :=
  let fingerprint := capture.bind (·.observedFingerprint)
  { resetTrackerForState tracker state with
    agentProcess := process
    lastAgentProcess := lastProcess
    fingerprint := fingerprint
    lastChangeAt := fingerprint.map fun _ => observedAt
    lastSemanticScanAt := capture.map fun _ => observedAt }

/-! ## Observations -/

def supportsProcessDetection (agent : AgentKind) : Bool :=
  agent.value = "claude" || agent.value = "codex" || agent.value = "opencode"

def applyProcessObservation (state : PaneState) (observation : Option ProcessObservation) :
    Except ReduceError PaneState :=
  match observation with
  | none => .ok state
  | some observation => do
    observation.validate.mapError fun error => .invalidRequest error.message
    return { state with
      agentProcess :=
        if observation.agentProcessChecked then observation.agentProcess.or state.agentProcess
        else state.agentProcess
      backgroundProcess :=
        if observation.backgroundProcessAlive = some false then none else state.backgroundProcess
      listeningPorts := observation.listeningPorts.getD state.listeningPorts }

def CaptureInference.isInterruption : CaptureInference → Bool
  | usageLimit | providerError _ => true
  | _ => false

def applyInference (state : PaneState) (inference : CaptureInference)
    (fingerprint : Option Fingerprint) (observedAt : ℤ) : Except ReduceError PaneState :=
  match inference with
  | .permissionWait reason =>
    if state.agent.value ≠ "codex" ∨ state.completedSeq < state.runSeq then
      waitRequested state observedAt reason
    else .ok state
  | .usageLimit => waitRequested state observedAt .usageLimit
  | .providerError reason => failRun state observedAt (some reason)
  | .activityObserved =>
    if state.claudeBackground.blocksCompletion = false ∧ fingerprint.isSome = true ∧
        state.completedSeq < state.runSeq then
      activityObserved state observedAt
    else .ok state
  | .staleRunCompleted =>
    if state.lifecycle = .running then .ok (completeRun state observedAt false) else .ok state
  | .noChange => .ok state

def captureTracker (tracker : CaptureTrackerSnapshot) (capture : Option CaptureObservation)
    (observedAt : ℤ) : CaptureTrackerSnapshot :=
  { tracker with
    codexIdleVerifiedAt := (capture.filter (·.codexIdleVerified)).map fun _ => observedAt
    codexScreenExpiredAt := none
    codexScreen := (capture.bind (·.codexScreen)).map (·, observedAt)
    interruptionVerificationPending :=
      if capture.isSome then false else tracker.interruptionVerificationPending
    lastSemanticScanAt := if capture.isSome then some observedAt else tracker.lastSemanticScanAt }

def rebaselinedTracker (tracker : CaptureTrackerSnapshot) (fingerprint : Option Fingerprint)
    (observedAt : ℤ) : CaptureTrackerSnapshot :=
  if fingerprint.isSome then
    { tracker with
      fingerprint := fingerprint
      lastChangeAt := some observedAt
      rebaselinePending := false }
  else tracker

def scannedTracker (tracker : CaptureTrackerSnapshot) (fingerprint : Option Fingerprint)
    (observedAt : ℤ) : CaptureTrackerSnapshot :=
  if fingerprint.isSome then
    { tracker with
      rebaselinePending := false
      fingerprint := fingerprint
      lastChangeAt :=
        if fingerprint ≠ tracker.fingerprint ∨ tracker.lastChangeAt = none then some observedAt
        else tracker.lastChangeAt }
  else { tracker with rebaselinePending := false }

def applyCapture (state : PaneState) (capture : Option CaptureObservation)
    (tracker : CaptureTrackerSnapshot) (observedAt : ℤ) :
    Except ReduceError (PaneState × CaptureTrackerSnapshot) :=
  let refreshed := captureTracker tracker capture observedAt
  match capture with
  | none => .ok (state, refreshed)
  | some capture =>
    if tracker.rebaselinePending = true ∧ capture.inference.isInterruption = false then
      .ok (state, rebaselinedTracker refreshed capture.observedFingerprint observedAt)
    else do
      let state ← applyInference state capture.inference tracker.fingerprint observedAt
      return (state, scannedTracker refreshed capture.observedFingerprint observedAt)

def confirmAbsent (state : PaneState) (observedAt : ℤ) : PaneState :=
  let settled :=
    if backgroundOpen state then endClaudeTracking state
    else if state.completedSeq < state.runSeq then completeRun state observedAt false
    else state
  { settled with
    agentPresent := false
    scanVerified := true
    backgroundProcess := none
    claudeCrons := {}
    listeningPorts := [] }

def countAbsence (state : PaneState) (tracker : CaptureTrackerSnapshot) (observedAt : ℤ) :
    Except ReduceError (PaneState × CaptureTrackerSnapshot) := do
  let count ← increment u8Max (.counterOverflow "absence") tracker.absenceCount
  if 2 ≤ count then
    return (confirmAbsent state observedAt, { tracker with absenceCount := 0 })
  else
    return (state, { tracker with absenceCount := count })

def observeAbsent (state : PaneState) (tracker : CaptureTrackerSnapshot)
    (capture : Option CaptureObservation) (observedAt : ℤ) :
    Except ReduceError (PaneState × CaptureTrackerSnapshot) := do
  let tracker :=
    { tracker with agentProcess := none, replacementKind := none, replacementStreak := 0 }
  let (state, tracker) ← applyCapture state capture tracker observedAt
  if state.scanVerified = true ∧ supportsProcessDetection state.agent = true then
    countAbsence state tracker observedAt
  else
    return (state, tracker)

def observeUnknown (tracker : CaptureTrackerSnapshot) : CaptureTrackerSnapshot :=
  { tracker with
    codexScreen := none
    codexIdleVerifiedAt := none
    codexScreenExpiredAt := none
    agentProcess := none
    absenceCount := 0
    replacementKind := none
    replacementStreak := 0 }

def observeNewEpoch (state : PaneState) (tracker : CaptureTrackerSnapshot)
    (agent : AgentKind) (capture : Option CaptureObservation)
    (process : Option AgentProcessIdentity) (observedAt : ℤ) :
    Except ReduceError (PaneState × CaptureTrackerSnapshot) := do
  let state ← beginAgentEpoch state agent none .process
  return (state, observedTracker tracker state process process capture observedAt)

def processReplaced (tracker : CaptureTrackerSnapshot)
    (observed : Option AgentProcessIdentity) : Bool :=
  match tracker.lastAgentProcess, observed with
  | some expected, some actual => expected ≠ actual
  | _, _ => false

def observeSameAgent (state : PaneState) (tracker : CaptureTrackerSnapshot)
    (agent : AgentKind) (capture : Option CaptureObservation)
    (process : Option ProcessObservation) (observedAt : ℤ) :
    Except ReduceError (PaneState × CaptureTrackerSnapshot) :=
  let tracker :=
    { tracker with absenceCount := 0, replacementKind := none, replacementStreak := 0 }
  let observed := checkedProcess process
  if state.agentPresent = false ∨ processReplaced tracker observed = true then
    observeNewEpoch state tracker agent capture observed observedAt
  else
    let tracker :=
      { tracker with
        agentProcess :=
          if process.any (·.agentProcessChecked) then observed else tracker.agentProcess
        lastAgentProcess := observed.or tracker.lastAgentProcess }
    applyCapture { state with scanVerified := true } capture tracker observedAt

def countReplacement (tracker : CaptureTrackerSnapshot) (agent : AgentKind) :
    Except ReduceError CaptureTrackerSnapshot :=
  if tracker.replacementKind = some agent then do
    let streak ← increment u8Max (.counterOverflow "replacement streak") tracker.replacementStreak
    return { tracker with replacementStreak := streak }
  else
    .ok { tracker with replacementKind := some agent, replacementStreak := 1 }

def observeOtherAgent (state : PaneState) (tracker : CaptureTrackerSnapshot)
    (agent : AgentKind) (capture : Option CaptureObservation)
    (process : Option ProcessObservation) (observedAt : ℤ) :
    Except ReduceError (PaneState × CaptureTrackerSnapshot) := do
  if state.agentPresent then
    let (state, tracker) ←
      if state.scanVerified then countAbsence state tracker observedAt else pure (state, tracker)
    let tracker ← countReplacement tracker agent
    return (state, tracker)
  else
    observeNewEpoch state tracker agent capture (checkedProcess process) observedAt

def observePresence (state : PaneState) (tracker : CaptureTrackerSnapshot)
    (presence : AgentPresenceObservation) (capture : Option CaptureObservation)
    (process : Option ProcessObservation) (observedAt : ℤ) :
    Except ReduceError (PaneState × CaptureTrackerSnapshot) :=
  match presence with
  | .unknown => .ok (state, observeUnknown tracker)
  | .absent => observeAbsent state tracker capture observedAt
  | .present agent =>
    if agent = state.agent then
      observeSameAgent state tracker agent capture process observedAt
    else observeOtherAgent state tracker agent capture process observedAt

/-! ## Reduction -/

inductive Pending
  | unchanged
  | finish (state : PaneState) (tracker : CaptureTrackerSnapshot)
      (previous : Option CaptureTrackerSnapshot)
deriving DecidableEq

def initialState (paneInstance : PaneInstance) (agent : AgentKind)
    (session : Option AgentSessionId) (scanVerified syntheticCompletionArmed : Bool)
    (stateId : StateId) : PaneState :=
  { schemaVersion := paneStateSchemaVersion
    stateId := stateId
    revision := 0
    paneInstance := paneInstance
    agent := agent
    agentSessionId := session
    agentProcess := none
    agentEpoch := 1
    agentPresent := true
    scanVerified := scanVerified
    syntheticCompletionArmed := syntheticCompletionArmed
    lifecycle := .idle
    runSeq := 0
    currentRun := none
    completedSeq := 0
    unread := {}
    startedAt := none
    completedAt := none
    prompt := none
    latestResponse := none
    taskContext := {}
    tasks := {}
    subagents := []
    worktreeActivity := none
    backgroundProcess := none
    claudeBackground := {}
    claudeCrons := {}
    listeningPorts := [] }

def newState (paneInstance : PaneInstance) (agent : AgentKind) (session : Option AgentSessionId)
    (scanVerified syntheticCompletionArmed : Bool) (newStateId : Option StateId) :
    Except ReduceError PaneState :=
  match newStateId with
  | none => .error .missingStateId
  | some stateId =>
    .ok (initialState paneInstance agent session scanVerified syntheticCompletionArmed stateId)

def observedDescriptor (current : Option PaneState) : Option StoredStateDescriptor :=
  current.map fun state => .canonical state.version

def reduceObservation (current : Option PaneState) (paneInstance : PaneInstance)
    (context : ReductionContext) (base : Option StoredStateDescriptor) (trackerGeneration : ℕ)
    (observedAt : ℤ) (presence : AgentPresenceObservation)
    (capture : Option CaptureObservation) (process : Option ProcessObservation) :
    Except ReduceError Pending := do
  if base ≠ observedDescriptor current ∨ trackerGeneration ≠ context.tracker.generation then
    return .unchanged
  match current with
  | none =>
    match presence with
    | .present agent =>
      let state ← newState paneInstance agent none true true context.newStateId
      let state ← applyProcessObservation state process
      let tracker ← bumpTracker (observedTracker context.tracker state (checkedProcess process)
        state.agentProcess capture observedAt)
      return .finish state tracker (some context.tracker)
    | .absent | .unknown => return .unchanged
  | some state =>
    let (state, tracker) ←
      observePresence state context.tracker presence capture process observedAt
    let state ← applyProcessObservation state process
    let tracker ← bumpTracker tracker
    return .finish state tracker (some context.tracker)

def reduceInternalStateEvent [Sha256] (current : Option PaneState) (event : PaneEvent)
    (context : ReductionContext) : Except ReduceError Pending :=
  match current, event with
  | none, .markDone .. => .error .staleSelection
  | none, _ => .ok .unchanged
  | some existing, .markPaneRead throughOrder =>
    .ok (.finish
      (if ∃ latest ∈ existing.unread.latest, latest.order ≤ throughOrder then
        { existing with
          unread := { existing.unread with readSeq := existing.unread.occurrenceSeq } }
      else existing) context.tracker none)
  | some existing, .markDone expected completedAt => do
    refuse (existing.version ≠ expected) .staleSelection
    let state ← markDone existing completedAt
    return .finish state { context.tracker with rebaselinePending := true } (some context.tracker)
  | some existing, .taskSummaryGenerated expectedStateId expectedAgentEpoch summary =>
    if existing.stateId ≠ expectedStateId ∨ existing.agentEpoch ≠ expectedAgentEpoch ∨
        existing.taskContext.contextFingerprint ≠ some summary.contextFingerprint then
      .ok .unchanged
    else do
      summary.validate.mapError fun error =>
        .invalidRequest ("invalid task summary: " ++ error.message)
      return .finish
        { existing with taskContext := { existing.taskContext with summary := some summary } }
        context.tracker none
  | some _, _ => .ok .unchanged

def safeHandover (state : PaneState) (tracker : CaptureTrackerSnapshot) (agent : AgentKind)
    (event : PaneEvent) : Bool :=
  trackerMatchesState tracker state && isEpochStartEvidence event &&
    2 ≤ tracker.replacementStreak && tracker.replacementKind = some agent

def enterEpoch [Sha256] (state : PaneState) (agent : AgentKind) (session : AgentSessionId)
    (source : EpochSource) (event : PaneEvent) (privateTaskPrompt : Option String) :
    Except ReduceError PaneState := do
  let state ← beginAgentEpoch state agent (some session) source
  applyRegularExplicitEvent state event privateTaskPrompt

def explicitTransition [Sha256] (state : PaneState) (agent : AgentKind)
    (session : AgentSessionId) (event : PaneEvent) (tracker : CaptureTrackerSnapshot)
    (privateTaskPrompt : Option String) : Except ReduceError PaneState :=
  match classifyIdentity state agent session with
  | .exactPresent => applyRegularExplicitEvent state event privateTaskPrompt
  | .exactAbsent =>
    if isEpochStartEvidence event then
      enterEpoch state agent session .explicit event privateTaskPrompt
    else if isCompletionForState state event then do
      let state ← applyRegularExplicitEvent state event privateTaskPrompt
      return { state with agentPresent := false, scanVerified := true }
    else .error .staleAgentEvent
  | .unboundPresent =>
    if isEpochStartEvidence event = true ∨ (isCompletionForState state event = true ∧
        state.syntheticCompletionArmed = true) then
      applyRegularExplicitEvent { state with agentSessionId := some session } event
        privateTaskPrompt
    else .ok state
  | .mismatchPresent =>
    if safeHandover state tracker agent event then
      enterEpoch state agent session .processVerifiedExplicitHandover event privateTaskPrompt
    else .error .staleAgentEvent
  | .unboundAbsent | .mismatchAbsent =>
    if isEpochStartEvidence event then
      enterEpoch state agent session .explicit event privateTaskPrompt
    else .error .staleAgentEvent

def acceptedTracker (existing state : PaneState) (agent : AgentKind)
    (identity : ExistingIdentity) (event : PaneEvent) (tracker : CaptureTrackerSnapshot) :
    CaptureTrackerSnapshot :=
  let kept :=
    if state.stateId ≠ existing.stateId ∨ state.agentEpoch ≠ existing.agentEpoch ∨
        trackerMatchesState tracker existing = false then resetTrackerForState tracker state
    else tracker
  let authoritative := agent.value = "codex" ∧
    (identity = .exactPresent ∨ isEpochStartEvidence event = true)
  { kept with
    hookAuthoritative := if authoritative then true else kept.hookAuthoritative
    codexScreen := if authoritative then none else kept.codexScreen
    codexScreenExpiredAt := if authoritative then none else kept.codexScreenExpiredAt
    interruptionVerificationPending := false
    absenceCount := 0
    replacementKind := none
    replacementStreak := 0
    rebaselinePending :=
      if existing.completedSeq < state.completedSeq then true else kept.rebaselinePending }

def reduceFirstExplicit [Sha256] (paneInstance : PaneInstance) (agent : AgentKind)
    (session : AgentSessionId) (event : PaneEvent) (context : ReductionContext) :
    Except ReduceError Pending :=
  if event.isCompact then .error .staleAgentEvent
  else if canCreateFromExplicit event = false then .ok .unchanged
  else do
    let state ← newState paneInstance agent (some session) false false context.newStateId
    let state ← applyInitialExplicitEvent state event context.privateTaskPrompt
    let tracker ← bumpTracker { resetTrackerForState context.tracker state with
      hookAuthoritative := agent.value = "codex" || event.isSessionStart
      rebaselinePending := 0 < state.completedSeq }
    return .finish state tracker (some context.tracker)

def reduceSessionStart [Sha256] (existing : PaneState) (agent : AgentKind)
    (session : AgentSessionId) (source : AgentSessionSource) (resumedPrompt : Option PromptState)
    (context : ReductionContext) : Except ReduceError Pending := do
  if source = .compact then
    refuse (existing.agent ≠ agent ∨ existing.agentSessionId ≠ some session ∨
      existing.agentPresent = false) .staleAgentEvent
    return .unchanged
  else
    let state ← beginAgentEpoch existing agent (some session) .explicit
    let state := applyAgentSessionStarted state source resumedPrompt
    let tracker ← bumpTracker { resetTrackerForState context.tracker state with
      hookAuthoritative := true }
    return .finish state tracker (some context.tracker)

def reduceRegularExplicit [Sha256] (existing : PaneState) (agent : AgentKind)
    (session : AgentSessionId) (event : PaneEvent) (context : ReductionContext) :
    Except ReduceError Pending := do
  let identity := classifyIdentity existing agent session
  if interruptionNeedsTerminalVerification existing identity event then
    if context.tracker.interruptionVerificationPending then return .unchanged
    let tracker ← bumpTracker { context.tracker with interruptionVerificationPending := true }
    return .finish existing tracker (some context.tracker)
  else
    let state ← explicitTransition existing agent session event context.tracker
      context.privateTaskPrompt
    let tracker ← bumpTracker (acceptedTracker existing state agent identity event context.tracker)
    return .finish state tracker (some context.tracker)

def reduceExplicit [Sha256] (current : Option PaneState) (envelope : PaneEventEnvelope)
    (context : ReductionContext) : Except ReduceError Pending :=
  match envelope.agent with
  | none => .error (.invalidRequest "explicit event requires an agent")
  | some agent =>
    if envelope.event.isClaude = true ∧ agent.value ≠ "claude" then
      .error (.invalidRequest "Claude observation requires a Claude agent")
    else
      match envelope.agentSessionId, current with
      | none, _ => .error (.invalidRequest "explicit event requires an agent session ID")
      | some session, none =>
        reduceFirstExplicit envelope.paneInstance agent session envelope.event context
      | some session, some existing =>
        match envelope.event with
        | .agentSessionStarted _ source resumedPrompt =>
          reduceSessionStart existing agent session source resumedPrompt context
        | event => reduceRegularExplicit existing agent session event context

def eventEpoch (event : PaneEvent) (state : PaneState) : ℤ :=
  match event with
  | .claudeToolResultObserved observedAt .. | .claudeTaskNotificationsObserved observedAt ..
  | .claudeStopped observedAt .. | .claudeSessionEnded observedAt
  | .agentSessionStarted observedAt .. | .activityObserved observedAt
  | .activityAndProgressObserved observedAt _ | .waitRequested observedAt _
  | .failRun observedAt _ | .progressUpdated observedAt _ => observedAt
  | .observationBatch _ _ observedAt .. => observedAt
  | .beginRun startedAt _ => startedAt
  | .completeRun completedAt | .responseAndCompleteRun completedAt _ => completedAt
  | .markDone _ completedAt => completedAt
  | .explicitStateReported report => report.observedAt
  | .markPaneRead .. | .taskSummaryGenerated .. | .paneRemoved .. =>
    (state.completedAt.or state.startedAt).getD 0

/-- Mark the fault shown by an error lifecycle as reported. Without an unreported one there is
nothing to report; the flag tells whether a fault was reported now. -/
def reportFault (state : PaneState) : Option (PaneState × Bool) :=
  match state.lifecycle with
  | .error (some reason) =>
    if state.claudeBackground.faults.any fun fault => fault.reason = reason then
      if state.claudeBackground.faults.any fun fault => fault.reason = reason && !fault.reported
      then
        some ({ state with
          claudeBackground := { state.claudeBackground with
            faults := updateFirst (fun fault => fault.reason = reason && !fault.reported)
              (fun fault => { fault with reported := true }) state.claudeBackground.faults } },
          true)
      else none
    else some (state, false)
  | _ => some (state, false)

def LifecycleState.isWaiting : LifecycleState → Bool
  | .waiting _ => true
  | _ => false

def LifecycleState.isError : LifecycleState → Bool
  | .error _ => true
  | _ => false

def unreadReason (current : Option PaneState) (state : PaneState) (freshFault : Bool) :
    Option UnreadReason :=
  let previous := current.filter fun previous => previous.agentEpoch = state.agentEpoch
  let wasWaiting := previous.any fun previous => previous.lifecycle.isWaiting
  let wasError := previous.any fun previous => previous.lifecycle.isError
  let completedBefore := (previous.map (·.completedSeq)).getD 0
  if state.lifecycle.isWaiting = true ∧ wasWaiting = false then some .waiting
  else if state.lifecycle.isError = true ∧ (freshFault = true ∨ wasError = false) then some .error
  else if completedBefore < state.completedSeq then some .completed
  else none

def applyUnreadTransition (current : Option PaneState) (event : PaneEvent) (state : PaneState)
    (context : ReductionContext) : Except ReduceError PaneState :=
  if event.isMarkPaneRead then .ok state
  else
    match reportFault state with
    | none => .ok state
    | some (state, freshFault) =>
      match unreadReason current state freshFault with
      | none => .ok state
      | some reason => do
        let occurredAt :=
          if reason = .completed then state.completedAt.getD (eventEpoch event state)
          else eventEpoch event state
        let unread ← state.unread.occur context.latestUnreadOrder reason occurredAt
          (.counterOverflow "unread occurrence sequence" : ReduceError)
          (.counterOverflow "unread occurrence order")
        return { state with
          unread :=
            if context.visibility.paneVisibleToEligibleClient = true ∨ event.isMarkDone = true then
              { unread with readSeq := unread.occurrenceSeq }
            else unread }

def validateInvariant [Sha256] (state : PaneState) : Except ReduceError Unit :=
  state.validate.mapError fun error => .stateInvariantViolation error.message

def nextRevision (current : Option PaneState) : Except ReduceError ℕ :=
  match current with
  | none => .ok 1
  | some existing => increment u64Max (.counterOverflow "revision") existing.revision

/-- The delta of a reduction: the tracker, when it differs from the one before. -/
def trackerDelta (tracker : CaptureTrackerSnapshot) (previous : Option CaptureTrackerSnapshot) :
    Option CaptureTrackerDelta :=
  if previous.any (· ≠ tracker) then some ⟨tracker⟩ else none

def finishStateReduction [Sha256] (current : Option PaneState) (state : PaneState)
    (tracker : CaptureTrackerSnapshot) (previous : Option CaptureTrackerSnapshot) :
    Except ReduceError Reduction := do
  let delta := trackerDelta tracker previous
  if current = some state then
    return ⟨some state, delta, if delta.isSome then .trackerOnly else .noop⟩
  else
    let revision ← nextRevision current
    let state := { state with revision := revision }
    validateInvariant state
    return ⟨some state, delta, .canonicalChanged⟩

def dispatch [Sha256] (current : Option PaneState) (envelope : PaneEventEnvelope)
    (context : ReductionContext) : Except ReduceError Pending :=
  match envelope.event with
  | .observationBatch base trackerGeneration observedAt presence capture process =>
    reduceObservation current envelope.paneInstance context base trackerGeneration observedAt
      presence capture process
  | .paneRemoved _ => .ok .unchanged
  | .markPaneRead .. | .taskSummaryGenerated .. | .markDone .. =>
    reduceInternalStateEvent current envelope.event context
  | _ => reduceExplicit current envelope context

/-- The reduction of a branch that ended with a record: finish it, then mint the unread
occurrence and check the record again. -/
def settle [Sha256] (current : Option PaneState) (event : PaneEvent) (context : ReductionContext) :
    Pending → Except ReduceError Reduction
  | .unchanged => .ok (.unchanged current)
  | .finish state tracker previous => do
    let reduction ← finishStateReduction current state tracker previous
    match reduction.outcome, reduction.record with
    | .canonicalChanged, some state =>
      let state ← applyUnreadTransition current event state context
      validateInvariant state
      return { reduction with record := some state }
    | _, _ => return reduction

def reduce [Sha256] (current : Option PaneState) (envelope : PaneEventEnvelope)
    (context : ReductionContext) : Except ReduceError Reduction := do
  envelope.paneInstance.validate.mapError fun error => .invalidRequest error.message
  refuse (∃ state ∈ current, state.paneInstance ≠ envelope.paneInstance) .invalidPaneInstance
  if envelope.event.isSemanticallyEmpty then
    return .unchanged current
  else
    let pending ← dispatch current envelope context
    settle current envelope.event context pending

end VdeTmux.Pane
