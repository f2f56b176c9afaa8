import VdeTmux.Pane.TaskContext
import VdeTmux.Pane.ClaudeBackground

/-!
# The pane record

The canonical state of a pane, its check, and the projection of a durable run onto it. The check
is split in two: `Coherent` holds the rules that every step of the reducer keeps, `Valid` adds the
revision, the rule for an absent agent and the session rule of an armed record.
-/

open Foundation Foundation.Text
namespace VdeTmux.Pane

structure PaneState where
  schemaVersion : ℕ
  stateId : StateId
  revision : ℕ
  paneInstance : PaneInstance
  agent : AgentKind
  agentSessionId : Option AgentSessionId
  agentProcess : Option AgentProcessIdentity
  agentEpoch : ℕ
  agentPresent : Bool
  scanVerified : Bool
  syntheticCompletionArmed : Bool
  lifecycle : LifecycleState
  runSeq : ℕ
  currentRun : Option CurrentDurableRunProjection
  completedSeq : ℕ
  unread : UnreadState
  startedAt : Option ℤ
  completedAt : Option ℤ
  prompt : Option PromptState
  latestResponse : Option ResponseState
  taskContext : TaskContextState
  tasks : TaskState
  subagents : List SubagentState
  worktreeActivity : Option WorktreeActivity
  backgroundProcess : Option BackgroundProcessState
  claudeBackground : ClaudeBackgroundState
  claudeCrons : ClaudeCronSnapshot
  listeningPorts : List ℕ
deriving DecidableEq

def LifecycleState.quiet : LifecycleState → Bool
  | .idle => true
  | .running => false
  | .waiting reason => reason.isUsageLimit
  | .error reason => reason = some agentEndedReason

namespace PaneState

def version (state : PaneState) : StateVersion :=
  ⟨state.stateId, state.agentEpoch, state.revision⟩

def validateCurrentRun (state : PaneState) (run : CurrentDurableRunProjection) :
    Except ModelError Unit := do
  run.validate
  refuse (run.runSeq ≠ state.runSeq) ⟨"durable current run sequence disagrees with pane state"⟩

def validate [Sha256] (state : PaneState) : Except ModelError Unit := do
  refuse (state.schemaVersion ≠ paneStateSchemaVersion)
    ⟨"unsupported pane state schema version " ++ toString state.schemaVersion⟩
  state.claudeBackground.validate state.runSeq
  state.claudeCrons.validate
  state.paneInstance.validate
  forSome AgentProcessIdentity.validate state.agentProcess
  refuse (state.revision = 0 ∨ state.agentEpoch = 0)
    ⟨"revision and agent epoch must be positive"⟩
  refuse (state.runSeq < state.completedSeq) ⟨"pane state sequence order is invalid"⟩
  forSome state.validateCurrentRun state.currentRun
  refuse (state.runSeq < state.completedSeq ∨ 1 < state.runSeq - state.completedSeq)
    ⟨"pane state has more than one open run"⟩
  refuse (state.claudeBackground.blocksCompletion = true ∧ state.lifecycle.isIdle = true)
    ⟨"background wait cannot belong to an idle run"⟩
  refuse (state.agent.value ≠ "claude" ∧ (state.claudeBackground.tasks ≠ [] ∨
      state.claudeBackground.faults ≠ [] ∨ state.claudeCrons.entries ≠ []))
    ⟨"Claude background state requires a Claude agent"⟩
  refuse (state.lifecycle.isIdle ≠ (state.runSeq = state.completedSeq))
    ⟨"lifecycle and run sequence disagree"⟩
  refuse (state.agentPresent = false ∧ (state.scanVerified = false ∨
      (state.lifecycle.isIdle = false ∧ state.lifecycle.isUsageLimited = false ∧
        state.lifecycle ≠ .error (some agentEndedReason))))
    ⟨"absent agent must be scan-verified and idle or usage-limited"⟩
  refuse (state.syntheticCompletionArmed = true ∧ (state.lifecycle.isIdle = false ∨
      state.runSeq ≠ 0 ∨ state.scanVerified = false ∨ state.agentSessionId.isSome = true))
    ⟨"invalid synthetic completion state"⟩
  refuse (state.runSeq = 0 ∧ (state.completedSeq ≠ 0 ∨ state.startedAt.isSome = true))
    ⟨"zero run sequence has run metadata"⟩
  refuse ((state.completedSeq = 0) ≠ (state.completedAt = none))
    ⟨"completed sequence and timestamp disagree"⟩
  refuse (0 < state.runSeq ∧ state.startedAt = none)
    ⟨"run sequence requires a start timestamp"⟩
  state.lifecycle.validateReason
  forSome PromptState.validate state.prompt
  forSome ResponseState.validate state.latestResponse
  state.taskContext.validate
  validateTasks state.tasks
  validateSubagents state.subagents
  forSome validateWorktreeActivity state.worktreeActivity
  forSome BackgroundProcessState.validate state.backgroundProcess
  ProcessObservation.validate ⟨false, none, none, some state.listeningPorts⟩
  state.unread.validate

/-- How a durable run relates to the one already projected: an older one is skipped, another run
of the same sequence is a conflict. -/
def acceptsProjection (state : PaneState) (projection : CurrentDurableRunProjection) :
    Except ModelError Bool :=
  match state.currentRun with
  | none => .ok true
  | some existing =>
    if projection.runSeq < existing.runSeq then .ok false
    else if existing.runSeq = projection.runSeq ∧ existing.runId ≠ projection.runId then
      .error ⟨"durable current run ID conflicts at the same run sequence"⟩
    else if existing.runId = projection.runId ∧ projection.runRevision < existing.runRevision then
      .ok false
    else .ok true

def advanceRun (state : PaneState) (runSeq : ℕ) (observedAt : ℤ) : PaneState :=
  if state.runSeq < runSeq then
    { state with
      runSeq := runSeq
      startedAt := some observedAt
      completedAt := if 1 < runSeq then some (state.completedAt.getD observedAt) else none
      prompt := none
      latestResponse := none
      tasks := {}
      subagents := []
      worktreeActivity := none }
  else state

def followExecution (state : PaneState) (runSeq : ℕ) (executionActive : Bool) (observedAt : ℤ) :
    PaneState :=
  if executionActive then
    { state with
      completedSeq := runSeq - 1
      completedAt := if 0 < runSeq - 1 then some (state.completedAt.getD observedAt) else none
      lifecycle := if state.lifecycle.isIdle then .running else state.lifecycle }
  else
    { state with
      completedSeq := runSeq
      lifecycle := .idle
      completedAt := some (state.completedAt.getD observedAt)
      subagents := []
      worktreeActivity := none }

def reconcileCurrentRun [Sha256] (state : PaneState) (projection : CurrentDurableRunProjection)
    (executionActive : Bool) (observedAt : ℤ) (latestUnreadOrder : ℕ) :
    Except ModelError (PaneState × Bool) := do
  projection.validate
  refuse (observedAt < 0) ⟨"durable run projection timestamp must be non-negative"⟩
  let proceed ← state.acceptsProjection projection
  if proceed = false then return (state, false)
  let completionAdvanced := executionActive = false ∧ state.completedSeq < projection.runSeq
  let projected := (state.advanceRun projection.runSeq observedAt).followExecution
    projection.runSeq executionActive observedAt
  let unread ←
    if completionAdvanced then
      projected.unread.occur latestUnreadOrder .completed
        (projected.completedAt.getD observedAt)
        (⟨"unread occurrence sequence overflow"⟩ : ModelError)
        ⟨"unread occurrence order overflow"⟩
    else pure projected.unread
  let projected := { projected with unread := unread, currentRun := some projection }
  if projected = state then return (state, false)
  let revision ← increment u64Max ⟨"pane revision overflow"⟩ projected.revision
  let projected := { projected with revision := revision }
  projected.validate
  return (projected, true)

end PaneState

/-- The rules that do not mention the revision, an absent agent or the session. -/
structure PaneState.Coherent [Sha256] (s : PaneState) : Prop where
  schema : s.schemaVersion = paneStateSchemaVersion
  background : s.claudeBackground.Valid s.runSeq
  crons : s.claudeCrons.validate = .ok ()
  paneInstance : s.paneInstance.validate = .ok ()
  process : forSome AgentProcessIdentity.validate s.agentProcess = .ok ()
  epoch : 0 < s.agentEpoch
  order : s.completedSeq ≤ s.runSeq
  oneOpen : s.runSeq ≤ s.completedSeq + 1
  currentRun : ∀ run ∈ s.currentRun, run.validate = .ok () ∧ run.runSeq = s.runSeq
  wait : s.claudeBackground.blocksCompletion = true → s.lifecycle ≠ .idle
  claude : s.agent.value = "claude" ∨ (s.claudeBackground.tasks = [] ∧
    s.claudeBackground.faults = [] ∧ s.claudeCrons.entries = [])
  lifecycle : s.lifecycle = .idle ↔ s.runSeq = s.completedSeq
  armed : s.syntheticCompletionArmed = true →
    s.lifecycle = .idle ∧ s.runSeq = 0 ∧ s.scanVerified = true
  zeroRun : s.runSeq = 0 → s.startedAt = none
  startedAt : 0 < s.runSeq → s.startedAt ≠ none
  completedAt : s.completedSeq = 0 ↔ s.completedAt = none
  reason : s.lifecycle.validateReason = .ok ()
  prompt : forSome PromptState.validate s.prompt = .ok ()
  latestResponse : forSome ResponseState.validate s.latestResponse = .ok ()
  taskContext : s.taskContext.validate = .ok ()
  tasks : validateTasks s.tasks = .ok ()
  subagents : validateSubagents s.subagents = .ok ()
  worktreeActivity : forSome validateWorktreeActivity s.worktreeActivity = .ok ()
  backgroundProcess : forSome BackgroundProcessState.validate s.backgroundProcess = .ok ()
  listeningPorts : validatePorts s.listeningPorts = .ok ()
  unread : s.unread.validate = .ok ()

structure PaneState.Valid [Sha256] (s : PaneState) : Prop extends s.Coherent where
  revision : 0 < s.revision
  absent : s.agentPresent = false → s.scanVerified = true ∧ s.lifecycle.quiet = true
  armedSession : s.syntheticCompletionArmed = true → s.agentSessionId = none

namespace PaneState
variable [Sha256]

omit [Sha256] in
theorem quiet_iff {l : LifecycleState} : l.quiet = true ↔
    (l.isIdle = false → l.isUsageLimited = false → l = .error (some agentEndedReason)) := by
  cases l with
  | idle => simp [LifecycleState.quiet, LifecycleState.isIdle]
  | running => simp [LifecycleState.quiet, LifecycleState.isIdle]
  | waiting reason => cases h : reason.isUsageLimit <;>
      simp [LifecycleState.quiet, LifecycleState.isIdle, h]
  | error reason => simp [LifecycleState.quiet, LifecycleState.isIdle]

omit [Sha256] in
theorem validateCurrentRun_eq_ok {s : PaneState} {u : Unit} :
    forSome s.validateCurrentRun s.currentRun = .ok u ↔
      ∀ run ∈ s.currentRun, run.validate = .ok () ∧ run.runSeq = s.runSeq := by
  cases s.currentRun <;> simp [validateCurrentRun, seq_eq_ok]

theorem validate_eq_ok {s : PaneState} {u : Unit} : s.validate = .ok u ↔ s.Valid := by
  cases u
  have hports : ProcessObservation.validate ⟨false, none, none, some s.listeningPorts⟩ = .ok () ↔
      validatePorts s.listeningPorts = .ok () := by
    simp [ProcessObservation.validate_eq_ok]
  simp only [validate, seq_eq_ok, refuse_eq_ok, ClaudeBackgroundState.validate_eq_ok,
    validateCurrentRun_eq_ok, hports]
  constructor
  · rintro ⟨hschema, hbackground, hcrons, hpane, hprocess, hrevision, horder, hrun, hopen, hwait,
      hclaude, hlifecycle, habsent, harmed, hzero, hcompleted, hstarted, hreason, hprompt,
      hresponse, hcontext, htasks, hsubagents, hworktree, hbackgroundProcess, hlistening, hunread⟩
    refine
      { schema := not_not.mp hschema, background := hbackground, crons := hcrons,
        paneInstance := hpane, process := hprocess, epoch := ?_, order := not_lt.mp horder,
        oneOpen := ?_, currentRun := hrun, wait := ?_, claude := ?_, lifecycle := ?_, armed := ?_,
        zeroRun := ?_, startedAt := ?_, completedAt := ?_, reason := hreason, prompt := hprompt,
        latestResponse := hresponse, taskContext := hcontext, tasks := htasks,
        subagents := hsubagents, worktreeActivity := hworktree,
        backgroundProcess := hbackgroundProcess, listeningPorts := hlistening, unread := hunread,
        revision := ?_, absent := ?_, armedSession := ?_ }
    · omega
    · omega
    · simpa using hwait
    · simpa [or_iff_not_imp_left] using hclaude
    · simpa using hlifecycle
    · simp only [not_and, not_or, Bool.not_eq_false, ne_eq, not_not] at harmed
      exact fun h => ⟨LifecycleState.isIdle_eq_true.mp (harmed h).1, (harmed h).2.1,
        (harmed h).2.2.1⟩
    · simp only [not_and, not_or, ne_eq, not_not] at hzero
      exact fun h => by simpa using (hzero h).2
    · exact fun h hnone => hstarted ⟨h, hnone⟩
    · simpa using hcompleted
    · omega
    · simp only [not_and, not_or, Bool.not_eq_false, ne_eq, not_not] at habsent
      exact fun h => ⟨(habsent h).1, quiet_iff.mpr (habsent h).2⟩
    · simp only [not_and, not_or, Bool.not_eq_false, ne_eq, not_not] at harmed
      exact fun h => by simpa using (harmed h).2.2.2
  · intro h
    refine ⟨not_not.mpr h.schema, h.background, h.crons, h.paneInstance, h.process, ?_,
      not_lt.mpr h.order, h.currentRun, ?_, ?_, ?_, ?_, ?_, ?_, ?_, ?_, ?_, h.reason, h.prompt,
      h.latestResponse, h.taskContext, h.tasks, h.subagents, h.worktreeActivity,
      h.backgroundProcess, h.listeningPorts, h.unread⟩
    · have hrevision := h.revision
      have hepoch := h.epoch
      omega
    · have horder := h.order
      have hopen := h.oneOpen
      omega
    · simpa using h.wait
    · simpa [or_iff_not_imp_left] using h.claude
    · simpa using h.lifecycle
    · rintro ⟨habsent, hrule⟩
      obtain ⟨hscan, hquiet⟩ := h.absent habsent
      rcases hrule with hrule | ⟨hidle, husage, hended⟩
      · simp [hscan] at hrule
      · exact hended (quiet_iff.mp hquiet hidle husage)
    · rintro ⟨harmed, hrule⟩
      obtain ⟨hidle, hzero, hscan⟩ := h.armed harmed
      simp [hidle, hzero, hscan, h.armedSession harmed, LifecycleState.isIdle] at hrule
    · rintro ⟨hzero, hrule⟩
      have horder := h.order
      simp only [h.zeroRun hzero, Option.isSome_none, Bool.false_eq_true, or_false] at hrule
      omega
    · simpa using h.completedAt
    · exact fun hrule => h.startedAt hrule.1 hrule.2

end PaneState
end VdeTmux.Pane
