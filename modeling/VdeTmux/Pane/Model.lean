import VdeTmux.Foundation.Outcome
import VdeTmux.Foundation.Text
import VdeTmux.Foundation.Digest

/-!
# Pane state data

The records a pane state is made of, each with the check the daemon runs on it. A check reports
the text of the first rule that fails, in the order of the rules. `u64` counters are natural
numbers whose increments are checked, `i64` timestamps are integers.
-/

open Foundation Foundation.Text
namespace VdeTmux.Pane

def paneStateSchemaVersion : ℕ := 11
def identifierMaxBytes : ℕ := 256
def bodyMaxBytes : ℕ := 4096
def pathMaxBytes : ℕ := 8192
def maxTaskItems : ℕ := 256
def maxSubagents : ℕ := 256
def maxTaskContextPrompts : ℕ := 4
def taskContextPromptMaxBytes : ℕ := 1200
def taskSummaryMaxBytes : ℕ := 256
def responsePreviewMaxBytes : ℕ := 1200
def usageLimitWaitReason : String := "usage_limit"
def maxListeningPorts : ℕ := 64

def u64Max : ℕ := 18446744073709551615
def u8Max : ℕ := 255

structure ModelError where
  message : String
deriving DecidableEq

def validateRandomId (value name : String) : Except ModelError Unit :=
  refuse (byteLen value ≠ 32 ∨ value.toList.all isLowerHexDigit = false)
    ⟨s!"{name} must be exactly 32 lowercase hexadecimal characters"⟩

def validateOptionalText (value field : String) (maxBytes : ℕ) : Except ModelError Unit := do
  refuse (maxBytes < byteLen value) ⟨s!"{field} exceeds the {maxBytes}-byte limit"⟩
  refuse (hasControl value = true) ⟨s!"{field} contains a control character"⟩

def validateRequiredText (value field : String) (maxBytes : ℕ) : Except ModelError Unit := do
  refuse (isBlank value = true) ⟨s!"{field} must not be empty"⟩
  validateOptionalText value field maxBytes

def containsLineBreak (value : String) : Bool := value.toList.any fun c => c = '\r' || c = '\n'

theorem validateOptionalText_eq_ok {value field : String} {maxBytes : ℕ} {u : Unit} :
    validateOptionalText value field maxBytes = .ok u ↔
      byteLen value ≤ maxBytes ∧ hasControl value = false := by
  simp [validateOptionalText, bind_eq_ok]

theorem validateRequiredText_eq_ok {value field : String} {maxBytes : ℕ} {u : Unit} :
    validateRequiredText value field maxBytes = .ok u ↔
      isBlank value = false ∧ byteLen value ≤ maxBytes ∧ hasControl value = false := by
  simp [validateRequiredText, bind_eq_ok, validateOptionalText_eq_ok]

structure StateId where
  value : String
deriving DecidableEq

structure EventId where
  value : String
deriving DecidableEq

structure DaemonInstanceId where
  value : String
deriving DecidableEq

structure AgentKind where
  value : String
deriving DecidableEq

structure AgentSessionId where
  value : String
deriving DecidableEq

structure PaneInstance where
  paneId : String
  panePid : ℕ
deriving DecidableEq

def PaneInstance.validPaneId (paneId : String) : Bool :=
  match paneId.toList with
  | '%' :: digits => !digits.isEmpty && digits.all fun c => '0' ≤ c && c ≤ '9'
  | _ => false

def PaneInstance.validate (pane : PaneInstance) : Except ModelError Unit :=
  refuse (PaneInstance.validPaneId pane.paneId = false ∨ pane.panePid = 0)
    ⟨"invalid pane instance"⟩

structure StateVersion where
  stateId : StateId
  agentEpoch : ℕ
  revision : ℕ
deriving DecidableEq

inductive WaitReason
  | permissionPrompt
  | other (reason : String)
deriving DecidableEq

namespace WaitReason

def usageLimit : WaitReason := .other usageLimitWaitReason

def isUsageLimit : WaitReason → Bool
  | permissionPrompt => false
  | other reason => reason = usageLimitWaitReason

def validate : WaitReason → Except ModelError Unit
  | permissionPrompt => .ok ()
  | other reason => validateRequiredText reason "wait reason" identifierMaxBytes

@[simp] theorem usageLimit_isUsageLimit : usageLimit.isUsageLimit = true := by decide

theorem usageLimit_validate : usageLimit.validate = .ok () := by decide

end WaitReason

inductive LifecycleState
  | idle
  | running
  | waiting (reason : WaitReason)
  | error (reason : Option String)
deriving DecidableEq

namespace LifecycleState

def isIdle : LifecycleState → Bool
  | idle => true
  | _ => false

def isUsageLimited : LifecycleState → Bool
  | waiting reason => reason.isUsageLimit
  | _ => false

@[simp] theorem isIdle_eq_true {l : LifecycleState} : l.isIdle = true ↔ l = idle := by
  cases l <;> simp [isIdle]

@[simp] theorem isUsageLimited_idle : idle.isUsageLimited = false := rfl
@[simp] theorem isUsageLimited_running : running.isUsageLimited = false := rfl
@[simp] theorem isUsageLimited_waiting {reason : WaitReason} :
    (waiting reason).isUsageLimited = reason.isUsageLimit := rfl
@[simp] theorem isUsageLimited_error {reason : Option String} :
    (error reason).isUsageLimited = false := rfl

def validateReason : LifecycleState → Except ModelError Unit
  | waiting reason => reason.validate
  | error (some reason) => validateOptionalText reason "error reason" identifierMaxBytes
  | _ => .ok ()

end LifecycleState

inductive UnreadReason
  | waiting
  | error
  | completed
deriving DecidableEq

structure UnreadOccurrence where
  seq : ℕ
  order : ℕ
  reason : UnreadReason
  occurredAt : ℤ
deriving DecidableEq

structure UnreadState where
  occurrenceSeq : ℕ := 0
  readSeq : ℕ := 0
  latest : Option UnreadOccurrence := none
deriving DecidableEq

namespace UnreadState

def isUnread (unread : UnreadState) : Bool := unread.readSeq < unread.occurrenceSeq

def latestUnread (unread : UnreadState) : Option UnreadOccurrence :=
  if unread.isUnread then unread.latest else none

/-- The order of the latest occurrence, zero before the first one. -/
def latestOrder (unread : UnreadState) : ℕ := (unread.latest.map (·.order)).getD 0

/-- The next occurrence. Its order passes every order issued so far; the two errors are for the
sequence and for the order. -/
def occur {ε : Type} (unread : UnreadState) (latestUnreadOrder : ℕ) (reason : UnreadReason)
    (occurredAt : ℤ) (sequenceOverflow orderOverflow : ε) : Except ε UnreadState := do
  let seq ← increment u64Max sequenceOverflow unread.occurrenceSeq
  let order ← increment u64Max orderOverflow (max latestUnreadOrder unread.latestOrder)
  pure { unread with occurrenceSeq := seq, latest := some ⟨seq, order, reason, occurredAt⟩ }

def validate (unread : UnreadState) : Except ModelError Unit := do
  refuse (unread.occurrenceSeq < unread.readSeq)
    ⟨"unread read sequence exceeds occurrence sequence"⟩
  match unread.latest, unread.occurrenceSeq with
  | none, 0 => .ok ()
  | some latest, sequence =>
    if 0 < sequence ∧ latest.seq = sequence ∧ 0 < latest.order then .ok ()
    else .error ⟨"unread latest occurrence disagrees with occurrence sequence"⟩
  | _, _ => .error ⟨"unread latest occurrence disagrees with occurrence sequence"⟩

theorem validate_eq_ok {unread : UnreadState} {u : Unit} :
    unread.validate = .ok u ↔ unread.readSeq ≤ unread.occurrenceSeq ∧
      (unread.latest = none ∧ unread.occurrenceSeq = 0 ∨
        ∃ latest, unread.latest = some latest ∧ 0 < unread.occurrenceSeq ∧
          latest.seq = unread.occurrenceSeq ∧ 0 < latest.order) := by
  rcases unread with ⟨occurrenceSeq, readSeq, latest⟩
  cases latest with
  | none => cases occurrenceSeq <;> simp [validate, bind_eq_ok]
  | some latest => simp [validate, bind_eq_ok]

theorem occur_eq_ok {ε : Type} {unread unread' : UnreadState} {latestUnreadOrder : ℕ}
    {reason : UnreadReason} {occurredAt : ℤ} {sequenceOverflow orderOverflow : ε} :
    unread.occur latestUnreadOrder reason occurredAt sequenceOverflow orderOverflow = .ok unread' ↔
      unread.occurrenceSeq < u64Max ∧ max latestUnreadOrder unread.latestOrder < u64Max ∧
      unread' = { unread with
        occurrenceSeq := unread.occurrenceSeq + 1
        latest := some ⟨unread.occurrenceSeq + 1,
          max latestUnreadOrder unread.latestOrder + 1, reason, occurredAt⟩ } := by
  simp only [occur, bind_eq_ok, increment_eq_ok, pure_eq_ok]
  constructor
  · rintro ⟨_, ⟨hseq, rfl⟩, _, ⟨horder, rfl⟩, rfl⟩
    exact ⟨hseq, horder, rfl⟩
  · rintro ⟨hseq, horder, rfl⟩
    exact ⟨_, ⟨hseq, rfl⟩, _, ⟨horder, rfl⟩, rfl⟩

theorem validate_occur {unread : UnreadState} {order : ℕ} {reason : UnreadReason} {at' : ℤ}
    (h : unread.validate = .ok ()) :
    ({ unread with
      occurrenceSeq := unread.occurrenceSeq + 1
      latest := some ⟨unread.occurrenceSeq + 1, order + 1, reason, at'⟩ } : UnreadState).validate
      = .ok () := by
  have hread := (validate_eq_ok.mp h).1
  refine validate_eq_ok.mpr ⟨?_, Or.inr ⟨_, rfl, ?_, rfl, ?_⟩⟩
  · exact hread.trans (Nat.le_succ _)
  · exact Nat.succ_pos _
  · exact Nat.succ_pos _

theorem validate_read {unread : UnreadState} (h : unread.validate = .ok ()) :
    ({ unread with readSeq := unread.occurrenceSeq } : UnreadState).validate = .ok () :=
  validate_eq_ok.mpr ⟨le_rfl, (validate_eq_ok.mp h).2⟩

end UnreadState

structure PromptState where
  text : String
  source : String
  digest : Option String
deriving DecidableEq

def PromptState.validate (prompt : PromptState) : Except ModelError Unit := do
  validateRequiredText prompt.text "prompt" bodyMaxBytes
  validateRequiredText prompt.source "prompt source" identifierMaxBytes
  forSome (fun digest =>
    refuse (byteLen digest ≠ 64 ∨ digest.toList.all isLowerHexDigit = false)
      ⟨"prompt digest is invalid"⟩) prompt.digest

theorem PromptState.text_of_validate {prompt : PromptState} (h : prompt.validate = .ok ()) :
    isBlank prompt.text = false ∧ hasControl prompt.text = false := by
  obtain ⟨_, htext, -⟩ := bind_eq_ok.mp h
  obtain ⟨hblank, -, hcontrol⟩ := validateRequiredText_eq_ok.mp htext
  exact ⟨hblank, hcontrol⟩

structure ResponseState where
  text : String
  observedAt : ℤ
deriving DecidableEq

def ResponseState.validate (response : ResponseState) : Except ModelError Unit := do
  validateRequiredText response.text "response preview" responsePreviewMaxBytes
  refuse (containsLineBreak response.text = true) ⟨"response preview must be one line"⟩
  refuse (response.observedAt < 0) ⟨"response preview timestamp must be non-negative"⟩

theorem ResponseState.text_of_validate {response : ResponseState}
    (h : response.validate = .ok ()) :
    isBlank response.text = false ∧ hasControl response.text = false := by
  obtain ⟨_, htext, -⟩ := bind_eq_ok.mp h
  obtain ⟨hblank, -, hcontrol⟩ := validateRequiredText_eq_ok.mp htext
  exact ⟨hblank, hcontrol⟩

structure BackgroundProcessState where
  command : String
  observedAt : ℤ
deriving DecidableEq

def BackgroundProcessState.validate (process : BackgroundProcessState) :
    Except ModelError Unit := do
  validateRequiredText process.command "background process command" bodyMaxBytes
  refuse (containsLineBreak process.command = true)
    ⟨"background process command must be one line"⟩
  refuse (process.observedAt < 0) ⟨"background process timestamp must be non-negative"⟩

structure AgentProcessIdentity where
  pid : ℕ
  startToken : String
deriving DecidableEq

def AgentProcessIdentity.validate (identity : AgentProcessIdentity) : Except ModelError Unit :=
  refuse (identity.pid = 0 ∨ isBlank identity.startToken = true ∨
      identifierMaxBytes < byteLen identity.startToken ∨
      containsLineBreak identity.startToken = true)
    ⟨"invalid agent process identity"⟩

structure CurrentDurableRunProjection where
  runId : String
  runSeq : ℕ
  runRevision : ℕ
deriving DecidableEq

def CurrentDurableRunProjection.validate (run : CurrentDurableRunProjection) :
    Except ModelError Unit := do
  validateRandomId run.runId "durable run ID"
  refuse (run.runSeq = 0 ∨ run.runRevision = 0)
    ⟨"durable run sequence and revision must be positive"⟩

theorem CurrentDurableRunProjection.runSeq_pos {run : CurrentDurableRunProjection}
    (h : run.validate = .ok ()) : 0 < run.runSeq := by
  obtain ⟨_, -, hpos⟩ := bind_eq_ok.mp h
  rw [refuse_eq_ok] at hpos
  omega

structure ProcessObservation where
  agentProcessChecked : Bool
  agentProcess : Option AgentProcessIdentity
  backgroundProcessAlive : Option Bool
  listeningPorts : Option (List ℕ)
deriving DecidableEq

def sortedPorts : List ℕ → Bool
  | a :: b :: rest => a < b && sortedPorts (b :: rest)
  | _ => true

def validatePorts (ports : List ℕ) : Except ModelError Unit := do
  refuse (maxListeningPorts < ports.length) ⟨"too many listening ports"⟩
  refuse (sortedPorts ports = false) ⟨"listening ports must be sorted and unique"⟩

def ProcessObservation.validate (observation : ProcessObservation) : Except ModelError Unit := do
  refuse (observation.agentProcess.isSome = true ∧ observation.agentProcessChecked = false)
    ⟨"agent process identity requires a completed check"⟩
  forSome AgentProcessIdentity.validate observation.agentProcess
  forSome validatePorts observation.listeningPorts

theorem ProcessObservation.validate_eq_ok {observation : ProcessObservation} {u : Unit} :
    observation.validate = .ok u ↔
      (observation.agentProcess.isSome = true → observation.agentProcessChecked = true) ∧
      forSome AgentProcessIdentity.validate observation.agentProcess = .ok () ∧
      forSome validatePorts observation.listeningPorts = .ok () := by
  simp [ProcessObservation.validate, bind_eq_ok]

structure TaskProgress where
  done : ℕ := 0
  total : ℕ := 0
deriving DecidableEq

inductive TaskItemStatus
  | pending
  | inProgress
  | completed
deriving DecidableEq

structure TaskItemState where
  id : Option String
  step : String
  status : TaskItemStatus
deriving DecidableEq

structure TaskState where
  progress : TaskProgress := {}
  items : List TaskItemState := []
deriving DecidableEq

structure SubagentState where
  agentId : String
  agentType : String
  displayName : Option String
deriving DecidableEq

inductive WorktreeActivityKind
  | vwExec
deriving DecidableEq

structure WorktreeActivity where
  kind : WorktreeActivityKind
  name : String
  path : String
  command : String
  observedAt : ℤ
deriving DecidableEq

/-- The text rules of a worktree activity, as the progress check and the record check apply
them. -/
def validateWorktreeActivity (activity : WorktreeActivity) : Except ModelError Unit := do
  validateRequiredText activity.name "worktree name" bodyMaxBytes
  validateRequiredText activity.path "worktree path" pathMaxBytes
  validateRequiredText activity.command "worktree command" bodyMaxBytes

def completedCount (items : List TaskItemState) : ℕ :=
  items.countP fun item => item.status = .completed

def validateTaskItems (seen : List String) : List TaskItemState → Except ModelError Unit
  | [] => .ok ()
  | item :: rest => do
    validateRequiredText item.step "task step" bodyMaxBytes
    match item.id with
    | none => validateTaskItems seen rest
    | some id =>
      validateRequiredText id "task item ID" identifierMaxBytes
      refuse (id ∈ seen) ⟨"duplicate task item ID"⟩
      validateTaskItems (id :: seen) rest

def validateTasks (tasks : TaskState) : Except ModelError Unit := do
  refuse (tasks.progress.total < tasks.progress.done) ⟨"task progress exceeds total"⟩
  refuse (maxTaskItems < tasks.items.length) ⟨"too many task items"⟩
  validateTaskItems [] tasks.items
  refuse (tasks.items ≠ [] ∧ (tasks.progress.done ≠ completedCount tasks.items ∨
      tasks.progress.total ≠ tasks.items.length))
    ⟨"task progress does not match task items"⟩

def validateSubagentList (seen : List String) : List SubagentState → Except ModelError Unit
  | [] => .ok ()
  | subagent :: rest => do
    validateRequiredText subagent.agentId "subagent ID" identifierMaxBytes
    validateRequiredText subagent.agentType "subagent type" identifierMaxBytes
    forSome (validateRequiredText · "subagent name" identifierMaxBytes) subagent.displayName
    refuse (subagent.agentId ∈ seen) ⟨"duplicate subagent ID"⟩
    validateSubagentList (subagent.agentId :: seen) rest

def validateSubagents (subagents : List SubagentState) : Except ModelError Unit := do
  refuse (maxSubagents < subagents.length) ⟨"too many subagents"⟩
  validateSubagentList [] subagents

theorem validateTasks_default : validateTasks {} = .ok () := by decide

theorem validatePorts_nil : validatePorts [] = .ok () := by decide

theorem validateSubagents_nil : validateSubagents [] = .ok () := by decide

inductive StoredStateDescriptor
  | canonical (version : StateVersion)
deriving DecidableEq

end VdeTmux.Pane
