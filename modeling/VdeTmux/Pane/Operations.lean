import VdeTmux.Pane.Runtime

/-!
# The operations of the runtime

Everything else that changes the runtime, and one step relation over all of it.
-/

open Foundation Foundation.Text
namespace VdeTmux.Pane
namespace CanonicalStateRuntime

def failStopped? (runtime : CanonicalStateRuntime) : Except StoreError Unit :=
  refuse (runtime.failStopped = true) (.failStop "daemon is fail-stopped")

def bindingConcerns (record : PaneState) (expected : StateVersion)
    (process : AgentProcessIdentity) : Bool :=
  record.version = expected && record.agent.value = "codex" && record.agentPresent &&
    record.agentProcess = some process

def noteCodexBindingRejected (runtime : CanonicalStateRuntime) (pane : PaneInstance)
    (expected : StateVersion) (process : AgentProcessIdentity) :
    Except StoreError Bool × CanonicalStateRuntime :=
  match runtime.records[pane]?.filter fun record => bindingConcerns record expected process with
  | none => (.ok false, runtime)
  | some record =>
    let rejection : CodexBindingRejection := ⟨record.stateId, record.agentEpoch, process⟩
    let tracker := runtime.tracker pane
    if tracker.codexBindingRejected = some rejection then (.ok false, runtime)
    else
      runtime.commit do
        let generation ← increment u64Max
          (StoreError.counterOverflow "capture tracker generation") tracker.generation
        return (true, { runtime with
          trackers := runtime.trackers.insert pane { tracker with
            generation := generation
            epoch := some (record.stateId, record.agentEpoch)
            codexBindingRejected := some rejection } })

def freezeObservation (runtime : CanonicalStateRuntime) (pane : PaneInstance) :
    ObservationDispatchSnapshot :=
  ⟨pane, runtime.descriptor pane, runtime.tracker pane, runtime.records[pane]?⟩

def freezeObservationDispatch (runtime : CanonicalStateRuntime) (panes : List PaneInstance) :
    List ObservationDispatchSnapshot :=
  (panes.map runtime.freezeObservation).mergeSort fun left right =>
    compare left.paneInstance right.paneInstance ≠ .gt

def notificationIsCurrent (runtime : CanonicalStateRuntime) (notification : CanonicalNotification) :
    Bool :=
  !runtime.failStopped &&
    runtime.notificationGenerations[notification.paneInstance]? =
      some notification.stateVersion &&
    runtime.records[notification.paneInstance]?.any fun state =>
      state.agentPresent && state.stateId = notification.stateVersion.stateId &&
        state.agentEpoch = notification.stateVersion.agentEpoch &&
        resolveBadge state = .blocked

def drainNotificationJobs (runtime : CanonicalStateRuntime) :
    List CanonicalNotification × CanonicalStateRuntime :=
  (runtime.notificationJobs, { runtime with notificationJobs := [] })

def advanceTriage (draft : CanonicalStateRuntime × Bool) (pane : PaneInstance) :
    CanonicalStateRuntime × Bool :=
  let (runtime, changed) := draft
  if recordBadge runtime.records[pane]? = some .blocked then
    ({ runtime with triageCalmPolls := runtime.triageCalmPolls.erase pane }, changed)
  else
    let calm := min u8Max (runtime.triageCalmPolls[pane]?.getD 0 + 1)
    if 2 ≤ calm then
      ({ runtime with
        triage := runtime.triage.erase pane
        triageCalmPolls := runtime.triageCalmPolls.erase pane }, true)
    else
      ({ runtime with triageCalmPolls := runtime.triageCalmPolls.insert pane calm }, changed)

def advanceFlash (draft : CanonicalStateRuntime × Bool) (pane : PaneInstance) :
    CanonicalStateRuntime × Bool :=
  let (runtime, changed) := draft
  let remaining := runtime.flash[pane]?.getD 0
  if remaining ≤ 1 then ({ runtime with flash := runtime.flash.erase pane }, true)
  else ({ runtime with flash := runtime.flash.insert pane (remaining - 1) }, changed)

def advancePollProjection [Sha256] [ProjectionFrame] (runtime : CanonicalStateRuntime) :
    Except StoreError Bool × CanonicalStateRuntime :=
  let triaged := (runtime.triage.toList.map (·.1)).foldl advanceTriage (runtime, false)
  let (draft, visibleChanged) := (triaged.1.flash.toList.map (·.1)).foldl advanceFlash triaged
  runtime.commit do
    let draft ← draft.settleProjection visibleChanged
    return (visibleChanged, draft)

def screenExpired (now : ℤ) (tracker : CaptureTrackerSnapshot) : Bool :=
  tracker.codexScreen.any fun screen =>
    !(0 ≤ saturatingSub now screen.2 && saturatingSub now screen.2 ≤ screenEvidenceTtlSeconds)

def expireScreen (now : ℤ) (tracker : CaptureTrackerSnapshot) : CaptureTrackerSnapshot :=
  if screenExpired now tracker then
    { tracker with
      codexScreenExpiredAt := tracker.codexScreen.map (·.2)
      codexScreen := none }
  else tracker

def expireScreenEvidence (runtime : CanonicalStateRuntime) (now : ℤ) :
    Except StoreError Unit × CanonicalStateRuntime :=
  let expired := { runtime with trackers := runtime.trackers.map fun _ => expireScreen now }
  if runtime.trackers.toList.any fun entry => screenExpired now entry.2 then
    expired.commit (expired.bumpSnapshotRevision.map fun bumped => ((), bumped))
  else (.ok (), expired)

def addDiagnostic [Sha256] [ProjectionFrame] (runtime : CanonicalStateRuntime)
    (pane : PaneInstance) (message : String) : Except StoreError Unit × CanonicalStateRuntime :=
  runtime.commit do
    let draft ← publish { runtime with
      diagnostics := pushDiagnosticOf runtime.diagnostics pane message }
    return ((), draft)

def finishSequencedProjection [Sha256] [ProjectionFrame] (runtime : CanonicalStateRuntime)
    (diagnosticPane : Option PaneInstance) (messages : List String) (projectionChanged : Bool)
    (revisionBefore : ℕ) : Except StoreError ℕ × CanonicalStateRuntime :=
  let messages := if diagnosticPane.isSome then messages else []
  let draft := { runtime with
    diagnostics := messages.foldl
      (fun diagnostics message =>
        pushDiagnosticOf diagnostics (diagnosticPane.getD ⟨"%0", 1⟩) message)
      runtime.diagnostics }
  let changed := projectionChanged || !messages.isEmpty
  runtime.commit do
    let draft ← draft.bumpIf (changed && draft.snapshotRevision = revisionBefore)
    draft.validateProjection
    let (preflightChanged, draft) := draft.preflightProjection maxResponseFrameBytes
    if preflightChanged = true ∧ draft.snapshotRevision = revisionBefore then
      let bumped ← draft.bumpSnapshotRevision
      let draft := (bumped.preflightProjection maxResponseFrameBytes).2
      return (draft.snapshotRevision, draft)
    else return (draft.snapshotRevision, draft)

def markProjectionChanged [Sha256] [ProjectionFrame] (runtime : CanonicalStateRuntime) :
    Except StoreError ℕ × CanonicalStateRuntime :=
  runtime.commit do
    let draft ← runtime.publish
    return (draft.snapshotRevision, draft)

def forgetPane (runtime : CanonicalStateRuntime) (pane : PaneInstance) : CanonicalStateRuntime :=
  { runtime with
    records := runtime.records.erase pane
    trackers := runtime.trackers.erase pane
    triage := runtime.triage.erase pane
    notificationGenerations := runtime.notificationGenerations.erase pane
    triageCalmPolls := runtime.triageCalmPolls.erase pane
    flash := runtime.flash.erase pane }

def removeAbsentPane [Sha256] [ProjectionFrame] (runtime : CanonicalStateRuntime)
    (saved : Except StoreError Unit) (pane : PaneInstance)
    (expected : Option StoredStateDescriptor) : Except StoreError Bool × CanonicalStateRuntime :=
  runtime.commit do
    runtime.failStopped?
    if runtime.descriptor pane ≠ expected ∨
        (pane ∉ runtime.records ∧ pane ∉ runtime.trackers) then
      return (false, runtime)
    else
      let draft ← (runtime.forgetPane pane).publish
      saved
      return (true, draft)

def projectCurrentRun [Sha256] [ProjectionFrame] (runtime : CanonicalStateRuntime)
    (saved : Except StoreError Unit) (pane : PaneInstance)
    (projection : CurrentDurableRunProjection) (executionActive : Bool) (observedAt : ℤ) :
    Except StoreError Bool × CanonicalStateRuntime :=
  runtime.commit do
    runtime.failStopped?
    match runtime.records[pane]? with
    | none => return (false, runtime)
    | some current =>
      let (candidate, changed) ← (current.reconcileCurrentRun projection executionActive
        observedAt runtime.latestUnreadOrder).mapError fun error => .persistFailed error.message
      if changed = false then return (false, runtime)
      else
        let draft ← publish { runtime with
          latestUnreadOrder := max runtime.latestUnreadOrder candidate.unread.latestOrder
          records := runtime.records.insert pane candidate }
        saved
        return (true, draft)

end CanonicalStateRuntime

/-- An operation with what it is given from outside. -/
inductive Operation
  | applyEvent (saved : Except StoreError Unit) (envelope : PaneEventEnvelope)
      (visibility : VisibilitySnapshot) (privateTaskPrompt : Option String)
      (generated : Except String StateId)
  | applyPaneReads (saved : Except StoreError Unit) (envelopes : List PaneEventEnvelope)
  | projectCurrentRun (saved : Except StoreError Unit) (pane : PaneInstance)
      (projection : CurrentDurableRunProjection) (executionActive : Bool) (observedAt : ℤ)
  | noteCodexBindingRejected (pane : PaneInstance) (expected : StateVersion)
      (process : AgentProcessIdentity)
  | removeAbsentPane (saved : Except StoreError Unit) (pane : PaneInstance)
      (expected : Option StoredStateDescriptor)
  | advancePollProjection
  | expireScreenEvidence (now : ℤ)
  | addDiagnostic (pane : PaneInstance) (message : String)
  | finishSequencedProjection (diagnosticPane : Option PaneInstance) (messages : List String)
      (projectionChanged : Bool) (revisionBefore : ℕ)
  | markProjectionChanged
  | drainNotificationJobs
  | restart

/-- The id an operation may give to a new record. -/
def Operation.generates : Operation → StateId → Prop
  | applyEvent _ _ _ _ generated, stateId => generated = .ok stateId
  | _, _ => False

/-- The operations that set all trackers anew: the expiry of screen evidence and a restart. -/
def Operation.resets : Operation → Bool
  | expireScreenEvidence _ | restart => true
  | _ => false

namespace CanonicalStateRuntime
variable [Sha256] [ProjectionFrame]

/-- The error of an operation, if any, and the runtime after it. A failed restart leaves no
runtime behind, which counts as no step. -/
def perform (runtime : CanonicalStateRuntime) :
    Operation → Except StoreError Unit × CanonicalStateRuntime
  | .applyEvent saved envelope visibility privateTaskPrompt generated =>
    (runtime.applyEventWithPrivateTaskPrompt saved envelope visibility privateTaskPrompt
      generated).map (·.map fun _ => ()) id
  | .applyPaneReads saved envelopes =>
    (runtime.applyPaneReads saved envelopes).map (·.map fun _ => ()) id
  | .projectCurrentRun saved pane projection executionActive observedAt =>
    (runtime.projectCurrentRun saved pane projection executionActive observedAt).map
      (·.map fun _ => ()) id
  | .noteCodexBindingRejected pane expected process =>
    (runtime.noteCodexBindingRejected pane expected process).map (·.map fun _ => ()) id
  | .removeAbsentPane saved pane expected =>
    (runtime.removeAbsentPane saved pane expected).map (·.map fun _ => ()) id
  | .advancePollProjection => runtime.advancePollProjection.map (·.map fun _ => ()) id
  | .expireScreenEvidence now => runtime.expireScreenEvidence now
  | .addDiagnostic pane message => runtime.addDiagnostic pane message
  | .finishSequencedProjection diagnosticPane messages projectionChanged revisionBefore =>
    (runtime.finishSequencedProjection diagnosticPane messages projectionChanged
      revisionBefore).map (·.map fun _ => ()) id
  | .markProjectionChanged => runtime.markProjectionChanged.map (·.map fun _ => ()) id
  | .drainNotificationJobs => (.ok (), runtime.drainNotificationJobs.2)
  | .restart => runtime.commit ((hydrate runtime.records).map fun hydrated => ((), hydrated))

def Step (runtime : CanonicalStateRuntime) (operation : Operation)
    (runtime' : CanonicalStateRuntime) : Prop := runtime' = (runtime.perform operation).2

/-- A runtime that operations reach from a hydrated one. -/
def Reachable (runtime : CanonicalStateRuntime) : Prop :=
  ∃ records hydrated past, hydrate records = .ok hydrated ∧ Trace Step hydrated past runtime

end CanonicalStateRuntime
end VdeTmux.Pane
