import VdeTmux.Pane.Run

/-!
# The runtime of all panes

The records and trackers of all panes with what is projected from them: transitions, diagnostics,
notifications, triage and flashes. An operation works on a draft and takes it over when every
check and the save went through. What a save, a random id and the length of a serialized frame
turn out to be is given from outside.
-/

open Foundation Foundation.Text
namespace VdeTmux.Pane

instance : Ord PaneInstance := ⟨compareLex (compareOn (·.paneId)) (compareOn (·.panePid))⟩

instance : Std.TransOrd PaneInstance := inferInstanceAs (Std.TransCmp (compareLex _ _))

instance : Std.LawfulEqOrd PaneInstance where
  eq_of_compare {a b} h := by
    obtain ⟨hid, hpid⟩ := compareLex_eq_eq.mp
      (show compareLex (compareOn (·.paneId)) (compareOn (·.panePid)) a b = .eq from h)
    rcases a with ⟨paneId, panePid⟩
    rcases b with ⟨paneId', panePid'⟩
    obtain rfl : paneId = paneId' := Std.LawfulEqOrd.eq_of_compare hid
    obtain rfl : panePid = panePid' := Std.LawfulEqOrd.eq_of_compare hpid
    rfl

abbrev PaneMap (α : Type) := Std.ExtTreeMap PaneInstance α

def maxDiagnostics : ℕ := 256
def maxNotificationJobs : ℕ := 64
def maxResponseFrameBytes : ℕ := 16777216
def screenEvidenceTtlSeconds : ℤ := 3

inductive BadgeState
  | blocked
  | limited
  | working
  | done
  | unknown
  | idle
deriving DecidableEq

def resolveBadge (state : PaneState) : BadgeState :=
  match state.lifecycle with
  | .waiting reason => if reason.isUsageLimit then .limited else .blocked
  | .error _ => .blocked
  | .running => .working
  | .idle =>
    if state.unread.latestUnread.any fun latest => latest.reason = .completed then .done
    else .idle

def recordBadge (state : Option PaneState) : Option BadgeState := state.map resolveBadge

inductive StoreError
  | stateTooLarge
  | persistFailed (message : String)
  | failStop (message : String)
  | counterOverflow (counter : String)
  | reduce (error : ReduceError)
  | random (message : String)
deriving DecidableEq

def StoreError.requiresDaemonExit : StoreError → Bool
  | failStop _ | counterOverflow _ | reduce (.counterOverflow _) => true
  | _ => false

structure PaneStateDiagnostic where
  paneInstance : PaneInstance
  message : String
deriving DecidableEq

structure CanonicalTransition where
  paneInstance : PaneInstance
  agent : Option AgentKind
  fromBadge : Option BadgeState
  toBadge : Option BadgeState
  atEpoch : ℤ
  stateVersion : Option StateVersion
  runSeq : ℕ
  completedSeq : ℕ
  promptDigest : Option String
  promptSubmitted : Bool
deriving DecidableEq

structure CanonicalNotification where
  paneInstance : PaneInstance
  stateVersion : StateVersion
deriving DecidableEq

structure ApplyResult where
  outcome : ReductionOutcome
  stateVersion : Option StateVersion
  snapshotRevision : ℕ
deriving DecidableEq

structure ObservationDispatchSnapshot where
  paneInstance : PaneInstance
  base : Option StoredStateDescriptor
  tracker : CaptureTrackerSnapshot
  state : Option PaneState
deriving DecidableEq

structure PaneReadApplyResult where
  committed : ℕ
  snapshotRevision : ℕ
deriving DecidableEq

structure CanonicalStateRuntime where
  records : PaneMap PaneState := ∅
  trackers : PaneMap CaptureTrackerSnapshot := ∅
  diagnostics : List PaneStateDiagnostic := []
  transitions : List CanonicalTransition := []
  notificationJobs : List CanonicalNotification := []
  notificationGenerations : PaneMap StateVersion := ∅
  triage : PaneMap BadgeState := ∅
  triageCalmPolls : PaneMap ℕ := ∅
  flash : PaneMap ℕ := ∅
  snapshotRevision : ℕ := 0
  latestUnreadOrder : ℕ := 0
  snapshotFrameTooLarge : Bool := false
  failStopped : Bool := false

class ProjectionFrame where
  length (snapshotRevision : ℕ) (records : List PaneState)
    (transitions : List CanonicalTransition) (diagnostics : List PaneStateDiagnostic) : ℕ

/-- A queue that drops its oldest entries beyond a limit. -/
def keepLast {α : Type} (limit : ℕ) (l : List α) : List α := l.drop (l.length - limit)

def pushDiagnosticOf (diagnostics : List PaneStateDiagnostic) (pane : PaneInstance)
    (message : String) : List PaneStateDiagnostic :=
  keepLast maxDiagnostics (diagnostics ++ [⟨pane, message⟩])

def eventCanCreateRecord (current : Option PaneState) (event : PaneEvent) : Bool :=
  current.isNone &&
    match event with
    | .claudeToolResultObserved .. | .claudeTaskNotificationsObserved .. | .claudeStopped ..
    | .agentSessionStarted .. | .beginRun .. | .activityObserved ..
    | .activityAndProgressObserved .. | .waitRequested .. | .failRun .. | .completeRun ..
    | .responseAndCompleteRun .. => true
    | .explicitStateReported report =>
      match report.lifecycle with
      | some .running | some (.waiting _) | some (.error _) => true
      | some .idle => report.completedAt.isSome || report.attention
      | none => false
    | .observationBatch _ _ _ (.present _) _ _ => true
    | _ => false

def transitionAtEpoch (event : PaneEvent) (current : PaneState) : ℤ := eventEpoch event current

def i64Max : ℤ := 9223372036854775807
def i64Min : ℤ := -9223372036854775808

def saturatingSub (a b : ℤ) : ℤ := max i64Min (min i64Max (a - b))

def publicIdentityChanged (tracker next : CaptureTrackerSnapshot) : Bool :=
  tracker.agentProcess ≠ next.agentProcess || tracker.codexScreen ≠ next.codexScreen ||
    tracker.codexScreenExpiredAt ≠ next.codexScreenExpiredAt ||
    tracker.hookAuthoritative ≠ next.hookAuthoritative

namespace CanonicalStateRuntime

def descriptor (runtime : CanonicalStateRuntime) (pane : PaneInstance) :
    Option StoredStateDescriptor := observedDescriptor runtime.records[pane]?

def tracker (runtime : CanonicalStateRuntime) (pane : PaneInstance) : CaptureTrackerSnapshot :=
  runtime.trackers[pane]?.getD {}

def validateRecords [Sha256] (seen : List ℕ) :
    List (PaneInstance × PaneState) → Except StoreError Unit
  | [] => .ok ()
  | (pane, state) :: rest => do
    refuse (state.paneInstance ≠ pane)
      (.persistFailed "canonical cache key and pane instance disagree")
    state.validate.mapError fun error => .persistFailed error.message
    match state.unread.latest with
    | none => validateRecords seen rest
    | some latest =>
      refuse (latest.order ∈ seen) (.persistFailed "duplicate unread occurrence order")
      validateRecords (latest.order :: seen) rest

def validateProjection [Sha256] (runtime : CanonicalStateRuntime) : Except StoreError Unit := do
  validateRecords [] runtime.records.toList
  refuse (maxDiagnostics < runtime.transitions.length ∨
      maxDiagnostics < runtime.diagnostics.length ∨
      maxNotificationJobs < runtime.notificationJobs.length ∨
      maxDiagnostics < runtime.notificationGenerations.size ∨
      maxDiagnostics < runtime.triage.size ∨ maxDiagnostics < runtime.triageCalmPolls.size ∨
      maxDiagnostics < runtime.flash.size)
    (.persistFailed "projection collection exceeds configured bound")

def bumpSnapshotRevision (runtime : CanonicalStateRuntime) :
    Except StoreError CanonicalStateRuntime := do
  let snapshotRevision ← increment u64Max (.counterOverflow "snapshot revision")
    runtime.snapshotRevision
  return { runtime with snapshotRevision := snapshotRevision }

def preflightProjection [ProjectionFrame] (runtime : CanonicalStateRuntime) (responseLimit : ℕ) :
    Bool × CanonicalStateRuntime :=
  let tooLarge := decide (responseLimit < ProjectionFrame.length runtime.snapshotRevision
    (runtime.records.toList.map (·.2)) runtime.transitions runtime.diagnostics)
  let diagnostics :=
    if tooLarge = true ∧ ¬∃ diagnostic ∈ runtime.diagnostics,
        diagnostic.message = "resolved snapshot exceeds frame limit" then
      runtime.diagnostics ++ [⟨(runtime.records.toList.head?.map (·.1)).getD ⟨"%0", 1⟩,
        "resolved snapshot exceeds frame limit"⟩]
    else runtime.diagnostics
  (runtime.snapshotFrameTooLarge ≠ tooLarge,
    { runtime with
      snapshotFrameTooLarge := tooLarge
      diagnostics := keepLast maxDiagnostics diagnostics })

/-- A new revision with its checks, on the runtime itself: what went before a failed check
stays. -/
def publishInPlace [Sha256] [ProjectionFrame] (runtime : CanonicalStateRuntime) :
    Except StoreError Unit × CanonicalStateRuntime :=
  match runtime.bumpSnapshotRevision with
  | .error e => (.error e, runtime)
  | .ok bumped =>
    match bumped.validateProjection with
    | .error e => (.error e, bumped)
    | .ok () => (.ok (), (bumped.preflightProjection maxResponseFrameBytes).2)

def publishResult {α : Type} [Sha256] [ProjectionFrame] (runtime : CanonicalStateRuntime)
    (report : CanonicalStateRuntime → α) : Except StoreError α × CanonicalStateRuntime :=
  match runtime.publishInPlace with
  | (.error e, failed) => (.error e, failed)
  | (.ok (), published) => (.ok (report published), published)

def publish [Sha256] [ProjectionFrame] (draft : CanonicalStateRuntime) :
    Except StoreError CanonicalStateRuntime :=
  match draft.publishInPlace with
  | (.ok (), published) => .ok published
  | (.error e, _) => .error e

def bumpIf (draft : CanonicalStateRuntime) (bump : Bool) :
    Except StoreError CanonicalStateRuntime :=
  if bump then draft.bumpSnapshotRevision else .ok draft

def settleProjection [Sha256] [ProjectionFrame] (draft : CanonicalStateRuntime) (bump : Bool) :
    Except StoreError CanonicalStateRuntime := do
  let draft ← draft.bumpIf bump
  draft.validateProjection
  return (draft.preflightProjection maxResponseFrameBytes).2

def commit {α : Type} (runtime : CanonicalStateRuntime)
    (result : Except StoreError (α × CanonicalStateRuntime)) :
    Except StoreError α × CanonicalStateRuntime :=
  match result with
  | .ok (a, draft) => (.ok a, draft)
  | .error e => (.error e, runtime)

def hydratedTracker (state : PaneState) : CaptureTrackerSnapshot :=
  { epoch := some (state.stateId, state.agentEpoch), lastAgentProcess := state.agentProcess }

def hydrateRecord (runtime : CanonicalStateRuntime) (entry : PaneInstance × PaneState) :
    CanonicalStateRuntime :=
  let tracked := { runtime with
    trackers := runtime.trackers.insert entry.1 (hydratedTracker entry.2) }
  if resolveBadge entry.2 = .blocked then
    { tracked with
      notificationGenerations := tracked.notificationGenerations.insert entry.1 entry.2.version
      triage := tracked.triage.insert entry.1 .blocked }
  else tracked

def latestOrders (records : PaneMap PaneState) : List ℕ :=
  records.toList.filterMap fun entry => entry.2.unread.latest.map (·.order)

def hydrate [Sha256] (records : PaneMap PaneState) : Except StoreError CanonicalStateRuntime := do
  let runtime : CanonicalStateRuntime :=
    { records := records, latestUnreadOrder := (latestOrders records).foldl max 0 }
  runtime.validateProjection
  return runtime.records.toList.foldl hydrateRecord runtime

/-- Notifications beyond the limit are dropped from the front, each with a diagnostic. -/
def shedNotifications (pane : PaneInstance) (diagnostics : List PaneStateDiagnostic) :
    List CanonicalNotification → List CanonicalNotification × List PaneStateDiagnostic
  | [] => ([], diagnostics)
  | job :: jobs =>
    if maxNotificationJobs < jobs.length + 1 then
      shedNotifications pane
        (pushDiagnosticOf diagnostics pane "notification_queue_overflow: dropped_oldest") jobs
    else (job :: jobs, diagnostics)

def zipRecords (previous current : Option PaneState) : Option (PaneState × PaneState) :=
  previous.bind fun previous => current.map (previous, ·)

def canonicalTransition (pane : PaneInstance) (previous current : Option PaneState)
    (event : PaneEvent) (atEpoch : ℤ) : CanonicalTransition :=
  let discarded := (zipRecords previous current).filter fun (previous, current) =>
    resolveBadge previous = .done ∧ (previous.stateId ≠ current.stateId ∨
      previous.agentEpoch ≠ current.agentEpoch ∨ previous.agent ≠ current.agent ∨
      previous.agentSessionId ≠ current.agentSessionId)
  let state := current.or previous
  { paneInstance := pane
    agent :=
      match discarded with
      | some (previous, _) => some previous.agent
      | none => state.map (·.agent)
    fromBadge := recordBadge previous
    toBadge := recordBadge current
    atEpoch :=
      match discarded with
      | some (previous, _) => (previous.completedAt.or previous.startedAt).getD atEpoch
      | none => atEpoch
    stateVersion := current.map (·.version)
    runSeq := (state.map (·.runSeq)).getD 0
    completedSeq := (state.map (·.completedSeq)).getD 0
    promptDigest :=
      match event with
      | .beginRun _ prompt => prompt.bind (·.digest)
      | _ => none
    promptSubmitted :=
      match event with
      | .beginRun _ (some prompt) => prompt.source = "user" && prompt.digest.isSome
      | _ => false }

def occurrenceEnded (previous current : Option PaneState) : Bool :=
  (zipRecords previous current).any fun (before, after) =>
    before.stateId ≠ after.stateId || before.agentEpoch ≠ after.agentEpoch

def notifyBlocked (runtime : CanonicalStateRuntime) (pane : PaneInstance)
    (stateVersion : StateVersion) : CanonicalStateRuntime :=
  let (jobs, diagnostics) := shedNotifications pane runtime.diagnostics
    (runtime.notificationJobs ++ [⟨pane, stateVersion⟩])
  { runtime with
    notificationGenerations := runtime.notificationGenerations.insert pane stateVersion
    notificationJobs := jobs
    diagnostics := diagnostics }

/-- A pane that is no longer blocked, or blocked in another epoch, ends its occurrence. -/
def endOccurrence (runtime : CanonicalStateRuntime) (pane : PaneInstance)
    (previous current : Option PaneState) : CanonicalStateRuntime :=
  if recordBadge current ≠ some .blocked ∨ occurrenceEnded previous current = true then
    { runtime with notificationGenerations := runtime.notificationGenerations.erase pane }
  else runtime

def pushTransition (runtime : CanonicalStateRuntime) (transition : CanonicalTransition) :
    CanonicalStateRuntime :=
  { runtime with transitions := keepLast maxDiagnostics (runtime.transitions ++ [transition]) }

def announce (runtime : CanonicalStateRuntime) (pane : PaneInstance)
    (previous current : Option PaneState) : CanonicalStateRuntime :=
  if recordBadge previous = recordBadge current then runtime
  else
    let flashing := { runtime with flash := runtime.flash.insert pane 2 }
    match current with
    | some state =>
      if resolveBadge state = .blocked then flashing.notifyBlocked pane state.version else flashing
    | none => flashing

def enterTriage (runtime : CanonicalStateRuntime) (pane : PaneInstance)
    (current : Option PaneState) : CanonicalStateRuntime :=
  if recordBadge current = some .blocked then
    { runtime with
      triage := runtime.triage.insert pane .blocked
      triageCalmPolls := runtime.triageCalmPolls.erase pane }
  else runtime

def deriveCandidateProjection (runtime : CanonicalStateRuntime) (pane : PaneInstance)
    (previous current : Option PaneState) (event : PaneEvent) (atEpoch : ℤ) :
    CanonicalStateRuntime :=
  ((((runtime.endOccurrence pane previous current).pushTransition
    (canonicalTransition pane previous current event atEpoch)).announce pane previous
      current).enterTriage pane current)

def admitOrder (latestUnreadOrder candidateOrder : ℕ) : Except StoreError ℕ :=
  if latestUnreadOrder < candidateOrder then do
    let expected ← increment u64Max (.counterOverflow "unread occurrence order") latestUnreadOrder
    refuse (candidateOrder ≠ expected)
      (.persistFailed "unread occurrence order is not globally monotonic")
    return candidateOrder
  else .ok latestUnreadOrder

def track (runtime : CanonicalStateRuntime) (pane : PaneInstance)
    (delta : Option CaptureTrackerDelta) : CanonicalStateRuntime :=
  match delta with
  | none => runtime
  | some delta => { runtime with trackers := runtime.trackers.insert pane delta.next }

section
variable [Sha256] [ProjectionFrame]

/-- A reduction without a canonical change only tracks; what of the tracker is shown outside is
published. -/
def applyTracked (runtime : CanonicalStateRuntime) (pane : PaneInstance)
    (outcome : ReductionOutcome) (delta : Option CaptureTrackerDelta) :
    Except StoreError ApplyResult × CanonicalStateRuntime :=
  let tracked := runtime.track pane delta
  let report := fun runtime : CanonicalStateRuntime =>
    (⟨outcome, runtime.records[pane]?.map (·.version), runtime.snapshotRevision⟩ : ApplyResult)
  if delta.any fun delta => publicIdentityChanged (runtime.tracker pane) delta.next then
    tracked.publishResult report
  else (.ok (report tracked), tracked)

def storeCandidate (runtime : CanonicalStateRuntime) (pane : PaneInstance) (event : PaneEvent)
    (candidate : PaneState) (delta : Option CaptureTrackerDelta) (latestUnreadOrder : ℕ) :
    CanonicalStateRuntime :=
  let stored := { runtime with
    latestUnreadOrder := latestUnreadOrder
    records := runtime.records.insert pane candidate }
  (stored.track pane delta).deriveCandidateProjection pane runtime.records[pane]?
    (some candidate) event (transitionAtEpoch event candidate)

def applyCandidate (runtime : CanonicalStateRuntime) (pane : PaneInstance) (event : PaneEvent)
    (candidate : PaneState) (delta : Option CaptureTrackerDelta) :
    Except StoreError ApplyResult × CanonicalStateRuntime :=
  match admitOrder runtime.latestUnreadOrder candidate.unread.latestOrder with
  | .error e => (.error e, runtime)
  | .ok latestUnreadOrder =>
    (runtime.storeCandidate pane event candidate delta latestUnreadOrder).publishResult
      fun published =>
        ⟨.canonicalChanged, some candidate.version, published.snapshotRevision⟩

/-- The input that an event is to its pane. A fresh id comes with the events that may need one. -/
def inputOf (runtime : CanonicalStateRuntime) (envelope : PaneEventEnvelope)
    (visibility : VisibilitySnapshot) (privateTaskPrompt : Option String)
    (newStateId : Option StateId) : Input :=
  ⟨envelope, visibility, newStateId, runtime.latestUnreadOrder, privateTaskPrompt⟩

def generateStateId (runtime : CanonicalStateRuntime) (envelope : PaneEventEnvelope)
    (generated : Except String StateId) : Except StoreError (Option StateId) :=
  if eventCanCreateRecord runtime.records[envelope.paneInstance]? envelope.event then
    (generated.mapError .random).map some
  else .ok none

def cell (runtime : CanonicalStateRuntime) (pane : PaneInstance) : Cell :=
  ⟨runtime.records[pane]?, runtime.tracker pane⟩

def applyEventInMemory (runtime : CanonicalStateRuntime) (envelope : PaneEventEnvelope)
    (visibility : VisibilitySnapshot) (privateTaskPrompt : Option String)
    (generated : Except String StateId) :
    Except StoreError ApplyResult × CanonicalStateRuntime :=
  match runtime.generateStateId envelope generated with
  | .error e => (.error e, runtime)
  | .ok newStateId =>
    match (runtime.cell envelope.paneInstance).reduce
      (runtime.inputOf envelope visibility privateTaskPrompt newStateId) with
    | .error e => (.error (.reduce e), runtime)
    | .ok reduction =>
      match reduction.outcome, reduction.record with
      | .canonicalChanged, some candidate =>
        runtime.applyCandidate envelope.paneInstance envelope.event candidate
          reduction.trackerDelta
      | outcome, _ =>
        runtime.applyTracked envelope.paneInstance outcome reduction.trackerDelta

def applyEventWithPrivateTaskPrompt (runtime : CanonicalStateRuntime)
    (saved : Except StoreError Unit) (envelope : PaneEventEnvelope)
    (visibility : VisibilitySnapshot) (privateTaskPrompt : Option String)
    (generated : Except String StateId) :
    Except StoreError ApplyResult × CanonicalStateRuntime :=
  runtime.commit do
    refuse (runtime.failStopped = true) (.failStop "daemon is fail-stopped")
    let (result, draft) :=
      runtime.applyEventInMemory envelope visibility privateTaskPrompt generated
    let result ← result
    if result.outcome = .canonicalChanged then saved
    return (result, draft)

def applyEvent (runtime : CanonicalStateRuntime) (saved : Except StoreError Unit)
    (envelope : PaneEventEnvelope) (visibility : VisibilitySnapshot)
    (generated : Except String StateId) :
    Except StoreError ApplyResult × CanonicalStateRuntime :=
  runtime.applyEventWithPrivateTaskPrompt saved envelope visibility none generated

structure ReadDraft where
  working : CanonicalStateRuntime
  committed : ℕ := 0
  projectionChanged : Bool := false

/-- One read. An error that ends the daemon comes with `true`; other errors of a read are passed
over, with what the read had changed before. -/
def readPane (revisionBefore : ℕ) (draft : ReadDraft) (envelope : PaneEventEnvelope) :
    Except (StoreError × Bool) ReadDraft :=
  if envelope.event.isMarkPaneRead = false then
    .error (.reduce (.invalidRequest "pane read commit accepts only MarkPaneRead events"), false)
  else
    match ({ draft.working with snapshotRevision := revisionBefore } :
        CanonicalStateRuntime).applyEventInMemory envelope {} none (.error "") with
    | (.ok result, working) =>
      .ok ⟨working,
        if result.outcome = .canonicalChanged then draft.committed + 1 else draft.committed,
        draft.projectionChanged || result.outcome ≠ .noop⟩
    | (.error e, working) =>
      if e.requiresDaemonExit then .error (e, true) else .ok { draft with working := working }

def readPanes (revisionBefore : ℕ) (draft : ReadDraft) :
    List PaneEventEnvelope → Except (StoreError × Bool) ReadDraft
  | [] => .ok draft
  | envelope :: rest => do
    let draft ← readPane revisionBefore draft envelope
    readPanes revisionBefore draft rest

/-- The draft of the reads with its checks. An error that ends the daemon comes with `true`. -/
def readDraft (runtime : CanonicalStateRuntime) (envelopes : List PaneEventEnvelope) :
    Except (StoreError × Bool) (PaneReadApplyResult × CanonicalStateRuntime) := do
  let draft ← readPanes runtime.snapshotRevision ⟨runtime, 0, false⟩ envelopes
  let working := { draft.working with snapshotRevision := runtime.snapshotRevision }
  let working ← (working.settleProjection draft.projectionChanged).mapError fun e => (e, true)
  return (⟨draft.committed, working.snapshotRevision⟩, working)

def applyPaneReads (runtime : CanonicalStateRuntime) (saved : Except StoreError Unit)
    (envelopes : List PaneEventEnvelope) :
    Except StoreError PaneReadApplyResult × CanonicalStateRuntime :=
  if runtime.failStopped then (.error (.failStop "daemon is fail-stopped"), runtime)
  else
    match runtime.readDraft envelopes with
    | .error (e, exit) => (.error e, { runtime with failStopped := exit })
    | .ok (result, working) =>
      runtime.commit do
        if 0 < result.committed then saved
        return (result, working)

end

end CanonicalStateRuntime
end VdeTmux.Pane
