import VdeTmux.Foundation.Effect
import VdeTmux.Daemon.Peek
import VdeTmux.Daemon.Views
import VdeTmux.Sidebar.Preferences

/-!
# Applying an observation poll

One poll changes the topology with its metadata, then the leases, the read marks and the views, and
an error keeps what was changed before it. How the saves, the checks of the projected snapshot and
the random source answer is given from outside.
-/

open Foundation VdeTmux.Pane VdeTmux.Sidebar
namespace VdeTmux.Daemon

structure SessionProjectionMetadata where
  sessionName : String := ""
  projectPath : String := ""
  attached : Option Bool := none
  createdAt : Option ℤ := none
deriving DecidableEq

structure WindowProjectionMetadata where
  bell : Option Bool := none
  activity : Option Bool := none
  silence : Option Bool := none
deriving DecidableEq

structure StatusProjectionMetadata where
  sessions : Std.ExtTreeMap String SessionProjectionMetadata := ∅
  windows : Std.ExtTreeMap String WindowProjectionMetadata := ∅
deriving DecidableEq

/-- The part of the coordinator that an observation poll reads or changes. -/
structure CanonicalCoordinatorState extends PeekState where
  daemonInstanceId : DaemonInstanceId
  topologyObservationFloor : ℕ := 0
  views : CurrentClientViews := {}
  sidebarPreferences : SidebarPreferences := {}
  statusMetadata : StatusProjectionMetadata := {}

structure ObservationPollProjection where
  observationSeq : ℕ
  topology : TopologySnapshot
  statusMetadata : StatusProjectionMetadata
  witnesses : List ClientWitness
  viewBase : CurrentClientViews
  throughUnreadOrder : ℕ

/-- What a poll meets: the saves, the checks of the projected snapshots and the random source. -/
structure PollIo where
  topologyPreflight : Except StoreError Unit := .ok ()
  pinsSave : Except String Unit := .ok ()
  pinsPreflight : Except StoreError Unit := .ok ()
  statusPreflight : Except StoreError Unit := .ok ()
  readEventId : Except ModelError EventId := .ok ⟨""⟩
  readsSave : Except StoreError Unit := .ok ()

inductive ProjectionError
  | store (error : StoreError)
  | view (message : String)
  | random (error : ModelError)
deriving DecidableEq

abbrev Coordinated (α : Type) := EStateM ProjectionError CanonicalCoordinatorState α

/-- A step of a part of the coordinator that fails without a change, or an answer from outside. -/
def check {ε α : Type} (error : ε → ProjectionError) (result : Except ε α) : Coordinated α :=
  fun s =>
    match result with
    | .ok a => .ok a s
    | .error e => .error (error e) s

namespace Coordinated
variable [Sha256] [ProjectionFrame]

def replaceTopology (topology : TopologySnapshot) (preflight : Except StoreError Unit) :
    Coordinated Bool := do
  let s ← get
  let (changed, replaced) ← check .store (s.toPeekState.replaceTopology topology preflight)
  set { s with toPeekState := replaced }
  return changed

def applyTopologyObservation (topology : TopologySnapshot) (observationSeq : ℕ)
    (preflight : Except StoreError Unit) : Coordinated Bool := do
  let s ← get
  if observationSeq ≤ s.topologyObservationFloor then return false
  else
    let _ ← replaceTopology topology preflight
    modify fun s => { s with topologyObservationFloor := observationSeq }
    return true

def replaceSidebarPreferences (preferences : SidebarPreferences)
    (preflight : Except StoreError Unit) : Coordinated Bool := do
  check (fun message => .store (.random message)) preferences.validate
  let s ← get
  if s.sidebarPreferences = preferences then return false
  else
    let runtime ← check .store s.runtime.publish
    check .store preflight
    set { s with runtime := runtime, sidebarPreferences := preferences }
    return true

def persistPrunedSidebarPins (save : Except String Unit) (preflight : Except StoreError Unit) :
    Coordinated Bool := do
  let s ← get
  let (changed, candidate) := s.sidebarPreferences.retainPanes s.topology.present
  if changed = false then return false
  else
    check (fun error => .store
      (.persistFailed s!"sidebar pin cleanup persistence failed: {error}")) save
    replaceSidebarPreferences candidate preflight

def replaceStatusMetadata (metadata : StatusProjectionMetadata)
    (preflight : Except StoreError Unit) : Coordinated Bool := do
  let s ← get
  if s.statusMetadata = metadata then return false
  else
    let runtime ← check .store s.runtime.publish
    check .store preflight
    set { s with runtime := runtime, statusMetadata := metadata }
    return true

def applyTopology (projection : ObservationPollProjection) (io : PollIo) : Coordinated Unit := do
  if ← applyTopologyObservation projection.topology projection.observationSeq
      io.topologyPreflight then
    let _ ← persistPrunedSidebarPins io.pinsSave io.pinsPreflight
    let _ ← replaceStatusMetadata projection.statusMetadata io.statusPreflight

def applyPaneReads (saved : Except StoreError Unit) (envelopes : List PaneEventEnvelope) :
    Coordinated Unit := do
  let s ← get
  let (result, runtime) := s.runtime.applyPaneReads saved envelopes
  set { s with runtime := runtime }
  let _ ← check .store result

def commitPaneReads (saved : Except StoreError Unit) (paneReads : List PaneEventEnvelope) :
    Coordinated Unit := do
  if paneReads ≠ [] then
    applyPaneReads saved paneReads
    modify fun s => { s with
      toPeekState := s.clearPeeksForReadPanes (paneReads.map (·.paneInstance)) }

def finishSequencedProjection (projectionChanged : Bool) (revisionBefore : ℕ) :
    Coordinated Unit := do
  let s ← get
  let (result, runtime) :=
    s.runtime.finishSequencedProjection none [] projectionChanged revisionBefore
  set { s with runtime := runtime }
  let _ ← check .store result

def reconcileViewsWithWitnesses (projection : ObservationPollProjection) (io : PollIo) :
    Coordinated Unit := do
  if (← get).views ≠ projection.viewBase then return
  else
    modify fun s => { s with
      toPeekState := s.reconcilePeekLeases projection.witnesses projection.observationSeq }
    let readEventId ← check .random io.readEventId
    let s ← get
    let paneReads ← check .view (paneReadEnvelopesForPanes s.daemonInstanceId readEventId
      (s.readAuthorizedPanes projection.witnesses) projection.throughUnreadOrder s.runtime.records)
    commitPaneReads io.readsSave paneReads
    let (registryChanged, views) ←
      check .view (s.views.reconcile projection.witnesses s.topology.windowPanes)
    modify fun s => { s with views := views }
    finishSequencedProjection registryChanged s.runtime.snapshotRevision

def applyObservationPollProjection (projection : ObservationPollProjection) (io : PollIo) :
    Coordinated ℕ := do
  applyTopology projection io
  reconcileViewsWithWitnesses projection io
  return (← get).runtime.snapshotRevision

end Coordinated

end VdeTmux.Daemon
