import VdeTmux.Foundation.Maps
import VdeTmux.Daemon.Views

/-!
# Pushing the status line

The values the status line should have, the batch of writes under way, and when the next batch is
due. A batch that is not reported as succeeded may have written any of its values.
-/

open Foundation Foundation.Text VdeTmux.Pane
namespace VdeTmux.Daemon

inductive DisplayOptionKey
  | legacyGlobalSummary
  | sessionSummary (sessionId : String)
  | sessionCategory (sessionId : String)
  | sessionSessions (sessionId : String)
  | sessionWindows (sessionId : String)
  | sessionAttention (sessionId : String)
  | paneStatus (pane : PaneInstance)
deriving DecidableEq

inductive DisplayOptionValue
  | set (value : String)
  | unset
deriving DecidableEq

inductive StatusPushError
  | snapshotRevisionRegressed (previous received : ℕ)
  | counterOverflow
  | clockOverflow
  | unknownBatch (id : ℕ)
  | invalidDisplayKey (message : String)
  | invalidDisplayValue (message : String)
deriving DecidableEq

namespace DisplayOptionKey

def kind : DisplayOptionKey → ℕ
  | legacyGlobalSummary => 0
  | sessionSummary _ => 1
  | sessionCategory _ => 2
  | sessionSessions _ => 3
  | sessionWindows _ => 4
  | sessionAttention _ => 5
  | paneStatus _ => 6

def session : DisplayOptionKey → Option String
  | sessionSummary sessionId | sessionCategory sessionId | sessionSessions sessionId
  | sessionWindows sessionId | sessionAttention sessionId => some sessionId
  | legacyGlobalSummary | paneStatus _ => none

def pane : DisplayOptionKey → Option PaneInstance
  | paneStatus pane => some pane
  | _ => none

instance : Ord DisplayOptionKey :=
  ⟨compareLex (compareOn kind) (compareLex (compareOn session) (compareOn pane))⟩

instance : Std.TransOrd DisplayOptionKey := inferInstanceAs (Std.TransCmp (compareLex _ _))

instance : Std.LawfulEqOrd DisplayOptionKey where
  eq_of_compare {a b} h := by
    obtain ⟨hkind, h⟩ := compareLex_eq_eq.mp h
    obtain ⟨hsession, hpane⟩ := compareLex_eq_eq.mp h
    have hkind : a.kind = b.kind := Std.LawfulEqOrd.eq_of_compare hkind
    have hsession : a.session = b.session := Std.LawfulEqOrd.eq_of_compare hsession
    have hpane : a.pane = b.pane := Std.LawfulEqOrd.eq_of_compare hpane
    cases a <;> cases b <;> simp_all [kind, session, pane]

def optionName : DisplayOptionKey → String
  | legacyGlobalSummary | sessionSummary _ => "@vde_status_summary"
  | sessionCategory _ => "@vde_status_category"
  | sessionSessions _ => "@vde_status_sessions"
  | sessionWindows _ => "@vde_status_windows"
  | sessionAttention _ => "@vde_status_attention"
  | paneStatus _ => "@vde_status_pane"

/-- The keys that are still written while shutting down. -/
def terminal : DisplayOptionKey → Bool
  | legacyGlobalSummary | sessionSummary _ | sessionAttention _ => true
  | _ => false

def isSessionSummary : DisplayOptionKey → Bool
  | sessionSummary _ => true
  | _ => false

def isSessionAttention : DisplayOptionKey → Bool
  | sessionAttention _ => true
  | _ => false

def validate : DisplayOptionKey → Except StatusPushError Unit
  | legacyGlobalSummary => .ok ()
  | paneStatus pane => pane.validate.mapError fun error => .invalidDisplayKey error.message
  | sessionSummary sessionId | sessionCategory sessionId | sessionSessions sessionId
  | sessionWindows sessionId | sessionAttention sessionId =>
    refuse (isTmuxId '$' sessionId = false)
      (.invalidDisplayKey ("invalid session target " ++ sessionId.quote))

end DisplayOptionKey

def DisplayOptionValue.validate (key : DisplayOptionKey) :
    DisplayOptionValue → Except StatusPushError Unit
  | unset =>
    match key with
    | .legacyGlobalSummary | .sessionAttention _ => .ok ()
    | _ => .error (.invalidDisplayValue s!"{key.optionName} cannot be unset")
  | set value => do
    refuse (hasControl value = true)
      (.invalidDisplayValue s!"{key.optionName} contains a control character")
    refuse (key.pane.isSome = true ∧ (value = "" ∨ value = "0"))
      (.invalidDisplayValue
        "@vde_status_pane must be neither empty nor 0 so tmux does not select its fallback")

abbrev DisplayValues := Std.ExtTreeMap DisplayOptionKey DisplayOptionValue

def statusPushMinInterval : ℕ := 500 * 1000000

def maxDuration : ℕ := u64Max * 1000000000 + 999999999

def checkedAdd (left right : ℕ) : Except StatusPushError ℕ :=
  if left ≤ maxDuration - right then .ok (left + right) else .error .clockOverflow

structure GuardedDisplayBatch where
  expectedServer : ServerIdentity
  writes : List (DisplayOptionKey × DisplayOptionValue)
deriving DecidableEq

structure PreparedDisplayBatch where
  id : ℕ
  guarded : GuardedDisplayBatch
deriving DecidableEq

inductive DisplayBatchIoOutcome
  | succeeded
  | failed (error : String)
  | serverIncarnationMismatch
  | paneInstanceMismatch (pane : PaneInstance)
deriving DecidableEq

inductive BatchExecution
  | committed
  | failed (error : String)
  | serverIncarnationMismatch
  | paneInstanceMismatch (pane : PaneInstance)
deriving DecidableEq

inductive StatusPushDecision
  | ignored
  | noChanges
  | waitingForInFlight
  | coalesced (readyAt : ℕ)
  | batch (prepared : PreparedDisplayBatch)
deriving DecidableEq

structure InFlightBatch where
  id : ℕ
  attempted : DisplayValues

structure StatusPushState where
  expectedServer : ServerIdentity
  desired : DisplayValues := ∅
  dirty : Std.ExtTreeSet DisplayOptionKey := ∅
  lastSuccessful : DisplayValues := ∅
  lastSnapshotRevision : Option ℕ := none
  lastAttemptAt : Option ℕ := none
  pendingCoalescedTrigger : Bool := false
  shuttingDown : Bool := false
  nextBatchId : ℕ := 1
  inFlight : Option InFlightBatch := none

namespace StatusPushState

def relevant (s : StatusPushState) (key : DisplayOptionKey) : Bool := !s.shuttingDown || key.terminal

/-- The desired values that a batch would write. -/
def candidates (s : StatusPushState) : DisplayValues :=
  s.desired.filter fun key value =>
    s.relevant key && (s.dirty.contains key || s.lastSuccessful[key]? ≠ some value)

def prepare (s : StatusPushState) (attempted : DisplayValues) (now : ℕ) :
    Except StatusPushError StatusPushDecision × StatusPushState :=
  match increment u64Max .counterOverflow s.nextBatchId with
  | .error e => (.error e, s)
  | .ok nextBatchId =>
    (.ok (.batch ⟨s.nextBatchId, s.expectedServer, attempted.toList⟩),
      { s with
        nextBatchId := nextBatchId
        inFlight := some ⟨s.nextBatchId, attempted⟩
        lastAttemptAt := some now
        pendingCoalescedTrigger := false })

def prepareIfDue (s : StatusPushState) (now : ℕ) :
    Except StatusPushError StatusPushDecision × StatusPushState :=
  if s.inFlight.isSome then (.ok .waitingForInFlight, s)
  else if s.candidates.isEmpty then
    (.ok .noChanges, { s with pendingCoalescedTrigger := false })
  else
    match s.lastAttemptAt with
    | none => s.prepare s.candidates now
    | some lastAttemptAt =>
      match checkedAdd lastAttemptAt statusPushMinInterval with
      | .error e => (.error e, s)
      | .ok readyAt =>
        if now < readyAt then (.ok (.coalesced readyAt), s) else s.prepare s.candidates now

def validateFrame : List (DisplayOptionKey × DisplayOptionValue) → Except StatusPushError Unit
  | [] => .ok ()
  | (key, value) :: rest => do
    key.validate
    value.validate key
    validateFrame rest

def accept (s : StatusPushState) (snapshotRevision : ℕ) (frame : DisplayValues) :
    StatusPushState :=
  { s with
    desired := frame
    dirty := s.dirty.filter fun key => frame.contains key
    lastSuccessful := s.lastSuccessful.filter fun key _ => frame.contains key
    lastSnapshotRevision := some snapshotRevision
    pendingCoalescedTrigger := true }

def onSnapshotRevision (s : StatusPushState) (snapshotRevision now : ℕ) (frame : DisplayValues) :
    Except StatusPushError StatusPushDecision × StatusPushState :=
  if s.shuttingDown then (.ok .ignored, s)
  else if s.lastSnapshotRevision.any (snapshotRevision < ·) then
    (.error (.snapshotRevisionRegressed (s.lastSnapshotRevision.getD 0) snapshotRevision), s)
  else if s.lastSnapshotRevision = some snapshotRevision then (.ok .ignored, s)
  else
    match validateFrame frame.toList with
    | .error e => (.error e, s)
    | .ok () => (s.accept snapshotRevision frame).prepareIfDue now

def flushCoalesced (s : StatusPushState) (now : ℕ) :
    Except StatusPushError StatusPushDecision × StatusPushState :=
  if s.pendingCoalescedTrigger = false then (.ok .noChanges, s) else s.prepareIfDue now

def paneRemoved (s : StatusPushState) (pane : PaneInstance) : StatusPushState :=
  { s with
    desired := s.desired.erase (.paneStatus pane)
    dirty := s.dirty.erase (.paneStatus pane)
    lastSuccessful := s.lastSuccessful.erase (.paneStatus pane) }

def keeps (sessions : Std.ExtTreeSet String) (panes : Std.ExtTreeSet PaneInstance) :
    DisplayOptionKey → Bool
  | .legacyGlobalSummary => true
  | .sessionSummary sessionId | .sessionCategory sessionId | .sessionSessions sessionId
  | .sessionWindows sessionId | .sessionAttention sessionId => sessions.contains sessionId
  | .paneStatus pane => panes.contains pane

def retainTopologyTargets (s : StatusPushState) (sessions : Std.ExtTreeSet String)
    (panes : Std.ExtTreeSet PaneInstance) : StatusPushState :=
  { s with
    desired := s.desired.filter fun key _ => keeps sessions panes key
    dirty := s.dirty.filter (keeps sessions panes)
    lastSuccessful := s.lastSuccessful.filter fun key _ => keeps sessions panes key }

def finalValue (marker : String) (key : DisplayOptionKey) (value : DisplayOptionValue) :
    DisplayOptionValue :=
  if key.isSessionSummary then .set marker
  else if key.isSessionAttention then .unset
  else value

def beginShutdown (s : StatusPushState) (marker : String) : StatusPushState :=
  let desired := (s.desired.insert .legacyGlobalSummary .unset).map (finalValue marker)
  { s with
    shuttingDown := true
    desired := desired
    -- exactly the terminal keys are left, all of them to be written
    dirty := (s.dirty.filter DisplayOptionKey.terminal).insertMany
      (desired.keys.filter DisplayOptionKey.terminal)
    pendingCoalescedTrigger := true }

def requestShutdown (s : StatusPushState) (now : ℕ) (marker : String) :
    Except StatusPushError StatusPushDecision × StatusPushState :=
  (s.beginShutdown marker).prepareIfDue now

def settle (succeeded : Bool) (s : StatusPushState)
    (attempted : DisplayOptionKey × DisplayOptionValue) : StatusPushState :=
  if s.relevant attempted.1 = false ∨ attempted.1 ∉ s.desired then s
  else if succeeded then
    { s with
      lastSuccessful := s.lastSuccessful.insert attempted.1 attempted.2
      dirty := s.dirty.erase attempted.1 }
  else { s with dirty := s.dirty.insert attempted.1 }

def completeBatch (s : StatusPushState) (id : ℕ) (succeeded : Bool) :
    Except StatusPushError Unit × StatusPushState :=
  match s.inFlight with
  | none => (.error (.unknownBatch id), s)
  | some inFlight =>
    if inFlight.id ≠ id then (.error (.unknownBatch id), s)
    else
      let settled := inFlight.attempted.toList.foldl (settle succeeded) { s with inFlight := none }
      (.ok (),
        if succeeded = false ∧ settled.dirty.isEmpty = false then
          { settled with pendingCoalescedTrigger := true }
        else settled)

def validatePrepared (s : StatusPushState) (prepared : PreparedDisplayBatch) :
    Except StatusPushError Unit :=
  match s.inFlight with
  | none => .error (.unknownBatch prepared.id)
  | some inFlight =>
    let writes : DisplayValues := .ofList prepared.guarded.writes
    refuse (inFlight.id ≠ prepared.id ∨ prepared.guarded.expectedServer ≠ s.expectedServer ∨
        writes ≠ inFlight.attempted ∨ prepared.guarded.writes.length ≠ writes.size)
      (.unknownBatch prepared.id)

def executePrepared (s : StatusPushState) (prepared : PreparedDisplayBatch)
    (outcome : DisplayBatchIoOutcome) : Except StatusPushError BatchExecution × StatusPushState :=
  match s.validatePrepared prepared with
  | .error e => (.error e, s)
  | .ok () =>
    let completed := s.completeBatch prepared.id (outcome = .succeeded)
    (match completed.1 with
      | .error e => .error e
      | .ok () => .ok (match outcome with
        | .succeeded => .committed
        | .failed error => .failed error
        | .serverIncarnationMismatch => .serverIncarnationMismatch
        | .paneInstanceMismatch pane => .paneInstanceMismatch pane),
      completed.2)

end StatusPushState

end VdeTmux.Daemon
