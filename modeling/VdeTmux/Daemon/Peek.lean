import VdeTmux.Daemon.Topology

/-!
# Peek leases

A client that peeks at a pane holds a lease on it, so that looking does not mark the pane read.
An operation on a lease ends with its own completion; observations of the clients renew it or end
it. What the check of the projected snapshot answers is given from outside.
-/

open Foundation VdeTmux.Pane
namespace VdeTmux.Daemon

inductive PeekLease
  | pending (operationSeq : ℕ) (sourcePane : PaneInstance) (previousTarget : Option PaneInstance)
      (candidates : Std.ExtTreeSet PaneInstance)
  | active (target : PaneInstance) (lastObservationSeq : ℕ)
deriving DecidableEq

namespace PeekLease

def protects : PeekLease → PaneInstance → Bool
  | pending _ _ previousTarget candidates, pane =>
    previousTarget = some pane || candidates.contains pane
  | active target _, pane => target = pane

def retain (present : Std.ExtTreeSet PaneInstance) : PeekLease → Option PeekLease
  | active target seq => if target ∈ present then some (active target seq) else none
  | pending operationSeq sourcePane previousTarget candidates =>
    let candidates := candidates.filter fun candidate => present.contains candidate
    let previousTarget := previousTarget.filter fun target => present.contains target
    if candidates.isEmpty && previousTarget.isNone then none
    else some (pending operationSeq sourcePane previousTarget candidates)

/-- What an observation leaves of the lease of a client that it shows on a pane. -/
def observe (present : Std.ExtTreeSet PaneInstance) (shown : PaneInstance)
    (observationSeq : ℕ) : PeekLease → Option PeekLease
  | active target lastObservationSeq =>
    if target ∉ present then none
    -- queries can complete out of order
    else if observationSeq ≤ lastObservationSeq then some (active target lastObservationSeq)
    else if shown = target then some (active target observationSeq)
    else none
  | lease => lease.retain present

end PeekLease

/-- The part of the coordinator that decides about leases. -/
structure PeekState where
  runtime : CanonicalStateRuntime := {}
  topology : TopologySnapshot
  peekLeases : Std.ExtTreeMap ℕ PeekLease := ∅

namespace PeekState

def containsPane (s : PeekState) (pane : PaneInstance) : Bool :=
  s.topology.panes.any fun p => p.paneInstance = pane

def withLease (s : PeekState) (clientPid : ℕ) (lease : PeekLease) : PeekState :=
  { s with peekLeases := s.peekLeases.insert clientPid lease }

def beginPeek (s : PeekState) (clientPid : ℕ) (sourcePane : PaneInstance)
    (candidates : List PaneInstance) (operationSeq : ℕ) : Bool × PeekState :=
  match s.peekLeases[clientPid]? with
  | some (.pending ..) => (false, s)
  | some (.active target _) =>
    (true, s.withLease clientPid
      (.pending operationSeq sourcePane (some target) (.ofList candidates)))
  | none =>
    (true, s.withLease clientPid (.pending operationSeq sourcePane none (.ofList candidates)))

def activatePeek (s : PeekState) (clientPid operationSeq : ℕ) (target : PaneInstance)
    (witnessObservationFloor : ℕ) : PeekState :=
  match s.peekLeases[clientPid]? with
  | some (.pending pending ..) =>
    if pending = operationSeq ∧ s.containsPane target = true then
      s.withLease clientPid (.active target witnessObservationFloor)
    else s
  | _ => s

def renewActivePeek (s : PeekState) (clientPid : ℕ) (target : PaneInstance)
    (witnessObservationFloor : ℕ) : Bool × PeekState :=
  match s.peekLeases[clientPid]? with
  | some (.active active _) =>
    if active = target ∧ s.containsPane target = true then
      (true, s.withLease clientPid (.active target witnessObservationFloor))
    else (false, s)
  | _ => (false, s)

def restorePeekAfterFailure (s : PeekState) (clientPid operationSeq : ℕ)
    (witnesses : List ClientWitness) (observationSeq : ℕ) : PeekState :=
  match s.peekLeases[clientPid]? with
  | some (.pending pending _ previousTarget _) =>
    if pending = operationSeq then
      let freshActive :=
        (witnesses.find? fun witness => witness.clientPid = clientPid && witness.isEligible).map
          (·.activePane)
      match previousTarget.filter fun pane => s.containsPane pane && freshActive = some pane with
      | some target => s.withLease clientPid (.active target observationSeq)
      | none => { s with peekLeases := s.peekLeases.erase clientPid }
    else s
  | _ => s

def clearPeek (s : PeekState) (clientPid : ℕ) : PeekState :=
  { s with peekLeases := s.peekLeases.erase clientPid }

def clearPeeksForReadPanesExcept (s : PeekState) (panes : List PaneInstance)
    (excludedClientPid : Option ℕ) : PeekState :=
  { s with
    peekLeases := s.peekLeases.filter fun clientPid lease =>
      excludedClientPid = some clientPid || !panes.any lease.protects }

def clearPeeksForReadPanes (s : PeekState) (panes : List PaneInstance) : PeekState :=
  s.clearPeeksForReadPanesExcept panes none

/-- Where the eligible clients are; the last witness of a client counts. -/
def eligible (witnesses : List ClientWitness) : Std.ExtTreeMap ℕ PaneInstance :=
  (witnesses.filter (·.isEligible)).foldl
    (fun shown witness => shown.insert witness.clientPid witness.activePane) ∅

def reconcilePeekLeases (s : PeekState) (witnesses : List ClientWitness) (observationSeq : ℕ) :
    PeekState :=
  { s with
    peekLeases := s.peekLeases.filterMap fun clientPid lease =>
      match (eligible witnesses)[clientPid]? with
      | none => none
      | some shown => lease.observe s.topology.present shown observationSeq }

/-- The panes an eligible client looks at: its active pane and the agent behind an editor. -/
def lookedAt (s : PeekState) (witness : ClientWitness) : List PaneInstance :=
  witness.activePane ::
    ((s.topology.focusProxyTarget witness.activePane).filter fun target =>
      s.runtime.records[target]?.any (·.agentPresent)).toList

def readAuthorizedPanes (s : PeekState) (witnesses : List ClientWitness) :
    Std.ExtTreeSet PaneInstance :=
  .ofList <| (witnesses.filter (·.isEligible)).flatMap fun witness =>
    (s.lookedAt witness).filter fun target =>
      !s.peekLeases[witness.clientPid]?.any fun lease => lease.protects target

variable [Sha256] [ProjectionFrame]

def replaceTopology (s : PeekState) (topology : TopologySnapshot)
    (preflight : Except StoreError Unit) : Except StoreError (Bool × PeekState) := do
  if s.topology = topology then return (false, s)
  else
    let runtime ← s.runtime.publish
    preflight
    return (true,
      { runtime := runtime
        topology := topology
        peekLeases := s.peekLeases.filterMap fun _ lease => lease.retain topology.present })

end PeekState

end VdeTmux.Daemon
