import VdeTmux.Pane.Operations

/-!
# The topology of the panes

What one query says of every pane, and the witnesses of the attached clients.
-/

open Foundation VdeTmux.Pane
namespace VdeTmux.Daemon

structure ServerIdentity where
  pid : ℕ
  startTime : ℤ
deriving DecidableEq

structure SessionLinkPresentation where
  sessionId : String
  sessionName : String
  windowIndex : ℤ
  windowActive : Bool
  windowLast : Bool
deriving DecidableEq

structure TopologyPane where
  paneInstance : PaneInstance
  sessionLinks : List SessionLinkPresentation
  windowId : String
  windowName : String
  currentPath : String
  currentCommand : String
  paneWidth : ℕ
  active : Bool
  editpromptIsEditor : Bool
  editpromptTargetPanes : List String
  editpromptEditorPane : Option String
deriving DecidableEq

structure TopologySnapshot where
  serverIdentity : ServerIdentity
  panes : List TopologyPane
deriving DecidableEq

def TopologySnapshot.focusProxyTarget (topology : TopologySnapshot) (source : PaneInstance) :
    Option PaneInstance :=
  (topology.panes.find? fun pane => pane.paneInstance = source).bind fun editor =>
    match editor.editpromptIsEditor, editor.editpromptTargetPanes with
    | true, [targetId] =>
      if targetId = source.paneId then none
      else
        (topology.panes.find? fun pane => pane.paneInstance.paneId = targetId).bind fun target =>
          if target.editpromptEditorPane = some source.paneId then some target.paneInstance
          else none
    | _, _ => none

def TopologySnapshot.present (topology : TopologySnapshot) : Std.ExtTreeSet PaneInstance :=
  .ofList (topology.panes.map (·.paneInstance))

theorem TopologySnapshot.mem_present {topology : TopologySnapshot} {pane : PaneInstance} :
    pane ∈ topology.present ↔ ∃ p ∈ topology.panes, p.paneInstance = pane := by
  rw [present, Std.ExtTreeSet.mem_ofList, List.contains_iff_mem, List.mem_map]

structure ClientWitness where
  clientPid : ℕ
  sessionId : String
  windowId : String
  activePane : PaneInstance
  controlMode : Bool
  activePaneFlag : Bool
deriving DecidableEq

def ClientWitness.isEligible (witness : ClientWitness) : Bool :=
  !witness.controlMode && !witness.activePaneFlag

end VdeTmux.Daemon
