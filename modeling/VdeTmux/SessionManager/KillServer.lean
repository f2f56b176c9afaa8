import VdeTmux.Foundation.Interaction
import VdeTmux.Foundation.Lines
import VdeTmux.Foundation.Maps
import VdeTmux.Foundation.Outcome

/-!
# Kill Server

The cleanup of the session manager as a program over its operations: the panes' process groups
get Ctrl-C, SIGTERM and SIGKILL in turn before the tmux server is killed. The process table is
read from the text `ps` prints.
-/

open Foundation
namespace VdeTmux.SessionManager

structure ServerIdentity where
  pid : ℕ
  startTime : ℤ
deriving DecidableEq

structure TmuxServerIncarnation where
  socketPath : String
  identity : ServerIdentity
  hash : String
deriving DecidableEq

structure PaneProcess where
  paneId : String
  panePid : ℤ
  paneTty : String
  paneCurrentCommand : String
deriving DecidableEq

structure ProcessIdentity where
  pid : ℤ
  pgid : ℤ
deriving DecidableEq

inductive ServerPresence
  | present
  | absent
deriving DecidableEq

structure SessionManagerKillConfig where
  sendCtrlC : Bool
  termWaitMs : ℕ
  killWaitMs : ℕ

inductive Call
  | resolveServer
  | listPanes
  | processGroups (panes : List PaneProcess)
  | selfProcess
  | processGroupForPid (pid : ℤ)
  | disableDaemon (server : TmuxServerIncarnation)
  | sendCtrlC (paneId : String)
  | sendTerm (pgid : ℤ)
  | sendKill (pgid : ℤ)
  | processGroupAlive (pgid : ℤ)
  | wait (milliseconds : ℕ)
  | serverPresence (server : TmuxServerIncarnation)
  | killServer
deriving DecidableEq

def Call.Result : Call → Type
  | .resolveServer => TmuxServerIncarnation
  | .listPanes => List PaneProcess
  | .processGroups _ => Std.ExtTreeSet ℤ
  | .selfProcess => ProcessIdentity
  | .processGroupForPid _ => Option ℤ
  | .processGroupAlive _ => Bool
  | .serverPresence _ => ServerPresence
  | .disableDaemon _ | .sendCtrlC _ | .sendTerm _ | .sendKill _ | .wait _ | .killServer => Unit

/-- A call may fail; `wait` never does, but a reply that says so is not read. -/
abbrev Reply (c : Call) : Type := Except String c.Result

abbrev Ops (α : Type) : Type := Fallible Call Reply String α

def maxI32 : ℤ := 2 ^ 31 - 1

def parseI32 (cs : List Char) : Option ℤ := Text.parseInt (-2 ^ 31) maxI32 cs

def validatePgid (pgid : ℤ) : Except String Unit :=
  refuse (pgid ≤ 1) s!"refusing unsafe process group {pgid}"

def withContext {α : Type} (context : String) (result : Except String α) : Except String α :=
  result.mapError fun error => s!"{context}: {error}"

def validateProcessIdentity (pid pgid : ℤ) (label : String) : Except String Unit := do
  refuse (pid ≤ 1) s!"refusing invalid {label} PID {pid}"
  withContext s!"invalid {label} process group" (validatePgid pgid)

def validPaneId (id : String) : Bool :=
  match id.toList with
  | '%' :: rest => (Text.parseNat (2 ^ 64 - 1) rest).isSome
  | _ => false

def validatePane (seen : List String) (pane : PaneProcess) : Except String (List String) := do
  refuse (validPaneId pane.paneId = false) s!"invalid pane id {pane.paneId}"
  refuse (pane.paneId ∈ seen) s!"duplicate pane id {pane.paneId}"
  refuse (pane.panePid ≤ 1) s!"invalid pane PID {pane.panePid} for {pane.paneId}"
  refuse (pane.paneTty.toList.any Text.isWhitespace)
    s!"invalid pane TTY {pane.paneTty} for {pane.paneId}"
  refuse (pane.paneCurrentCommand.toList.any fun c => c = '\n' || c = '\r' || c = '\u001f')
    s!"invalid pane command for {pane.paneId}"
  return pane.paneId :: seen

def validatePanes (panes : List PaneProcess) : Except String Unit := do
  let _ ← panes.foldlM validatePane []

def validateTargetGroups (groups : Std.ExtTreeSet ℤ) (selfPgid : ℤ) (serverPgid : Option ℤ) :
    Except String Unit :=
  groups.toList.forM fun pgid => do
    validatePgid pgid
    refuse (pgid = selfPgid)
      s!"pane workload includes the session-manager process group {pgid}"
    refuse (serverPgid = some pgid)
      s!"pane workload includes the tmux server process group {pgid}"

def normalizeTty (tty : List Char) : List Char :=
  let tty := Text.trimChars tty
  if tty = [] ∨ tty = ['?'] ∨ tty = ['-'] then []
  else match tty with
    | '/' :: 'd' :: 'e' :: 'v' :: '/' :: rest => rest
    | _ => tty

def parsePaneLine (line : List Char) : Except String PaneProcess :=
  match Text.splitOn '\u001f' line with
  | [id, pid, tty, command] => do
    let panePid ← (parseI32 pid).elim (.error "tmux returned an invalid pane PID") .ok
    return ⟨String.ofList id, panePid, String.ofList (normalizeTty tty), String.ofList command⟩
  | _ => .error "tmux returned invalid pane process data"

def filledLines (output : String) : List (List Char) :=
  (Text.lines output.toList).filter fun line => Text.trimChars line ≠ []

def parsePaneProcesses (output : String) : Except String (List PaneProcess) :=
  (filledLines output).mapM parsePaneLine

/-- Terminals are compared in one form: that of the process table. -/
theorem paneTty_normalized {output : String} {panes : List PaneProcess}
    (h : parsePaneProcesses output = .ok panes) :
    ∀ pane ∈ panes, ∃ tty, pane.paneTty.toList = normalizeTty tty := by
  intro pane hpane
  obtain ⟨line, -, hline⟩ := (mem_of_mapM_eq_ok h pane).mp hpane
  unfold parsePaneLine at hline
  split at hline
  · obtain ⟨panePid, -, hline⟩ := bind_eq_ok.mp hline
    cases hline
    exact ⟨_, String.toList_ofList⟩
  · cases hline

structure ProcessRow where
  pid : ℤ
  pgid : ℤ
  tty : List Char
deriving DecidableEq

def parseRow (line : List Char) : Except String ProcessRow :=
  match Text.words line with
  | [pid, pgid, tty] => do
    let pid ← (parseI32 pid).elim
      (.error s!"invalid process table PID in {String.ofList line}") .ok
    let pgid ← (parseI32 pgid).elim
      (.error s!"invalid process table PGID in {String.ofList line}") .ok
    return ⟨pid, pgid, normalizeTty tty⟩
  | _ => .error s!"invalid process table row {String.ofList line}"

def ProcessRow.inPanes (row : ProcessRow) (panes : List PaneProcess) : Bool :=
  panes.any (fun pane => pane.panePid = row.pid) ||
    (row.tty ≠ [] && panes.any fun pane => pane.paneTty.toList = row.tty)

def collectRow (panes : List PaneProcess) (groups : Std.ExtTreeSet ℤ) (line : List Char) :
    Except String (Std.ExtTreeSet ℤ) := do
  let row ← parseRow line
  if row.inPanes panes then
    validateProcessIdentity row.pid row.pgid "pane workload"
    return groups.insert row.pgid
  else return groups

def collectProcessGroupsFromTable (output : String) (panes : List PaneProcess) :
    Except String (Std.ExtTreeSet ℤ) :=
  (filledLines output).foldlM (collectRow panes) ∅

structure CleanupProgress where
  daemonDisabled : Bool := false
  ctrlCSent : ℕ := 0
  termSent : ℕ := 0
  killSent : ℕ := 0

def CleanupProgress.failure (progress : CleanupProgress) (stage error : String) : String :=
  let disabled := progress.daemonDisabled
  let ctrlC := progress.ctrlCSent
  let term := progress.termSent
  let kill := progress.killSent
  s!"Kill Server cleanup failed during {stage}; tmux server was not killed; partial state: " ++
    s!"daemon_disabled={disabled}, ctrl_c_sent={ctrlC}, term_sent={term}, kill_sent={kill}: {error}"

open Fallible

def attempt (c : Call) (progress : CleanupProgress) (stage : String) : Ops c.Result :=
  ask c fun reply => reply.mapError (progress.failure stage)

def query (c : Call) (context : String) : Ops c.Result := ask c (withContext context)

def waitFor (milliseconds : ℕ) : Ops Unit := ask (.wait milliseconds) fun _ => .ok ()

def waitIf (needed : Bool) (milliseconds : ℕ) : Ops Unit :=
  if needed then waitFor milliseconds else pure ()

def targets (groups : Std.ExtTreeSet ℤ) (selfProcess : ProcessIdentity) (serverPgid : Option ℤ) :
    Std.ExtTreeSet ℤ :=
  match serverPgid with
  | some pgid => (groups.erase selfProcess.pgid).erase pgid
  | none => groups.erase selfProcess.pgid

def ctrlCPane (progress : CleanupProgress) (pane : PaneProcess) : Ops CleanupProgress := do
  attempt (.sendCtrlC pane.paneId) progress "pane Ctrl-C"
  return { progress with ctrlCSent := progress.ctrlCSent + 1 }

def ctrlCPanes (config : SessionManagerKillConfig) (panes : List PaneProcess)
    (progress : CleanupProgress) : Ops CleanupProgress :=
  if config.sendCtrlC then do
    let progress ← panes.foldlM ctrlCPane progress
    waitFor config.termWaitMs
    return progress
  else pure progress

def termGroup (progress : CleanupProgress) (pgid : ℤ) : Ops CleanupProgress := do
  attempt (.sendTerm pgid) progress "SIGTERM"
  return { progress with termSent := progress.termSent + 1 }

def keepSurvivor (progress : CleanupProgress) (survivors : List ℤ) (pgid : ℤ) :
    Ops (List ℤ) := do
  let alive : Bool ← attempt (.processGroupAlive pgid) progress "post-SIGTERM liveness check"
  return if alive then survivors ++ [pgid] else survivors

def killGroup (progress : CleanupProgress) (pgid : ℤ) : Ops CleanupProgress := do
  attempt (.sendKill pgid) progress "SIGKILL"
  return { progress with killSent := progress.killSent + 1 }

def verifyDead (progress : CleanupProgress) (_ : Unit) (pgid : ℤ) : Ops Unit := do
  let alive : Bool ← attempt (.processGroupAlive pgid) progress "post-SIGKILL liveness check"
  check (refuse (alive = true)
    (progress.failure "post-SIGKILL liveness check" s!"process group {pgid} is still alive"))

/-- Kill the server once it is verified; when that fails it may be gone all the same. -/
def killVerified (server : TmuxServerIncarnation) (progress : CleanupProgress) : Ops Unit := do
  let presence : ServerPresence ←
    attempt (.serverPresence server) progress "tmux server identity verification"
  match presence with
  | .absent => return ()
  | .present =>
    let killed ← ask .killServer fun reply => (.ok reply : Except String (Reply .killServer))
    match killed with
    | .ok _ => return ()
    | .error error =>
      let presence : ServerPresence ← ask (.serverPresence server) fun reply => reply.mapError fun verifyError =>
        progress.failure "tmux kill-server absence verification"
          s!"{error}; verification failed: {verifyError}"
      match presence with
      | .absent => return ()
      | .present => check (.error (progress.failure "tmux kill-server" error))

/-- SIGTERM for every group, SIGKILL for those that are still there, then the server. -/
def killGroups (config : SessionManagerKillConfig) (server : TmuxServerIncarnation)
    (groups : List ℤ) (progress : CleanupProgress) : Ops Unit := do
  let progress ← groups.foldlM termGroup progress
  waitIf (groups ≠ []) config.termWaitMs
  let survivors ← groups.foldlM (keepSurvivor progress) []
  let progress ← survivors.foldlM killGroup progress
  waitIf (survivors ≠ []) config.killWaitMs
  survivors.foldlM (verifyDead progress) ()
  killVerified server progress

def cleanKillServer (config : SessionManagerKillConfig) : Ops Unit := do
  let progress : CleanupProgress := {}
  let server ← query .resolveServer "failed to identify tmux server"
  let panes ← query .listPanes "failed to query all tmux panes before cleanup"
  check (validatePanes panes)
  let selfProcess ← query .selfProcess "failed to identify session-manager process"
  let serverPid : ℤ := server.identity.pid
  check (refuse (maxI32 < serverPid) "tmux server PID is invalid")
  let serverPgid ← query (.processGroupForPid serverPid)
    "failed to identify tmux server process group"
  check (forSome (validateProcessIdentity serverPid · "tmux server") serverPgid)
  let initialGroups ← query (.processGroups panes)
    "failed to collect initial pane process groups"
  check (validateTargetGroups (targets initialGroups selfProcess serverPgid) selfProcess.pgid
    serverPgid)
  attempt (.disableDaemon server) progress "daemon disable"
  let progress := { progress with daemonDisabled := true }
  let progress ← ctrlCPanes config panes progress
  let groups ← attempt (.processGroups panes) progress "pane process-group refresh"
  let groups := targets groups selfProcess serverPgid
  check ((validateTargetGroups groups selfProcess.pgid serverPgid).mapError
    (progress.failure "pane process-group validation"))
  killGroups config server groups.toList progress

end VdeTmux.SessionManager
