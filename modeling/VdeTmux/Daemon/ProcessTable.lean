import Mathlib.Data.Finset.Sort
import Mathlib.Data.Finset.Union
import VdeTmux.Foundation.Lines
import VdeTmux.Foundation.Maps
import VdeTmux.Foundation.Matching
import VdeTmux.Foundation.Traversal
import VdeTmux.Pane.Model

/-!
# The process table

What `ps` and `lsof` print is read into a table, and what runs below the process of a pane is
looked up in it. The start token of a process is read from outside.
-/

open Foundation Foundation.Text VdeTmux.Pane
namespace VdeTmux.Daemon

def u32Max : ℕ := 2 ^ 32 - 1

def i32Min : ℤ := -2 ^ 31

def i32Max : ℤ := 2 ^ 31 - 1

def u16Max : ℕ := 2 ^ 16 - 1

inductive AgentProcessSource
  | direct
  | interpreted
deriving DecidableEq

structure DetectedProcessAgent where
  agent : AgentKind
  source : AgentProcessSource
deriving DecidableEq

def interpreterPrograms : List (List Char) :=
  ["node".toList, "bun".toList, "deno".toList, "python".toList, "python3".toList]

def helperCommands : List (List Char) :=
  ["app-server".toList, "sandbox".toList, "mcp-server".toList]

def scriptAgent (component : List Char) : Option String :=
  if component = "claude".toList ∨ component = "claude-code".toList then some "claude"
  else if component = "codex".toList ∨ component = "codex-cli".toList then some "codex"
  else if component = "opencode".toList then some "opencode"
  else none

def lastPiece (sep : Char) (text : List Char) : List Char := (splitOn sep text).getLastD []

def asciiLower (text : List Char) : List Char := text.map Char.toLower

def pathComponents (path : List Char) : List (List Char) :=
  (splitOn '/' path).flatMap (splitOn '\\')

def detectProcessAgent (command : List Char) : Option DetectedProcessAgent :=
  match words command with
  | [] => none
  | first :: fields =>
    let executable := lastPiece '/' first
    if executable ∈ ["claude".toList, "codex".toList, "opencode".toList] then
      if executable = "codex".toList ∧ fields.head?.any (· ∈ helperCommands) then none
      else some ⟨⟨String.ofList executable⟩, .direct⟩
    else if asciiLower executable ∈ interpreterPrograms then
      match fields with
      | [] => none
      | script :: fields =>
        match (pathComponents script).findSome? fun component => scriptAgent (asciiLower component)
          with
        | none => none
        | some agent =>
          if agent = "codex" ∧ fields.head?.any (· ∈ helperCommands) then none
          else some ⟨⟨agent⟩, .interpreted⟩
    else none

structure ProcessLine where
  pid : ℕ
  ppid : ℕ
  processGroup : ℤ
  terminalProcessGroup : ℤ
  command : List Char
deriving DecidableEq

def joinWords (fields : List (List Char)) : List Char := [' '].intercalate fields

def parseProcessLine (line : List Char) : Option ProcessLine :=
  match words line with
  | pid :: ppid :: group :: terminal :: command =>
    match parseNat u32Max pid, parseNat u32Max ppid, parseInt i32Min i32Max group,
      parseInt i32Min i32Max terminal with
    | some pid, some ppid, some group, some terminal =>
      if joinWords command = [] then none
      else some ⟨pid, ppid, group, terminal, joinWords command⟩
    | _, _, _, _ => none
  | _ => none

structure AgentProcessSnapshot where
  commands : Std.ExtTreeMap ℕ (List Char) := ∅
  children : Std.ExtTreeMap ℕ (List ℕ) := ∅
  listeningPorts : Std.ExtTreeMap ℕ (Finset ℕ) := ∅
  complete : Bool := false
  portsComplete : Bool := false

def processLines (output : List Char) : List (List Char) :=
  ((lines output).map trimChars).filter fun line => line ≠ []

def AgentProcessSnapshot.addLine (snapshot : AgentProcessSnapshot) (line : List Char) :
    AgentProcessSnapshot :=
  match parseProcessLine line with
  | none => { snapshot with complete := false }
  | some row =>
    { snapshot with
      complete := snapshot.complete && !snapshot.commands.contains row.pid
      commands := snapshot.commands.insert row.pid row.command
      children := snapshot.children.insert row.ppid
        ((snapshot.children[row.ppid]?.getD []) ++ [row.pid]) }

def AgentProcessSnapshot.parse (output : List Char) (commandSucceeded : Bool) :
    AgentProcessSnapshot :=
  if commandSucceeded then
    (processLines output).foldl AgentProcessSnapshot.addLine { complete := true }
  else {}

def afterLastColon (name : List Char) : Option (List Char) :=
  if ':' ∈ name then some (lastPiece ':' name) else none

def listeningPortFromName (name : List Char) : Option ℕ :=
  (afterLastColon (trimChars name)).bind fun tail =>
    let digits := tail.takeWhile Char.isDigit
    if digits = [] then none else parseNat u16Max digits

def observePortLine (state : Std.ExtTreeMap ℕ (Finset ℕ) × Option ℕ) (line : List Char) :
    Std.ExtTreeMap ℕ (Finset ℕ) × Option ℕ :=
  match line with
  | 'p' :: pid => (state.1, parseNat u32Max pid)
  | 'n' :: name =>
    match state.2, listeningPortFromName name with
    | some pid, some port => (state.1.insert pid (insert port (state.1[pid]?.getD ∅)), state.2)
    | _, _ => state
  | _ => state

def AgentProcessSnapshot.observeListeningPorts (snapshot : AgentProcessSnapshot)
    (output : List Char) : AgentProcessSnapshot :=
  { snapshot with
    listeningPorts := ((lines output).foldl observePortLine (∅, none)).1
    portsComplete := true }

def AgentProcessSnapshot.childrenOf (snapshot : AgentProcessSnapshot) (pid : ℕ) : List ℕ :=
  snapshot.children[pid]?.getD []

def AgentProcessSnapshot.graph (snapshot : AgentProcessSnapshot) : Traversal.Graph ℕ where
  children := snapshot.childrenOf
  parents := snapshot.children.keys.toFinset
  leaf pid h := by
    rw [List.mem_toFinset, Std.ExtTreeMap.mem_keys] at h
    rw [AgentProcessSnapshot.childrenOf, Std.ExtTreeMap.getElem?_eq_none h]
    rfl

/-- The processes that the loops over the tree below a root come to, in their order. -/
def AgentProcessSnapshot.visits (snapshot : AgentProcessSnapshot) (rootPid : ℕ) : List ℕ :=
  Traversal.walk snapshot.graph [rootPid] ∅

abbrev ProcessesByAgent := AgentKind → Option (List AgentProcessIdentity)

def ProcessesByAgent.add (processes : ProcessesByAgent) (agent : AgentKind)
    (identity : AgentProcessIdentity) : ProcessesByAgent := fun other =>
  if other = agent then some (((processes agent).getD []).insert identity) else processes other

structure ProcessDetection where
  agents : Finset AgentKind
  agentProcesses : ProcessesByAgent
  complete : Bool
  processIdentitiesComplete : Bool

structure Detecting where
  agents : Finset AgentKind := ∅
  directAgents : Finset AgentKind := ∅
  direct : ProcessesByAgent := fun _ => none
  interpreted : ProcessesByAgent := fun _ => none
  processIdentitiesComplete : Bool := true

def Detecting.visit (startToken : ℕ → Option String)
    (commands : Std.ExtTreeMap ℕ (List Char)) (d : Detecting) (pid : ℕ) : Detecting :=
  match commands[pid]?.bind detectProcessAgent with
  | none => d
  | some detected =>
    let identified : Detecting :=
      { d with
        agents := insert detected.agent d.agents
        directAgents :=
          if detected.source = .direct then insert detected.agent d.directAgents
          else d.directAgents }
    match startToken pid with
    | none => { identified with processIdentitiesComplete := false }
    | some token =>
      match detected.source with
      | .direct => { identified with direct := d.direct.add detected.agent ⟨pid, token⟩ }
      | .interpreted =>
        { identified with interpreted := d.interpreted.add detected.agent ⟨pid, token⟩ }

def preferDirectAgentProcesses (agents directAgents : Finset AgentKind)
    (direct interpreted : ProcessesByAgent) : ProcessesByAgent := fun agent =>
  if agent ∈ agents then (if agent ∈ directAgents then direct agent else interpreted agent)
  else none

def AgentProcessSnapshot.detecting (startToken : ℕ → Option String)
    (snapshot : AgentProcessSnapshot) (rootPid : ℕ) : Detecting :=
  (snapshot.visits rootPid).foldl (Detecting.visit startToken snapshot.commands) {}

def AgentProcessSnapshot.detectFromPidTree (startToken : ℕ → Option String)
    (snapshot : AgentProcessSnapshot) (rootPid : ℕ) : ProcessDetection :=
  if snapshot.complete = false ∨ rootPid ∉ snapshot.commands then ⟨∅, fun _ => none, false, false⟩
  else
    let d := snapshot.detecting startToken rootPid
    ⟨d.agents, preferDirectAgentProcesses d.agents d.directAgents d.direct d.interpreted, true,
      d.processIdentitiesComplete⟩

def ProcessDetection.exactAgentProcess (detection : ProcessDetection) (agent : AgentKind) :
    Option AgentProcessIdentity :=
  if detection.complete = false ∨ detection.processIdentitiesComplete = false then none
  else
    match detection.agentProcesses agent with
    | some [identity] => some identity
    | _ => none

def isProcessTokenByte (c : Char) : Bool := c.isAlphanum || c = '_' || c = '-' || c = '.'

def normalizeProcessText (value : List Char) : List Char := joinWords (words value)

def boundedAt (text command : List Char) (index : ℕ) : Bool :=
  let stop := index + command.length
  let before := index = 0 || (text[index - 1]?.all fun c => !isProcessTokenByte c)
  let after := stop = text.length || (text[stop]?.all fun c => !isProcessTokenByte c)
  before && after

def processLineMatchesCommand (line command : List Char) : Bool :=
  let line := normalizeProcessText line
  let command := normalizeProcessText command
  if command = [] then false
  else (Matching.matchIndices command line).any (boundedAt line command)

def AgentProcessSnapshot.descendants (snapshot : AgentProcessSnapshot) (rootPid : ℕ) :
    Option (Finset ℕ) :=
  if snapshot.complete = false ∨ rootPid ∉ snapshot.commands then none
  else some (snapshot.visits rootPid).toFinset

def maxListeningPorts : ℕ := 64

def AgentProcessSnapshot.backgroundAlive (snapshot : AgentProcessSnapshot)
    (descendants : Finset ℕ) (command : List Char) : Bool :=
  decide (∃ pid ∈ descendants,
    snapshot.commands[pid]?.any fun line => processLineMatchesCommand line command)

def AgentProcessSnapshot.reportedPorts (snapshot : AgentProcessSnapshot)
    (descendants : Finset ℕ) : List ℕ :=
  ((descendants.biUnion fun pid => snapshot.listeningPorts[pid]?.getD ∅).sort (· ≤ ·)).take
    maxListeningPorts

def AgentProcessSnapshot.processObservation (snapshot : AgentProcessSnapshot) (rootPid : ℕ)
    (backgroundCommand : Option (List Char)) (agentProcessChecked : Bool)
    (agentProcess : Option AgentProcessIdentity) : Option ProcessObservation :=
  match snapshot.descendants rootPid with
  | none => none
  | some descendants =>
    let backgroundProcessAlive :=
      backgroundCommand.map (snapshot.backgroundAlive descendants)
    let listeningPorts :=
      if snapshot.portsComplete then some (snapshot.reportedPorts descendants) else none
    if agentProcessChecked = true ∨ agentProcess.isSome = true ∨
        backgroundProcessAlive.isSome = true ∨ listeningPorts.isSome = true then
      some ⟨agentProcessChecked, agentProcess, backgroundProcessAlive, listeningPorts⟩
    else none

end VdeTmux.Daemon
