import VdeTmux.Foundation.Text
import VdeTmux.Pane.CommandString
import VdeTmux.Pane.Model

/-!
# Guarded commands

Prompts, keys and the removal of stale markers are command strings with guards around them. Each
is the string of a tree, and it is read back when its pane and its keys are no semicolons.
-/

open Foundation Foundation.CommandLine VdeTmux.Pane
namespace VdeTmux.Daemon

structure GuardedPromptCommand where
  args : List (List Char)
  buffer : List Char
  success : List Char
  serverMismatch : List Char
  paneMismatch : List Char

def promptBufferPrefix : List Char := "vde-agent-prompt-".toList

def panePidGuard (pid : ℕ) : List Char :=
  "#\x7b==:#\x7bpane_pid\x7d,".toList ++ Writer.digits pid ++ "\x7d".toList

def exactPaneGuard (pane : PaneInstance) (expectedPaneCommand : List Char) : List Char :=
  "#\x7b&&:".toList ++ panePidGuard pane.panePid ++ ",".toList ++
    ("#\x7b==:#\x7bpane_current_command\x7d,".toList ++ expectedPaneCommand ++ "\x7d".toList) ++
    "\x7d".toList

def readyAfterModeCancelGuard (pane : PaneInstance) (expectedPaneCommand : List Char) :
    List Char :=
  "#\x7b&&:".toList ++ exactPaneGuard pane expectedPaneCommand ++
    ",#\x7b==:#\x7bpane_in_mode\x7d,0\x7d\x7d".toList

def buildPromptCommand (serverPid : ℕ) (serverStartTime : ℤ) (pane : PaneInstance)
    (expectedPaneCommand nonce : List Char) (cancelMode : Bool) : GuardedPromptCommand :=
  let paneId := pane.paneId.toList
  let buffer := promptBufferPrefix ++ nonce.take 24
  let success := "__vde_agent_prompt_submitted__:".toList ++ nonce
  let serverMismatch := "__vde_agent_prompt_server_mismatch__:".toList ++ nonce
  let paneMismatch := "__vde_agent_prompt_pane_mismatch__:".toList ++ nonce
  let deleteBuffer := ["delete-buffer".toList, "-b".toList, buffer]
  let submitted := tmuxCommandString ["paste-buffer".toList, "-p".toList, "-r".toList,
    "-d".toList, "-b".toList, buffer, "-t".toList, paneId, ";".toList, "send-keys".toList,
    "-t".toList, paneId, "Enter".toList, ";".toList, "display-message".toList, "-p".toList,
    success]
  let paneMismatchArgs := deleteBuffer ++
    [";".toList, "display-message".toList, "-p".toList, paneMismatch]
  let exact := exactPaneGuard pane expectedPaneCommand
  let ready := readyAfterModeCancelGuard pane expectedPaneCommand
  let submitAfterModeCancel := tmuxCommandString ["copy-mode".toList, "-q".toList, "-t".toList,
    paneId, ";".toList, "if-shell".toList, "-F".toList, "-t".toList, paneId, ready, submitted,
    tmuxCommandString paneMismatchArgs]
  let submitWithModeCancel := tmuxCommandString ["if-shell".toList, "-F".toList, "-t".toList,
    paneId, "#\x7b>:#\x7bpane_in_mode\x7d,0\x7d".toList, submitAfterModeCancel, submitted]
  let paneGuard := tmuxCommandString ["if-shell".toList, "-F".toList, "-t".toList, paneId,
    if cancelMode then exact else ready, if cancelMode then submitWithModeCancel else submitted,
    tmuxCommandString paneMismatchArgs]
  let serverMismatchArgs := deleteBuffer ++
    [";".toList, "display-message".toList, "-p".toList, serverMismatch]
  { args := ["load-buffer".toList, "-b".toList, buffer, "-".toList, ";".toList, "if-shell".toList,
      "-F".toList, serverGuard serverPid serverStartTime, paneGuard,
      tmuxCommandString serverMismatchArgs]
    buffer := buffer
    success := success
    serverMismatch := serverMismatch
    paneMismatch := paneMismatch }

section Guard
variable (pane : PaneInstance) (exact ready : List Char) (submitted mismatched : List Command)

def afterModeCancelTree : List Command :=
  [.mk "copy-mode".toList [.text "-q".toList, .text "-t".toList, .text pane.paneId.toList],
    .mk "if-shell".toList [.text "-F".toList, .text "-t".toList, .text pane.paneId.toList,
      .text ready, .nested submitted, .nested mismatched]]

def withModeCancelTree : List Command :=
  [.mk "if-shell".toList [.text "-F".toList, .text "-t".toList, .text pane.paneId.toList,
    .text "#\x7b>:#\x7bpane_in_mode\x7d,0\x7d".toList,
    .nested (afterModeCancelTree pane ready submitted mismatched), .nested submitted]]

/-- What is submitted under the guard of a pane, and what is done where the guard fails. -/
def guardTree (cancelMode : Bool) : List Command :=
  [.mk "if-shell".toList [.text "-F".toList, .text "-t".toList, .text pane.paneId.toList,
    .text (if cancelMode then exact else ready),
    if cancelMode then .nested (withModeCancelTree pane ready submitted mismatched)
      else .nested submitted,
    .nested mismatched]]

variable {pane exact ready submitted mismatched}

theorem guardTree_free_iff (hpane : pane.paneId.toList ≠ ";".toList) (hexact : exact ≠ ";".toList)
    (hready : ready ≠ ";".toList) (cancelMode : Bool) :
    commandsFree (guardTree pane exact ready submitted mismatched cancelMode) ↔
      commandsFree submitted ∧ commandsFree mismatched := by
  constructor
  · intro h
    cases cancelMode with
    | false =>
      simp only [guardTree, commandsFree, Command.Free, argumentsFree, Argument.Free] at h
      obtain ⟨⟨-, -, -, -, -, hsubmitted, hmismatched, -⟩, -⟩ := h
      exact ⟨hsubmitted, hmismatched⟩
    | true =>
      simp only [guardTree, commandsFree, Command.Free, argumentsFree, Argument.Free, if_true,
        withModeCancelTree] at h
      obtain ⟨⟨-, -, -, -, -, ⟨⟨-, -, -, -, -, -, hsubmitted, -⟩, -⟩, hmismatched, -⟩, -⟩ := h
      exact ⟨hsubmitted, hmismatched⟩
  · rintro ⟨hsubmitted, hmismatched⟩
    have hafter : commandsFree (afterModeCancelTree pane ready submitted mismatched) := by
      simp only [afterModeCancelTree, commandsFree, Command.Free, argumentsFree, Argument.Free]
      exact ⟨⟨by decide, by decide, by decide, hpane, trivial⟩,
        ⟨by decide, by decide, by decide, hpane, hready, hsubmitted, hmismatched, trivial⟩, trivial⟩
    have hwith : commandsFree (withModeCancelTree pane ready submitted mismatched) := by
      simp only [withModeCancelTree, commandsFree, Command.Free, argumentsFree, Argument.Free]
      exact ⟨⟨by decide, by decide, by decide, hpane, by decide, hafter, hsubmitted, trivial⟩,
        trivial⟩
    cases cancelMode with
    | false =>
      simp only [guardTree, commandsFree, Command.Free, argumentsFree, Argument.Free]
      exact ⟨⟨by decide, by decide, by decide, hpane, hready, hsubmitted, hmismatched, trivial⟩,
        trivial⟩
    | true =>
      simp only [guardTree, commandsFree, Command.Free, argumentsFree, Argument.Free]
      exact ⟨⟨by decide, by decide, by decide, hpane, hexact, hwith, hmismatched, trivial⟩, trivial⟩

end Guard

def messageTree (text : List Char) : List Command :=
  [.mk "display-message".toList [.text "-p".toList, .text text]]

section Prompt
variable (pane : PaneInstance) (buffer success mismatch exact ready : List Char)

def submittedTree : List Command :=
  [.mk "paste-buffer".toList [.text "-p".toList, .text "-r".toList, .text "-d".toList,
      .text "-b".toList, .text buffer, .text "-t".toList, .text pane.paneId.toList],
    .mk "send-keys".toList [.text "-t".toList, .text pane.paneId.toList, .text "Enter".toList]] ++
    messageTree success

def mismatchTree : List Command :=
  .mk "delete-buffer".toList [.text "-b".toList, .text buffer] :: messageTree mismatch

def paneGuardTree (cancelMode : Bool) : List Command :=
  guardTree pane exact ready (submittedTree pane buffer success) (mismatchTree buffer mismatch)
    cancelMode

end Prompt

theorem buildPromptCommand_args (serverPid : ℕ) (serverStartTime : ℤ) (pane : PaneInstance)
    (expectedPaneCommand nonce : List Char) (cancelMode : Bool) :
    let built := buildPromptCommand serverPid serverStartTime pane expectedPaneCommand nonce
      cancelMode
    built.args = ["load-buffer".toList, "-b".toList, built.buffer, "-".toList, ";".toList,
      "if-shell".toList, "-F".toList, serverGuard serverPid serverStartTime,
      (Argument.nested (paneGuardTree pane built.buffer built.success built.paneMismatch
        (exactPaneGuard pane expectedPaneCommand)
        (readyAfterModeCancelGuard pane expectedPaneCommand) cancelMode)).word,
      (Argument.nested (mismatchTree built.buffer built.serverMismatch)).word] := by
  cases cancelMode with
  | false => rfl
  | true => rfl

theorem messageTree_free {text : List Char} (h : text ≠ ";".toList) :
    commandsFree (messageTree text) := by
  simp only [messageTree, commandsFree, Command.Free, argumentsFree, Argument.Free]
  exact ⟨⟨by decide, by decide, h, trivial⟩, trivial⟩

section PromptFree
variable {pane : PaneInstance} {buffer success mismatch : List Char}

theorem submittedTree_free (hpane : pane.paneId.toList ≠ ";".toList)
    (hbuffer : buffer ≠ ";".toList) (hsuccess : success ≠ ";".toList) :
    commandsFree (submittedTree pane buffer success) := by
  have hmessage := messageTree_free hsuccess
  simp only [submittedTree, List.cons_append, List.nil_append, commandsFree, Command.Free,
    argumentsFree, Argument.Free]
  exact ⟨⟨by decide, by decide, by decide, by decide, by decide, hbuffer, by decide, hpane,
    trivial⟩, ⟨by decide, by decide, hpane, by decide, trivial⟩, hmessage⟩

theorem mismatchTree_free (hbuffer : buffer ≠ ";".toList) (hmismatch : mismatch ≠ ";".toList) :
    commandsFree (mismatchTree buffer mismatch) := by
  have hmessage := messageTree_free hmismatch
  simp only [mismatchTree, commandsFree, Command.Free, argumentsFree, Argument.Free]
  exact ⟨⟨by decide, by decide, hbuffer, trivial⟩, hmessage⟩

end PromptFree

theorem exactPaneGuard_ne (pane : PaneInstance) (expectedPaneCommand : List Char) :
    exactPaneGuard pane expectedPaneCommand ≠ ";".toList :=
  ne_separator_of_head (c := '#') rfl (by decide)

theorem readyAfterModeCancelGuard_ne (pane : PaneInstance) (expectedPaneCommand : List Char) :
    readyAfterModeCancelGuard pane expectedPaneCommand ≠ ";".toList :=
  ne_separator_of_head (c := '#') rfl (by decide)

theorem prompt_readsBack (serverPid : ℕ) (serverStartTime : ℤ) {pane : PaneInstance}
    (hpane : pane.paneId.toList ≠ ";".toList) (expectedPaneCommand nonce : List Char)
    (cancelMode : Bool) :
    let built := buildPromptCommand serverPid serverStartTime pane expectedPaneCommand nonce
      cancelMode
    (Argument.nested (paneGuardTree pane built.buffer built.success built.paneMismatch
      (exactPaneGuard pane expectedPaneCommand)
      (readyAfterModeCancelGuard pane expectedPaneCommand) cancelMode)).ReadsBack ∧
    (Argument.nested (mismatchTree built.buffer built.serverMismatch)).ReadsBack := by
  have hmarker {text : List Char} (h : text.head? = some '_') : text ≠ ";".toList :=
    ne_separator_of_head h (by decide)
  have hbuffer : promptBufferPrefix ++ nonce.take 24 ≠ ";".toList :=
    ne_separator_of_head (c := 'v') rfl (by decide)
  refine ⟨Argument.readsBack_of_free _ ?_, Argument.readsBack_of_free _ ?_⟩
  · exact (guardTree_free_iff hpane (exactPaneGuard_ne _ _) (readyAfterModeCancelGuard_ne _ _) _).mpr
      ⟨submittedTree_free hpane hbuffer (hmarker rfl), mismatchTree_free hbuffer (hmarker rfl)⟩
  · exact mismatchTree_free hbuffer (hmarker rfl)

/-- What a guarded prompt hands to tmux: the strings of its two trees, each read back. -/
theorem guardedPrompt_exact (serverPid : ℕ) (serverStartTime : ℤ) {pane : PaneInstance}
    (hpane : pane.paneId.toList ≠ ";".toList) (expectedPaneCommand nonce : List Char)
    (cancelMode : Bool) :
    let built := buildPromptCommand serverPid serverStartTime pane expectedPaneCommand nonce
      cancelMode
    let guarded := Argument.nested (paneGuardTree pane built.buffer built.success
      built.paneMismatch (exactPaneGuard pane expectedPaneCommand)
      (readyAfterModeCancelGuard pane expectedPaneCommand) cancelMode)
    let mismatched := Argument.nested (mismatchTree built.buffer built.serverMismatch)
    built.args = ["load-buffer".toList, "-b".toList, built.buffer, "-".toList, ";".toList,
      "if-shell".toList, "-F".toList, serverGuard serverPid serverStartTime, guarded.word,
      mismatched.word] ∧ guarded.ReadsBack ∧ mismatched.ReadsBack := by
  intro built guarded mismatched
  have hargs := buildPromptCommand_args serverPid serverStartTime pane expectedPaneCommand nonce
    cancelMode
  have hread := prompt_readsBack serverPid serverStartTime hpane expectedPaneCommand nonce
    cancelMode
  exact ⟨hargs, hread⟩

theorem guardedPrompt_quoted :
    let built := buildPromptCommand 7 1 ⟨"%1", 2⟩ "sh; #".toList ";".toList true
    let guarded := Argument.nested (paneGuardTree ⟨"%1", 2⟩ built.buffer built.success
      built.paneMismatch (exactPaneGuard ⟨"%1", 2⟩ "sh; #".toList)
      (readyAfterModeCancelGuard ⟨"%1", 2⟩ "sh; #".toList) true)
    guarded.ReadsBack :=
  (guardedPrompt_exact 7 1 (by decide) "sh; #".toList ";".toList true).2.1

structure NvimPaneMarker where
  paneId : List Char
  panePid : ℕ
  processPid : ℕ

def nvimProcessPidOption : List Char := "@vde_nvim_process_pid".toList

def markerGuard (expectedServerPid : ℕ) (marker : NvimPaneMarker) : List Char :=
  "#\x7b&&:#\x7b==:#\x7bpid\x7d,".toList ++ Writer.digits expectedServerPid ++
    "\x7d,#\x7b&&:#\x7b==:#\x7bpane_pid\x7d,".toList ++ Writer.digits marker.panePid ++
    "\x7d,#\x7b==:#\x7b".toList ++ nvimProcessPidOption ++ "\x7d,".toList ++
    Writer.digits marker.processPid ++ "\x7d\x7d\x7d".toList

def markerArguments (expectedServerPid : ℕ) (marker : NvimPaneMarker) : List (List Char) :=
  ["if-shell".toList, "-F".toList, "-t".toList, marker.paneId,
    markerGuard expectedServerPid marker, tmuxCommandString ["set-option".toList, "-pu".toList,
      "-t".toList, marker.paneId, nvimProcessPidOption]]

def staleNvimMarkerCleanupCommand (expectedServerPid : ℕ) (markers : List NvimPaneMarker) :
    Option (List Char) :=
  let arguments := markers.foldl (fun arguments marker =>
    (if arguments = [] then arguments else arguments ++ [";".toList]) ++
      markerArguments expectedServerPid marker) []
  if arguments = [] then none else some (tmuxCommandString arguments)

def markerTree (expectedServerPid : ℕ) (marker : NvimPaneMarker) : Command :=
  .mk "if-shell".toList [.text "-F".toList, .text "-t".toList, .text marker.paneId,
    .text (markerGuard expectedServerPid marker),
    .nested [.mk "set-option".toList [.text "-pu".toList, .text "-t".toList, .text marker.paneId,
      .text nvimProcessPidOption]]]

theorem commandWords_map (expectedServerPid : ℕ) (markers : List NvimPaneMarker) :
    commandWords (markers.map (markerTree expectedServerPid)) =
      markers.map (markerArguments expectedServerPid) := by
  induction markers with
  | nil => rfl
  | cons marker markers ih =>
    rw [List.map_cons, commandWords, ih]
    rfl

theorem markers_foldl (expectedServerPid : ℕ) (markers : List NvimPaneMarker) :
    markers.foldl (fun arguments marker =>
      (if arguments = [] then arguments else arguments ++ [";".toList]) ++
        markerArguments expectedServerPid marker) [] =
      joined (markers.map (markerArguments expectedServerPid)) ∧
    (joined (markers.map (markerArguments expectedServerPid)) = [] ↔ markers = []) := by
  induction markers using List.reverseRecOn with
  | nil => exact ⟨rfl, iff_of_true rfl rfl⟩
  | append_singleton markers marker ih =>
    have hne : markers ++ [marker] ≠ [] := List.concat_ne_nil _ _
    rw [List.foldl_append, List.foldl_cons, List.foldl_nil, ih.1, List.map_append,
      List.map_singleton]
    by_cases hmarkers : markers = []
    · subst hmarkers
      exact ⟨rfl, iff_of_false (List.cons_ne_nil _ _) hne⟩
    · have hmap : markers.map (markerArguments expectedServerPid) ≠ [] :=
        fun h => hmarkers (List.map_eq_nil_iff.mp h)
      rw [if_neg (mt ih.2.mp hmarkers), joined_concat hmap, List.append_assoc,
        List.singleton_append]
      exact ⟨rfl, iff_of_false (fun h => mt ih.2.mp hmarkers (List.append_eq_nil_iff.mp h).1) hne⟩

theorem staleNvimMarkerCleanupCommand_eq (expectedServerPid : ℕ) (markers : List NvimPaneMarker) :
    staleNvimMarkerCleanupCommand expectedServerPid markers =
      if markers = [] then none
      else some (Argument.nested (markers.map (markerTree expectedServerPid))).word := by
  obtain ⟨hfold, hnil⟩ := markers_foldl expectedServerPid markers
  rw [staleNvimMarkerCleanupCommand, hfold, Argument.word, commandWords_map]
  simp only [hnil]

theorem markers_readsBack (expectedServerPid : ℕ) {markers : List NvimPaneMarker}
    (h : ∀ marker ∈ markers, marker.paneId ≠ ";".toList) :
    (Argument.nested (markers.map (markerTree expectedServerPid))).ReadsBack := by
  refine Argument.readsBack_of_free _ ?_
  rw [Argument.Free]
  induction markers with
  | nil => trivial
  | cons marker markers ih =>
    obtain ⟨hmarker, hrest⟩ := List.forall_mem_cons.mp h
    have hguard : markerGuard expectedServerPid marker ≠ ";".toList :=
      ne_separator_of_head (c := '#') rfl (by decide)
    have hoption : nvimProcessPidOption ≠ ";".toList :=
      ne_separator_of_head (c := '@') rfl (by decide)
    simp only [List.map_cons, commandsFree, markerTree, Command.Free, argumentsFree, Argument.Free]
    refine ⟨⟨by decide, by decide, by decide, hmarker, hguard, ⟨⟨by decide, by decide, by decide,
      hmarker, hoption, trivial⟩, trivial⟩, trivial⟩, ih hrest⟩

/-- The removal of markers is one guarded command a marker, in their order. -/
theorem markerCleanup_exact (expectedServerPid : ℕ) {markers : List NvimPaneMarker}
    (h : ∀ marker ∈ markers, marker.paneId ≠ ";".toList) :
    let cleanup := Argument.nested (markers.map (markerTree expectedServerPid))
    staleNvimMarkerCleanupCommand expectedServerPid markers =
      (if markers = [] then none else some cleanup.word) ∧ cleanup.ReadsBack := by
  intro cleanup
  have hread := markers_readsBack expectedServerPid h
  exact ⟨staleNvimMarkerCleanupCommand_eq expectedServerPid markers, hread⟩

theorem markerCleanup_two :
    (Argument.nested ([⟨"%1".toList, 2, 3⟩, ⟨"%4".toList, 5, 6⟩].map (markerTree 7))).ReadsBack :=
  (markerCleanup_exact 7 (List.forall_mem_cons.mpr
    ⟨by decide, List.forall_mem_singleton.mpr (by decide)⟩)).2

def namedKeys : List (List Char) :=
  ["Enter", "Escape", "Tab", "BSpace", "Up", "Down", "Left", "Right", "Home", "End", "PPage",
    "NPage", "IC", "DC", "C-c", "C-d", "C-g", "C-z", "Space", "F1", "F2", "F3", "F4"].map
    String.toList

def singleLiteral (key : List Char) : Bool :=
  match key with
  | [c] => !Text.isControl c
  | _ => false

def logicalKey (key : List Char) : Bool := singleLiteral key || namedKeys.contains key

def validTerminalKeys (keys : List (List Char)) : Bool :=
  keys.length ≠ 0 && keys.length ≤ 16 && keys.all logicalKey

structure GuardedCommand where
  args : List (List Char)
  buffer : Option (List Char)
  success : List Char
  serverMismatch : List Char
  paneMismatch : List Char

def markers (nonce kind : List Char) : List Char × List Char × List Char :=
  ("__vde_agent_".toList ++ kind ++ "_applied__:".toList ++ nonce,
    "__vde_agent_".toList ++ kind ++ "_server_mismatch__:".toList ++ nonce,
    "__vde_agent_".toList ++ kind ++ "_pane_mismatch__:".toList ++ nonce)

def deleteBufferArgs (buffer : List Char) : List (List Char) :=
  ["delete-buffer".toList, "-b".toList, buffer]

def guardAfterCopyModeCancel (pane : PaneInstance) (expectedPaneCommand applied : List Char)
    (paneMismatch : List Char) (buffer : Option (List Char)) : List Char :=
  let paneId := pane.paneId.toList
  let deleted := (buffer.map deleteBufferArgs).getD []
  let mismatch := tmuxCommandString ((if deleted = [] then deleted else deleted ++ [";".toList]) ++
    ["display-message".toList, "-p".toList, paneMismatch])
  let exact := exactPaneGuard pane expectedPaneCommand
  let ready := readyAfterModeCancelGuard pane expectedPaneCommand
  let afterCancel := tmuxCommandString ["copy-mode".toList, "-q".toList, "-t".toList, paneId,
    ";".toList, "if-shell".toList, "-F".toList, "-t".toList, paneId, ready, applied, mismatch]
  let withCancel := tmuxCommandString ["if-shell".toList, "-F".toList, "-t".toList, paneId,
    "#\x7b>:#\x7bpane_in_mode\x7d,0\x7d".toList, afterCancel, applied]
  tmuxCommandString ["if-shell".toList, "-F".toList, "-t".toList, paneId, exact, withCancel,
    mismatch]

def submittedKeys (pane : PaneInstance) (keys : List (List Char)) (success : List Char) :
    List Char :=
  tmuxCommandString (["send-keys".toList, "-t".toList, pane.paneId.toList] ++ keys ++
    [";".toList, "display-message".toList, "-p".toList, success])

def buildGuardedKeysCommand (serverPid : ℕ) (serverStartTime : ℤ) (pane : PaneInstance)
    (expectedPaneCommand : List Char) (keys : List (List Char)) (nonce : List Char) :
    GuardedCommand :=
  let (success, serverMismatch, paneMismatch) := markers nonce "keys".toList
  let guarded := guardAfterCopyModeCancel pane expectedPaneCommand (submittedKeys pane keys success)
    paneMismatch none
  { args := ["if-shell".toList, "-F".toList, serverGuard serverPid serverStartTime, guarded,
      tmuxCommandString ["display-message".toList, "-p".toList, serverMismatch]]
    buffer := none
    success := success
    serverMismatch := serverMismatch
    paneMismatch := paneMismatch }

def keysTree (pane : PaneInstance) (keys : List (List Char)) (success : List Char) :
    List Command :=
  .mk "send-keys".toList
    ([.text "-t".toList, .text pane.paneId.toList] ++ keys.map Argument.text) :: messageTree success

theorem argumentWords_texts (keys : List (List Char)) :
    argumentWords (keys.map Argument.text) = keys := by
  induction keys with
  | nil => rfl
  | cons key keys ih => rw [List.map_cons, argumentWords, ih, Argument.word]

theorem argumentsFree_texts (keys : List (List Char)) :
    argumentsFree (keys.map Argument.text) ↔ ∀ key ∈ keys, key ≠ ";".toList := by
  induction keys with
  | nil => exact ⟨fun _ _ h => absurd h List.not_mem_nil, fun _ => trivial⟩
  | cons key keys ih =>
    rw [List.map_cons, argumentsFree, ih, Argument.Free, List.forall_mem_cons]

theorem submittedKeys_eq (pane : PaneInstance) (keys : List (List Char)) (success : List Char) :
    submittedKeys pane keys success = (Argument.nested (keysTree pane keys success)).word := by
  have hwords : joined (commandWords (keysTree pane keys success)) =
      ["send-keys".toList, "-t".toList, pane.paneId.toList] ++ keys ++
        [";".toList, "display-message".toList, "-p".toList, success] := by
    simp only [keysTree, messageTree, commandWords, Command.words, argumentWords, List.cons_append,
      List.nil_append, argumentWords_texts, joined_cons_cons, Argument.word]
    rfl
  rw [submittedKeys, Argument.word, hwords]

theorem guardAfterCopyModeCancel_eq (pane : PaneInstance) (expectedPaneCommand : List Char)
    (submitted : List Command) (paneMismatch : List Char) :
    guardAfterCopyModeCancel pane expectedPaneCommand (Argument.nested submitted).word paneMismatch
      none =
    (Argument.nested (guardTree pane (exactPaneGuard pane expectedPaneCommand)
      (readyAfterModeCancelGuard pane expectedPaneCommand) submitted (messageTree paneMismatch)
      true)).word := rfl

theorem keysTree_free_iff {pane : PaneInstance} (hpane : pane.paneId.toList ≠ ";".toList)
    (keys : List (List Char)) {success : List Char} (hsuccess : success ≠ ";".toList) :
    commandsFree (keysTree pane keys success) ↔ ∀ key ∈ keys, key ≠ ";".toList := by
  have hmessage := messageTree_free hsuccess
  simp only [keysTree, commandsFree, Command.Free, argumentsFree, Argument.Free, List.cons_append,
    List.nil_append, argumentsFree_texts]
  constructor
  · exact fun h => h.1.2.2.2
  · exact fun h => ⟨⟨by decide, by decide, hpane, h⟩, hmessage⟩

theorem nested_readsBack_iff (commands : List Command) :
    (Argument.nested commands).ReadsBack ↔ commandsFree commands :=
  ⟨fun h => commandsFree_of_readsBack _ (free_of_parse_joined h.1) h.2,
    Argument.readsBack_of_free (.nested commands)⟩

theorem validTerminalKeys_semicolon (before after : List (List Char)) :
    validTerminalKeys (before ++ ";".toList :: after) = true ↔
      (before ++ after).length < 16 ∧ ∀ key ∈ before ++ after, logicalKey key = true := by
  have hsemicolon : logicalKey ";".toList = true := by decide
  simp only [validTerminalKeys, Bool.and_eq_true, decide_eq_true_eq, List.all_eq_true,
    List.forall_mem_append, List.forall_mem_cons, hsemicolon, true_and, List.length_append,
    List.length_cons]
  constructor
  · rintro ⟨⟨-, hlength⟩, hkeys⟩
    exact ⟨by omega, hkeys⟩
  · rintro ⟨hlength, hkeys⟩
    exact ⟨⟨by omega, by omega⟩, hkeys⟩

/-- The keys a caller may ask for are sent as they are unless one of them is a semicolon, and a
semicolon may be asked for. -/
theorem guardedKeys_exact_iff (serverPid : ℕ) (serverStartTime : ℤ) {pane : PaneInstance}
    (hpane : pane.paneId.toList ≠ ";".toList) (expectedPaneCommand : List Char)
    (keys : List (List Char)) (nonce : List Char) :
    let built := buildGuardedKeysCommand serverPid serverStartTime pane expectedPaneCommand keys
      nonce
    let submitted := Argument.nested (keysTree pane keys built.success)
    let guarded := Argument.nested (guardTree pane (exactPaneGuard pane expectedPaneCommand)
      (readyAfterModeCancelGuard pane expectedPaneCommand) (keysTree pane keys built.success)
      (messageTree built.paneMismatch) true)
    let mismatched := Argument.nested (messageTree built.serverMismatch)
    built.args = ["if-shell".toList, "-F".toList, serverGuard serverPid serverStartTime,
      guarded.word, mismatched.word] ∧ mismatched.ReadsBack ∧
      (guarded.ReadsBack ↔ ∀ key ∈ keys, key ≠ ";".toList) ∧
      submittedKeys pane keys built.success = submitted.word ∧
      (submitted.ReadsBack ↔ ∀ key ∈ keys, key ≠ ";".toList) ∧
      ∀ before after, validTerminalKeys (before ++ ";".toList :: after) = true ↔
        (before ++ after).length < 16 ∧ ∀ key ∈ before ++ after, logicalKey key = true := by
  intro built submitted guarded mismatched
  have hmarker {text : List Char} (h : text.head? = some '_') : text ≠ ";".toList :=
    ne_separator_of_head h (by decide)
  have hkeys := keysTree_free_iff hpane keys (@hmarker built.success rfl)
  have hguarded := @guardTree_free_iff _ _ _ (keysTree pane keys built.success)
    (messageTree built.paneMismatch) hpane (exactPaneGuard_ne pane expectedPaneCommand)
    (readyAfterModeCancelGuard_ne pane expectedPaneCommand) true
  have hsubmitted := submittedKeys_eq pane keys built.success
  have hargs : guarded.word = guardAfterCopyModeCancel pane expectedPaneCommand
      (submittedKeys pane keys built.success) built.paneMismatch none := by
    rw [hsubmitted, guardAfterCopyModeCancel_eq]
  refine ⟨?_, (nested_readsBack_iff _).mpr (messageTree_free (hmarker rfl)), ?_, hsubmitted,
    (nested_readsBack_iff _).trans hkeys, validTerminalKeys_semicolon⟩
  · rw [hargs]
    rfl
  · exact (nested_readsBack_iff _).trans (hguarded.trans
      ((and_iff_left (messageTree_free (hmarker rfl))).trans hkeys))

theorem guardedKeys_named :
    (Argument.nested (keysTree ⟨"%1", 2⟩ ["#".toList, "C-c".toList]
      (markers "n".toList "keys".toList).1)).ReadsBack ∧
    ¬(Argument.nested (keysTree ⟨"%1", 2⟩ [";".toList, "y".toList]
      (markers "n".toList "keys".toList).1)).ReadsBack := by
  constructor
  · refine (@guardedKeys_exact_iff 7 1 ⟨"%1", 2⟩ (by decide) "codex".toList
      ["#".toList, "C-c".toList] "n".toList).2.2.2.2.1.mpr ?_
    exact List.forall_mem_cons.mpr ⟨by decide, List.forall_mem_singleton.mpr (by decide)⟩
  · intro h
    have hkeys := (@guardedKeys_exact_iff 7 1 ⟨"%1", 2⟩ (by decide) "codex".toList
      [";".toList, "y".toList] "n".toList).2.2.2.2.1.mp h
    exact hkeys _ List.mem_cons_self rfl

end VdeTmux.Daemon
