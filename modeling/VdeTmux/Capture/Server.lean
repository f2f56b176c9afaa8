import VdeTmux.Capture.Arguments
import VdeTmux.Foundation.Lines
import VdeTmux.SessionManager.KillServer

/-!
# Running the capture

The documented behaviour of tmux: the arguments are commands between semicolons, each is run in
turn, and a command whose pane is gone fails. A failure inside a guard ends that guard alone.
-/

open Foundation Foundation.CommandLine Foundation.Cutting Foundation.Writer
open VdeTmux.Pane (PaneInstance intDigits)
open VdeTmux.SessionManager (ServerIdentity)
namespace VdeTmux.Capture

def usizeMax : ℕ := 2 ^ 64 - 1

/-- What a pane holds: its rows from the history, oldest first, and the rows it shows. -/
structure Screen where
  width : ℕ
  height : ℕ
  history : List (List Char)
  shown : List (List Char)
  width_pos : 0 < width
  height_pos : 0 < height
  width_le : width ≤ usizeMax
  height_le : height ≤ usizeMax
  length_shown : shown.length = height
  oneLine : ∀ row ∈ history ++ shown, '\n' ∉ row

/-- The last rows of the history, and the rows that are shown. -/
def Screen.rows (screen : Screen) : List (List Char) :=
  screen.history.drop (screen.history.length - 80) ++ screen.shown

def Screen.size (screen : Screen) : ℕ × ℕ := (screen.width, screen.height)

def formatValue (identity : ServerIdentity) (screen : Option Screen) (name : List Char) :
    List Char :=
  if name = "pid".toList then digits identity.pid
  else if name = "start_time".toList then intDigits identity.startTime
  else if name = "pane_width".toList then (screen.map fun s => digits s.width).getD []
  else if name = "pane_height".toList then (screen.map fun s => digits s.height).getD []
  else []

def expandFrom (value : List Char → List Char) : Option (List Char) → List Char → List Char
  | _, [] => []
  | some name, '}' :: cs => value name ++ expandFrom value none cs
  | some name, c :: cs => expandFrom value (some (name ++ [c])) cs
  | none, '#' :: '{' :: cs => expandFrom value (some []) cs
  | none, c :: cs => c :: expandFrom value none cs

def expand (value : List Char → List Char) (format : List Char) : List Char :=
  expandFrom value none format

theorem expandFrom_char (value : List Char → List Char) {c : Char} (h : c ≠ '#')
    (cs : List Char) : expandFrom value none (c :: cs) = c :: expandFrom value none cs := by
  rw [expandFrom]
  intro cs' heq
  exact absurd heq h

theorem expand_append (value : List Char → List Char) {plain : List Char} (h : '#' ∉ plain)
    (rest : List Char) : expand value (plain ++ rest) = plain ++ expand value rest := by
  induction plain with
  | nil => rfl
  | cons c plain ih =>
    have hc : c ≠ '#' := fun heq => h (by rw [heq]; exact List.mem_cons_self)
    have hrest := ih fun hmem => h (List.mem_cons_of_mem c hmem)
    rw [List.cons_append, List.cons_append, ← hrest]
    exact expandFrom_char value hc (plain ++ rest)

/-- A server while the commands are run. Its panes are looked up when a command begins, and inside
a guard at each of its steps. -/
structure Server where
  identity : ServerIdentity
  pane : ℕ → ℕ → List Char → Option Screen

def Server.print (server : Server) (number step : ℕ) (command : List (List Char)) :
    Option (List Char) :=
  match command with
  | [name, flag, format] =>
    if name = "display-message".toList ∧ flag = "-p".toList then
      some (ended (expand (formatValue server.identity none) format))
    else none
  | [name, flag, targetFlag, target, format] =>
    if name = "display-message".toList ∧ flag = "-p".toList ∧ targetFlag = "-t".toList then
      (server.pane number step target).map fun screen =>
        ended (expand (formatValue server.identity (some screen)) format)
    else none
  | [name, flag, startFlag, start, targetFlag, target] =>
    if name = "capture-pane".toList ∧ flag = "-p".toList ∧ startFlag = "-S".toList ∧
        start = "-80".toList ∧ targetFlag = "-t".toList then
      (server.pane number step target).map fun screen => text screen.rows
    else none
  | _ => none

def Server.printAll (server : Server) (number : ℕ) : ℕ → List (List (List Char)) → List Char
  | _, [] => []
  | step, command :: commands =>
    match server.print number step command with
    | none => []
    | some output => output ++ server.printAll number (step + 1) commands

def Server.execute (server : Server) (number : ℕ) (command : List (List Char)) : List Char :=
  match command with
  | [name, flag, targetFlag, target, condition, body] =>
    if name = "if-shell".toList ∧ flag = "-F".toList ∧ targetFlag = "-t".toList then
      match server.pane number 0 target with
      | none => []
      | some screen =>
        let value := expand (formatValue server.identity (some screen)) condition
        if value = [] ∨ value = "0".toList then []
        else server.printAll number 1 ((parse body).getD [])
    else (server.print number 0 command).getD []
  | _ => (server.print number 0 command).getD []

def Server.run (server : Server) : ℕ → List (List (List Char)) → List Char
  | _, [] => []
  | number, command :: commands =>
    server.execute number command ++ server.run (number + 1) commands

/-- What the client prints for a list of arguments. -/
def Server.stdout (server : Server) (args : List (List Char)) : List Char :=
  server.run 0 (args.foldl Reading.take {}).closeWords.commands

end VdeTmux.Capture
