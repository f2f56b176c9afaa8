import VdeTmux.Capture.Server

/-!
# The transcript of a capture

What the commands of a capture print, line by line: each guard prints what it saw of its pane up to
the step that failed.
-/

open Foundation Foundation.CommandLine Foundation.Cutting Foundation.Writer
open VdeTmux.Pane (PaneInstance intDigits)
namespace VdeTmux.Capture

/-- The delimiters that are generated are letters and digits. -/
def Plain (delimiter : List Char) : Prop := ∀ c ∈ delimiter, c.isAlphanum = true

theorem Plain.not_mem {delimiter : List Char} (h : Plain delimiter) {c : Char}
    (hc : c.isAlphanum = false) : c ∉ delimiter := by
  intro hmem
  rw [h c hmem] at hc
  exact Bool.noConfusion hc

theorem not_mem_marker {c : Char} {name delimiter : List Char} (hname : c ∉ name)
    (h : c ∉ delimiter) (hc : c ≠ '_') : c ∉ name ++ delimiter ++ "__".toList := by
  intro hmem
  rcases List.mem_append.mp hmem with hmem | hmem
  · exact (List.mem_append.mp hmem).elim hname h
  · have hunderscores : "__".toList = ['_', '_'] := rfl
    rw [hunderscores] at hmem
    exact (List.mem_cons.mp hmem).elim hc fun hmem => hc (List.mem_singleton.mp hmem)

structure Look where
  target : Option Screen
  before : Option Screen
  captured : Option Screen
  after : Option Screen

def Server.look (server : Server) (number : ℕ) (paneId : List Char) : Look :=
  ⟨server.pane number 0 paneId, server.pane number 1 paneId, server.pane number 2 paneId,
    server.pane number 3 paneId⟩

def shapeLine (marker : List Char) (screen : Screen) : List Char :=
  marker ++ (digits screen.width ++ ':' :: digits screen.height)

def Look.lines (delimiter : List Char) : Look → List (List Char)
  | ⟨some _, some before, some captured, some after⟩ =>
    shapeLine (obsViewMarker delimiter) before ::
      (captured.rows ++ [shapeLine (obsOkMarker delimiter) after])
  | ⟨some _, some before, some captured, none⟩ =>
    shapeLine (obsViewMarker delimiter) before :: captured.rows
  | ⟨some _, some before, none, _⟩ => [shapeLine (obsViewMarker delimiter) before]
  | _ => []

variable (server : Server) (number step : ℕ)

theorem print_message {message : List Char} (h : '#' ∉ message) :
    server.print number step (displayMessage message) = some (ended message) := by
  have hexpand := expand_append (formatValue server.identity none) h []
  rw [List.append_nil] at hexpand
  rw [displayMessage, Server.print, if_pos ⟨rfl, rfl⟩, hexpand]
  rw [expand, expandFrom, List.append_nil]

theorem print_shape {marker : List Char} (h : '#' ∉ marker) (paneId : List Char) :
    server.print number step (shapeMarker marker paneId) =
      (server.pane number step paneId).map fun screen => ended (shapeLine marker screen) := by
  have hshape : ∀ screen : Screen,
      expand (formatValue server.identity (some screen)) (marker ++ shapeFormat) =
        shapeLine marker screen := by
    intro screen
    have hwidth : formatValue server.identity (some screen) "pane_width".toList =
        digits screen.width := rfl
    have hheight : formatValue server.identity (some screen) "pane_height".toList =
        digits screen.height := rfl
    have hformat : expand (formatValue server.identity (some screen)) shapeFormat =
        digits screen.width ++ ':' :: digits screen.height := by
      rw [← hwidth, ← hheight]
      exact congrArg _ (congrArg _ (List.append_nil _))
    rw [expand_append _ h, hformat, shapeLine]
  rw [shapeMarker, Server.print, if_pos ⟨rfl, rfl, rfl⟩]
  exact congrArg (Option.map · _) (funext fun screen => congrArg ended (hshape screen))

theorem print_capture (paneId : List Char) :
    server.print number step (capturePane paneId) =
      (server.pane number step paneId).map fun screen => text screen.rows := by
  rw [capturePane, Server.print, if_pos ⟨rfl, rfl, rfl, rfl, rfl⟩]

theorem ne_separator {word : List Char} (h : 1 < word.length) : word ≠ separator := by
  intro heq
  rw [heq] at h
  exact absurd h (by decide)

theorem shapeMarker_free {paneId : List Char} (h : paneId ≠ separator) (marker : List Char) :
    ∀ word ∈ shapeMarker marker paneId, word ≠ separator := by
  have hshape : 1 < (marker ++ shapeFormat).length := by
    have hlength : 1 < shapeFormat.length := by decide
    rw [List.length_append]
    omega
  simp only [shapeMarker, List.forall_mem_cons]
  exact ⟨by decide, by decide, by decide, h, ne_separator hshape, List.forall_mem_nil _⟩

theorem capturePane_free {paneId : List Char} (h : paneId ≠ separator) :
    ∀ word ∈ capturePane paneId, word ≠ separator := by
  simp only [capturePane, List.forall_mem_cons]
  exact ⟨by decide, by decide, by decide, by decide, by decide, h, List.forall_mem_nil _⟩

theorem guardedCapture_free {paneId : List Char} (h : paneId ≠ separator) (delimiter : List Char) :
    ∀ word ∈ guardedCapture delimiter paneId, word ≠ separator := by
  have hbody : ∀ view capture ok : List Char,
      view ++ " ; ".toList ++ capture ++ " ; ".toList ++ ok ≠ separator := by
    intro view capture ok
    have hlength : (" ; ".toList).length = 3 := by decide
    apply ne_separator
    simp only [List.length_append, hlength]
    omega
  simp only [guardedCapture, List.forall_mem_cons]
  exact ⟨by decide, by decide, by decide, h, by decide, hbody _ _ _, List.forall_mem_nil _⟩

theorem displayMessage_free {message : List Char} (h : message ≠ separator) :
    ∀ word ∈ displayMessage message, word ≠ separator := by
  simp only [displayMessage, List.forall_mem_cons]
  exact ⟨by decide, by decide, h, List.forall_mem_nil _⟩

theorem parse_body {paneId : List Char} (h : paneId ≠ separator) (delimiter : List Char) :
    parse (VdeTmux.Pane.tmuxCommandString (shapeMarker (obsViewMarker delimiter) paneId) ++
        " ; ".toList ++ VdeTmux.Pane.tmuxCommandString (capturePane paneId) ++ " ; ".toList ++
        VdeTmux.Pane.tmuxCommandString (shapeMarker (obsOkMarker delimiter) paneId)) =
      some [shapeMarker (obsViewMarker delimiter) paneId, capturePane paneId,
        shapeMarker (obsOkMarker delimiter) paneId] := by
  have hview : shapeMarker (obsViewMarker delimiter) paneId ≠ [] := List.cons_ne_nil _ _
  have hcapture : capturePane paneId ≠ [] := List.cons_ne_nil _ _
  have hok : shapeMarker (obsOkMarker delimiter) paneId ≠ [] := List.cons_ne_nil _ _
  rw [body_eq hview hcapture hok]
  apply parse_joined
  · simp only [List.forall_mem_cons]
    exact ⟨hview, hcapture, hok, List.forall_mem_nil _⟩
  · simp only [List.forall_mem_cons]
    exact ⟨shapeMarker_free h _, capturePane_free h, shapeMarker_free h _, List.forall_mem_nil _⟩

theorem execute_guarded {delimiter : List Char} (h : '#' ∉ delimiter) {paneId : List Char}
    (hpane : paneId ≠ separator) :
    server.execute number (guardedCapture delimiter paneId) =
      text ((server.look number paneId).lines delimiter) := by
  have hview : '#' ∉ obsViewMarker delimiter := not_mem_marker (by decide) h (by decide)
  have hok : '#' ∉ obsOkMarker delimiter := not_mem_marker (by decide) h (by decide)
  have hcondition : ∀ screen : Screen,
      expand (formatValue server.identity (some screen)) "1".toList = "1".toList := fun _ => rfl
  have hrun : ¬("1".toList = [] ∨ "1".toList = "0".toList) := by decide
  rw [guardedCapture, Server.execute, if_pos ⟨rfl, rfl, rfl⟩, parse_body hpane, Server.look]
  cases server.pane number 0 paneId with
  | none => rfl
  | some screen =>
    dsimp only
    rw [hcondition, if_neg hrun, Option.getD_some, Server.printAll, print_shape server number 1 hview]
    cases server.pane number 1 paneId with
    | none => rfl
    | some before =>
      simp only [Option.map_some, Server.printAll, print_capture]
      cases server.pane number 2 paneId with
      | none => rw [Option.map_none, Look.lines, text_cons, text, List.flatMap_nil]
      | some captured =>
        simp only [Option.map_some, print_shape server number 3 hok]
        cases server.pane number 3 paneId with
        | none => rw [Option.map_none, List.append_nil, Look.lines, text_cons]
        | some after =>
          simp only [Option.map_some]
          rw [Look.lines, text_cons, text_append, text_cons]
          rfl

theorem execute_message {message : List Char} (h : '#' ∉ message) :
    server.execute number (displayMessage message) = ended message :=
  congrArg (Option.getD · []) (print_message server number 0 h)

theorem run_append (commands commands' : List (List (List Char))) :
    server.run number (commands ++ commands') =
      server.run number commands ++ server.run (number + commands.length) commands' := by
  induction commands generalizing number with
  | nil => rfl
  | cons command commands ih =>
    rw [List.cons_append, Server.run, Server.run, ih, List.length_cons, List.append_assoc,
      Nat.add_assoc, Nat.add_comm 1]

def Server.paneLooks (server : Server) : ℕ → List PaneInstance → List Look
  | _, [] => []
  | number, pane :: panes =>
    server.look number pane.paneId.toList :: server.paneLooks (number + 2) panes

/-- How many commands a job has: its boundary, its guards and the delimiters between them. -/
def CaptureJobSpec.commandCount (job : CaptureJobSpec) : ℕ := 1 + (2 * job.panes.length - 1)

def Server.jobLooks (server : Server) : ℕ → List CaptureJobSpec → List (List Look)
  | _, [] => []
  | number, job :: jobs =>
    server.paneLooks (number + 1) job.panes :: server.jobLooks (number + job.commandCount) jobs

/-- The lines of a job: its boundary, and the lines of its panes between delimiters. -/
def jobLines (delimiter : List Char) (looks : List Look) : List (List Char) :=
  jobBoundaryMarker delimiter :: [delimiter].intercalate (looks.map (Look.lines delimiter))

theorem length_laterCommands (delimiter : List Char) (panes : List PaneInstance) :
    (laterCommands delimiter panes).length = 2 * panes.length := by
  induction panes with
  | nil => rfl
  | cons pane panes ih =>
    rw [laterCommands, List.flatMap_cons, List.length_append, List.length_cons, ← laterCommands, ih]
    simp only [List.length_cons, List.length_nil]
    omega

theorem length_jobCommands (delimiter : List Char) (job : CaptureJobSpec) :
    (jobCommands delimiter job).length = job.commandCount := by
  rw [jobCommands, CaptureJobSpec.commandCount, List.length_cons]
  cases job.panes with
  | nil => rfl
  | cons pane panes =>
    rw [paneCommands, List.length_cons, length_laterCommands, List.length_cons]
    omega

section Runs
variable {delimiter : List Char} (h : '#' ∉ delimiter)
include h

theorem run_later {panes : List PaneInstance}
    (hpanes : ∀ pane ∈ panes, pane.paneId.toList ≠ separator) :
    server.run number (laterCommands delimiter panes) =
      text ((server.paneLooks (number + 1) panes).flatMap fun look =>
        delimiter :: look.lines delimiter) := by
  induction panes generalizing number with
  | nil => rfl
  | cons pane panes ih =>
    have hrest := ih (number + 2) fun other hother => hpanes other (List.mem_cons_of_mem pane hother)
    have hpane := hpanes pane List.mem_cons_self
    rw [laterCommands, List.flatMap_cons, ← laterCommands, List.cons_append, List.cons_append,
      List.nil_append, Server.run, Server.run, execute_message server number h,
      execute_guarded server (number + 1) h hpane, hrest, Server.paneLooks, List.flatMap_cons,
      List.cons_append, text_cons, text_append]

theorem run_panes {panes : List PaneInstance}
    (hpanes : ∀ pane ∈ panes, pane.paneId.toList ≠ separator) :
    server.run number (paneCommands delimiter panes) =
      text ([delimiter].intercalate
        ((server.paneLooks number panes).map (Look.lines delimiter))) := by
  cases panes with
  | nil => rfl
  | cons pane panes =>
    have hpane := hpanes pane List.mem_cons_self
    have hlater := run_later server (number + 1) h fun other hother =>
      hpanes other (List.mem_cons_of_mem pane hother)
    rw [paneCommands, Server.run, execute_guarded server number h hpane, hlater, Server.paneLooks,
      List.map_cons, intercalate_eq, text_append, List.flatMap_map]

theorem run_jobs {jobs : List CaptureJobSpec}
    (hpanes : ∀ job ∈ jobs, ∀ pane ∈ job.panes, pane.paneId.toList ≠ separator) :
    server.run number (jobs.flatMap (jobCommands delimiter)) =
      text ((server.jobLooks number jobs).flatMap (jobLines delimiter)) := by
  induction jobs generalizing number with
  | nil => rfl
  | cons job jobs ih =>
    have hrest := ih (number + job.commandCount) fun other hother =>
      hpanes other (List.mem_cons_of_mem job hother)
    have hboundary : '#' ∉ jobBoundaryMarker delimiter :=
      not_mem_marker (by decide) h (by decide)
    rw [List.flatMap_cons, run_append, length_jobCommands, hrest, jobCommands, Server.run,
      execute_message server number hboundary,
      run_panes server (number + 1) h (hpanes job List.mem_cons_self), Server.jobLooks,
      List.flatMap_cons, jobLines, List.cons_append, text_cons, text_append, List.append_assoc]

end Runs

def identityLine (delimiter : List Char) (identity : VdeTmux.SessionManager.ServerIdentity) :
    List Char :=
  captureIdentityPrefix delimiter ++ (digits identity.pid ++ ':' :: intDigits identity.startTime)

theorem execute_identity {delimiter : List Char} (h : '#' ∉ delimiter) :
    server.execute number (displayMessage (captureIdentityFormat delimiter)) =
      ended (identityLine delimiter server.identity) := by
  have hprefix : '#' ∉ captureIdentityPrefix delimiter := not_mem_marker (by decide) h (by decide)
  have hpid : formatValue server.identity none "pid".toList = digits server.identity.pid := rfl
  have hstart : formatValue server.identity none "start_time".toList =
      intDigits server.identity.startTime := rfl
  have hformat : expand (formatValue server.identity none)
      "#\x7bpid\x7d:#\x7bstart_time\x7d".toList =
        digits server.identity.pid ++ ':' :: intDigits server.identity.startTime := by
    rw [← hpid, ← hstart]
    exact congrArg _ (congrArg _ (List.append_nil _))
  have hexpand : expand (formatValue server.identity none) (captureIdentityFormat delimiter) =
      identityLine delimiter server.identity := by
    rw [captureIdentityFormat, expand_append _ hprefix, hformat, identityLine]
  rw [← hexpand]
  rfl

theorem paneCommands_free {delimiter : List Char} (h : delimiter ≠ separator)
    {panes : List PaneInstance} (hpanes : ∀ pane ∈ panes, pane.paneId.toList ≠ separator) :
    ∀ command ∈ paneCommands delimiter panes, command ≠ [] ∧ ∀ word ∈ command, word ≠ separator := by
  have hguard : ∀ pane ∈ panes, guardedCapture delimiter pane.paneId.toList ≠ [] ∧
      ∀ word ∈ guardedCapture delimiter pane.paneId.toList, word ≠ separator := by
    intro pane hpane
    exact ⟨List.cons_ne_nil _ _, guardedCapture_free (hpanes pane hpane) delimiter⟩
  have hmessage : displayMessage delimiter ≠ [] ∧
      ∀ word ∈ displayMessage delimiter, word ≠ separator :=
    ⟨List.cons_ne_nil _ _, displayMessage_free h⟩
  cases panes with
  | nil => exact List.forall_mem_nil _
  | cons pane panes =>
    rw [paneCommands, List.forall_mem_cons]
    refine ⟨hguard pane List.mem_cons_self, ?_⟩
    intro command hcommand
    obtain ⟨other, hother, hcommand⟩ := List.mem_flatMap.mp hcommand
    rcases List.mem_cons.mp hcommand with rfl | hcommand
    · exact hmessage
    · rw [List.mem_singleton.mp hcommand]
      exact hguard other (List.mem_cons_of_mem pane hother)

theorem combinedCommands_free {delimiter : List Char} (h : delimiter ≠ separator)
    {jobs : List CaptureJobSpec}
    (hpanes : ∀ job ∈ jobs, ∀ pane ∈ job.panes, pane.paneId.toList ≠ separator) :
    ∀ command ∈ combinedCommands jobs delimiter,
      command ≠ [] ∧ ∀ word ∈ command, word ≠ separator := by
  have hidentity : captureIdentityFormat delimiter ≠ separator :=
    ne_separator_of_head (c := '_') rfl (by decide)
  have hboundary : jobBoundaryMarker delimiter ≠ separator :=
    ne_separator_of_head (c := '_') rfl (by decide)
  rw [combinedCommands, List.forall_mem_cons]
  refine ⟨⟨List.cons_ne_nil _ _, displayMessage_free hidentity⟩, ?_⟩
  intro command hcommand
  obtain ⟨job, hjob, hcommand⟩ := List.mem_flatMap.mp hcommand
  rcases List.mem_cons.mp hcommand with rfl | hcommand
  · exact ⟨List.cons_ne_nil _ _, displayMessage_free hboundary⟩
  · exact paneCommands_free h (hpanes job hjob) command hcommand

/-- The whole output: the identity of the server, and the lines of the jobs. -/
theorem stdout_eq {delimiter : List Char} (h : Plain delimiter) {jobs : List CaptureJobSpec}
    (hpanes : ∀ job ∈ jobs, ∀ pane ∈ job.panes, pane.paneId.toList ≠ separator) :
    server.stdout (combinedCaptureArgs jobs delimiter) =
      text (identityLine delimiter server.identity ::
        (server.jobLooks 1 jobs).flatMap (jobLines delimiter)) := by
  have hhash : '#' ∉ delimiter := h.not_mem rfl
  have hsemi : delimiter ≠ separator := by
    rintro rfl
    exact h.not_mem (c := ';') rfl List.mem_cons_self
  have hfree := combinedCommands_free hsemi hpanes
  have hread :
      ((joined (combinedCommands jobs delimiter)).foldl Reading.take {}).closeWords.commands =
        combinedCommands jobs delimiter := by
    rw [foldl_take_joined rfl (fun command hcommand => (hfree command hcommand).1)
      (fun command hcommand => (hfree command hcommand).2)]
    rfl
  rw [Server.stdout, combinedCaptureArgs_eq, hread, combinedCommands, Server.run,
    execute_identity server 0 hhash, run_jobs server 1 hhash hpanes, text_cons]

end VdeTmux.Capture
