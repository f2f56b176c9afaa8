import VdeTmux.Foundation.Cutting
import VdeTmux.Pane.CommandString
import VdeTmux.Pane.Model

/-!
# Capture arguments

The arguments of one tmux run that captures the panes of many jobs. Each job begins with its
boundary, its panes stand between delimiters, and each pane is captured behind a guard between two
markers with its size.
-/

open Foundation Foundation.CommandLine Foundation.Cutting
open VdeTmux.Pane (PaneInstance tmuxCommandString)
namespace VdeTmux.Capture

def captureHistoryLines : List Char := "-80".toList

def captureIdentityPrefix (delimiter : List Char) : List Char :=
  "__vde_capture_identity_".toList ++ delimiter ++ "__".toList

def captureIdentityFormat (delimiter : List Char) : List Char :=
  captureIdentityPrefix delimiter ++ "#\x7bpid\x7d:#\x7bstart_time\x7d".toList

def obsOkMarker (delimiter : List Char) : List Char :=
  "__vde_obs_ok_".toList ++ delimiter ++ "__".toList

def obsViewMarker (delimiter : List Char) : List Char :=
  "__vde_obs_view_".toList ++ delimiter ++ "__".toList

def jobBoundaryMarker (delimiter : List Char) : List Char :=
  "__vde_job_".toList ++ delimiter ++ "__".toList

inductive CaptureJobSpec
  | observationPlain (panes : List PaneInstance)
deriving DecidableEq

def CaptureJobSpec.panes : CaptureJobSpec → List PaneInstance
  | .observationPlain panes => panes

def shapeFormat : List Char := "#\x7bpane_width\x7d:#\x7bpane_height\x7d".toList

def displayMessage (message : List Char) : List (List Char) :=
  ["display-message".toList, "-p".toList, message]

def capturePane (paneId : List Char) : List (List Char) :=
  ["capture-pane".toList, "-p".toList, "-S".toList, captureHistoryLines, "-t".toList, paneId]

def shapeMarker (marker paneId : List Char) : List (List Char) :=
  ["display-message".toList, "-p".toList, "-t".toList, paneId, marker ++ shapeFormat]

def guardedCapture (delimiter paneId : List Char) : List (List Char) :=
  ["if-shell".toList, "-F".toList, "-t".toList, paneId, "1".toList,
    tmuxCommandString (shapeMarker (obsViewMarker delimiter) paneId) ++ " ; ".toList ++
      tmuxCommandString (capturePane paneId) ++ " ; ".toList ++
      tmuxCommandString (shapeMarker (obsOkMarker delimiter) paneId)]

def paneArgs (delimiter : List Char) (pane : PaneInstance) (index : ℕ) : List (List Char) :=
  [";".toList] ++ (if 0 < index then displayMessage delimiter ++ [";".toList] else []) ++
    guardedCapture delimiter pane.paneId.toList

def jobArgs (delimiter : List Char) : CaptureJobSpec → List (List Char)
  | .observationPlain panes =>
    [";".toList] ++ displayMessage (jobBoundaryMarker delimiter) ++
      panes.zipIdx.flatMap fun entry => paneArgs delimiter entry.1 entry.2

def combinedCaptureArgs (jobs : List CaptureJobSpec) (delimiter : List Char) :
    List (List Char) :=
  displayMessage (captureIdentityFormat delimiter) ++ jobs.flatMap (jobArgs delimiter)

def laterCommands (delimiter : List Char) (panes : List PaneInstance) :
    List (List (List Char)) :=
  panes.flatMap fun pane =>
    [displayMessage delimiter, guardedCapture delimiter pane.paneId.toList]

def paneCommands (delimiter : List Char) : List PaneInstance → List (List (List Char))
  | [] => []
  | pane :: panes =>
    guardedCapture delimiter pane.paneId.toList :: laterCommands delimiter panes

def jobCommands (delimiter : List Char) (job : CaptureJobSpec) : List (List (List Char)) :=
  displayMessage (jobBoundaryMarker delimiter) :: paneCommands delimiter job.panes

def combinedCommands (jobs : List CaptureJobSpec) (delimiter : List Char) :
    List (List (List Char)) :=
  displayMessage (captureIdentityFormat delimiter) :: jobs.flatMap (jobCommands delimiter)

theorem flatMap_paneArgs (delimiter : List Char) (panes : List PaneInstance) (index : ℕ)
    (h : 0 < index) :
    (panes.zipIdx index).flatMap (fun entry => paneArgs delimiter entry.1 entry.2) =
      (laterCommands delimiter panes).flatMap (separator :: ·) := by
  induction panes generalizing index with
  | nil => rfl
  | cons pane panes ih =>
    have hrest := ih (index + 1) (Nat.succ_pos index)
    have hpane : paneArgs delimiter pane index = separator :: (displayMessage delimiter ++
        separator :: guardedCapture delimiter pane.paneId.toList) := by
      rw [paneArgs, if_pos h]
      rfl
    have hlater : laterCommands delimiter (pane :: panes) = displayMessage delimiter ::
        guardedCapture delimiter pane.paneId.toList :: laterCommands delimiter panes := rfl
    rw [List.zipIdx_cons, List.flatMap_cons, hrest, hpane, hlater, List.flatMap_cons,
      List.flatMap_cons, List.cons_append, List.cons_append, List.append_assoc, List.cons_append]

theorem jobArgs_eq (delimiter : List Char) (job : CaptureJobSpec) :
    jobArgs delimiter job = (jobCommands delimiter job).flatMap (separator :: ·) := by
  obtain ⟨panes⟩ := job
  rw [jobArgs, jobCommands, List.flatMap_cons, CaptureJobSpec.panes]
  cases panes with
  | nil => rfl
  | cons pane panes =>
    rw [List.zipIdx_cons, List.flatMap_cons, flatMap_paneArgs delimiter panes 1 Nat.one_pos,
      paneCommands, List.flatMap_cons]
    rfl

theorem combinedCaptureArgs_eq (jobs : List CaptureJobSpec) (delimiter : List Char) :
    combinedCaptureArgs jobs delimiter = joined (combinedCommands jobs delimiter) := by
  have hjobs : jobs.flatMap (jobArgs delimiter) =
      (jobs.flatMap (jobCommands delimiter)).flatMap (separator :: ·) := by
    rw [List.flatMap_assoc]
    exact List.flatMap_congr fun job _ => jobArgs_eq delimiter job
  rw [combinedCaptureArgs, hjobs, combinedCommands, joined, intercalate_eq]

theorem render_separated {words words' : List (List Char)} (h : words ≠ [])
    (h' : words' ≠ []) :
    render (words ++ separator :: words') = render words ++ " ; ".toList ++ render words' := by
  obtain ⟨word, words, rfl⟩ := List.exists_cons_of_ne_nil h
  obtain ⟨word', words', rfl⟩ := List.exists_cons_of_ne_nil h'
  have hsep : piece separator = [';'] := rfl
  rw [render, render, render, List.map_append, List.map_cons, List.map_cons, List.map_cons,
    List.cons_append, intercalate_eq, intercalate_eq, intercalate_eq, List.flatMap_append,
    List.flatMap_cons, List.flatMap_cons, hsep, List.append_assoc, List.append_assoc]
  rfl

/-- The command string of a guard holds its three commands. -/
theorem body_eq {view capture ok : List (List Char)} (hview : view ≠ [])
    (hcapture : capture ≠ []) (hok : ok ≠ []) :
    tmuxCommandString view ++ " ; ".toList ++ tmuxCommandString capture ++ " ; ".toList ++
      tmuxCommandString ok = render (joined [view, capture, ok]) := by
  have hjoined : joined [view, capture, ok] = view ++ separator :: (capture ++ separator :: ok) := by
    rw [joined_cons_cons, joined_cons_cons, joined, List.intercalate_singleton]
  have hrest : capture ++ separator :: ok ≠ [] := by
    intro h
    exact hcapture (List.append_eq_nil_iff.mp h).1
  rw [hjoined, render_separated hview hrest, render_separated hcapture hok]
  simp only [List.append_assoc, VdeTmux.Pane.tmuxCommandString_eq]

end VdeTmux.Capture
