import VdeTmux.Capture.Attribution

/-!
# Combined captures

One run of tmux for many jobs gives each job its own screens, or an error of its own. Another server
or a missing boundary fails the batch.
-/

open Foundation Foundation.CommandLine Foundation.Text Foundation.Cutting
open VdeTmux.Pane (PaneInstance)
open VdeTmux.SessionManager (ServerIdentity)
namespace VdeTmux.Capture

theorem ne_separator_of_valid {paneId : String} (h : PaneInstance.validPaneId paneId = true) :
    paneId.toList ≠ separator := by
  intro heq
  rw [PaneInstance.validPaneId, heq] at h
  exact Bool.noConfusion h

theorem length_paneLooks (server : Server) (number : ℕ) (panes : List PaneInstance) :
    (server.paneLooks number panes).length = panes.length := by
  induction panes generalizing number with
  | nil => rfl
  | cons pane panes ih => rw [Server.paneLooks, List.length_cons, ih, List.length_cons]

theorem length_jobLooks (server : Server) (number : ℕ) (jobs : List CaptureJobSpec) :
    (server.jobLooks number jobs).length = jobs.length := by
  induction jobs generalizing number with
  | nil => rfl
  | cons job jobs ih => rw [Server.jobLooks, List.length_cons, ih, List.length_cons]

section Batch
variable {server : Server} {delimiter : List Char} (h : Plain delimiter)
  {jobs : List CaptureJobSpec}
include h

theorem zipWith_parseJob (number : ℕ)
    (hforeign : ∀ looks ∈ server.jobLooks number jobs, ∀ look ∈ looks, look.Foreign delimiter) :
    List.zipWith (parseJob delimiter) jobs ((server.jobLooks number jobs).map fun looks =>
        text ([delimiter].intercalate (looks.map (Look.lines delimiter)))) =
      (server.jobLooks number jobs).map fun looks => .observation (observedAll looks) := by
  induction jobs generalizing number with
  | nil => rfl
  | cons job jobs ih =>
    obtain ⟨hlooks, hrest⟩ := List.forall_mem_cons.mp hforeign
    obtain ⟨panes⟩ := job
    have hjob := parseObservationJob_lines h hlooks
    rw [CaptureJobSpec.panes, length_paneLooks] at hjob
    rw [Server.jobLooks, List.map_cons, List.zipWith_cons_cons, ih _ hrest, List.map_cons, parseJob,
      CaptureJobSpec.panes, hjob]

theorem parse_stdout
    (hpanes : ∀ job ∈ jobs, ∀ pane ∈ job.panes, PaneInstance.validPaneId pane.paneId = true)
    (hfits : Fits server.identity)
    (hforeign : ∀ looks ∈ server.jobLooks 1 jobs, ∀ look ∈ looks, look.Foreign delimiter)
    (exitCode : Option ℤ) (expectedIdentity : ServerIdentity) :
    parseCombinedCapture ⟨exitCode, server.stdout (combinedCaptureArgs jobs delimiter)⟩ jobs
        delimiter expectedIdentity =
      if server.identity ≠ expectedIdentity then
        .error (.identityMismatch expectedIdentity server.identity)
      else
        .ok ((server.jobLooks 1 jobs).map fun looks => .observation (observedAll looks)) := by
  have hmarker : '\n' ∉ captureIdentityPrefix delimiter :=
    not_mem_marker (by decide) (h.not_mem rfl) (by decide)
  have hend := not_mem_identityLine hmarker rfl (by decide) (by decide) server.identity
  have hstdout := stdout_eq server h fun job hjob pane hpane =>
    ne_separator_of_valid (hpanes job hjob pane hpane)
  rw [text_cons, ended, List.append_assoc, List.singleton_append] at hstdout
  have hnonempty : ¬(exitCode ≠ some 0 ∧
      server.stdout (combinedCaptureArgs jobs delimiter) = []) := by
    rw [hstdout]
    rintro ⟨-, hnil⟩
    exact List.cons_ne_nil _ _ (List.append_eq_nil_iff.mp hnil).2
  have hcount : ¬((server.jobLooks 1 jobs).map fun looks =>
      text ([delimiter].intercalate (looks.map (Look.lines delimiter)))).length ≠ jobs.length := by
    rw [List.length_map, length_jobLooks]
    exact not_not.mpr rfl
  rw [parseCombinedCapture, if_neg hnonempty, hstdout, splitOnce_char hend]
  dsimp only
  rw [identityOf_identityLine h hfits]
  dsimp only
  rw [jobBodies_lines h hforeign, if_neg hcount, zipWith_parseJob h 1 hforeign]

end Batch

/-- The guard found the pane at each step, with one size. -/
structure Look.Steady (look : Look) (screen : Screen) : Prop where
  target : look.target.isSome
  before : ∃ other, look.before = some other ∧ other.size = screen.size
  captured : look.captured = some screen
  after : ∃ other, look.after = some other ∧ other.size = screen.size

def Look.Vanished (look : Look) : Prop :=
  look.target = none ∨ look.before = none ∨ look.captured = none ∨ look.after = none

def Look.Resized (look : Look) : Prop :=
  ∃ before after, look.before = some before ∧ look.after = some after ∧ before.size ≠ after.size

theorem Screen.height_le_rows (screen : Screen) : screen.height ≤ screen.rows.length := by
  rw [Screen.rows, List.length_append, screen.length_shown]
  omega

theorem observed_of_steady {look : Look} {screen : Screen} (h : look.Steady screen) :
    look.observed = .ok (screen.capturedAs screen.height) := by
  obtain ⟨target, before, captured, after⟩ := look
  obtain ⟨htarget, ⟨other, hbefore, hsize⟩, hcaptured, ⟨other', hafter, hsize'⟩⟩ := h
  obtain ⟨target, rfl⟩ := Option.isSome_iff_exists.mp htarget
  cases hbefore
  cases hcaptured
  cases hafter
  have hheight : other.height = screen.height := congrArg Prod.snd hsize
  have hrows := screen.height_le_rows
  have hkept : ¬(other.size ≠ other'.size ∨ screen.rows.length < other.height) := by
    rw [hsize, hsize', hheight]
    rintro (hdiffers | hshort)
    · exact hdiffers rfl
    · omega
  rw [Look.observed, if_neg hkept, hheight]

theorem observed_of_lost {look : Look} (h : look.Vanished ∨ look.Resized)
    {screen : CapturedScreen} : look.observed ≠ .ok screen := by
  obtain ⟨target, before, captured, after⟩ := look
  rcases h with (rfl | rfl | rfl | rfl) | ⟨before, after, rfl, rfl, hsize⟩
  · exact fun heq => by cases heq
  · cases target <;> exact fun heq => by cases heq
  · cases target <;> cases before <;> exact fun heq => by cases heq
  · cases target <;> cases before <;> cases captured <;> exact fun heq => by cases heq
  · cases target with
    | none => exact fun heq => by cases heq
    | some target =>
      cases captured with
      | none => exact fun heq => by cases heq
      | some captured =>
        rw [Look.observed, if_pos (Or.inl hsize)]
        exact fun heq => by cases heq

theorem tail_of_observed {look : Look} {captured : CapturedScreen}
    (h : look.observed = .ok captured) :
    ∃ screen, look.captured = some screen ∧ captured.tail = text screen.rows := by
  have hkept : ¬look.Vanished := fun hvanished => observed_of_lost (Or.inl hvanished) h
  obtain ⟨target, before, screen, after⟩ := look
  simp only [Look.Vanished, not_or, ← ne_eq, Option.ne_none_iff_exists'] at hkept
  obtain ⟨⟨target, rfl⟩, ⟨before, rfl⟩, ⟨screen, rfl⟩, ⟨after, rfl⟩⟩ := hkept
  refine ⟨screen, rfl, ?_⟩
  rw [Look.observed] at h
  split_ifs at h
  exact congrArg CapturedScreen.tail (Except.ok.inj h).symm

theorem exists_of_mem {α β : Type} {R : α → β → Prop} {as : List α} {bs : List β}
    (h : List.Forall₂ R as bs) {a : α} (ha : a ∈ as) : ∃ b, R a b := by
  induction h with
  | nil => cases ha
  | @cons first b rest _ hfirst _ ih =>
    rcases List.mem_cons.mp ha with rfl | hrest
    · exact ⟨b, hfirst⟩
    · exact ih hrest

/-- What a job gets from what was seen of its panes. -/
structure Attributed (looks : List Look) (outcome : CaptureJobOutcome) : Prop where
  steady : ∀ screens, List.Forall₂ Look.Steady looks screens →
    outcome = .observation (.ok (screens.map fun screen => screen.capturedAs screen.height))
  lost : (∃ look ∈ looks, look.Vanished ∨ look.Resized) →
    ∃ error, outcome = .observation (.error error)
  own : ∀ captured, outcome = .observation (.ok captured) →
    List.Forall₂ (fun (look : Look) (screen : CapturedScreen) =>
      ∃ own, look.captured = some own ∧ screen.tail = text own.rows) looks captured

theorem attributed (looks : List Look) : Attributed looks (.observation (observedAll looks)) where
  steady screens hsteady := by
    have hobserved : observedAll looks =
        .ok (screens.map fun screen => screen.capturedAs screen.height) := by
      rw [observedAll_eq_ok, List.forall₂_map_right_iff]
      exact hsteady.imp fun look screen hlook => observed_of_steady hlook
    rw [hobserved]
  lost hlost := by
    obtain ⟨look, hlook, hlost⟩ := hlost
    cases hobserved : observedAll looks with
    | error error => exact ⟨error, rfl⟩
    | ok screens =>
      obtain ⟨screen, hscreen⟩ := exists_of_mem (observedAll_eq_ok.mp hobserved) hlook
      exact absurd hscreen (observed_of_lost hlost)
  own captured hcaptured := by
    have hobserved := observedAll_eq_ok.mp (CaptureJobOutcome.observation.inj hcaptured)
    exact hobserved.imp fun look screen hlook => tail_of_observed hlook

/-- Each job of a combined capture gets what its own panes give. Another server, or an output with
a missing boundary, fails the batch. -/
theorem combinedCapture_attributes {delimiter : List Char} (hdelimiter : Plain delimiter)
    {jobs : List CaptureJobSpec}
    (hpanes : ∀ job ∈ jobs, ∀ pane ∈ job.panes, PaneInstance.validPaneId pane.paneId = true)
    (server : Server) (hfits : Fits server.identity)
    (hforeign : ∀ looks ∈ server.jobLooks 1 jobs, ∀ look ∈ looks, look.Foreign delimiter)
    (exitCode : Option ℤ) :
    (∃ outcomes,
      parseCombinedCapture ⟨exitCode, server.stdout (combinedCaptureArgs jobs delimiter)⟩ jobs
        delimiter server.identity = .ok outcomes ∧
      outcomes.length = jobs.length ∧
      List.Forall₂ Attributed (server.jobLooks 1 jobs) outcomes) ∧
    (∀ expectedIdentity, expectedIdentity ≠ server.identity →
      parseCombinedCapture ⟨exitCode, server.stdout (combinedCaptureArgs jobs delimiter)⟩ jobs
        delimiter expectedIdentity =
          .error (.identityMismatch expectedIdentity server.identity)) ∧
    ∀ output expectedIdentity line body, splitOnce ['\n'] output.stdout = some (line, body) →
      (splitInclusive '\n' body).countP (lineIs (jobBoundaryMarker delimiter)) ≠ jobs.length →
        ∃ error, parseCombinedCapture output jobs delimiter expectedIdentity = .error error := by
  refine ⟨⟨(server.jobLooks 1 jobs).map fun looks => .observation (observedAll looks), ?_, ?_, ?_⟩,
    ?_, ?_⟩
  · rw [parse_stdout hdelimiter hpanes hfits hforeign, if_neg (not_not.mpr rfl)]
  · rw [List.length_map, length_jobLooks]
  · rw [List.forall₂_map_right_iff]
    exact List.forall₂_same.mpr fun looks _ => attributed looks
  · intro expectedIdentity hother
    rw [parse_stdout hdelimiter hpanes hfits hforeign, if_pos hother.symm]
  · intro output expectedIdentity line body hsplit hcount
    have hbodies : (jobBodies delimiter body).length ≠ jobs.length := by
      rw [jobBodies, List.length_map, length_cut]
      exact hcount
    rw [parseCombinedCapture, hsplit]
    split_ifs with hempty
    · exact ⟨_, rfl⟩
    · dsimp only
      cases identityOf delimiter line with
      | none => exact ⟨_, rfl⟩
      | some identity =>
        dsimp only
        split_ifs
        · exact ⟨_, rfl⟩
        · exact ⟨_, rfl⟩

def prompt : Screen where
  width := 9
  height := 2
  history := [[]]
  shown := ["$ cargo".toList, []]
  width_pos := by decide
  height_pos := by decide
  width_le := by decide
  height_le := by decide
  length_shown := rfl
  oneLine := by decide

def halfServer : Server where
  identity := ⟨4321, 1700000000⟩
  pane _ _ paneId := if paneId = "%1".toList then some prompt else none

def twoJobs : List CaptureJobSpec :=
  [.observationPlain [⟨"%1", 11⟩], .observationPlain [⟨"%2", 12⟩]]

theorem prompt_foreign : ∀ row ∈ prompt.rows, Foreign "d1".toList row := by
  have hrows : prompt.rows = [[], "$ cargo".toList, []] := rfl
  have hempty : Foreign "d1".toList [] :=
    ⟨by decide, by decide, by decide, by decide, by decide⟩
  rw [hrows]
  simp only [List.forall_mem_cons]
  exact ⟨hempty, ⟨by decide, by decide, by decide, by decide, by decide⟩, hempty,
    List.forall_mem_nil _⟩

theorem plain_delimiter : Plain "d1".toList :=
  List.forall_mem_cons.mpr ⟨by decide, List.forall_mem_singleton.mpr (by decide)⟩

theorem combinedCapture_attributes_half :
    ∃ outcomes,
      parseCombinedCapture ⟨some 1, halfServer.stdout (combinedCaptureArgs twoJobs "d1".toList)⟩
        twoJobs "d1".toList ⟨4321, 1700000000⟩ = .ok outcomes ∧
      outcomes.length = 2 ∧
      List.Forall₂ Attributed (halfServer.jobLooks 1 twoJobs) outcomes := by
  have hpanes : ∀ job ∈ twoJobs, ∀ pane ∈ job.panes,
      PaneInstance.validPaneId pane.paneId = true := by decide
  have hfits : Fits halfServer.identity := ⟨by decide, by decide, by decide⟩
  have hforeign : ∀ looks ∈ halfServer.jobLooks 1 twoJobs, ∀ look ∈ looks,
      look.Foreign "d1".toList := by
    have hseen : ∀ number step paneId screen, halfServer.pane number step paneId = some screen →
        screen = prompt := by
      intro number step paneId screen heq
      rw [halfServer] at heq
      dsimp only at heq
      split_ifs at heq
      exact (Option.some.inj heq).symm
    have hlook : ∀ number paneId, (halfServer.look number paneId).Foreign "d1".toList := by
      intro number paneId screen hscreen
      rw [hseen number 2 paneId screen hscreen]
      exact prompt_foreign
    exact List.forall_mem_cons.mpr ⟨List.forall_mem_singleton.mpr (hlook 2 _),
      List.forall_mem_singleton.mpr (List.forall_mem_singleton.mpr (hlook 4 _))⟩
  exact (combinedCapture_attributes plain_delimiter hpanes halfServer hfits hforeign (some 1)).1

def oneRow (history : List (List Char)) (shown : List Char)
    (h : ∀ row ∈ history ++ [shown], '\n' ∉ row) : Screen where
  width := 9
  height := 1
  history := history
  shown := [shown]
  width_pos := by decide
  height_pos := by decide
  width_le := by decide
  height_le := by decide
  length_shown := rfl
  oneLine := h

def returnScreen : Screen := oneRow [] "d1\r".toList (by decide)

def returnServer : Server := ⟨⟨4321, 1700000000⟩, fun _ _ _ => some returnScreen⟩

def lowScreen : Screen := oneRow [] [] (by decide)

/-- While it is captured the pane is two rows high. -/
def restoredServer : Server :=
  ⟨⟨4321, 1700000000⟩, fun _ step _ => if step = 2 then some prompt else some lowScreen⟩

def oneJob : List CaptureJobSpec := [.observationPlain [⟨"%1", 11⟩]]

/-- A row that is the delimiter and a carriage return is cut out, though no line equals the
delimiter and the pane keeps its size. A pane whose size comes back is taken for unchanged. -/
theorem return_row_and_restored_size :
    (Plain "d1".toList ∧ (∀ job ∈ oneJob, ∀ pane ∈ job.panes,
      PaneInstance.validPaneId pane.paneId = true) ∧ Fits returnServer.identity) ∧
    ((∀ row ∈ returnScreen.rows,
        row ≠ "d1".toList ∧ row ≠ jobBoundaryMarker "d1".toList ∧
          ¬captureIdentityPrefix "d1".toList <+: row ∧ ¬obsViewMarker "d1".toList <+: row ∧
          ¬obsOkMarker "d1".toList <+: row) ∧
      (∀ looks ∈ returnServer.jobLooks 1 oneJob, ∀ look ∈ looks, look.Steady returnScreen) ∧
      parseCombinedCapture ⟨some 0, returnServer.stdout (combinedCaptureArgs oneJob "d1".toList)⟩
        oneJob "d1".toList ⟨4321, 1700000000⟩ =
          .ok [.observation (.error (.delimiterMismatch 0 1))]) ∧
    (∃ look, restoredServer.jobLooks 1 oneJob = [[look]] ∧ look.before = some lowScreen ∧
      look.captured = some prompt ∧ prompt.size ≠ lowScreen.size) ∧
    parseCombinedCapture ⟨some 0, restoredServer.stdout (combinedCaptureArgs oneJob "d1".toList)⟩
      oneJob "d1".toList ⟨4321, 1700000000⟩ = .ok [.observation (.ok [prompt.capturedAs 1])] := by
  refine ⟨⟨plain_delimiter, by decide, by decide, by decide, by decide⟩, ⟨by decide, ?_,
    by decide +kernel⟩, ⟨_, rfl, rfl, rfl, by decide⟩, by decide +kernel⟩
  have hlooks : returnServer.jobLooks 1 oneJob = [[returnServer.look 2 "%1".toList]] := rfl
  rw [hlooks, List.forall_mem_singleton, List.forall_mem_singleton]
  exact ⟨rfl, ⟨returnScreen, rfl, rfl⟩, rfl, returnScreen, rfl, rfl⟩

end VdeTmux.Capture
