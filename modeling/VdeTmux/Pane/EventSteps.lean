import VdeTmux.Pane.Steps

/-!
# What an explicit event does inside an epoch

Progress operations, results of Claude background tasks and reported states. Each event moves the
run counters in one of three ways, leaves the identity of the record alone and keeps the overflow
faults of its run.
-/

open Foundation Foundation.Text
namespace VdeTmux.Pane

/-- How a step inside an epoch moves the run counters. With `stopped` a completion may leave
background tasks behind that nothing waits for. -/
inductive RunMove (stopped : Prop) (s s' : PaneState) : Prop
  | kept (run : s'.runSeq = s.runSeq) (completed : s'.completedSeq = s.completedSeq)
  | opened (closed : s.runSeq = s.completedSeq) (run : s'.runSeq = s.runSeq + 1)
      (completed : s'.completedSeq = s.completedSeq)
  | completed (subagents : s.subagents = [])
      (unblocked : s.claudeBackground.blocksCompletion = false)
      (tasks : s.claudeBackground.tasks = [] ∨ stopped)
      (run : s.runSeq ≠ s.completedSeq ∧ s'.runSeq = s.runSeq ∨ s.runSeq = 0 ∧ s'.runSeq = 1)
      (completed : s'.completedSeq = s'.runSeq)

structure InEpoch (stopped : Prop) (s s' : PaneState) : Prop where
  identity : s'.identity = s.identity
  move : RunMove stopped s s'
  overflow : s'.runSeq = s.runSeq →
    s.claudeBackground.overflowKeys ⊆ s'.claudeBackground.overflowKeys

variable {stopped : Prop}

theorem InEpoch.refl (s : PaneState) : InEpoch stopped s s :=
  ⟨rfl, .kept rfl rfl, fun _ => List.Subset.refl _⟩

theorem overflowKeys_eq_nil {background : ClaudeBackgroundState}
    (h : background.blocksCompletion = false) : background.overflowKeys = [] := by
  have hnil := (ClaudeBackgroundState.blocksCompletion_eq_false.mp h).2
  simp [ClaudeBackgroundState.overflowKeys, hnil]

theorem Started.inEpoch {s s' : PaneState} (h : Started s s') : InEpoch stopped s s' := by
  refine ⟨h.identity, ?_, ?_⟩
  · by_cases hclosed : s.runSeq = s.completedSeq
    · exact .opened hclosed (h.opened hclosed).1 h.completedSeq
    · exact .kept (h.continued hclosed).1 h.completedSeq
  · intro hsame
    have hopen : s.runSeq ≠ s.completedSeq := by
      intro hclosed
      have hnext := (h.opened hclosed).1
      omega
    obtain ⟨-, -, -, hfaults⟩ := h.continued hopen
    simp [ClaudeBackgroundState.overflowKeys, hfaults]

theorem Completed.inEpoch {s s' : PaneState} (h : Completed s s') : InEpoch stopped s s' := by
  obtain ⟨hsubagents, htasks, hblocks⟩ := h.released
  refine ⟨h.identity, .completed hsubagents hblocks (Or.inl htasks) h.runSeq h.completedSeq, ?_⟩
  simp [overflowKeys_eq_nil hblocks]

theorem InEpoch.andThen {s s' s'' : PaneState} (h : InEpoch stopped s s')
    (hidentity : s''.identity = s'.identity) (hrun : s''.runSeq = s'.runSeq)
    (hcompleted : s''.completedSeq = s'.completedSeq)
    (hoverflow : s'.claudeBackground.overflowKeys ⊆ s''.claudeBackground.overflowKeys) :
    InEpoch stopped s s'' := by
  refine ⟨hidentity.trans h.identity, ?_, fun hsame =>
    List.Subset.trans (h.overflow (hrun.symm.trans hsame)) hoverflow⟩
  cases h.move with
  | kept run completed => exact .kept (hrun.trans run) (hcompleted.trans completed)
  | opened closed run completed =>
    exact .opened closed (hrun.trans run) (hcompleted.trans completed)
  | completed subagents unblocked tasks run completed =>
    exact .completed subagents unblocked tasks (by rwa [hrun]) (by rw [hrun, hcompleted, completed])

theorem completeRun_inEpoch (s : PaneState) (completedAt : ℤ) (allow : Bool) :
    InEpoch stopped s (completeRun s completedAt allow) := by
  rcases completeRun_cases s completedAt allow with h | h
  · rw [h]
    exact .refl s
  · exact h.inEpoch

theorem completeRunWithResponse_inEpoch {s s' : PaneState} {completedAt : ℤ}
    {response : ResponseState} {allow : Bool}
    (h : completeRunWithResponse s completedAt response allow = .ok s') :
    InEpoch stopped s s' := by
  rcases completeRunWithResponse_cases h with rfl | h
  · exact .refl _
  · exact h.inEpoch

/-! ## Progress -/

/-- What progress operations change, and that a prompt and a worktree they set were checked. -/
structure Progressed (s s' : PaneState) : Prop where
  frame : s' = { s with
    prompt := s'.prompt
    tasks := s'.tasks
    subagents := s'.subagents
    worktreeActivity := s'.worktreeActivity
    backgroundProcess := s'.backgroundProcess }
  prompt : forSome PromptState.validate s.prompt = .ok () →
    forSome PromptState.validate s'.prompt = .ok ()
  worktree : forSome validateWorktreeActivity s.worktreeActivity = .ok () →
    forSome validateWorktreeActivity s'.worktreeActivity = .ok ()

theorem Progressed.refl (s : PaneState) : Progressed s s := ⟨rfl, id, id⟩

theorem Progressed.trans {s s' s'' : PaneState} (h : Progressed s s') (h' : Progressed s' s'') :
    Progressed s s'' := by
  refine ⟨?_, h'.prompt ∘ h.prompt, h'.worktree ∘ h.worktree⟩
  calc s'' = { s' with
        prompt := s''.prompt
        tasks := s''.tasks
        subagents := s''.subagents
        worktreeActivity := s''.worktreeActivity
        backgroundProcess := s''.backgroundProcess } := h'.frame
    _ = _ := by rw [h.frame]

theorem applyProgressOperation_progressed {s s' : PaneState} {operation : ProgressOperation}
    (hvalid : validateProgressOperation operation = .ok ())
    (h : applyProgressOperation s operation = .ok s') : Progressed s s' := by
  cases operation with
  | setPrompt prompt =>
    cases h
    exact ⟨rfl, fun _ => hvalid, id⟩
  | clearPrompt =>
    cases h
    exact ⟨rfl, fun _ => rfl, id⟩
  | taskCreated =>
    obtain ⟨_, -, rfl⟩ := bind_pure_eq_ok.mp h
    exact ⟨rfl, id, id⟩
  | taskCompleted =>
    obtain ⟨_, -, h⟩ := bind_eq_ok.mp h
    obtain ⟨_, -, rfl⟩ := bind_pure_eq_ok.mp h
    exact ⟨rfl, id, id⟩
  | updateTaskItemStatus id status =>
    simp only [applyProgressOperation] at h
    split_ifs at h
    cases h
    exact ⟨rfl, fun h => h, fun h => h⟩
  | setWorktreeActivity activity =>
    cases h
    exact ⟨rfl, id, fun _ => hvalid⟩
  | clearWorktreeActivity =>
    cases h
    exact ⟨rfl, id, fun _ => rfl⟩
  | _ =>
    cases h
    exact ⟨rfl, fun h => h, fun h => h⟩

theorem applyOperations_progressed {s s' : PaneState} {operations : List ProgressOperation}
    (h : applyOperations s operations = .ok s') : Progressed s s' := by
  induction operations generalizing s with
  | nil =>
    cases h
    exact .refl _
  | cons operation rest ih =>
    obtain ⟨hvalid, h⟩ := seq_eq_ok.mp h
    obtain ⟨s₁, hs₁, h⟩ := bind_eq_ok.mp h
    exact (applyProgressOperation_progressed (mapError_eq_ok.mp hvalid) hs₁).trans (ih h)

theorem applyProgress_eq_ok {s s' : PaneState} {operations : List ProgressOperation} :
    applyProgress s operations = .ok s' ↔
      applyOperations s operations = .ok s' ∧ validateTasks s'.tasks = .ok () ∧
      validateSubagents s'.subagents = .ok () ∧
      forSome BackgroundProcessState.validate s'.backgroundProcess = .ok () := by
  simp only [applyProgress, bind_eq_ok, pure_eq_ok, mapError_eq_ok, validateProgress]
  constructor
  · rintro ⟨_, hs, _, ⟨_, htasks, _, hsubagents, hprocess⟩, rfl⟩
    exact ⟨hs, htasks, hsubagents, hprocess⟩
  · rintro ⟨hs, htasks, hsubagents, hprocess⟩
    exact ⟨s', hs, (), ⟨(), htasks, (), hsubagents, hprocess⟩, rfl⟩

theorem Progressed.inEpoch {s₀ s s' : PaneState} (h₀ : InEpoch stopped s₀ s)
    (h : Progressed s s') : InEpoch stopped s₀ s' := by
  rw [h.frame]
  exact h₀.andThen rfl rfl rfl (List.Subset.refl _)

theorem applyProgress_inEpoch {s₀ s s' : PaneState} {operations : List ProgressOperation}
    (h₀ : InEpoch stopped s₀ s) (h : applyProgress s operations = .ok s') :
    InEpoch stopped s₀ s' :=
  (applyOperations_progressed (applyProgress_eq_ok.mp h).1).inEpoch h₀

theorem applyProgress_coherent [Sha256] {s s' : PaneState} {operations : List ProgressOperation}
    (hs : s.Coherent) (h : applyProgress s operations = .ok s') : s'.Coherent := by
  obtain ⟨hops, htasks, hsubagents, hprocess⟩ := applyProgress_eq_ok.mp h
  have hp := applyOperations_progressed hops
  rw [hp.frame]
  exact
    { hs with
      prompt := hp.prompt hs.prompt
      tasks := htasks
      subagents := hsubagents
      worktreeActivity := hp.worktree hs.worktreeActivity
      backgroundProcess := hprocess }

/-! ## Claude background results -/

theorem registerTask_overflow (background : ClaudeBackgroundState) (runSeq : ℕ)
    (taskId toolUseId command : String) (observedAt : ℤ) :
    background.overflowKeys ⊆
      (registerTask background runSeq taskId toolUseId command observedAt).overflowKeys := by
  unfold registerTask
  split
  · split_ifs
    · exact ClaudeBackgroundState.overflowKeys_fault _ _ _
    · exact List.Subset.refl _
  · split_ifs
    · exact ClaudeBackgroundState.overflowKeys_fault _ _ _
    · exact ClaudeBackgroundState.overflowKeys_fault _ _ _
    · exact List.Subset.refl _

theorem identityConflict_valid : validBackgroundId "await_identity_conflict" = true := by decide

theorem launchUnconfirmed_valid : validBackgroundId "await_launch_unconfirmed" = true := by decide

theorem overflowKey_valid : validBackgroundId "overflow" = true := by decide

theorem registerTask_valid {background : ClaudeBackgroundState} {runSeq : ℕ}
    {taskId toolUseId command : String} {observedAt : ℤ} (h : background.Valid runSeq)
    (htask : validBackgroundId taskId = true) (htool : validBackgroundId toolUseId = true)
    (hcommand : command ≠ "") (hbound : byteLen command ≤ bodyMaxBytes) (hat : 0 ≤ observedAt) :
    (registerTask background runSeq taskId toolUseId command observedAt).Valid runSeq := by
  unfold registerTask
  split
  · split_ifs
    · exact h.fault identityConflict_valid htask
    · exact h
  · rename_i hnew
    split_ifs with hused hfull
    · exact h.fault identityConflict_valid htask
    · exact h.fault ClaudeBackgroundState.overflowReason_valid overflowKey_valid
    · refine h.register ?_ ?_ ?_ (by omega)
      · exact ⟨htask, htool, rfl, hcommand, hbound, hat, by simp, by simp, rfl⟩
      · intro other hother heq
        exact absurd heq (by simpa using List.find?_eq_none.mp hnew other hother)
      · intro other hother heq
        exact hused (List.any_eq_true.mpr ⟨other, hother, by simpa using heq⟩)

theorem applyClaudeToolResult_frame {s s' : PaneState} {result : ClaudeToolResult}
    {observedAt : ℤ} (h : applyClaudeToolResult s result observedAt = .ok s') :
    s' = { s with claudeBackground := s'.claudeBackground } ∧
    s.claudeBackground.overflowKeys ⊆ s'.claudeBackground.overflowKeys := by
  cases result with
  | registered taskId toolUseId command =>
    obtain ⟨-, h⟩ := seq_eq_ok.mp h
    cases h
    exact ⟨rfl, List.Subset.trans (registerTask_overflow _ _ _ _ _ _)
      (ClaudeBackgroundState.overflowKeys_confirmLaunch _ _)⟩
  | launchUnconfirmed toolUseId =>
    obtain ⟨-, h⟩ := seq_eq_ok.mp h
    cases h
    exact ⟨rfl, ClaudeBackgroundState.overflowKeys_fault _ _ _⟩
  | taskStopped taskId command =>
    cases h
    exact ⟨rfl, ClaudeBackgroundState.overflowKeys_cancel _ _ _⟩

theorem applyClaudeToolResult_valid {s s' : PaneState} {result : ClaudeToolResult}
    {observedAt : ℤ} (hat : 0 ≤ observedAt) (hs : s.claudeBackground.Valid s.runSeq)
    (h : applyClaudeToolResult s result observedAt = .ok s') :
    s'.claudeBackground.Valid s.runSeq := by
  cases result with
  | registered taskId toolUseId command =>
    obtain ⟨hvalid, h⟩ := seq_eq_ok.mp h
    cases h
    simp only [refuse_eq_ok, not_or, Bool.not_eq_false, not_lt] at hvalid
    obtain ⟨htask, htool, hcommand, hbound⟩ := hvalid
    exact (registerTask_valid hs htask htool hcommand hbound hat).confirmLaunch _
  | launchUnconfirmed toolUseId =>
    obtain ⟨hvalid, h⟩ := seq_eq_ok.mp h
    cases h
    exact hs.fault launchUnconfirmed_valid (by simpa using hvalid)
  | taskStopped taskId command =>
    cases h
    exact hs.cancel _ _

theorem PaneState.Coherent.withBackground [Sha256] {s : PaneState} (hs : s.Coherent)
    {background : ClaudeBackgroundState} (hvalid : background.Valid s.runSeq)
    (hidle : s.lifecycle ≠ .idle) (hclaude : s.agent.value = "claude") :
    ({ s with claudeBackground := background } : PaneState).Coherent :=
  { hs with
    background := hvalid
    wait := fun _ => hidle
    claude := Or.inl hclaude }

theorem applyClaudeToolResult_coherent [Sha256] {s s' : PaneState} {result : ClaudeToolResult}
    {observedAt : ℤ} (hs : s.Coherent) (hidle : s.lifecycle ≠ .idle)
    (hclaude : s.agent.value = "claude") (hat : 0 ≤ observedAt)
    (h : applyClaudeToolResult s result observedAt = .ok s') : s'.Coherent := by
  rw [(applyClaudeToolResult_frame h).1]
  exact hs.withBackground (applyClaudeToolResult_valid hat hs.background h) hidle hclaude

theorem notificationActivity_cases {s s' : PaneState} {observedAt : ℤ}
    (h : notificationActivity s observedAt = .ok s') :
    activityObserved s observedAt = .ok s' ∨
      (s.lifecycle ≠ .idle ∧ s.lifecycle ≠ .running ∧
        s' = { s with claudeBackground := s.claudeBackground.activity }) := by
  unfold notificationActivity at h
  dsimp only at h
  split_ifs at h with hresumes
  · exact Or.inl h
  · cases h
    refine Or.inr ⟨?_, ?_, rfl⟩
    · intro hidle
      simp [hidle] at hresumes
    · intro hrunning
      simp [hrunning] at hresumes

theorem applyClaudeNotifications_eq_ok {s s' : PaneState} {observedAt : ℤ}
    {notifications : List ClaudeTaskNotification} :
    applyClaudeNotifications s observedAt notifications = .ok s' ↔
      ∃ s₁, notificationActivity s observedAt = .ok s₁ ∧
        (notifications ≠ [] ∧ notifications.length ≤ maxBackgroundTasks) ∧
        s' = { s₁ with
          claudeBackground := notifications.foldl ClaudeBackgroundState.observeNotification
            s₁.claudeBackground } := by
  simp only [applyClaudeNotifications, bind_eq_ok (x := notificationActivity s observedAt),
    seq_eq_ok, refuse_eq_ok, pure_eq_ok, not_or, not_lt, ne_eq, eq_comm (a := s')]

theorem notificationActivity_inEpoch {s s' : PaneState} {observedAt : ℤ}
    (h : notificationActivity s observedAt = .ok s') : InEpoch stopped s s' := by
  rcases notificationActivity_cases h with hstart | ⟨-, -, rfl⟩
  · exact (activityObserved_started hstart).inEpoch
  · exact ⟨rfl, .kept rfl rfl, fun _ => List.Subset.refl _⟩

theorem applyClaudeNotifications_inEpoch {s s' : PaneState} {observedAt : ℤ}
    {notifications : List ClaudeTaskNotification}
    (h : applyClaudeNotifications s observedAt notifications = .ok s') :
    InEpoch stopped s s' := by
  obtain ⟨s₁, hs₁, -, rfl⟩ := applyClaudeNotifications_eq_ok.mp h
  refine (notificationActivity_inEpoch hs₁).andThen rfl rfl rfl ?_
  refine ClaudeBackgroundState.foldl_observeNotification
    (motive := fun b => s₁.claudeBackground.overflowKeys ⊆ b.overflowKeys) ?_ notifications
    (List.Subset.refl _)
  exact fun b notification hb =>
    List.Subset.trans hb (ClaudeBackgroundState.overflowKeys_observeNotification b notification)

theorem applyClaudeNotifications_coherent [Sha256] {s s' : PaneState} {observedAt : ℤ}
    {notifications : List ClaudeTaskNotification} (hs : s.Coherent)
    (hclaude : s.agent.value = "claude")
    (h : applyClaudeNotifications s observedAt notifications = .ok s') : s'.Coherent := by
  obtain ⟨s₁, hs₁, -, rfl⟩ := applyClaudeNotifications_eq_ok.mp h
  have hcoherent : s₁.Coherent ∧ s₁.lifecycle ≠ .idle := by
    rcases notificationActivity_cases hs₁ with hstart | ⟨hidle, -, rfl⟩
    · exact ⟨activityObserved_coherent hs hstart, (activityObserved_started hstart).notIdle⟩
    · exact ⟨hs.activity, hidle⟩
  have hagent : s₁.agent = s.agent :=
    congrArg PaneIdentity.agent (notificationActivity_inEpoch hs₁ : InEpoch False _ _).identity
  refine hcoherent.1.withBackground ?_ hcoherent.2 (hagent ▸ hclaude)
  exact ClaudeBackgroundState.foldl_observeNotification (motive := fun b => b.Valid s₁.runSeq)
    (fun b notification hb => hb.observeNotification notification) notifications
    hcoherent.1.background

/-! ## Stops and the end of a session -/

theorem cronSnapshot_validate (crons : Option (List ClaudeCron)) (observedAt : ℤ) :
    (cronSnapshot crons observedAt).validate = .ok () := by
  unfold cronSnapshot
  dsimp only
  split_ifs with h
  · exact h
  · exact ClaudeCronSnapshot.validate_default

theorem checkStop_blocks {s : PaneState} {observedAt : ℤ}
    {registry : Option (List ClaudeRegistryEntry)} {crons : Option (List ClaudeCron)} :
    (checkStop s observedAt registry crons).claudeBackground.blocksCompletion =
      s.claudeBackground.blocksCompletion :=
  ClaudeBackgroundState.checkRegistry_blocksCompletion

theorem releaseStop_cases {s s' : PaneState} {observedAt : ℤ} {response : Option ResponseState}
    {initial : Bool} (h : releaseStop s observedAt response initial = .ok s') :
    s' = s ∨ Completed s s' := by
  cases response with
  | some response => exact completeRunWithResponse_cases h
  | none =>
    simp only [releaseStop] at h
    rcases completeRun_cases s observedAt initial with heq | hdone
    · rw [heq, if_neg (lt_irrefl _)] at h
      cases h
      exact Or.inl rfl
    · right
      split_ifs at h
      · cases h
        exact { hdone with }
      · cases h
        exact hdone

theorem applyClaudeStop_cases {s s' : PaneState} {observedAt : ℤ}
    {response : Option ResponseState} {registry : Option (List ClaudeRegistryEntry)}
    {crons : Option (List ClaudeCron)} {initial : Bool}
    (h : applyClaudeStop s observedAt response registry crons initial = .ok s') :
    (s.claudeBackground.blocksCompletion = true ∧
      s' = { checkStop s observedAt registry crons with
        lifecycle := blockedLifecycle (checkStop s observedAt registry crons).claudeBackground
        claudeBackground :=
          (checkStop s observedAt registry crons).claudeBackground.pause observedAt }) ∨
    (s.claudeBackground.blocksCompletion = false ∧ s.subagents ≠ [] ∧
      s' = checkStop s observedAt registry crons) ∨
    (s.claudeBackground.blocksCompletion = false ∧ s.subagents = [] ∧
      releaseStop { checkStop s observedAt registry crons with claudeBackground := {} } observedAt
        response initial = .ok s') := by
  simp only [applyClaudeStop, checkStop_blocks] at h
  split_ifs at h with hblocks hsubagents
  · cases h
    exact Or.inl ⟨hblocks, rfl⟩
  · cases h
    exact Or.inr (Or.inl ⟨by simpa using hblocks, hsubagents, rfl⟩)
  · exact Or.inr (Or.inr ⟨by simpa using hblocks, not_not.mp hsubagents, h⟩)

theorem applyClaudeStop_inEpoch {s s' : PaneState} {observedAt : ℤ}
    {response : Option ResponseState} {registry : Option (List ClaudeRegistryEntry)}
    {crons : Option (List ClaudeCron)} {initial : Bool} (hstopped : stopped)
    (h : applyClaudeStop s observedAt response registry crons initial = .ok s') :
    InEpoch stopped s s' := by
  rcases applyClaudeStop_cases h with ⟨-, rfl⟩ | ⟨-, -, rfl⟩ | ⟨hblocks, hsubagents, hrelease⟩
  · exact ⟨rfl, .kept rfl rfl, fun _ => List.Subset.refl _⟩
  · exact ⟨rfl, .kept rfl rfl, fun _ => List.Subset.refl _⟩
  · have hnil := overflowKeys_eq_nil hblocks
    rcases releaseStop_cases hrelease with rfl | hdone
    · exact ⟨rfl, .kept rfl rfl, by simp [hnil]⟩
    · exact ⟨hdone.identity.trans rfl,
        .completed hsubagents hblocks (Or.inr hstopped) hdone.runSeq hdone.completedSeq,
        by simp [hnil]⟩

theorem backgroundId_reason {reason : String} (h : validBackgroundId reason = true) :
    (LifecycleState.error (some reason)).validateReason = .ok () := by
  simp only [validBackgroundId, Bool.and_eq_true, decide_eq_true_eq, Bool.not_eq_true'] at h
  exact validateOptionalText_eq_ok.mpr ⟨h.1.2, h.2⟩

theorem shownFault_mem {background : ClaudeBackgroundState} {fault : BackgroundWaitFault}
    (h : background.shownFault = some fault) : fault ∈ background.faults := by
  unfold ClaudeBackgroundState.shownFault at h
  rcases Option.or_eq_some_iff.mp h with h | ⟨-, h⟩
  · exact List.mem_of_find?_eq_some h
  · exact List.mem_of_head? h

theorem blockedLifecycle_reason {background : ClaudeBackgroundState} {runSeq : ℕ}
    (h : background.Valid runSeq) :
    blockedLifecycle background ≠ .idle ∧
      (blockedLifecycle background).validateReason = .ok () := by
  unfold blockedLifecycle
  split
  · rename_i fault hfault
    exact ⟨by simp, backgroundId_reason (h.faults fault (shownFault_mem hfault)).1⟩
  · exact ⟨by simp, rfl⟩

section Coherent
variable [Sha256]

theorem PaneState.Coherent.withLifecycle {s : PaneState} (hs : s.Coherent)
    (hidle : s.lifecycle ≠ .idle) {l : LifecycleState} (hl : l ≠ .idle)
    (hreason : l.validateReason = .ok ()) :
    ({ s with lifecycle := l } : PaneState).Coherent :=
  { hs with
    wait := fun _ => hl
    lifecycle := ⟨fun h => absurd h hl, fun h => absurd (hs.lifecycle.mpr h) hidle⟩
    armed := fun h => absurd (hs.armed h).1 hidle
    reason := hreason }

theorem PaneState.Coherent.clearBackground {s : PaneState} (hs : s.Coherent) :
    ({ s with claudeBackground := {} } : PaneState).Coherent :=
  { hs with
    background := .default _
    wait := by simp
    claude := hs.claude.imp_right fun h => ⟨rfl, rfl, h.2.2⟩ }

theorem checkStop_coherent {s : PaneState} {observedAt : ℤ}
    {registry : Option (List ClaudeRegistryEntry)} {crons : Option (List ClaudeCron)}
    (hs : s.Coherent) (hclaude : s.agent.value = "claude") (hat : 0 ≤ observedAt) :
    (checkStop s observedAt registry crons).Coherent :=
  { hs with
    background := hs.background.checkRegistry registry hat
    crons := cronSnapshot_validate crons observedAt
    wait := fun h => hs.wait (checkStop_blocks ▸ h)
    claude := Or.inl hclaude }

theorem releaseStop_coherent {s s' : PaneState} {observedAt : ℤ}
    {response : Option ResponseState} {initial : Bool} (hs : s.Coherent)
    (h : releaseStop s observedAt response initial = .ok s') : s'.Coherent := by
  cases response with
  | some response => exact completeRunWithResponse_coherent hs h
  | none =>
    simp only [releaseStop] at h
    split_ifs at h
    · cases h
      exact (completeRun_coherent hs).response rfl
    · cases h
      exact completeRun_coherent hs

theorem applyClaudeStop_coherent {s s' : PaneState} {observedAt : ℤ}
    {response : Option ResponseState} {registry : Option (List ClaudeRegistryEntry)}
    {crons : Option (List ClaudeCron)} {initial : Bool} (hs : s.Coherent)
    (hclaude : s.agent.value = "claude") (hat : 0 ≤ observedAt)
    (h : applyClaudeStop s observedAt response registry crons initial = .ok s') :
    s'.Coherent := by
  have hchecked : (checkStop s observedAt registry crons).Coherent :=
    checkStop_coherent hs hclaude hat
  rcases applyClaudeStop_cases h with ⟨hblocks, rfl⟩ | ⟨-, -, rfl⟩ | ⟨-, -, hrelease⟩
  · have hidle := hs.wait hblocks
    obtain ⟨hl, hreason⟩ := blockedLifecycle_reason hchecked.background
    exact (hchecked.withLifecycle hidle hl hreason).withBackground
      (hchecked.background.pause hat) hl hclaude
  · exact hchecked
  · exact releaseStop_coherent hchecked.clearBackground hrelease

end Coherent

theorem endClaudeTracking_kept (s : PaneState) :
    (endClaudeTracking s).identity = s.identity ∧ (endClaudeTracking s).runSeq = s.runSeq ∧
      (endClaudeTracking s).completedSeq = s.completedSeq := by
  unfold endClaudeTracking
  split_ifs <;> exact ⟨rfl, rfl, rfl⟩

theorem backgroundOpen_eq_false {s : PaneState} :
    backgroundOpen s = false ↔
      s.claudeBackground.tasks = [] ∧ s.claudeBackground.blocksCompletion = false := by
  simp [backgroundOpen]

theorem agentEnded_valid : validBackgroundId agentEndedReason = true := by decide

theorem endedBackground_valid (runSeq : ℕ) :
    (({} : ClaudeBackgroundState).fault agentEndedReason "session").Valid runSeq :=
  (ClaudeBackgroundState.Valid.default runSeq).fault agentEnded_valid (by decide)

theorem endClaudeTracking_coherent [Sha256] {s : PaneState} (hs : s.Coherent)
    (hidle : s.lifecycle = .idle → s.claudeBackground.tasks = []) :
    (endClaudeTracking s).Coherent := by
  unfold endClaudeTracking
  split_ifs with hopen husage
  · have hne : s.lifecycle ≠ .idle := by
      intro h
      simp [h] at husage
    exact
      { hs with
        background := endedBackground_valid _
        crons := ClaudeCronSnapshot.validate_default
        wait := fun _ => hne
        claude := Or.inl (hs.claude.resolve_right fun h => by
          simp [backgroundOpen, ClaudeBackgroundState.blocksCompletion,
            ClaudeBackgroundState.pendingCount, h.1, h.2.1] at hopen) }
  · have hne : s.lifecycle ≠ .idle := by
      intro h
      have hblocks : s.claudeBackground.blocksCompletion = false :=
        Bool.eq_false_iff.mpr fun hb => hs.wait hb h
      simp [backgroundOpen, hidle h, hblocks] at hopen
    exact
      { hs with
        background := endedBackground_valid _
        crons := ClaudeCronSnapshot.validate_default
        wait := by simp
        lifecycle := ⟨by simp, fun h => absurd (hs.lifecycle.mpr h) hne⟩
        armed := fun h => absurd (hs.armed h).1 hne
        reason := backgroundId_reason agentEnded_valid
        claude := Or.inl (hs.claude.resolve_right fun h => by
          simp [backgroundOpen, ClaudeBackgroundState.blocksCompletion,
            ClaudeBackgroundState.pendingCount, h.1, h.2.1] at hopen) }
  · exact
      { hs.clearBackground with
        crons := ClaudeCronSnapshot.validate_default
        claude := Or.inr ⟨rfl, rfl, rfl⟩ }

/-! ## Prompts and reports -/

structure PrivatePromptSound (privateTaskPrompt : Option String) (s : PaneState) : Prop where
  text : ∀ text ∈ privateTaskPrompt, hasControl text = false
  sealing : privateTaskPrompt.isSome = true → s.taskContext.Sealed

theorem beginRun_eq_ok [Sha256] {s s' : PaneState} {startedAt : ℤ} {prompt : Option PromptState}
    {privateTaskPrompt : Option String} :
    beginRun s startedAt prompt privateTaskPrompt = .ok s' ↔
      ∃ s₁, activityObserved s startedAt = .ok s₁ ∧
        s' = recordPrompt s₁ prompt privateTaskPrompt (decide (s.runSeq = s.completedSeq))
          (if decide (s.runSeq = s.completedSeq) = true then s.latestResponse.map (·.text)
            else none) := by
  simp only [beginRun, bind_pure_eq_ok]

theorem recordPrompt_frame [Sha256] (s : PaneState) (prompt : Option PromptState)
    (privateTaskPrompt : Option String) (startsNewRun : Bool) (reference : Option String) :
    ∃ prompt' context', recordPrompt s prompt privateTaskPrompt startsNewRun reference =
      { s with prompt := prompt', taskContext := context' } := by
  cases privateTaskPrompt <;> exact ⟨_, _, rfl⟩

theorem beginRun_started [Sha256] {s s' : PaneState} {startedAt : ℤ}
    {prompt : Option PromptState} {privateTaskPrompt : Option String}
    (h : beginRun s startedAt prompt privateTaskPrompt = .ok s') : Started s s' := by
  obtain ⟨s₁, hs₁, rfl⟩ := beginRun_eq_ok.mp h
  obtain ⟨prompt', context', heq⟩ := recordPrompt_frame s₁ prompt privateTaskPrompt
    (decide (s.runSeq = s.completedSeq))
    (if decide (s.runSeq = s.completedSeq) = true then s.latestResponse.map (·.text) else none)
  rw [heq]
  exact { activityObserved_started hs₁ with }

theorem startNewRun_taskContext {s s₁ : PaneState} {startedAt : ℤ}
    (h : startNewRun s startedAt = .ok s₁) : s₁.taskContext = s.taskContext := by
  rcases startNewRun_eq_ok.mp h with ⟨-, -, rfl⟩ | ⟨-, rfl⟩ <;> rfl

theorem activityObserved_taskContext {s s₁ : PaneState} {observedAt : ℤ}
    (h : activityObserved s observedAt = .ok s₁) : s₁.taskContext = s.taskContext := by
  obtain ⟨s₀, hs₀, rfl⟩ := activityObserved_eq_ok.mp h
  exact (startNewRun_taskContext hs₀ :)

theorem PaneState.Coherent.withPrompt [Sha256] {s : PaneState} (hs : s.Coherent)
    {prompt : Option PromptState} {context : TaskContextState}
    (hprompt : forSome PromptState.validate prompt = .ok ())
    (hcontext : context.validate = .ok ()) :
    ({ s with prompt := prompt, taskContext := context } : PaneState).Coherent :=
  { hs with prompt := hprompt, taskContext := hcontext }

theorem recordPrompt_coherent [Sha256] {s : PaneState} {prompt : Option PromptState}
    {privateTaskPrompt : Option String} {startsNewRun : Bool} {reference : Option String}
    (hs : s.Coherent) (hprompt : forSome PromptState.validate prompt = .ok ())
    (hprivate : PrivatePromptSound privateTaskPrompt s)
    (hreference : ∀ text ∈ reference, hasControl text = false) :
    (recordPrompt s prompt privateTaskPrompt startsNewRun reference).Coherent := by
  cases privateTaskPrompt with
  | some text =>
    have htext := hprivate.text text rfl
    have hsealed := hprivate.sealing rfl
    refine hs.withPrompt rfl ?_
    split_ifs
    · exact TaskContextState.observePrivatePromptWithReference_validate hs.taskContext hsealed
        htext hreference
    · exact TaskContextState.observePrivatePrompt_validate hs.taskContext hsealed htext
  | none =>
    refine hs.withPrompt hprompt ?_
    cases prompt with
    | none => exact hs.taskContext
    | some prompt =>
      have htext := (PromptState.text_of_validate hprompt).2
      dsimp only
      split_ifs
      · exact TaskContextState.observePromptWithReference_validate hs.taskContext htext hreference
      · exact TaskContextState.observePrompt_validate hs.taskContext htext

theorem beginRun_coherent [Sha256] {s s' : PaneState} {startedAt : ℤ}
    {prompt : Option PromptState} {privateTaskPrompt : Option String} (hs : s.Coherent)
    (hprompt : forSome PromptState.validate prompt = .ok ())
    (hprivate : PrivatePromptSound privateTaskPrompt s)
    (h : beginRun s startedAt prompt privateTaskPrompt = .ok s') : s'.Coherent := by
  obtain ⟨s₁, hs₁, rfl⟩ := beginRun_eq_ok.mp h
  refine recordPrompt_coherent (activityObserved_coherent hs hs₁) hprompt
    ⟨hprivate.text, fun hsome => ?_⟩ ?_
  · rw [activityObserved_taskContext hs₁]
    exact hprivate.sealing hsome
  · intro text htext
    split_ifs at htext
    · obtain ⟨response, hresponse, rfl⟩ := Option.map_eq_some_iff.mp htext
      have hvalid := hs.latestResponse
      rw [hresponse] at hvalid
      exact (ResponseState.text_of_validate hvalid).2
    · simp at htext

theorem applyAgentSessionStarted_coherent [Sha256] {s : PaneState} {source : AgentSessionSource}
    {resumedPrompt : Option PromptState} (hs : s.Coherent)
    (hprompt : forSome PromptState.validate resumedPrompt = .ok ()) :
    (applyAgentSessionStarted s source resumedPrompt).Coherent := by
  unfold applyAgentSessionStarted
  dsimp only
  split_ifs
  · refine hs.withPrompt hprompt ?_
    cases resumedPrompt with
    | none => exact hs.taskContext
    | some prompt =>
      exact TaskContextState.observePrompt_validate hs.taskContext
        (PromptState.text_of_validate hprompt).2
  · exact hs.withPrompt rfl hs.taskContext

theorem applyReportFields_coherent [Sha256] {s : PaneState} {report : ExplicitStateReport}
    (hs : s.Coherent) (hparts : report.PartsValid) : (applyReportFields s report).Coherent := by
  refine { hs with prompt := ?_, tasks := ?_, subagents := ?_ }
  · simp only [applyReportFields]
    split
    · exact hs.prompt
    · rename_i prompt hprompt
      exact hparts.prompt prompt hprompt
    · rfl
  · simp only [applyReportFields]
    split
    · exact hs.tasks
    · rename_i progress htasks
      exact hparts.tasks progress htasks
    · exact validateTasks_default
  · simp only [applyReportFields]
    split
    · exact hs.subagents
    · rename_i subagents hsubagents
      exact hparts.subagents subagents hsubagents
    · exact validateSubagents_nil

theorem applyReportLifecycle_inEpoch {s s' : PaneState} {report : ExplicitStateReport}
    (h : applyReportLifecycle s report = .ok s') : InEpoch stopped s s' := by
  unfold applyReportLifecycle at h
  split at h
  · exact (activityObserved_started h).inEpoch
  · exact (waitRequested_started h).1.inEpoch
  · split_ifs at h
    · cases h
      exact completeRun_inEpoch _ _ _
    · cases h
      exact .refl _
  · exact (failRun_started h).1.inEpoch
  · cases h
    exact .refl _

theorem applyReportLifecycle_coherent [Sha256] {s s' : PaneState} {report : ExplicitStateReport}
    (hs : s.Coherent) (hparts : report.PartsValid)
    (h : applyReportLifecycle s report = .ok s') : s'.Coherent := by
  unfold applyReportLifecycle at h
  split at h
  · exact activityObserved_coherent hs h
  · rename_i reason hreason
    exact waitRequested_coherent hs (hparts.waiting reason hreason) h
  · split_ifs at h
    · cases h
      exact completeRun_coherent hs
    · cases h
      exact hs
  · rename_i reason hreason
    exact failRun_coherent hs (hparts.error reason hreason) h
  · cases h
    exact hs

theorem applyExplicitReport_eq_ok {s s' : PaneState} {report : ExplicitStateReport} :
    applyExplicitReport s report = .ok s' ↔
      ∃ s₁, applyReportLifecycle s report = .ok s₁ ∧ s' = applyReportFields s₁ report := by
  simp only [applyExplicitReport, bind_pure_eq_ok]

/-! ## Any regular event -/

theorem applyRegularExplicitEvent_inEpoch [Sha256] {s s' : PaneState} {event : PaneEvent}
    {privateTaskPrompt : Option String} (hended : event.isClaudeSessionEnded = false)
    (h : applyRegularExplicitEvent s event privateTaskPrompt = .ok s') :
    InEpoch (event.isClaudeStopped = true) s s' := by
  cases event with
  | claudeToolResultObserved observedAt result operations =>
    obtain ⟨s₁, hs₁, h⟩ := bind_eq_ok.mp h
    obtain ⟨s₂, hs₂, h⟩ := bind_eq_ok.mp h
    obtain ⟨hframe, hoverflow⟩ := applyClaudeToolResult_frame h
    have hstarted := activityObserved_started hs₁
    refine (applyProgress_inEpoch hstarted.inEpoch hs₂).andThen ?_ ?_ ?_ hoverflow
    · rw [hframe]
      rfl
    · rw [hframe]
    · rw [hframe]
  | claudeTaskNotificationsObserved observedAt notifications =>
    exact applyClaudeNotifications_inEpoch h
  | claudeStopped observedAt response registry crons => exact applyClaudeStop_inEpoch rfl h
  | claudeSessionEnded observedAt => simp [PaneEvent.isClaudeSessionEnded] at hended
  | agentSessionStarted observedAt source resumedPrompt =>
    cases h
    exact (InEpoch.refl s).andThen rfl rfl rfl (List.Subset.refl _)
  | beginRun startedAt prompt => exact (beginRun_started h).inEpoch
  | activityObserved observedAt => exact (activityObserved_started h).inEpoch
  | activityAndProgressObserved observedAt operations =>
    obtain ⟨s₁, hs₁, h⟩ := bind_eq_ok.mp h
    exact applyProgress_inEpoch (activityObserved_started hs₁).inEpoch h
  | waitRequested observedAt reason => exact (waitRequested_started h).1.inEpoch
  | completeRun completedAt =>
    cases h
    exact completeRun_inEpoch _ _ _
  | responseAndCompleteRun completedAt response => exact completeRunWithResponse_inEpoch h
  | failRun observedAt reason => exact (failRun_started h).1.inEpoch
  | progressUpdated observedAt operations => exact applyProgress_inEpoch (.refl s) h
  | explicitStateReported report =>
    obtain ⟨s₁, hs₁, rfl⟩ := applyExplicitReport_eq_ok.mp h
    exact (applyReportLifecycle_inEpoch hs₁).andThen rfl rfl rfl (List.Subset.refl _)
  | markPaneRead _ => cases h
  | markDone _ _ => cases h
  | taskSummaryGenerated _ _ _ => cases h
  | observationBatch _ _ _ _ _ _ => cases h
  | paneRemoved _ => cases h

theorem applyRegularExplicitEvent_identity [Sha256] {s s' : PaneState} {event : PaneEvent}
    {privateTaskPrompt : Option String}
    (h : applyRegularExplicitEvent s event privateTaskPrompt = .ok s') :
    s'.identity = s.identity ∧ RunMove (event.isClaudeStopped = true) s s' := by
  cases hended : event.isClaudeSessionEnded with
  | false =>
    have hstep := applyRegularExplicitEvent_inEpoch hended h
    exact ⟨hstep.identity, hstep.move⟩
  | true =>
    cases event with
    | claudeSessionEnded observedAt =>
      cases h
      obtain ⟨hidentity, hrun, hcompleted⟩ := endClaudeTracking_kept s
      exact ⟨hidentity, .kept hrun hcompleted⟩
    | _ => simp [PaneEvent.isClaudeSessionEnded] at hended

/-- What an event must satisfy for a coherent record to stay coherent. -/
structure Admissible (s : PaneState) (event : PaneEvent) (privateTaskPrompt : Option String) :
    Prop where
  parts : event.PartsValid
  claude : event.isClaude = true → s.agent.value = "claude"
  privatePrompt : PrivatePromptSound privateTaskPrompt s
  ended : event.isClaudeSessionEnded = true → s.lifecycle = .idle →
    s.claudeBackground.tasks = []

theorem applyRegularExplicitEvent_coherent [Sha256] {s s' : PaneState} {event : PaneEvent}
    {privateTaskPrompt : Option String} (hs : s.Coherent)
    (ha : Admissible s event privateTaskPrompt)
    (h : applyRegularExplicitEvent s event privateTaskPrompt = .ok s') : s'.Coherent := by
  have hparts := ha.parts
  cases event with
  | claudeToolResultObserved observedAt result operations =>
    obtain ⟨s₁, hs₁, h⟩ := bind_eq_ok.mp h
    obtain ⟨s₂, hs₂, h⟩ := bind_eq_ok.mp h
    have hstarted := activityObserved_started hs₁
    have hframe := (applyOperations_progressed (applyProgress_eq_ok.mp hs₂).1).frame
    have hidle : s₂.lifecycle ≠ .idle := by
      rw [hframe]
      exact hstarted.notIdle
    have hagent : s₂.agent = s.agent := by
      rw [hframe]
      exact congrArg PaneIdentity.agent hstarted.identity
    exact applyClaudeToolResult_coherent
      (applyProgress_coherent (activityObserved_coherent hs hs₁) hs₂) hidle
      (hagent ▸ ha.claude rfl) hparts h
  | claudeTaskNotificationsObserved observedAt notifications =>
    exact applyClaudeNotifications_coherent hs (ha.claude rfl) h
  | claudeStopped observedAt response registry crons =>
    exact applyClaudeStop_coherent hs (ha.claude rfl) hparts.1 h
  | claudeSessionEnded observedAt =>
    cases h
    exact endClaudeTracking_coherent hs (ha.ended rfl)
  | agentSessionStarted observedAt source resumedPrompt =>
    cases h
    exact applyAgentSessionStarted_coherent hs hparts
  | beginRun startedAt prompt => exact beginRun_coherent hs hparts ha.privatePrompt h
  | activityObserved observedAt => exact activityObserved_coherent hs h
  | activityAndProgressObserved observedAt operations =>
    obtain ⟨s₁, hs₁, h⟩ := bind_eq_ok.mp h
    exact applyProgress_coherent (activityObserved_coherent hs hs₁) h
  | waitRequested observedAt reason => exact waitRequested_coherent hs hparts h
  | completeRun completedAt =>
    cases h
    exact completeRun_coherent hs
  | responseAndCompleteRun completedAt response => exact completeRunWithResponse_coherent hs h
  | failRun observedAt reason => exact failRun_coherent hs hparts h
  | progressUpdated observedAt operations => exact applyProgress_coherent hs h
  | explicitStateReported report =>
    obtain ⟨s₁, hs₁, rfl⟩ := applyExplicitReport_eq_ok.mp h
    exact applyReportFields_coherent (applyReportLifecycle_coherent hs hparts hs₁) hparts
  | markPaneRead _ => cases h
  | markDone _ _ => cases h
  | taskSummaryGenerated _ _ _ => cases h
  | observationBatch _ _ _ _ _ _ => cases h
  | paneRemoved _ => cases h

end VdeTmux.Pane
