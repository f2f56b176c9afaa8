import VdeTmux.Pane.Monotone

/-!
# Refusals

Which errors each step of the reducer may stop with. While every counter has room for one more
event, a step refuses for a reason of the request or of the record it meets, and never because a
counter ran over.
-/

open Foundation Foundation.Text
namespace VdeTmux.Pane

def ReduceError.Intended : ReduceError → Prop
  | invalidRequest _ | staleStateIdentity | staleSelection | staleAgentEvent
  | invalidProgressOperation _ | missingStateId => True
  | invalidPaneInstance | stateInvariantViolation _ | counterOverflow _ => False

/-- Every error of the computation is an intended refusal. -/
abbrev RefusesOnly {α : Type} (x : Except ReduceError α) : Prop := ErrorsIn ReduceError.Intended x

theorem startNewRun_ok {s : PaneState} (startedAt : ℤ) (h : s.runSeq < u64Max) :
    ∃ s', startNewRun s startedAt = .ok s' := by
  by_cases hclosed : s.runSeq = s.completedSeq
  · exact ⟨_, startNewRun_eq_ok.mpr (Or.inl ⟨hclosed, h, rfl⟩)⟩
  · exact ⟨_, startNewRun_eq_ok.mpr (Or.inr ⟨hclosed, rfl⟩)⟩

theorem activityObserved_ok {s : PaneState} (observedAt : ℤ) (h : s.runSeq < u64Max) :
    ∃ s', activityObserved s observedAt = .ok s' := by
  obtain ⟨s₁, hstart⟩ := startNewRun_ok observedAt h
  exact ⟨_, activityObserved_eq_ok.mpr ⟨s₁, hstart, rfl⟩⟩

theorem waitRequested_ok {s : PaneState} (observedAt : ℤ) (reason : WaitReason)
    (h : s.runSeq < u64Max) : ∃ s', waitRequested s observedAt reason = .ok s' := by
  obtain ⟨s₁, hstart⟩ := startNewRun_ok observedAt h
  exact ⟨_, waitRequested_eq_ok.mpr ⟨s₁, hstart, rfl⟩⟩

theorem failRun_ok {s : PaneState} (observedAt : ℤ) (reason : Option String)
    (h : s.runSeq < u64Max) : ∃ s', failRun s observedAt reason = .ok s' := by
  obtain ⟨s₁, hstart⟩ := startNewRun_ok observedAt h
  exact ⟨_, failRun_eq_ok.mpr ⟨s₁, hstart, rfl⟩⟩

theorem activityObserved_refuses {s : PaneState} {observedAt : ℤ} (h : s.runSeq < u64Max) :
    RefusesOnly (activityObserved s observedAt) := errorsIn_of_ok (activityObserved_ok _ h)

theorem completeRunWithResponse_refuses {s : PaneState} {completedAt : ℤ}
    {response : ResponseState} {allow : Bool} :
    RefusesOnly (completeRunWithResponse s completedAt response allow) :=
  (errorsIn_mapError fun _ => trivial).bind fun _ _ =>
    errorsIn_ite (fun _ => errorsIn_pure) fun _ => errorsIn_pure

theorem beginAgentEpoch_ok {s : PaneState} (agent : AgentKind) (session : Option AgentSessionId)
    (source : EpochSource) (h : s.agentEpoch < u64Max) :
    ∃ s', beginAgentEpoch s agent session source = .ok s' :=
  ⟨_, bind_pure_eq_ok.mpr ⟨_, increment_of_lt h, rfl⟩⟩

theorem bumpTracker_ok {tracker : CaptureTrackerSnapshot} (h : tracker.generation < u64Max) :
    ∃ tracker', bumpTracker tracker = .ok tracker' := ⟨_, bumpTracker_eq_ok.mpr ⟨h, rfl⟩⟩

theorem markDone_ok {s : PaneState} (completedAt : ℤ) (h : s.runSeq < u64Max) :
    ∃ s', markDone s completedAt = .ok s' := by
  unfold markDone
  dsimp only
  by_cases hclosed : s.runSeq = s.completedSeq
  · rw [if_pos hclosed]
    exact ⟨_, bind_pure_eq_ok.mpr ⟨_, increment_of_lt h, rfl⟩⟩
  · rw [if_neg hclosed]
    exact ⟨_, bind_pure_eq_ok.mpr ⟨_, rfl, rfl⟩⟩

structure TaskRoom (tasks : TaskState) (n : ℕ) : Prop where
  total : tasks.progress.total + n ≤ u64Max
  done : tasks.progress.done ≤ tasks.progress.total
  items : tasks.items.length + n ≤ u64Max

structure OperationRoom (tasks : TaskState) (operations : List ProgressOperation) : Prop where
  total : tasks.progress.total + operations.length ≤ u64Max
  items : maxTaskItems + operations.length ≤ u64Max
  replaced : ∀ progress items, .replaceTasks progress items ∈ operations →
    progress.total + operations.length ≤ u64Max

theorem validateTasks_bounds {tasks : TaskState} (h : validateTasks tasks = .ok ()) :
    tasks.progress.done ≤ tasks.progress.total ∧ tasks.items.length ≤ maxTaskItems := by
  simp only [validateTasks, seq_eq_ok, refuse_eq_ok, not_lt] at h
  exact ⟨h.1, h.2.1⟩

theorem OperationRoom.start {tasks : TaskState} {operations : List ProgressOperation}
    (h : OperationRoom tasks operations) (hvalid : validateTasks tasks = .ok ()) :
    TaskRoom tasks operations.length := by
  obtain ⟨hdone, hitems⟩ := validateTasks_bounds hvalid
  have hbound := h.items
  exact ⟨h.total, hdone, by omega⟩

theorem completedCount_le (items : List TaskItemState) :
    completedCount items ≤ items.length :=
  List.countP_le_length

theorem TaskRoom.derive {tasks : TaskState} {n : ℕ} (h : TaskRoom tasks n) :
    TaskRoom (deriveTaskProgress tasks) n := by
  unfold deriveTaskProgress
  split_ifs
  · exact h
  · exact ⟨h.items, completedCount_le _, h.items⟩

theorem TaskRoom.weaken {tasks : TaskState} {m n : ℕ} (h : TaskRoom tasks n) (hmn : m ≤ n) :
    TaskRoom tasks m := by
  have htotal := h.total
  have hitems := h.items
  exact ⟨by omega, h.done, by omega⟩

theorem upsertTaskItem_length (items : List TaskItemState) (id step : String) :
    (upsertTaskItem items id step).length ≤ items.length + 1 := by
  unfold upsertTaskItem
  dsimp only
  split_ifs
  · rw [length_updateFirst]
    exact Nat.le_succ _
  · simp

theorem applyProgressOperation_room {s s' : PaneState} {operation : ProgressOperation} {n : ℕ}
    (hroom : TaskRoom s.tasks (n + 1)) (hitems : maxTaskItems + (n + 1) ≤ u64Max)
    (hreplaced : ∀ progress items, operation = .replaceTasks progress items →
      progress.total + (n + 1) ≤ u64Max)
    (hvalid : validateProgressOperation operation = .ok ())
    (h : applyProgressOperation s operation = .ok s') : TaskRoom s'.tasks n := by
  have hkeep : TaskRoom s.tasks n := hroom.weaken (Nat.le_succ n)
  have htotal := hroom.total
  have hlength := hroom.items
  have hdone := hroom.done
  cases operation with
  | taskCreated =>
    obtain ⟨total, hnext, rfl⟩ := bind_pure_eq_ok.mp h
    obtain ⟨-, rfl⟩ := increment_eq_ok.mp hnext
    constructor <;> dsimp only [List.length_nil] <;> omega
  | taskCompleted =>
    obtain ⟨done, hnext, h⟩ := bind_eq_ok.mp h
    obtain ⟨hle, h⟩ := seq_eq_ok.mp h
    cases h
    simp only [refuse_eq_ok, not_lt] at hle
    refine ⟨hkeep.total, hle, ?_⟩
    dsimp only [List.length_nil]
    omega
  | replaceTasks progress items =>
    cases h
    have htasks : validateTasks (deriveTaskProgress ⟨progress, items⟩) = .ok () := hvalid
    obtain ⟨hle, hcount⟩ := validateTasks_bounds htasks
    have hbound := hreplaced progress items rfl
    dsimp only
    unfold deriveTaskProgress at hle hcount ⊢
    split_ifs at hle hcount ⊢
    all_goals
      refine ⟨?_, hle, ?_⟩
      · dsimp only at hcount ⊢
        omega
      · dsimp only at hcount ⊢
        omega
  | upsertTaskItem id step =>
    cases h
    have hgrown := upsertTaskItem_length s.tasks.items id step
    refine TaskRoom.derive ⟨hkeep.total, hkeep.done, ?_⟩
    dsimp only
    omega
  | updateTaskItemStatus id status =>
    simp only [applyProgressOperation] at h
    split_ifs at h
    cases h
    refine TaskRoom.derive ⟨hkeep.total, hkeep.done, ?_⟩
    dsimp only
    rw [length_updateFirst]
    exact hkeep.items
  | clearTasks =>
    cases h
    exact ⟨by dsimp only; omega, le_rfl, by dsimp only [List.length_nil]; omega⟩
  | _ =>
    cases h
    exact hkeep

theorem applyProgressOperation_refuses {s : PaneState} {operation : ProgressOperation} {n : ℕ}
    (hroom : TaskRoom s.tasks (n + 1)) : RefusesOnly (applyProgressOperation s operation) := by
  have htotal := hroom.total
  have hdone := hroom.done
  cases operation with
  | taskCreated =>
    exact (errorsIn_increment (by omega)).bind fun _ _ => errorsIn_pure
  | taskCompleted =>
    refine (errorsIn_increment (by omega)).bind fun _ _ => ?_
    exact (errorsIn_refuse fun _ => trivial).bind fun _ _ => errorsIn_pure
  | updateTaskItemStatus id status =>
    exact errorsIn_ite (fun _ => errorsIn_ok) fun _ => errorsIn_error.mpr trivial
  | _ => exact errorsIn_ok

theorem applyOperations_refuses {s : PaneState} {operations : List ProgressOperation} {n : ℕ}
    (hroom : TaskRoom s.tasks n) (hlength : operations.length ≤ n)
    (hitems : maxTaskItems + n ≤ u64Max)
    (hreplaced : ∀ progress items, .replaceTasks progress items ∈ operations →
      progress.total + n ≤ u64Max) : RefusesOnly (applyOperations s operations) := by
  induction operations generalizing s n with
  | nil => exact errorsIn_ok
  | cons operation rest ih =>
    obtain ⟨m, rfl⟩ : ∃ m, n = m + 1 := ⟨n - 1, by simp only [List.length_cons] at hlength; omega⟩
    refine (errorsIn_mapError fun _ => trivial).bind fun _ hvalid => ?_
    refine (applyProgressOperation_refuses hroom).bind fun s' hnext => ?_
    have hroom' := applyProgressOperation_room hroom hitems
      (fun progress items heq => hreplaced progress items (heq ▸ List.mem_cons_self))
      (mapError_eq_ok.mp hvalid) hnext
    simp only [List.length_cons] at hlength
    refine ih hroom' (by omega) (by omega) fun progress items hmem => ?_
    have hbound := hreplaced progress items (List.mem_cons_of_mem _ hmem)
    omega

theorem applyProgress_refuses {s : PaneState} {operations : List ProgressOperation}
    (hroom : OperationRoom s.tasks operations) (hvalid : validateTasks s.tasks = .ok ()) :
    RefusesOnly (applyProgress s operations) := by
  refine (applyOperations_refuses (hroom.start hvalid) le_rfl hroom.items hroom.replaced).bind
    fun _ _ => ?_
  exact (errorsIn_mapError fun _ => trivial).bind fun _ _ => errorsIn_pure

theorem OperationRoom.started {s s' : PaneState} {observedAt : ℤ}
    {operations : List ProgressOperation} (hroom : OperationRoom s.tasks operations)
    (hvalid : validateTasks s.tasks = .ok ()) (h : activityObserved s observedAt = .ok s') :
    OperationRoom s'.tasks operations ∧ validateTasks s'.tasks = .ok () := by
  obtain ⟨s₁, hstart, rfl⟩ := activityObserved_eq_ok.mp h
  rcases startNewRun_eq_ok.mp hstart with ⟨-, -, rfl⟩ | ⟨-, rfl⟩
  · refine ⟨⟨?_, hroom.items, hroom.replaced⟩, validateTasks_default⟩
    have hitems := hroom.items
    dsimp only [openRun]
    omega
  · exact ⟨hroom, hvalid⟩

def PaneEvent.TaskRoomFor (tasks : TaskState) : PaneEvent → Prop
  | claudeToolResultObserved _ _ operations | activityAndProgressObserved _ operations
  | progressUpdated _ operations => OperationRoom tasks operations
  | _ => True

theorem applyClaudeToolResult_refuses {s : PaneState} {result : ClaudeToolResult}
    {observedAt : ℤ} : RefusesOnly (applyClaudeToolResult s result observedAt) := by
  cases result with
  | registered taskId toolUseId command =>
    exact (errorsIn_refuse fun _ => trivial).bind fun _ _ => errorsIn_pure
  | launchUnconfirmed toolUseId =>
    exact (errorsIn_refuse fun _ => trivial).bind fun _ _ => errorsIn_pure
  | taskStopped taskId command => exact errorsIn_ok

theorem notificationActivity_refuses {s : PaneState} {observedAt : ℤ} (h : s.runSeq < u64Max) :
    RefusesOnly (notificationActivity s observedAt) :=
  errorsIn_ite (fun _ => activityObserved_refuses h) fun _ => errorsIn_ok

theorem releaseStop_refuses {s : PaneState} {observedAt : ℤ} {response : Option ResponseState}
    {initial : Bool} : RefusesOnly (releaseStop s observedAt response initial) := by
  cases response with
  | none => exact errorsIn_ite (fun _ => errorsIn_ok) fun _ => errorsIn_ok
  | some response => exact completeRunWithResponse_refuses

theorem applyClaudeStop_refuses {s : PaneState} {observedAt : ℤ}
    {response : Option ResponseState} {registry : Option (List ClaudeRegistryEntry)}
    {crons : Option (List ClaudeCron)} {initial : Bool} :
    RefusesOnly (applyClaudeStop s observedAt response registry crons initial) :=
  errorsIn_ite (fun _ => errorsIn_ok) fun _ =>
    errorsIn_ite (fun _ => errorsIn_ok) fun _ => releaseStop_refuses

theorem applyReportLifecycle_refuses {s : PaneState} {report : ExplicitStateReport}
    (h : s.runSeq < u64Max) : RefusesOnly (applyReportLifecycle s report) := by
  unfold applyReportLifecycle
  split
  · exact activityObserved_refuses h
  · exact errorsIn_of_ok (waitRequested_ok _ _ h)
  · exact errorsIn_ite (fun _ => errorsIn_ok) fun _ => errorsIn_ok
  · exact errorsIn_of_ok (failRun_ok _ _ h)
  · exact errorsIn_ok

theorem applyRegularExplicitEvent_refuses [Sha256] {s : PaneState} {event : PaneEvent}
    {privateTaskPrompt : Option String} (hrun : s.runSeq < u64Max)
    (hroom : event.TaskRoomFor s.tasks) (hvalid : validateTasks s.tasks = .ok ()) :
    RefusesOnly (applyRegularExplicitEvent s event privateTaskPrompt) := by
  cases event with
  | claudeToolResultObserved observedAt result operations =>
    refine (activityObserved_refuses hrun).bind fun s₁ hactivity => ?_
    obtain ⟨hroom', hvalid'⟩ := OperationRoom.started hroom hvalid hactivity
    exact (applyProgress_refuses hroom' hvalid').bind fun _ _ => applyClaudeToolResult_refuses
  | claudeTaskNotificationsObserved observedAt notifications =>
    refine (notificationActivity_refuses hrun).bind fun _ _ => ?_
    exact (errorsIn_refuse fun _ => trivial).bind fun _ _ => errorsIn_pure
  | claudeStopped observedAt response registry crons => exact applyClaudeStop_refuses
  | claudeSessionEnded observedAt => exact errorsIn_ok
  | agentSessionStarted observedAt source resumedPrompt => exact errorsIn_ok
  | beginRun startedAt prompt =>
    exact (activityObserved_refuses hrun).bind fun _ _ => errorsIn_pure
  | activityObserved observedAt => exact activityObserved_refuses hrun
  | activityAndProgressObserved observedAt operations =>
    refine (activityObserved_refuses hrun).bind fun s₁ hactivity => ?_
    obtain ⟨hroom', hvalid'⟩ := OperationRoom.started hroom hvalid hactivity
    exact applyProgress_refuses hroom' hvalid'
  | waitRequested observedAt reason => exact errorsIn_of_ok (waitRequested_ok _ _ hrun)
  | completeRun completedAt => exact errorsIn_ok
  | responseAndCompleteRun completedAt response => exact completeRunWithResponse_refuses
  | failRun observedAt reason => exact errorsIn_of_ok (failRun_ok _ _ hrun)
  | progressUpdated observedAt operations => exact applyProgress_refuses hroom hvalid
  | explicitStateReported report =>
    exact (applyReportLifecycle_refuses hrun).bind fun _ _ => errorsIn_pure
  | _ => exact errorsIn_error.mpr trivial

theorem applyInitialExplicitEvent_refuses [Sha256] {s : PaneState} {event : PaneEvent}
    {privateTaskPrompt : Option String} (hrun : s.runSeq < u64Max)
    (hroom : event.TaskRoomFor s.tasks) (hvalid : validateTasks s.tasks = .ok ()) :
    RefusesOnly (applyInitialExplicitEvent s event privateTaskPrompt) := by
  unfold applyInitialExplicitEvent
  split
  · exact applyClaudeStop_refuses
  · exact errorsIn_ok
  · exact completeRunWithResponse_refuses
  · exact errorsIn_ite (fun _ => errorsIn_ok)
      fun _ => applyRegularExplicitEvent_refuses hrun hroom hvalid
  · exact applyRegularExplicitEvent_refuses hrun hroom hvalid

theorem PaneEvent.TaskRoomFor.fresh {tasks : TaskState} {event : PaneEvent}
    (h : event.TaskRoomFor tasks) : event.TaskRoomFor {} := by
  have hfresh : ∀ operations, OperationRoom tasks operations → OperationRoom {} operations := by
    intro operations hroom
    have hitems := hroom.items
    exact ⟨by dsimp only; omega, hitems, hroom.replaced⟩
  cases event <;> first | exact hfresh _ h | trivial

theorem applyInference_ok {s : PaneState} (inference : CaptureInference)
    (fingerprint : Option Fingerprint) (observedAt : ℤ) (hrun : s.runSeq < u64Max) :
    ∃ s', applyInference s inference fingerprint observedAt = .ok s' := by
  unfold applyInference
  split
  · split_ifs
    · exact waitRequested_ok _ _ hrun
    · exact ⟨s, rfl⟩
  · exact waitRequested_ok _ _ hrun
  · exact failRun_ok _ _ hrun
  · split_ifs
    · exact activityObserved_ok _ hrun
    · exact ⟨s, rfl⟩
  · split_ifs
    · exact ⟨_, rfl⟩
    · exact ⟨s, rfl⟩
  · exact ⟨s, rfl⟩

theorem applyCapture_ok {s : PaneState} (capture : Option CaptureObservation)
    (tracker : CaptureTrackerSnapshot) (observedAt : ℤ) (hrun : s.runSeq < u64Max) :
    ∃ s' tracker', applyCapture s capture tracker observedAt = .ok (s', tracker') := by
  obtain ⟨s', hinference⟩ := applyInference_ok (effectiveInference tracker capture)
    tracker.fingerprint observedAt hrun
  exact ⟨s', applyCapture_of_inference hinference⟩

theorem countReplacement_ok (tracker : CaptureTrackerSnapshot) {agent : AgentKind}
    (h : tracker.replacementKind = some agent → tracker.replacementStreak < u8Max) :
    ∃ tracker', countReplacement tracker agent = .ok tracker' := by
  unfold countReplacement
  split_ifs with hkind
  · exact ⟨_, bind_pure_eq_ok.mpr ⟨_, increment_of_lt (h hkind), rfl⟩⟩
  · exact ⟨_, rfl⟩

/-- A poll that would count one absence or one sighting too many. -/
inductive PollOverflow (s : PaneState) (tracker : CaptureTrackerSnapshot) :
    AgentPresenceObservation → Prop
  | absence (verified : s.scanVerified = true)
      (detectable : supportsProcessDetection s.agent = true)
      (full : u8Max ≤ tracker.absenceCount) : PollOverflow s tracker .absent
  | replaced (agent : AgentKind) (differs : agent ≠ s.agent) (present : s.agentPresent = true)
      (verified : s.scanVerified = true) (full : u8Max ≤ tracker.absenceCount) :
      PollOverflow s tracker (.present agent)
  | sighted (agent : AgentKind) (differs : agent ≠ s.agent) (present : s.agentPresent = true)
      (kind : tracker.replacementKind = some agent) (full : u8Max ≤ tracker.replacementStreak) :
      PollOverflow s tracker (.present agent)

theorem observeNewEpoch_ok {s : PaneState} (tracker : CaptureTrackerSnapshot) (agent : AgentKind)
    (capture : Option CaptureObservation) (process : Option AgentProcessIdentity)
    (observedAt : ℤ) (hepoch : s.agentEpoch < u64Max) :
    ∃ p, observeNewEpoch s tracker agent capture process observedAt = .ok p := by
  obtain ⟨s', hbegin⟩ := beginAgentEpoch_ok agent none .process hepoch
  exact ⟨(s', _), observeNewEpoch_eq_ok.mpr ⟨hbegin, rfl⟩⟩

theorem applyCapture_counters {s s₁ : PaneState} {capture : Option CaptureObservation}
    {tracker tracker₁ : CaptureTrackerSnapshot} {observedAt : ℤ}
    (h : applyCapture s capture tracker observedAt = .ok (s₁, tracker₁)) :
    s₁.scanVerified = s.scanVerified ∧ s₁.agent = s.agent ∧
      tracker₁.absenceCount = tracker.absenceCount := by
  obtain ⟨hinference, hevidence⟩ := applyCapture_spec h
  have hidentity : s₁.identity = s.identity :=
    applyInference_identity hinference
  exact ⟨congrArg PaneIdentity.scanVerified hidentity, congrArg PaneIdentity.agent hidentity,
    congrArg TrackerEvidence.absenceCount hevidence⟩

theorem observeAbsent_ok {s : PaneState} {tracker : CaptureTrackerSnapshot}
    (capture : Option CaptureObservation) (observedAt : ℤ) (hrun : s.runSeq < u64Max)
    (hpoll : ¬PollOverflow s tracker .absent) :
    ∃ p, observeAbsent s tracker capture observedAt = .ok p := by
  unfold observeAbsent
  dsimp only
  obtain ⟨s₁, tracker₁, hcapture⟩ := applyCapture_ok capture
    { tracker with agentProcess := none, replacementKind := none, replacementStreak := 0 }
    observedAt hrun
  obtain ⟨hverified, hagent, hcount⟩ := applyCapture_counters hcapture
  obtain ⟨p, hp⟩ : ∃ p, (if s₁.scanVerified = true ∧ supportsProcessDetection s₁.agent = true then
      countAbsence s₁ tracker₁ observedAt else pure (s₁, tracker₁)) = .ok p := by
    split_ifs with hcounts
    · rw [hverified, hagent] at hcounts
      refine ⟨_, countAbsence_ok (not_le.mp fun hfull => ?_)⟩
      exact hpoll (.absence hcounts.1 hcounts.2 (hcount ▸ hfull))
    · exact ⟨_, rfl⟩
  exact ⟨p, bind_eq_ok.mpr ⟨_, hcapture, hp⟩⟩

theorem observeOtherAgent_ok {s : PaneState} {tracker : CaptureTrackerSnapshot}
    {agent : AgentKind} (capture : Option CaptureObservation)
    (process : Option ProcessObservation) (observedAt : ℤ) (hepoch : s.agentEpoch < u64Max)
    (hdiffers : agent ≠ s.agent) (hpoll : ¬PollOverflow s tracker (.present agent)) :
    ∃ p, observeOtherAgent s tracker agent capture process observedAt = .ok p := by
  unfold observeOtherAgent
  split_ifs with hpresent hverified
  · have hcount : tracker.absenceCount < u8Max :=
      not_le.mp fun hfull => hpoll (.replaced agent hdiffers hpresent hverified hfull)
    have hstreak : tracker.replacementKind = some agent → tracker.replacementStreak < u8Max :=
      fun hkind => not_le.mp fun hfull => hpoll (.sighted agent hdiffers hpresent hkind hfull)
    rw [countAbsence_ok hcount]
    split_ifs
    · obtain ⟨tracker', hreplace⟩ := countReplacement_ok
        { tracker with absenceCount := 0 } hstreak
      exact ⟨_, bind_eq_ok.mpr ⟨_, rfl, bind_pure_eq_ok.mpr ⟨_, hreplace, rfl⟩⟩⟩
    · obtain ⟨tracker', hreplace⟩ := countReplacement_ok
        { tracker with absenceCount := tracker.absenceCount + 1 } hstreak
      exact ⟨_, bind_eq_ok.mpr ⟨_, rfl, bind_pure_eq_ok.mpr ⟨_, hreplace, rfl⟩⟩⟩
  · obtain ⟨tracker', hreplace⟩ := countReplacement_ok tracker
      fun hkind => not_le.mp fun hfull => hpoll (.sighted agent hdiffers hpresent hkind hfull)
    exact ⟨_, bind_eq_ok.mpr ⟨_, rfl, bind_pure_eq_ok.mpr ⟨_, hreplace, rfl⟩⟩⟩
  · exact observeNewEpoch_ok tracker agent capture _ observedAt hepoch

theorem observePresence_ok {s : PaneState} {tracker : CaptureTrackerSnapshot}
    {presence : AgentPresenceObservation} (capture : Option CaptureObservation)
    (process : Option ProcessObservation) (observedAt : ℤ) (hrun : s.runSeq < u64Max)
    (hepoch : s.agentEpoch < u64Max) (hpoll : ¬PollOverflow s tracker presence) :
    ∃ p, observePresence s tracker presence capture process observedAt = .ok p := by
  unfold observePresence
  split
  · exact ⟨_, rfl⟩
  · exact observeAbsent_ok capture observedAt hrun hpoll
  · rename_i agent
    split_ifs with hagent
    · unfold observeSameAgent
      dsimp only
      split_ifs
      · exact observeNewEpoch_ok _ agent capture _ observedAt hepoch
      · obtain ⟨s', tracker', hcapture⟩ := applyCapture_ok (s := { s with scanVerified := true })
          capture _ observedAt hrun
        exact ⟨_, hcapture⟩
      · obtain ⟨s', tracker', hcapture⟩ := applyCapture_ok (s := { s with scanVerified := true })
          capture _ observedAt hrun
        exact ⟨_, hcapture⟩
    · exact observeOtherAgent_ok capture process observedAt hepoch hagent hpoll

structure Room (current : Option PaneState) (event : PaneEvent) (context : ReductionContext) :
    Prop where
  generation : context.tracker.generation < u64Max
  order : context.latestUnreadOrder < u64Max
  latest : ∀ s ∈ current, s.unread.latestOrder < u64Max
  revision : ∀ s ∈ current, s.revision < u64Max
  runSeq : ∀ s ∈ current, s.runSeq < u64Max
  agentEpoch : ∀ s ∈ current, s.agentEpoch < u64Max
  occurrenceSeq : ∀ s ∈ current, s.unread.occurrenceSeq < u64Max
  tasks : event.TaskRoomFor ((current.map (·.tasks)).getD {})

structure PollRunsOver (s : PaneState) (event : PaneEvent) (tracker : CaptureTrackerSnapshot) :
    Prop where
  observed : ∃ observedAt presence capture process, PollOverflow s tracker presence ∧
    event = .observationBatch (some (.canonical s.version)) tracker.generation observedAt presence
      capture process

variable [Sha256]

omit [Sha256] in
theorem newState_refuses {paneInstance : PaneInstance} {agent : AgentKind}
    {session : Option AgentSessionId} {scanVerified armed : Bool} {newStateId : Option StateId} :
    RefusesOnly (newState paneInstance agent session scanVerified armed newStateId) := by
  cases newStateId with
  | none => exact errorsIn_error.mpr trivial
  | some stateId => exact errorsIn_ok

omit [Sha256] in
theorem newState_eq_ok {paneInstance : PaneInstance} {agent : AgentKind}
    {session : Option AgentSessionId} {scanVerified armed : Bool} {newStateId : Option StateId}
    {s : PaneState} :
    newState paneInstance agent session scanVerified armed newStateId = .ok s ↔
      ∃ stateId, newStateId = some stateId ∧
        s = initialState paneInstance agent session scanVerified armed stateId := by
  cases newStateId with
  | none => simp [newState]
  | some stateId => simp [newState, eq_comm]

omit [Sha256] in
theorem applyProcessObservation_refuses {s : PaneState} {process : Option ProcessObservation} :
    RefusesOnly (applyProcessObservation s process) := by
  cases process with
  | none => exact errorsIn_ok
  | some process => exact (errorsIn_mapError fun _ => trivial).bind fun _ _ => errorsIn_pure

omit [Sha256] in
theorem reduceObservation_refuses {current : Option PaneState} {paneInstance : PaneInstance}
    {context : ReductionContext} {base : Option StoredStateDescriptor} {trackerGeneration : ℕ}
    {observedAt : ℤ} {presence : AgentPresenceObservation} {capture : Option CaptureObservation}
    {process : Option ProcessObservation}
    (hroom : Room current (.observationBatch base trackerGeneration observedAt presence capture
      process) context)
    (hpoll : ∀ s ∈ current, ¬PollRunsOver s (.observationBatch base trackerGeneration observedAt
      presence capture process) context.tracker) :
    RefusesOnly (reduceObservation current paneInstance context base trackerGeneration observedAt
      presence capture process) := by
  refine errorsIn_ite (fun _ => errorsIn_pure) fun hfresh => ?_
  simp only [not_or, not_not] at hfresh
  cases current with
  | none =>
    cases presence with
    | present agent =>
      refine newState_refuses.bind fun _ _ => ?_
      refine applyProcessObservation_refuses.bind fun _ _ => ?_
      refine ErrorsIn.bind (errorsIn_of_ok (bumpTracker_ok ?_)) fun _ _ => errorsIn_pure
      exact hroom.generation
    | absent => exact errorsIn_pure
    | unknown => exact errorsIn_pure
  | some s =>
    have hfits : ¬PollOverflow s context.tracker presence := by
      intro hover
      refine hpoll s rfl ⟨observedAt, presence, capture, process, hover, ?_⟩
      rw [hfresh.1, hfresh.2]
      rfl
    refine (errorsIn_of_ok (observePresence_ok capture process observedAt (hroom.runSeq s rfl)
      (hroom.agentEpoch s rfl) hfits)).bind fun ⟨s₁, tracker₁⟩ hobserved => ?_
    refine applyProcessObservation_refuses.bind fun _ _ => ?_
    refine (errorsIn_of_ok (bumpTracker_ok ?_)).bind fun _ _ => errorsIn_pure
    rw [(observePresence_observed hobserved).generation]
    exact hroom.generation

theorem reduceInternal_refuses {current : Option PaneState} {event : PaneEvent}
    {context : ReductionContext} (hroom : Room current event context) :
    RefusesOnly (reduceInternalStateEvent current event context) := by
  cases current with
  | none => cases event <;> first | exact errorsIn_ok | exact errorsIn_error.mpr trivial
  | some s =>
    cases event with
    | markDone expected completedAt =>
      refine (errorsIn_refuse fun _ => trivial).bind fun _ _ => ?_
      exact (errorsIn_of_ok (markDone_ok completedAt (hroom.runSeq s rfl))).bind
        fun _ _ => errorsIn_pure
    | taskSummaryGenerated expectedStateId expectedAgentEpoch summary =>
      refine errorsIn_ite (fun _ => errorsIn_ok) fun _ => ?_
      exact (errorsIn_mapError fun _ => trivial).bind fun _ _ => errorsIn_pure
    | _ => exact errorsIn_ok

theorem enterEpoch_refuses {s : PaneState} {agent : AgentKind} {session : AgentSessionId}
    {source : EpochSource} {event : PaneEvent} {privateTaskPrompt : Option String}
    (hepoch : s.agentEpoch < u64Max) (hroom : event.TaskRoomFor s.tasks) :
    RefusesOnly (enterEpoch s agent session source event privateTaskPrompt) := by
  refine (errorsIn_of_ok (beginAgentEpoch_ok _ _ _ hepoch)).bind fun s₀ hbegin => ?_
  have hfresh := (beginAgentEpoch_fresh hbegin).2
  have htasks : s₀.tasks = {} := by
    obtain ⟨_, -, rfl⟩ := bind_pure_eq_ok.mp hbegin
    rfl
  refine applyRegularExplicitEvent_refuses ?_ ?_ ?_
  · rw [hfresh.runSeq]
    decide
  · rw [htasks]
    exact hroom.fresh
  · rw [htasks]
    exact validateTasks_default

theorem explicitTransition_refuses {s : PaneState} {agent : AgentKind} {session : AgentSessionId}
    {event : PaneEvent} {tracker : CaptureTrackerSnapshot} {privateTaskPrompt : Option String}
    (hrun : s.runSeq < u64Max) (hepoch : s.agentEpoch < u64Max)
    (hroom : event.TaskRoomFor s.tasks) (hvalid : validateTasks s.tasks = .ok ()) :
    RefusesOnly (explicitTransition s agent session event tracker privateTaskPrompt) := by
  have hregular : RefusesOnly (applyRegularExplicitEvent s event privateTaskPrompt) :=
    applyRegularExplicitEvent_refuses hrun hroom hvalid
  have henter : ∀ source, RefusesOnly (enterEpoch s agent session source event privateTaskPrompt) :=
    fun _ => enterEpoch_refuses hepoch hroom
  have hstale : RefusesOnly (.error .staleAgentEvent : Except ReduceError PaneState) :=
    errorsIn_error.mpr trivial
  unfold explicitTransition
  split
  · exact hregular
  · exact errorsIn_ite (fun _ => henter _) fun _ =>
      errorsIn_ite (fun _ => hregular.bind fun _ _ => errorsIn_pure) fun _ => hstale
  · refine errorsIn_ite (fun _ => ?_) fun _ => errorsIn_ok
    exact applyRegularExplicitEvent_refuses hrun hroom hvalid
  · exact errorsIn_ite (fun _ => henter _) fun _ => hstale
  all_goals exact errorsIn_ite (fun _ => henter _) fun _ => hstale

theorem reduceExplicit_refuses {current : Option PaneState} {envelope : PaneEventEnvelope}
    {context : ReductionContext} (hroom : Room current envelope.event context)
    (hvalid : ∀ s ∈ current, validateTasks s.tasks = .ok ()) :
    RefusesOnly (reduceExplicit current envelope context) := by
  have hbump : ∀ tracker : CaptureTrackerSnapshot,
      tracker.generation = context.tracker.generation → RefusesOnly (bumpTracker tracker) :=
    fun tracker hsame => errorsIn_of_ok (bumpTracker_ok (hsame ▸ hroom.generation))
  unfold reduceExplicit
  split
  · exact errorsIn_error.mpr trivial
  · refine errorsIn_ite (fun _ => errorsIn_error.mpr trivial) fun _ => ?_
    split
    · exact errorsIn_error.mpr trivial
    · unfold reduceFirstExplicit
      refine errorsIn_ite (fun _ => errorsIn_error.mpr trivial) fun _ =>
        errorsIn_ite (fun _ => errorsIn_ok) fun _ => ?_
      refine newState_refuses.bind fun s₀ hnew => ?_
      obtain ⟨stateId, -, rfl⟩ := newState_eq_ok.mp hnew
      refine (applyInitialExplicitEvent_refuses (Nat.succ_pos _ : 0 < u64Max)
        hroom.tasks.fresh validateTasks_default).bind fun _ _ => ?_
      refine ErrorsIn.bind (hbump _ ?_) fun _ _ => errorsIn_pure
      rfl
    · rename_i session s hsession
      split
      · refine errorsIn_ite (fun _ => ?_) fun _ => ?_
        · exact (errorsIn_refuse fun _ => trivial).bind fun _ _ => errorsIn_pure
        · refine (errorsIn_of_ok (beginAgentEpoch_ok _ _ _ (hroom.agentEpoch s rfl))).bind fun _ _ => ?_
          refine ErrorsIn.bind (hbump _ ?_) fun _ _ => errorsIn_pure
          rfl
      · refine errorsIn_ite (fun _ => errorsIn_ite (fun _ => errorsIn_pure) fun _ => ?_)
          fun _ => ?_
        · refine ErrorsIn.bind (hbump _ ?_) fun _ _ => errorsIn_pure
          rfl
        · refine (explicitTransition_refuses (hroom.runSeq s rfl) (hroom.agentEpoch s rfl)
            hroom.tasks (hvalid s rfl)).bind fun _ _ => ?_
          exact (hbump _ acceptedTracker_generation).bind fun _ _ => errorsIn_pure

/-- Finding the branch of an event never ends in an overflow or a broken record. -/
theorem dispatch_refuses {current : Option PaneState} {envelope : PaneEventEnvelope}
    {context : ReductionContext} (hroom : Room current envelope.event context)
    (hvalid : ∀ s ∈ current, validateTasks s.tasks = .ok ())
    (hpoll : ∀ s ∈ current, ¬PollRunsOver s envelope.event context.tracker) :
    RefusesOnly (dispatch current envelope context) := by
  unfold dispatch
  split
  · rename_i hevent
    rw [hevent] at hroom hpoll
    exact reduceObservation_refuses hroom hpoll
  · exact errorsIn_ok
  · exact reduceInternal_refuses hroom
  · exact reduceInternal_refuses hroom
  · exact reduceInternal_refuses hroom
  · exact reduceExplicit_refuses hroom hvalid

end VdeTmux.Pane
