import VdeTmux.Pane.Refusals

/-!
# The reducer and its own check

The reducer refuses a record that breaks its check. For a valid record and an event whose parts
pass their own checks this happens in a few cases only; outside of them every error is a refusal
of the request.
-/

open Foundation Foundation.Text
namespace VdeTmux.Pane

/-! ## Armed records -/

/-- Nothing arms a record again, and no evidence of a run leaves it armed. -/
structure Disarms (s : PaneState) (event : PaneEvent) (s' : PaneState) : Prop where
  armed : s'.syntheticCompletionArmed = true → s.syntheticCompletionArmed = true
  evidence : isEpochStartEvidence event = true → s'.syntheticCompletionArmed = false

theorem Disarms.of_false {s s' : PaneState} {event : PaneEvent}
    (h : s'.syntheticCompletionArmed = false) : Disarms s event s' :=
  ⟨fun harmed => by simp [h] at harmed, fun _ => h⟩

theorem Disarms.of_eq {s s' : PaneState} {event : PaneEvent}
    (h : s'.syntheticCompletionArmed = s.syntheticCompletionArmed)
    (hevidence : isEpochStartEvidence event = false) : Disarms s event s' :=
  ⟨fun harmed => h ▸ harmed, fun hev => by simp [hevidence] at hev⟩

theorem completeRun_armed {s : PaneState} {completedAt : ℤ} {allow : Bool}
    (h : (completeRun s completedAt allow).syntheticCompletionArmed = true) :
    s.syntheticCompletionArmed = true := by
  rcases completeRun_cases s completedAt allow with hsame | hcompleted
  · exact hsame ▸ h
  · exact absurd h (by simp [hcompleted.armed])

theorem applyProgress_armed {s s' : PaneState} {operations : List ProgressOperation}
    (h : applyProgress s operations = .ok s') :
    s'.syntheticCompletionArmed = s.syntheticCompletionArmed := by
  rw [(applyOperations_progressed (applyProgress_eq_ok.mp h).1).frame]

theorem applyRegularExplicitEvent_disarms [Sha256] {s s' : PaneState} {event : PaneEvent}
    {privateTaskPrompt : Option String} (hidle : s.syntheticCompletionArmed = true →
      s.lifecycle = .idle) (hstart : event.isSessionStart = false)
    (h : applyRegularExplicitEvent s event privateTaskPrompt = .ok s') :
    Disarms s event s' := by
  cases event with
  | claudeToolResultObserved observedAt result operations =>
    obtain ⟨s₁, hs₁, h⟩ := bind_eq_ok.mp h
    obtain ⟨s₂, hs₂, h⟩ := bind_eq_ok.mp h
    refine .of_false ?_
    rw [(applyClaudeToolResult_frame h).1]
    exact (applyProgress_armed hs₂).trans (activityObserved_started hs₁).armed
  | claudeTaskNotificationsObserved observedAt notifications =>
    obtain ⟨s₁, hs₁, -, rfl⟩ := applyClaudeNotifications_eq_ok.mp h
    refine .of_false ?_
    rcases notificationActivity_cases hs₁ with hactivity | ⟨hnot, -, rfl⟩
    · exact (activityObserved_started hactivity).armed
    · exact Bool.eq_false_iff.mpr fun harmed => hnot (hidle harmed)
  | claudeStopped observedAt response registry crons =>
    rcases applyClaudeStop_cases h with ⟨-, rfl⟩ | ⟨-, -, rfl⟩ | ⟨-, -, hrelease⟩
    · exact .of_eq rfl rfl
    · exact .of_eq rfl rfl
    · rcases releaseStop_cases hrelease with rfl | hcompleted
      · exact .of_eq rfl rfl
      · exact .of_false hcompleted.armed
  | claudeSessionEnded observedAt =>
    cases h
    refine .of_eq ?_ rfl
    unfold endClaudeTracking
    split_ifs <;> rfl
  | agentSessionStarted observedAt source resumedPrompt => simp [PaneEvent.isSessionStart] at hstart
  | beginRun startedAt prompt => exact .of_false (beginRun_started h).armed
  | activityObserved observedAt => exact .of_false (activityObserved_started h).armed
  | activityAndProgressObserved observedAt operations =>
    obtain ⟨s₁, hs₁, h⟩ := bind_eq_ok.mp h
    exact .of_false ((applyProgress_armed h).trans (activityObserved_started hs₁).armed)
  | waitRequested observedAt reason => exact .of_false (waitRequested_started h).1.armed
  | completeRun completedAt =>
    cases h
    exact ⟨completeRun_armed, fun hev => by cases hev⟩
  | responseAndCompleteRun completedAt response =>
    rcases completeRunWithResponse_cases h with rfl | hcompleted
    · exact .of_eq rfl rfl
    · exact .of_false hcompleted.armed
  | failRun observedAt reason => exact .of_false (failRun_started h).1.armed
  | progressUpdated observedAt operations => exact .of_eq (applyProgress_armed h) rfl
  | explicitStateReported report =>
    obtain ⟨s₁, hs₁, rfl⟩ := applyExplicitReport_eq_ok.mp h
    have hfields : (applyReportFields s₁ report).syntheticCompletionArmed =
        s₁.syntheticCompletionArmed := rfl
    cases hlifecycle : report.lifecycle with
    | none =>
      simp only [applyReportLifecycle, hlifecycle] at hs₁
      cases hs₁
      exact .of_eq rfl (by simp [isEpochStartEvidence, hlifecycle])
    | some reported =>
      cases reported with
      | running =>
        simp only [applyReportLifecycle, hlifecycle] at hs₁
        exact .of_false (activityObserved_started hs₁).armed
      | waiting reason =>
        simp only [applyReportLifecycle, hlifecycle] at hs₁
        exact .of_false (waitRequested_started hs₁).1.armed
      | error reason =>
        simp only [applyReportLifecycle, hlifecycle] at hs₁
        exact .of_false (failRun_started hs₁).1.armed
      | idle =>
        refine ⟨fun harmed => ?_, fun hev => by simp [isEpochStartEvidence, hlifecycle] at hev⟩
        simp only [applyReportLifecycle, hlifecycle] at hs₁
        split_ifs at hs₁
        · cases hs₁
          exact completeRun_armed harmed
        · cases hs₁
          exact harmed
  | _ => cases h

def Held (s : PaneState) (event : PaneEvent) : Prop :=
  s.subagents ≠ [] ∨ (s.claudeBackground.tasks ≠ [] ∧ event.isClaudeStopped = false)

theorem completeRun_first {s : PaneState} {completedAt : ℤ} {allow : Bool} (h : Released s)
    (hzero : s.runSeq = 0) (harmed : s.syntheticCompletionArmed = true) :
    Completed s (completeRun s completedAt allow) := by
  have hopen := released_iff.mp h
  have hallowed : ¬(s.syntheticCompletionArmed = false ∧ allow = false) := by simp [harmed]
  unfold completeRun
  rw [if_neg hopen, if_pos hzero, if_neg hallowed]
  exact ⟨rfl, h, Or.inr ⟨hzero, rfl⟩, rfl, rfl, rfl, rfl, rfl⟩

theorem completeRun_armed_iff {s : PaneState} {completedAt : ℤ} {allow : Bool}
    (hzero : s.runSeq = 0) (harmed : s.syntheticCompletionArmed = true) :
    (completeRun s completedAt allow).syntheticCompletionArmed = true ↔ ¬Released s := by
  by_cases hreleased : Released s
  · have hfirst : Completed s (completeRun s completedAt allow) :=
      completeRun_first hreleased hzero harmed
    simp [hfirst.armed, hreleased]
  · simp [completeRun_held hreleased, hreleased, harmed]

theorem completeRunWithResponse_armed {s s' : PaneState} {completedAt : ℤ}
    {response : ResponseState} {allow : Bool}
    (h : completeRunWithResponse s completedAt response allow = .ok s') :
    s'.syntheticCompletionArmed = (completeRun s completedAt allow).syntheticCompletionArmed := by
  obtain ⟨-, rfl⟩ := completeRunWithResponse_eq_ok.mp h
  split_ifs <;> rfl

theorem releaseStop_armed {s s' : PaneState} {observedAt : ℤ} {response : Option ResponseState}
    {initial : Bool} (h : releaseStop s observedAt response initial = .ok s') :
    s'.syntheticCompletionArmed = (completeRun s observedAt initial).syntheticCompletionArmed := by
  cases response with
  | some response => exact completeRunWithResponse_armed h
  | none =>
    simp only [releaseStop] at h
    split_ifs at h <;> cases h <;> rfl

theorem armed_completion [Sha256] {s s' : PaneState} {event : PaneEvent}
    {privateTaskPrompt : Option String} (hs : s.Coherent)
    (harmed : s.syntheticCompletionArmed = true) (hcompletion : isCompletion event = true)
    (h : applyRegularExplicitEvent s event privateTaskPrompt = .ok s') :
    s'.syntheticCompletionArmed = true ↔ Held s event := by
  obtain ⟨hidle, hzero, -⟩ := hs.armed harmed
  have hblocks : s.claudeBackground.blocksCompletion = false :=
    Bool.eq_false_iff.mpr fun hblocks => hs.wait hblocks hidle
  have hreleased : event.isClaudeStopped = false → (¬Released s ↔ Held s event) := by
    intro hstopped
    simp only [Released, hblocks, Held, hstopped, and_true, not_and_or, ne_eq]
  cases event with
  | completeRun completedAt =>
    cases h
    exact (completeRun_armed_iff hzero harmed).trans (hreleased rfl)
  | responseAndCompleteRun completedAt response =>
    rw [completeRunWithResponse_armed h]
    exact (completeRun_armed_iff hzero harmed).trans (hreleased rfl)
  | claudeStopped observedAt response registry crons =>
    rcases applyClaudeStop_cases h with ⟨hwait, -⟩ | ⟨-, hsubagents, rfl⟩ | ⟨-, hnone, hrelease⟩
    · simp [hblocks] at hwait
    · exact ⟨fun _ => Or.inl hsubagents, fun _ => harmed⟩
    · have hfree : Released
          { checkStop s observedAt registry crons with claudeBackground := {} } :=
        ⟨hnone, rfl, rfl⟩
      have hfirst : Completed _ (completeRun _ observedAt false) :=
        completeRun_first hfree hzero harmed
      have hclosed := hfirst.armed
      rw [releaseStop_armed hrelease]
      simp [hclosed, Held, hnone, PaneEvent.isClaudeStopped]
  | explicitStateReported report =>
    simp only [isCompletion, Bool.and_eq_true, decide_eq_true_eq, Bool.or_eq_true] at hcompletion
    obtain ⟨s₁, hs₁, rfl⟩ := applyExplicitReport_eq_ok.mp h
    simp only [applyReportLifecycle, hcompletion.1] at hs₁
    rw [if_pos (Or.inr ⟨harmed, hzero, hcompletion.2⟩)] at hs₁
    cases hs₁
    exact (completeRun_armed_iff hzero harmed).trans (hreleased rfl)
  | _ => simp [isCompletion] at hcompletion

/-! ## Where the check breaks -/

/-- The explicit events that lead a valid record into one that fails its check. -/
inductive BreaksExplicit (s : PaneState) (agent : AgentKind) (session : AgentSessionId)
    (event : PaneEvent) : Prop
  | lateStop (identity : classifyIdentity s agent session = .exactAbsent)
      (stopped : event.isClaudeStopped = true)
      (blocks : s.claudeBackground.blocksCompletion = true)
      (loud : blockedLifecycle s.claudeBackground ≠ .error (some agentEndedReason))
  | ended (identity : classifyIdentity s agent session = .exactPresent)
      (ended : event.isClaudeSessionEnded = true) (idle : s.lifecycle = .idle)
      (tasks : s.claudeBackground.tasks ≠ [])
  | held (identity : classifyIdentity s agent session = .unboundPresent)
      (completion : isCompletion event = true) (armed : s.syntheticCompletionArmed = true)
      (held : Held s event)

def capturedLifecycle (s : PaneState) (inference : CaptureInference)
    (fingerprint : Option Fingerprint) : LifecycleState :=
  match inference with
  | .permissionWait reason =>
    if s.agent.value ≠ "codex" ∨ s.completedSeq < s.runSeq then .waiting reason else s.lifecycle
  | .usageLimit => .waiting .usageLimit
  | .providerError reason => .error (some reason)
  | .activityObserved =>
    if s.claudeBackground.blocksCompletion = false ∧ fingerprint.isSome = true ∧
        s.completedSeq < s.runSeq then .running
    else s.lifecycle
  | .staleRunCompleted =>
    if s.lifecycle = .running ∧ s.subagents = [] ∧ backgroundOpen s = false then .idle
    else s.lifecycle
  | .noChange => s.lifecycle

/-- A confirmed absence leaves a record in the lifecycle `l` that fails its check: receipts of an
idle record become an error, or subagents keep a run open that an absent agent may not have. -/
def Unsettled (s : PaneState) (l : LifecycleState) : Prop :=
  (l = .idle ∧ s.claudeBackground.tasks ≠ []) ∨
    (s.completedSeq < s.runSeq ∧ backgroundOpen s = false ∧ s.subagents ≠ [] ∧ l.quiet = false)

/-- Whether polls of the record count absences. -/
def countsAbsence (s : PaneState) : Bool :=
  s.scanVerified && supportsProcessDetection s.agent

inductive BreaksObservation (s : PaneState) (tracker : CaptureTrackerSnapshot)
    (capture : Option CaptureObservation) : AgentPresenceObservation → Prop
  | confirmed (counts : countsAbsence s = true) (counted : 0 < tracker.absenceCount)
      (unsettled : Unsettled s
        (capturedLifecycle s (effectiveInference tracker capture) tracker.fingerprint)) :
      BreaksObservation s tracker capture .absent
  | loud (waits : tracker.absenceCount = 0 ∨ countsAbsence s = false)
      (gone : s.agentPresent = false)
      (loud : (capturedLifecycle s (effectiveInference tracker capture)
        tracker.fingerprint).quiet = false) :
      BreaksObservation s tracker capture .absent
  | replaced (agent : AgentKind) (differs : agent ≠ s.agent) (present : s.agentPresent = true)
      (verified : s.scanVerified = true) (counted : 0 < tracker.absenceCount)
      (unsettled : Unsettled s s.lifecycle) :
      BreaksObservation s tracker capture (.present agent)

/-- The inputs on which the reducer refuses its own record, or counts a poll too many. -/
inductive Breaks (s : PaneState) (envelope : PaneEventEnvelope) (context : ReductionContext) : Prop
  | done (expected : StateVersion) (completedAt : ℤ)
      (event : envelope.event = .markDone expected completedAt) (version : s.version = expected)
      (closed : s.runSeq = s.completedSeq) (projected : s.currentRun ≠ none)
  | explicit (agent : AgentKind) (session : AgentSessionId)
      (hasAgent : envelope.agent = some agent) (hasSession : envelope.agentSessionId = some session)
      (claude : envelope.event.isClaude = true → agent.value = "claude")
      (breaks : BreaksExplicit s agent session envelope.event)
  | observation (observedAt : ℤ) (presence : AgentPresenceObservation)
      (capture : Option CaptureObservation) (process : Option ProcessObservation)
      (event : envelope.event = .observationBatch (some (.canonical s.version))
        context.tracker.generation observedAt presence capture process)
      (breaks : BreaksObservation s context.tracker capture presence)
  | polled (runsOver : PollRunsOver s envelope.event context.tracker)

variable [Sha256]

/-- A record that passes its check under every positive revision. -/
structure Settleable (s : PaneState) : Prop where
  coherent : s.Coherent
  absent : s.agentPresent = false → s.scanVerified = true ∧ s.lifecycle.quiet = true
  armedSession : s.syntheticCompletionArmed = true → s.agentSessionId = none

theorem settleable_iff {s : PaneState} {revision : ℕ} (h : 0 < revision) :
    ({ s with revision := revision } : PaneState).Valid ↔ Settleable s :=
  ⟨fun hs => ⟨{ hs.toCoherent with schema := hs.schema }, hs.absent, hs.armedSession⟩,
    fun hs =>
      { hs.coherent with
        revision := h
        absent := hs.absent
        armedSession := hs.armedSession }⟩

theorem PaneState.Valid.settleable {s : PaneState} (hs : s.Valid) : Settleable s :=
  ⟨hs.toCoherent, hs.absent, hs.armedSession⟩

theorem PaneState.Valid.disarmed {s : PaneState} (hs : s.Valid) {session : AgentSessionId}
    (h : s.agentSessionId = some session) : s.syntheticCompletionArmed = false :=
  Bool.eq_false_iff.mpr fun harmed => by simp [hs.armedSession harmed] at h

theorem Settleable.of_present {s : PaneState} (hs : s.Coherent) (hpresent : s.agentPresent = true)
    (harmed : s.syntheticCompletionArmed = false) : Settleable s :=
  ⟨hs, fun h => by simp [hpresent] at h, fun h => by simp [harmed] at h⟩

omit [Sha256] in
theorem checkStop_blockedLifecycle {s : PaneState} {observedAt : ℤ}
    {registry : Option (List ClaudeRegistryEntry)} {crons : Option (List ClaudeCron)} :
    blockedLifecycle (checkStop s observedAt registry crons).claudeBackground =
      blockedLifecycle s.claudeBackground := rfl

theorem late_quiet {s s₁ : PaneState} {agent : AgentKind} {session : AgentSessionId}
    {event : PaneEvent} {privateTaskPrompt : Option String} (hquiet : s.lifecycle.quiet = true)
    (hidentity : classifyIdentity s agent session = .exactAbsent)
    (hcompletion : isCompletionForState s event = true)
    (hok : ¬BreaksExplicit s agent session event)
    (h : applyRegularExplicitEvent s event privateTaskPrompt = .ok s₁) :
    s₁.lifecycle.quiet = true := by
  have hcomplete : ∀ s₂ : PaneState, s₂ = s ∨ Completed s s₂ → s₂.lifecycle.quiet = true := by
    rintro s₂ (rfl | hcompleted)
    · exact hquiet
    · rw [hcompleted.lifecycle]
      rfl
  cases event with
  | completeRun completedAt =>
    cases h
    exact hcomplete _ (completeRun_cases s completedAt false)
  | responseAndCompleteRun completedAt response =>
    exact hcomplete _ (completeRunWithResponse_cases h)
  | claudeStopped observedAt response registry crons =>
    rcases applyClaudeStop_cases h with ⟨hblocks, rfl⟩ | ⟨-, -, rfl⟩ | ⟨-, -, hrelease⟩
    · by_cases hloud : blockedLifecycle s.claudeBackground = .error (some agentEndedReason)
      · dsimp only
        rw [checkStop_blockedLifecycle, hloud]
        rfl
      · exact absurd (.lateStop hidentity rfl hblocks hloud) hok
    · exact hquiet
    · rcases releaseStop_cases hrelease with rfl | hcompleted
      · exact hquiet
      · rw [hcompleted.lifecycle]
        rfl
  | explicitStateReported report =>
    simp only [isCompletionForState, Bool.and_eq_true, decide_eq_true_eq] at hcompletion
    obtain ⟨s₂, hs₂, rfl⟩ := applyExplicitReport_eq_ok.mp h
    simp only [applyReportLifecycle, hcompletion.1] at hs₂
    split_ifs at hs₂
    · cases hs₂
      have hsettled := hcomplete _ (completeRun_cases s (report.completedAt.getD report.observedAt)
        false)
      exact hsettled
    · cases hs₂
      exact hquiet
  | _ => simp [isCompletionForState] at hcompletion

omit [Sha256] in
theorem isCompletion_of_armed {s : PaneState} {event : PaneEvent} (hzero : s.runSeq = 0)
    (h : isCompletionForState s event = true) : isCompletion event = true := by
  cases event <;> simp_all [isCompletionForState, isCompletion]

omit [Sha256] in
theorem isCompletionForState_not_ended {s : PaneState} {event : PaneEvent}
    (h : isCompletionForState s event = true) : event.isClaudeSessionEnded = false := by
  cases event <;> simp_all [isCompletionForState, PaneEvent.isClaudeSessionEnded]

omit [Sha256] in
theorem evidence_not_ended {event : PaneEvent} (h : isEpochStartEvidence event = true) :
    event.isClaudeSessionEnded = false := by
  cases event <;> simp_all [isEpochStartEvidence, PaneEvent.isClaudeSessionEnded]

/-! ## Confirmed absences -/

omit [Sha256] in
theorem endClaudeTracking_lifecycle {s : PaneState} (hopen : backgroundOpen s = true) :
    (endClaudeTracking s).lifecycle =
      if s.lifecycle.isUsageLimited then s.lifecycle else .error (some agentEndedReason) := by
  unfold endClaudeTracking
  rw [if_pos hopen]

omit [Sha256] in
theorem endClaudeTracking_quiet {s : PaneState} (hopen : backgroundOpen s = true) :
    (endClaudeTracking s).lifecycle.quiet = true := by
  rw [endClaudeTracking_lifecycle hopen]
  split_ifs with husage
  · cases hlifecycle : s.lifecycle with
    | waiting reason =>
      rw [hlifecycle] at husage
      exact husage
    | _ => simp [hlifecycle, LifecycleState.isUsageLimited] at husage
  · rfl

omit [Sha256] in
theorem not_released_of_subagents {s : PaneState} (h : s.subagents ≠ []) : ¬Released s :=
  fun hreleased => h hreleased.1

omit [Sha256] in
theorem released_of_closed {s : PaneState} (hclosed : backgroundOpen s = false)
    (hsubagents : s.subagents = []) : Released s := by
  obtain ⟨htasks, hblocks⟩ := backgroundOpen_eq_false.mp hclosed
  exact ⟨hsubagents, htasks, hblocks⟩

theorem settleRun_quiet {s : PaneState} {observedAt : ℤ} (hs : s.Coherent)
    (hsettled : ¬Unsettled s s.lifecycle) : (settleRun s observedAt).lifecycle.quiet = true := by
  unfold settleRun
  split_ifs with hbackground hopen
  · exact endClaudeTracking_quiet hbackground
  · by_cases hsubagents : s.subagents = []
    · rw [(completeRun_released (released_of_closed (by simpa using hbackground) hsubagents)
        hopen).lifecycle]
      rfl
    · rw [completeRun_held (not_released_of_subagents hsubagents)]
      by_contra hloud
      exact hsettled (Or.inr ⟨hopen, by simpa using hbackground, hsubagents, by simpa using hloud⟩)
  · have horder := hs.order
    rw [hs.lifecycle.mpr (by omega)]
    rfl

omit [Sha256] in
theorem settleRun_armed {s : PaneState} {observedAt : ℤ}
    (h : (settleRun s observedAt).syntheticCompletionArmed = true) :
    s.syntheticCompletionArmed = true := by
  unfold settleRun endClaudeTracking at h
  split_ifs at h
  · exact h
  · exact h
  · exact completeRun_armed h
  · exact h

/-- The two ways an observation can spoil a record: an error without an open run, or a lifecycle
that an absent agent may not have. -/
def Violates (s : PaneState) : Prop :=
  (s.lifecycle ≠ .idle ∧ s.runSeq = s.completedSeq) ∨
    (s.agentPresent = false ∧ s.lifecycle.quiet = false)

theorem Violates.not_settleable {s : PaneState} (h : Violates s) : ¬Settleable s := by
  rintro hs
  rcases h with ⟨hlifecycle, hclosed⟩ | ⟨hgone, hloud⟩
  · exact hlifecycle (hs.coherent.lifecycle.mpr hclosed)
  · simp [(hs.absent hgone).2] at hloud

theorem confirmAbsent_violates {s : PaneState} {observedAt : ℤ} (hs : s.Coherent)
    (h : Unsettled s s.lifecycle) : Violates (confirmAbsent s observedAt) := by
  rcases h with ⟨hidle, htasks⟩ | ⟨hopen, hbackground, hsubagents, hloud⟩
  · have hopen : backgroundOpen s = true := by
      simp [backgroundOpen, htasks]
    obtain ⟨-, hrun, hcompleted⟩ := endClaudeTracking_kept s
    rw [confirmAbsent_eq, settleRun, if_pos hopen]
    refine Or.inl ⟨?_, ?_⟩
    · dsimp only
      rw [endClaudeTracking_lifecycle hopen, hidle]
      exact LifecycleState.noConfusion
    · dsimp only
      rw [hrun, hcompleted]
      exact hs.lifecycle.mp hidle
  · rw [confirmAbsent_eq, settleRun, if_neg (by simp [hbackground]), if_pos hopen,
      completeRun_held (not_released_of_subagents hsubagents)]
    exact Or.inr ⟨rfl, hloud⟩

theorem confirmAbsent_settleable {s : PaneState} {observedAt : ℤ} (hs : s.Coherent)
    (harmed : s.syntheticCompletionArmed = true → s.agentSessionId = none)
    (hsettled : ¬Unsettled s s.lifecycle) : Settleable (confirmAbsent s observedAt) := by
  have hidle : s.lifecycle = .idle → s.claudeBackground.tasks = [] := by
    intro hidle
    by_contra htasks
    exact hsettled (Or.inl ⟨hidle, htasks⟩)
  refine ⟨(settleRun_coherent hs hidle).depart, fun _ => ⟨rfl, settleRun_quiet hs hsettled⟩, ?_⟩
  intro harm
  have hsession : (confirmAbsent s observedAt).agentSessionId = s.agentSessionId :=
    congrArg PaneIdentity.agentSessionId (settleRun_identity s observedAt)
  rw [hsession]
  exact harmed (settleRun_armed harm)

/-! ## Captures -/

theorem applyInference_lifecycle {s s₁ : PaneState} {inference : CaptureInference}
    {fingerprint : Option Fingerprint} {observedAt : ℤ} (hs : s.Coherent)
    (h : applyInference s inference fingerprint observedAt = .ok s₁) :
    s₁.lifecycle = capturedLifecycle s inference fingerprint := by
  cases inference with
  | permissionWait reason =>
    simp only [applyInference, capturedLifecycle] at h ⊢
    split_ifs at h ⊢
    · exact (waitRequested_started h).2
    · cases h
      rfl
  | usageLimit => exact (waitRequested_started h).2
  | providerError reason => exact (failRun_started h).2
  | activityObserved =>
    simp only [applyInference, capturedLifecycle] at h ⊢
    split_ifs at h ⊢
    · obtain ⟨_, -, rfl⟩ := activityObserved_eq_ok.mp h
      rfl
    · cases h
      rfl
  | staleRunCompleted =>
    simp only [applyInference, capturedLifecycle] at h ⊢
    by_cases hrunning : s.lifecycle = .running
    · rw [if_pos hrunning] at h
      cases h
      have hopen : s.completedSeq < s.runSeq := by
        refine lt_of_le_of_ne hs.order fun heq => ?_
        simp [hs.lifecycle.mpr heq.symm] at hrunning
      split_ifs with hfree
      · exact (completeRun_released (released_of_closed hfree.2.2 hfree.2.1) hopen).lifecycle
      · rw [completeRun_held]
        rintro ⟨hsubagents, htasks, hblocks⟩
        exact hfree ⟨hrunning, hsubagents, backgroundOpen_eq_false.mpr ⟨htasks, hblocks⟩⟩
    · rw [if_neg hrunning] at h
      cases h
      rw [if_neg fun hfree => hrunning hfree.1]
  | noChange =>
    cases h
    rfl

omit [Sha256] in
theorem applyInference_armed {s s₁ : PaneState} {inference : CaptureInference}
    {fingerprint : Option Fingerprint} {observedAt : ℤ}
    (h : applyInference s inference fingerprint observedAt = .ok s₁)
    (harmed : s₁.syntheticCompletionArmed = true) : s.syntheticCompletionArmed = true := by
  rcases applyInference_cases h with rfl | hstarted | hcompleted
  · exact harmed
  · simp [hstarted.armed] at harmed
  · simp [hcompleted.armed] at harmed

omit [Sha256] in
theorem backgroundOpen_congr {s s' : PaneState}
    (htasks : s'.claudeBackground.tasks = s.claudeBackground.tasks)
    (hfaults : s'.claudeBackground.faults = s.claudeBackground.faults) :
    backgroundOpen s' = backgroundOpen s := by
  simp only [backgroundOpen, htasks, ClaudeBackgroundState.blocksCompletion_congr htasks hfaults]

theorem applyInference_unsettled {s s₁ : PaneState} {inference : CaptureInference}
    {fingerprint : Option Fingerprint} {observedAt : ℤ} (hs : s.Coherent)
    (h : applyInference s inference fingerprint observedAt = .ok s₁) :
    Unsettled s₁ s₁.lifecycle ↔ Unsettled s (capturedLifecycle s inference fingerprint) := by
  have hlifecycle := applyInference_lifecycle hs h
  have horder := hs.order
  rcases applyInference_cases h with rfl | hstarted | hcompleted
  · rw [← hlifecycle]
  · have hidle := hstarted.notIdle
    have hcount := hstarted.completedSeq
    rw [hlifecycle] at hidle ⊢
    by_cases hclosed : s.runSeq = s.completedSeq
    · obtain ⟨-, hsubagents, -, -⟩ := hstarted.opened hclosed
      constructor
      · rintro (⟨hidle', -⟩ | ⟨-, -, hsome, -⟩)
        · exact absurd hidle' hidle
        · exact absurd hsubagents hsome
      · rintro (⟨hidle', -⟩ | ⟨hopen, -⟩)
        · exact absurd hidle' hidle
        · omega
    · obtain ⟨hrun, hsubagents, htasks, hfaults⟩ := hstarted.continued hclosed
      simp only [Unsettled, hrun, hcount, hsubagents, htasks, backgroundOpen_congr htasks hfaults]
  · obtain ⟨hsubagents, htasks, -⟩ := hcompleted.released
    have hdone := hcompleted.completedSeq
    have hempty : s₁.claudeBackground.tasks = [] := by
      rw [hcompleted.background]
    rw [hlifecycle]
    constructor
    · rintro (⟨-, hsome⟩ | ⟨hopen, -⟩)
      · exact absurd hempty hsome
      · omega
    · rintro (⟨-, hsome⟩ | ⟨-, -, hsome, -⟩)
      · exact absurd htasks hsome
      · exact absurd hsubagents hsome

/-! ## Branches that keep the check -/

theorem applyProcessObservation_settleable {s s' : PaneState}
    {process : Option ProcessObservation} (hs : Settleable s)
    (h : applyProcessObservation s process = .ok s') : Settleable s' := by
  have hcoherent := applyProcessObservation_coherent hs.coherent h
  have hframe := applyProcessObservation_spec h
  refine ⟨hcoherent, ?_, ?_⟩
  · rw [hframe]
    exact hs.absent
  · rw [hframe]
    exact hs.armedSession

theorem Observed.settleable {s s' : PaneState} {tracker tracker' : CaptureTrackerSnapshot}
    {presence : AgentPresenceObservation} {capture : Option CaptureObservation}
    {process : Option ProcessObservation} {observedAt : ℤ} (hs : s.Valid)
    (hparts : ∀ c ∈ capture, c.inference.PartsValid)
    (hok : ¬BreaksObservation s tracker capture presence)
    (h : Observed s tracker presence capture process observedAt s' tracker') :
    Settleable s' := by
  cases h with
  | epoch agent presence begins tracker =>
    have hfresh := (beginAgentEpoch_fresh begins).2
    exact .of_present (beginAgentEpoch_coherent hs.toCoherent begins) hfresh.present hfresh.armed
  | unknown presence record tracker => exact record ▸ hs.settleable
  | same presence present inference effective record evidence =>
    have hverified : ({ s with scanVerified := true } : PaneState).Coherent :=
      { hs.toCoherent with armed := fun harmed => ⟨(hs.armed harmed).1, (hs.armed harmed).2.1, rfl⟩ }
    have hidentity := applyInference_identity record
    have hpresent : s'.agentPresent = s.agentPresent := congrArg PaneIdentity.agentPresent hidentity
    have hsession : s'.agentSessionId = s.agentSessionId :=
      congrArg PaneIdentity.agentSessionId hidentity
    refine ⟨applyInference_coherent hverified (effective ▸ effectiveInference_parts hparts) record,
      fun hgone => ?_, fun harmed => ?_⟩
    · simp [hpresent, present] at hgone
    · have harmed := applyInference_armed record harmed
      rw [hsession]
      exact hs.armedSession harmed
  | absent presence s₁ record counted evidence =>
    have hcoherent := applyInference_coherent hs.toCoherent (effectiveInference_parts hparts) record
    have hidentity := applyInference_identity record
    have hsession : s₁.agentSessionId = s.agentSessionId :=
      congrArg PaneIdentity.agentSessionId hidentity
    have harmed : s₁.syntheticCompletionArmed = true → s₁.agentSessionId = none := by
      intro harmed
      rw [hsession]
      exact hs.armedSession (applyInference_armed record harmed)
    subst presence
    rcases counted with ⟨rfl, hwaits⟩ | ⟨rfl, hcount, hverified, hdetectable⟩
    · refine ⟨hcoherent, fun hgone => ?_, harmed⟩
      have hpresent : s'.agentPresent = s.agentPresent :=
        congrArg PaneIdentity.agentPresent hidentity
      have hverified : s'.scanVerified = s.scanVerified :=
        congrArg PaneIdentity.scanVerified hidentity
      rw [hpresent] at hgone
      rw [hverified, applyInference_lifecycle hs.toCoherent record]
      refine ⟨(hs.absent hgone).1, ?_⟩
      by_contra hloud
      refine hok (.loud (hwaits.imp_right fun hcounts => ?_) hgone (by simpa using hloud))
      simpa [countsAbsence] using hcounts
    · refine confirmAbsent_settleable hcoherent harmed fun hunsettled => ?_
      refine hok (.confirmed (by simp [countsAbsence, hverified, hdetectable]) hcount ?_)
      exact (applyInference_unsettled hs.toCoherent record).mp hunsettled
  | other agent presence differs present counted evidence streak =>
    subst presence
    rcases counted with ⟨rfl, -⟩ | ⟨rfl, hcount, hverified⟩
    · exact hs.settleable
    · refine confirmAbsent_settleable hs.toCoherent hs.armedSession fun hunsettled => ?_
      exact hok (.replaced agent differs present hverified hcount hunsettled)

/-- What is assumed of the parts of an event, and of a private prompt that comes with it. -/
structure Wellformed (s : PaneState) (agent : AgentKind) (event : PaneEvent)
    (privateTaskPrompt : Option String) : Prop where
  parts : event.PartsValid
  claude : event.isClaude = true → agent.value = "claude"
  privatePrompt : PrivatePromptSound privateTaskPrompt s

theorem ExplicitStep.settleable {s s' : PaneState} {agent : AgentKind} {session : AgentSessionId}
    {event : PaneEvent} {tracker : CaptureTrackerSnapshot} {privateTaskPrompt : Option String}
    (hs : s.Valid) (hwell : Wellformed s agent event privateTaskPrompt)
    (hstart : event.isSessionStart = false) (hok : ¬BreaksExplicit s agent session event)
    (h : ExplicitStep s agent session event tracker privateTaskPrompt s') : Settleable s' := by
  have harmedIdle : s.syntheticCompletionArmed = true → s.lifecycle = .idle :=
    fun harmed => (hs.armed harmed).1
  cases h with
  | regular identity record =>
    obtain ⟨hagent, hsession, hpresent⟩ := classifyIdentity_exactPresent identity
    have hadmissible : Admissible s event privateTaskPrompt :=
      { parts := hwell.parts
        claude := hagent ▸ hwell.claude
        privatePrompt := hwell.privatePrompt
        ended := fun hended hidle => by
          by_contra htasks
          exact hok (.ended identity hended hidle htasks) }
    have hidentity := (applyRegularExplicitEvent_identity record).1
    have hdisarms := applyRegularExplicitEvent_disarms harmedIdle hstart record
    refine .of_present (applyRegularExplicitEvent_coherent hs.toCoherent hadmissible record)
      ((congrArg PaneIdentity.agentPresent hidentity).trans hpresent) ?_
    exact Bool.eq_false_iff.mpr fun harmed => by
      have harmed := hdisarms.armed harmed
      simp [hs.disarmed hsession] at harmed
  | entered source evidence allowed s₀ begins record =>
    have hfresh := (beginAgentEpoch_fresh begins).2
    have hadmissible : Admissible s₀ event privateTaskPrompt :=
      { parts := hwell.parts
        claude := hfresh.agent ▸ hwell.claude
        privatePrompt := ⟨hwell.privatePrompt.text, fun _ => by
          rw [hfresh.taskContext]
          exact fun h => h⟩
        ended := fun hended => by simp [evidence_not_ended evidence] at hended }
    have hidentity := (applyRegularExplicitEvent_identity record).1
    have hdisarms := applyRegularExplicitEvent_disarms (fun _ => hfresh.lifecycle) hstart record
    exact .of_present (applyRegularExplicitEvent_coherent
      (beginAgentEpoch_coherent hs.toCoherent begins) hadmissible record)
      ((congrArg PaneIdentity.agentPresent hidentity).trans hfresh.present)
      (hdisarms.evidence evidence)
  | late identity evidence completion s₁ record left =>
    obtain ⟨hagent, hsession, habsent⟩ := classifyIdentity_exactAbsent identity
    have hadmissible : Admissible s event privateTaskPrompt :=
      { parts := hwell.parts
        claude := hagent ▸ hwell.claude
        privatePrompt := hwell.privatePrompt
        ended := fun hended => by simp [isCompletionForState_not_ended completion] at hended }
    have hcoherent := applyRegularExplicitEvent_coherent hs.toCoherent hadmissible record
    have hdisarms := applyRegularExplicitEvent_disarms harmedIdle hstart record
    have hdisarmed : s₁.syntheticCompletionArmed = false :=
      Bool.eq_false_iff.mpr fun harmed => by
        have harmed := hdisarms.armed harmed
        simp [hs.disarmed hsession] at harmed
    have hquiet := late_quiet (hs.absent habsent).2 identity completion hok record
    rw [left]
    refine ⟨{ hcoherent with armed := fun harmed => ?_ }, fun _ => ⟨rfl, hquiet⟩, fun harmed => ?_⟩
    · simp [hdisarmed] at harmed
    · simp [hdisarmed] at harmed
  | bound identity accepted record =>
    obtain ⟨hagent, hsession, hpresent⟩ := classifyIdentity_unboundPresent identity
    have hended : event.isClaudeSessionEnded = false := by
      rcases accepted with hevidence | ⟨hcompletion, -⟩
      · exact evidence_not_ended hevidence
      · exact isCompletionForState_not_ended hcompletion
    have hbound : ({ s with agentSessionId := some session } : PaneState).Coherent :=
      { hs.toCoherent with schema := hs.schema }
    have hadmissible :
        Admissible { s with agentSessionId := some session } event privateTaskPrompt :=
      { parts := hwell.parts
        claude := hagent ▸ hwell.claude
        privatePrompt := ⟨hwell.privatePrompt.text, hwell.privatePrompt.sealing⟩
        ended := fun h => by simp [hended] at h }
    have hidentity := (applyRegularExplicitEvent_identity record).1
    have hdisarms := applyRegularExplicitEvent_disarms (s := { s with agentSessionId := some session })
      harmedIdle hstart record
    refine .of_present (applyRegularExplicitEvent_coherent hbound hadmissible record)
      ((congrArg PaneIdentity.agentPresent hidentity).trans hpresent) ?_
    rcases accepted with hevidence | ⟨hcompletion, harmed⟩
    · exact hdisarms.evidence hevidence
    · have hcompletes := isCompletion_of_armed (hs.armed harmed).2.1 hcompletion
      refine Bool.eq_false_iff.mpr fun hleft => hok (.held identity hcompletes harmed ?_)
      exact (armed_completion hbound harmed hcompletes record).mp hleft
  | ignored identity refused record => exact record ▸ hs.settleable

omit [Sha256] in
theorem markDone_frame {s s' : PaneState} {completedAt : ℤ}
    (h : markDone s completedAt = .ok s') :
    s'.identity = s.identity ∧ s'.lifecycle = .idle ∧ s'.syntheticCompletionArmed = false := by
  rw [(markDone_spec h).2.1]
  exact ⟨rfl, rfl, rfl⟩

theorem Finished.settleable {s s' : PaneState} {envelope : PaneEventEnvelope}
    {context : ReductionContext} {tracker : CaptureTrackerSnapshot}
    {previous : Option CaptureTrackerSnapshot} (hs : s.Valid) (hparts : envelope.event.PartsValid)
    (hprivate : PrivatePromptSound context.privateTaskPrompt s)
    (hok : ¬Breaks s envelope context)
    (h : Finished s envelope context s' tracker previous) : Settleable s' := by
  cases h with
  | read throughOrder event record next =>
    rcases record with rfl | rfl
    · exact hs.settleable
    · exact ⟨{ hs.toCoherent with unread := UnreadState.validate_read hs.unread }, hs.absent,
        hs.armedSession⟩
  | summary expectedStateId expectedAgentEpoch summary event valid record next =>
    rw [record]
    exact ⟨{ hs.toCoherent with
      taskContext := TaskContextState.summary_validate hs.taskContext valid }, hs.absent,
      hs.armedSession⟩
  | done expected completedAt event version record next =>
    have hrun : s.runSeq = s.completedSeq → s.currentRun = none := by
      intro hclosed
      by_contra hprojected
      exact hok (.done expected completedAt event version hclosed hprojected)
    obtain ⟨hidentity, hidle, harmed⟩ := markDone_frame record
    refine ⟨markDone_coherent hs.toCoherent hrun record, fun hgone => ⟨?_, ?_⟩, fun h => ?_⟩
    · have hpresent : s'.agentPresent = s.agentPresent :=
        congrArg PaneIdentity.agentPresent hidentity
      rw [show s'.scanVerified = s.scanVerified from congrArg PaneIdentity.scanVerified hidentity]
      exact (hs.absent (hpresent ▸ hgone)).1
    · rw [hidle]
      rfl
    · simp [harmed] at h
  | sessionStart agent session observedAt source resumedPrompt hasAgent hasSession event
      notCompact s₀ begins record next =>
    have hfresh := (beginAgentEpoch_fresh begins).2
    have hprompt : forSome PromptState.validate resumedPrompt = .ok () := by
      rw [event] at hparts
      exact hparts
    rw [record]
    exact .of_present (applyAgentSessionStarted_coherent
      (beginAgentEpoch_coherent hs.toCoherent begins) hprompt) hfresh.present hfresh.armed
  | interruption agent session hasAgent hasSession external verifies record next =>
    exact record ▸ hs.settleable
  | explicit agent session hasAgent hasSession external notStart claude step next =>
    exact step.settleable hs ⟨hparts, claude, hprivate⟩ notStart fun hbreaks =>
      hok (.explicit agent session hasAgent hasSession claude hbreaks)
  | observation base trackerGeneration observedAt presence capture process event current
      generation s₁ tracker₁ observed record next =>
    rw [event] at hparts
    refine applyProcessObservation_settleable
      (observed.settleable hs hparts.1 fun hbreaks => hok ?_) record
    exact .observation observedAt presence capture process (current ▸ generation ▸ event) hbreaks

/-! ## First records -/

theorem initialState_coherent {paneInstance : PaneInstance} {agent : AgentKind}
    {session : Option AgentSessionId} {scanVerified armed : Bool} {stateId : StateId}
    (hpane : paneInstance.validate = .ok ()) (harmed : armed = true → scanVerified = true) :
    (initialState paneInstance agent session scanVerified armed stateId).Coherent :=
  { schema := rfl
    background := .default 0
    crons := ClaudeCronSnapshot.validate_default
    paneInstance := hpane
    process := rfl
    epoch := Nat.one_pos
    order := le_rfl
    oneOpen := Nat.zero_le _
    currentRun := by simp [initialState]
    wait := by simp [initialState]
    claude := Or.inr ⟨rfl, rfl, rfl⟩
    lifecycle := by simp [initialState]
    armed := fun h => ⟨rfl, rfl, harmed h⟩
    zeroRun := fun _ => rfl
    startedAt := by simp [initialState]
    completedAt := by simp [initialState]
    reason := rfl
    prompt := rfl
    latestResponse := rfl
    taskContext := TaskContextState.validate_default
    tasks := validateTasks_default
    subagents := validateSubagents_nil
    worktreeActivity := rfl
    backgroundProcess := rfl
    listeningPorts := validatePorts_nil
    unread := (by decide : ({} : UnreadState).validate = .ok ()) }

structure FirstRecord (s₀ s' : PaneState) : Prop where
  identity : s'.identity = s₀.identity
  disarmed : s'.syntheticCompletionArmed = false
  coherent : s'.Coherent

theorem applyInitialExplicitEvent_first {s₀ s' : PaneState} {event : PaneEvent}
    {privateTaskPrompt : Option String} (hs : s₀.Coherent)
    (harmed : s₀.syntheticCompletionArmed = false)
    (ha : Admissible s₀ event privateTaskPrompt)
    (h : applyInitialExplicitEvent s₀ event privateTaskPrompt = .ok s') : FirstRecord s₀ s' := by
  have hcomplete : ∀ completedAt, FirstRecord s₀ (completeRun s₀ completedAt true) := by
    refine fun completedAt => ⟨completeRun_identity, ?_, completeRun_coherent hs⟩
    exact Bool.eq_false_iff.mpr fun h => by simp [completeRun_armed h] at harmed
  have hregular : applyRegularExplicitEvent s₀ event privateTaskPrompt = .ok s' →
      FirstRecord s₀ s' := by
    intro h
    refine ⟨(applyRegularExplicitEvent_identity h).1, ?_, applyRegularExplicitEvent_coherent hs ha h⟩
    cases hstart : event.isSessionStart with
    | false =>
      have hdisarms := applyRegularExplicitEvent_disarms (fun h => by simp [harmed] at h) hstart h
      exact Bool.eq_false_iff.mpr fun h => by simp [hdisarms.armed h] at harmed
    | true =>
      cases event <;> simp only [PaneEvent.isSessionStart, Bool.false_eq_true] at hstart
      cases h
      exact harmed
  unfold applyInitialExplicitEvent at h
  split at h
  · rename_i observedAt response registry crons
    refine ⟨(applyClaudeStop_inEpoch trivial h : InEpoch True _ _).identity, ?_,
      applyClaudeStop_coherent hs (ha.claude rfl) ha.parts.1 h⟩
    rcases applyClaudeStop_cases h with ⟨-, rfl⟩ | ⟨-, -, rfl⟩ | ⟨-, -, hrelease⟩
    · exact harmed
    · exact harmed
    · rcases releaseStop_cases hrelease with rfl | hcompleted
      · exact harmed
      · exact hcompleted.armed
  · cases h
    exact hcomplete _
  · rename_i completedAt response
    refine ⟨(completeRunWithResponse_inEpoch h : InEpoch True _ _).identity, ?_,
      completeRunWithResponse_coherent hs h⟩
    rw [completeRunWithResponse_armed h]
    exact (hcomplete completedAt).disarmed
  · rename_i report
    split_ifs at h
    · cases h
      have hfirst := hcomplete (report.completedAt.getD report.observedAt)
      exact ⟨hfirst.identity, hfirst.disarmed, applyReportFields_coherent hfirst.coherent ha.parts⟩
    · exact hregular h
  · exact hregular h

theorem Created.settleable {envelope : PaneEventEnvelope} {context : ReductionContext}
    {s' : PaneState} {tracker : CaptureTrackerSnapshot}
    (hpane : envelope.paneInstance.validate = .ok ()) (hparts : envelope.event.PartsValid)
    (hprivate : ∀ text ∈ context.privateTaskPrompt, hasControl text = false)
    (h : Created envelope context s' tracker) :
    Settleable s' ∧ s'.unread = {} := by
  cases h with
  | explicit agent session hasAgent hasSession external claude creates s₀ new record next =>
    obtain ⟨stateId, -, rfl⟩ := newState_eq_ok.mp new
    have hended : envelope.event.isClaudeSessionEnded = false := by
      cases hevent : envelope.event <;>
        simp_all [canCreateFromExplicit, isEpochStartEvidence, isCompletion,
          PaneEvent.isClaudeSessionEnded]
    have hadmissible : Admissible
        (initialState envelope.paneInstance agent (some session) false false stateId)
        envelope.event context.privateTaskPrompt :=
      { parts := hparts
        claude := claude
        privatePrompt := ⟨hprivate, fun _ h => h⟩
        ended := fun h => by simp [hended] at h }
    have hfirst := applyInitialExplicitEvent_first (initialState_coherent hpane (by simp)) rfl
      hadmissible record
    exact ⟨.of_present hfirst.coherent (congrArg PaneIdentity.agentPresent hfirst.identity)
      hfirst.disarmed, congrArg PaneIdentity.unread hfirst.identity⟩
  | observation base trackerGeneration observedAt agent capture process event s₀ new record next =>
    obtain ⟨stateId, -, rfl⟩ := newState_eq_ok.mp new
    have hnew : Settleable (initialState envelope.paneInstance agent none true true stateId) :=
      ⟨initialState_coherent hpane fun _ => rfl, by simp [initialState], fun _ => rfl⟩
    refine ⟨applyProcessObservation_settleable hnew record, ?_⟩
    rw [applyProcessObservation_spec record]
    rfl

/-! ## Settling -/

theorem settle_ok {current : Option PaneState} {event : PaneEvent} {context : ReductionContext}
    {s : PaneState} {tracker : CaptureTrackerSnapshot}
    {previous : Option CaptureTrackerSnapshot} (hs : Settleable s)
    (hrevision : ∀ existing ∈ current, existing.revision < u64Max)
    (hseq : s.unread.occurrenceSeq < u64Max)
    (horder : max context.latestUnreadOrder s.unread.latestOrder < u64Max) :
    ∃ r, settle current event context (.finish s tracker previous) = .ok r := by
  by_cases hsame : current = some s
  · simp only [settle, finishStateReduction, if_pos hsame]
    cases (trackerDelta tracker previous).isSome with
    | false => exact ⟨_, rfl⟩
    | true => exact ⟨_, rfl⟩
  · obtain ⟨revision, hnext⟩ : ∃ revision, nextRevision current = .ok revision := by
      cases current with
      | none => exact ⟨1, rfl⟩
      | some existing => exact ⟨_, increment_of_lt (hrevision existing rfl)⟩
    have hvalid := (settleable_iff (nextRevision_pos hnext)).mpr hs
    obtain ⟨s', hunread⟩ : ∃ s', applyUnreadTransition current event
        { s with revision := revision } context = .ok s' := applyUnreadTransition_ok hseq horder
    have hvalid' := applyUnreadTransition_valid hvalid hunread
    refine ⟨⟨some s', trackerDelta tracker previous, .canonicalChanged⟩, ?_⟩
    refine bind_eq_ok.mpr ⟨⟨some { s with revision := revision }, trackerDelta tracker previous,
      .canonicalChanged⟩, ?_, ?_⟩
    · simp only [finishStateReduction, if_neg hsame]
      refine bind_eq_ok.mpr ⟨revision, hnext, seq_eq_ok.mpr ⟨?_, rfl⟩⟩
      exact validateInvariant_eq_ok.mpr hvalid
    · refine bind_eq_ok.mpr ⟨s', hunread, seq_eq_ok.mpr ⟨?_, rfl⟩⟩
      exact validateInvariant_eq_ok.mpr hvalid'

/-- A changed record that cannot be settled is refused as broken. -/
theorem settle_broken {s s' : PaneState} {event : PaneEvent} {context : ReductionContext}
    {tracker : CaptureTrackerSnapshot} {previous : Option CaptureTrackerSnapshot}
    (hrevision : s.revision < u64Max) (hdiffers : s' ≠ s) (hbroken : ¬Settleable s') :
    ∃ message, settle (some s) event context (.finish s' tracker previous) =
      .error (.stateInvariantViolation message) := by
  have hnext : nextRevision (some s) = .ok (s.revision + 1) := increment_of_lt hrevision
  have hsame : ¬some s = some s' := fun h => hdiffers (Option.some.inj h).symm
  obtain ⟨error, herror⟩ : ∃ e,
      ({ s' with revision := s.revision + 1 } : PaneState).validate = .error e := by
    rcases ok_or_error ({ s' with revision := s.revision + 1 } : PaneState).validate with
      ⟨u, hu⟩ | herror
    · exact absurd ((settleable_iff (Nat.succ_pos _)).mp (PaneState.validate_eq_ok.mp hu)) hbroken
    · exact herror
  refine ⟨error.message, ?_⟩
  simp only [settle, finishStateReduction, if_neg hsame, hnext, validateInvariant]
  rw [show ∀ (f : ℕ → Except ReduceError Reduction) (n : ℕ),
    ((Except.ok n : Except ReduceError ℕ) >>= f) = f n from fun _ _ => rfl, herror]
  rfl

end VdeTmux.Pane
