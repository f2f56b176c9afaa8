import VdeTmux.Pane.Minting
import VdeTmux.Pane.Run

/-!
# The visibility check before a reduction

Whether a pane is visible is asked only for events that may mint an unread occurrence; for all
others the pane counts as not visible. The prediction looks at the record, the tracker and the
event from outside, and misses some ways of the reducer to mint one.
-/

open Foundation
namespace VdeTmux.Pane

def CaptureInference.isPermissionWait : CaptureInference → Bool
  | .permissionWait _ => true
  | _ => false

def CaptureInference.isProviderError : CaptureInference → Bool
  | .providerError _ => true
  | _ => false

end VdeTmux.Pane

open VdeTmux.Pane
namespace VdeTmux.Daemon

def observationMayCreateUnread (state : PaneState) (tracker : CaptureTrackerSnapshot)
    (presence : AgentPresenceObservation) (capture : Option CaptureObservation) : Bool :=
  let absenceEvidence :=
    match presence with
    | .absent => true
    | .present kind => kind ≠ state.agent
    | .unknown => false
  let confirmedAbsenceCanComplete :=
    absenceEvidence && 1 ≤ tracker.absenceCount && state.scanVerified && !state.lifecycle.isIdle
  let captureIsApplied :=
    state.agentPresent &&
      match presence with
      | .present kind => kind = state.agent
      | .absent => true
      | .unknown => false
  let staleCaptureCanComplete :=
    captureIsApplied && capture.any (·.inference = .staleRunCompleted) &&
      state.lifecycle = .running
  let permissionWaitCanCreate :=
    captureIsApplied && capture.any (·.inference.isPermissionWait) && !state.lifecycle.isWaiting
  let providerErrorCanCreate :=
    captureIsApplied && capture.any (·.inference.isProviderError) && !state.lifecycle.isError
  let usageLimitCanCreate :=
    captureIsApplied && capture.any (·.inference = .usageLimit) &&
      !state.lifecycle.isUsageLimited
  confirmedAbsenceCanComplete || staleCaptureCanComplete || permissionWaitCanCreate ||
    providerErrorCanCreate || usageLimitCanCreate

/-- The decision whether to ask for the visibility of the pane. -/
def mayCreateUnread (current : Option PaneState) (tracker : CaptureTrackerSnapshot) :
    PaneEvent → Bool
  | .waitRequested .. | .failRun .. | .claudeStopped .. | .claudeSessionEnded .. => true
  | .completeRun .. | .responseAndCompleteRun .. =>
    current.all fun state => state.completedSeq < state.runSeq || state.syntheticCompletionArmed
  | .explicitStateReported report =>
    match report.lifecycle with
    | some (.waiting _) | some (.error _) => true
    | some .idle =>
      match current with
      | none => report.completedAt.isSome || report.attention
      | some state => state.completedSeq < state.runSeq ||
        (state.syntheticCompletionArmed && (report.completedAt.isSome || report.attention))
    | _ => false
  | .observationBatch _ _ _ presence capture _ =>
    current.any fun state => observationMayCreateUnread state tracker presence capture
  | _ => false

/-! ## Records that mint nothing -/

theorem UnreportedFault.congr {s s' : PaneState} (hlifecycle : s'.lifecycle = s.lifecycle)
    (hfaults : s'.claudeBackground.faults = s.claudeBackground.faults) :
    UnreportedFault s' ↔ UnreportedFault s := by
  simp only [UnreportedFault, hlifecycle, hfaults]

theorem not_unreportedFault_of_idle {s : PaneState} (h : s.lifecycle = .idle) :
    ¬UnreportedFault s := by
  intro hfault
  have herror := hfault.isError
  rw [h] at herror
  exact Bool.noConfusion herror

theorem mints_sameEpoch {s s' : PaneState} (h : s'.agentEpoch = s.agentEpoch) :
    Mints (some s) s' ↔ ¬Silenced s' ∧
      ((s'.lifecycle.isWaiting = true ∧ s.lifecycle.isWaiting = false) ∨
        (s'.lifecycle.isError = true ∧ (UnreportedFault s' ∨ s.lifecycle.isError = false)) ∨
        s.completedSeq < s'.completedSeq) := by
  have hcontinued : continued (some s) s' = some s := by simp [continued, h]
  simp only [Mints, hcontinued, Option.any_some, Option.map_some, Option.getD_some]

theorem mints_newEpoch {current : Option PaneState} {s' : PaneState}
    (h : ∀ s ∈ current, s.agentEpoch ≠ s'.agentEpoch) :
    Mints current s' ↔ ¬Silenced s' ∧ (s'.lifecycle.isWaiting = true ∨
      s'.lifecycle.isError = true ∨ 0 < s'.completedSeq) := by
  have hnone : continued current s' = none := by
    cases current with
    | none => rfl
    | some s => simp [continued, h s rfl]
  simp [Mints, hnone]

theorem mints_congr {s t s' : PaneState} (hepoch : t.agentEpoch = s.agentEpoch)
    (hlifecycle : t.lifecycle = s.lifecycle) (hcompleted : t.completedSeq = s.completedSeq) :
    Mints (some t) s' ↔ Mints (some s) s' := by
  by_cases h : s'.agentEpoch = s.agentEpoch
  · rw [mints_sameEpoch h, mints_sameEpoch (h.trans hepoch.symm), hlifecycle, hcompleted]
  · have hs : s.agentEpoch ≠ s'.agentEpoch := fun heq => h heq.symm
    have ht : t.agentEpoch ≠ s'.agentEpoch := hepoch ▸ hs
    rw [mints_newEpoch (by simpa using ht), mints_newEpoch (by simpa using hs)]

structure Unmoved (s s' : PaneState) : Prop where
  epoch : s'.agentEpoch = s.agentEpoch
  lifecycle : s'.lifecycle = s.lifecycle
  faults : s'.claudeBackground.faults = s.claudeBackground.faults
  completedSeq : s'.completedSeq = s.completedSeq

theorem Unmoved.refl (s : PaneState) : Unmoved s s := ⟨rfl, rfl, rfl, rfl⟩

theorem Unmoved.mints_iff {s s' : PaneState} (h : Unmoved s s') :
    Mints (some s) s' ↔ UnreportedFault s := by
  rw [mints_sameEpoch h.epoch, h.lifecycle, h.completedSeq,
    UnreportedFault.congr h.lifecycle h.faults]
  constructor
  · rintro ⟨-, ⟨hwaiting, hnot⟩ | ⟨herror, hfault | hnot⟩ | hlt⟩
    · exact Bool.noConfusion (hwaiting.symm.trans hnot)
    · exact hfault
    · exact Bool.noConfusion (herror.symm.trans hnot)
    · exact absurd hlt (lt_irrefl _)
  · intro hfault
    have hsilent := ((UnreportedFault.congr h.lifecycle h.faults).mpr hfault).not_silenced
    exact ⟨hsilent, Or.inr (Or.inl ⟨hfault.isError, Or.inl hfault⟩)⟩

structure Resumed (s s' : PaneState) : Prop where
  epoch : s'.agentEpoch = s.agentEpoch
  lifecycle : s'.lifecycle = .running
  completedSeq : s'.completedSeq = s.completedSeq

theorem Resumed.not_mints {s s' : PaneState} (h : Resumed s s') : ¬Mints (some s) s' := by
  rw [mints_sameEpoch h.epoch, h.lifecycle, h.completedSeq]
  rintro ⟨-, ⟨hwaiting, -⟩ | ⟨herror, -⟩ | hlt⟩
  · exact Bool.noConfusion hwaiting
  · exact Bool.noConfusion herror
  · exact lt_irrefl _ hlt

theorem activityObserved_resumed {s s' : PaneState} {observedAt : ℤ}
    (h : activityObserved s observedAt = .ok s') : Resumed s s' := by
  have hstarted := activityObserved_started h
  obtain ⟨s₁, -, rfl⟩ := activityObserved_eq_ok.mp h
  exact ⟨congrArg PaneIdentity.agentEpoch hstarted.identity, rfl, hstarted.completedSeq⟩

theorem Resumed.progress {s s' s'' : PaneState} {operations : List ProgressOperation}
    (h : Resumed s s') (hprogress : applyProgress s' operations = .ok s'') : Resumed s s'' := by
  have hframe := (applyOperations_progressed (applyProgress_eq_ok.mp hprogress).1).frame
  rw [hframe]
  exact ⟨h.epoch, h.lifecycle, h.completedSeq⟩

theorem applyProgress_unmoved {s s' : PaneState} {operations : List ProgressOperation}
    (h : applyProgress s operations = .ok s') : Unmoved s s' := by
  have hframe := (applyOperations_progressed (applyProgress_eq_ok.mp h).1).frame
  rw [hframe]
  exact ⟨rfl, rfl, rfl, rfl⟩

theorem completeRun_closed {s : PaneState} {completedAt : ℤ} (hclosed : s.runSeq = s.completedSeq)
    (harmed : s.syntheticCompletionArmed = false) : completeRun s completedAt false = s := by
  unfold completeRun
  rw [harmed]
  split_ifs <;> simp_all

/-! ## Explicit events -/

/-- The notifications leave an unreported fault of the reason the lifecycle shows, which the
record did not know before. -/
def NotifiedFault (s : PaneState) (notifications : List ClaudeTaskNotification) : Prop :=
  ∃ reason, s.lifecycle = .error (some reason) ∧
    (∀ fault ∈ s.claudeBackground.faults, fault.reason ≠ reason) ∧
    ∃ fault ∈ (notifications.foldl ClaudeBackgroundState.observeNotification
      s.claudeBackground.activity).faults, fault.reason = reason ∧ fault.reported = false

def EventMisses (s : PaneState) : PaneEvent → Prop
  | .progressUpdated .. => UnreportedFault s
  | .explicitStateReported report => report.lifecycle = none ∧ UnreportedFault s
  | .claudeTaskNotificationsObserved _ notifications => NotifiedFault s notifications
  | _ => False

theorem applyClaudeNotifications_mints {s s' : PaneState} {observedAt : ℤ}
    {notifications : List ClaudeTaskNotification}
    (h : applyClaudeNotifications s observedAt notifications = .ok s') :
    Mints (some s) s' ↔ NotifiedFault s notifications := by
  obtain ⟨s₁, hs₁, -, rfl⟩ := applyClaudeNotifications_eq_ok.mp h
  unfold notificationActivity at hs₁
  dsimp only at hs₁
  split_ifs at hs₁ with hresumes
  · have hresumed := activityObserved_resumed hs₁
    refine iff_of_false (Resumed.not_mints
      ⟨hresumed.epoch, hresumed.lifecycle, hresumed.completedSeq⟩) ?_
    rintro ⟨reason, hlifecycle, hnone, -⟩
    rw [hlifecycle] at hresumes
    obtain ⟨fault, hmem, hreason⟩ := List.any_eq_true.mp hresumes
    exact hnone fault hmem (of_decide_eq_true hreason)
  · cases hs₁
    dsimp only
    set b := notifications.foldl ClaudeBackgroundState.observeNotification
      s.claudeBackground.activity
    refine Iff.trans (mints_sameEpoch rfl) ?_
    constructor
    · rintro ⟨-, ⟨hwaiting, hnot⟩ | ⟨herror, hfault | hnot⟩ | hlt⟩
      · exact Bool.noConfusion (hwaiting.symm.trans hnot)
      · obtain ⟨reason, hlifecycle, hmem⟩ := hfault
        dsimp only at hlifecycle
        refine ⟨reason, hlifecycle, ?_, hmem⟩
        rw [hlifecycle] at hresumes
        intro fault hfault hreason
        exact hresumes (List.any_eq_true.mpr ⟨fault, hfault, decide_eq_true hreason⟩)
      · exact Bool.noConfusion (herror.symm.trans hnot)
      · exact absurd hlt (lt_irrefl _)
    · rintro ⟨reason, hlifecycle, -, hmem⟩
      have hfault : UnreportedFault { s with claudeBackground := b } := ⟨reason, hlifecycle, hmem⟩
      exact ⟨hfault.not_silenced, Or.inr (Or.inl ⟨hfault.isError, Or.inl hfault⟩)⟩

variable [Sha256]

structure Rests (s : PaneState) : Prop where
  order : s.completedSeq ≤ s.runSeq
  idle : s.runSeq = s.completedSeq → s.lifecycle = .idle

omit [Sha256] in
theorem Rests.completes {s : PaneState} (hs : Rests s) {completedAt : ℤ}
    (h : (decide (s.completedSeq < s.runSeq) || s.syntheticCompletionArmed) = false) :
    s.lifecycle = .idle ∧ completeRun s completedAt false = s := by
  simp only [Bool.or_eq_false_iff, decide_eq_false_iff_not, not_lt] at h
  have hclosed := le_antisymm h.1 hs.order
  exact ⟨hs.idle hclosed, completeRun_closed hclosed h.2⟩

omit [Sha256] in
theorem applyReportFields_unmoved (s : PaneState) (report : ExplicitStateReport) :
    Unmoved s (applyReportFields s report) := ⟨rfl, rfl, rfl, rfl⟩

omit [Sha256] in
theorem applyExplicitReport_mints {s s' : PaneState} {report : ExplicitStateReport}
    {tracker : CaptureTrackerSnapshot} (hs : Rests s)
    (hmay : mayCreateUnread (some s) tracker (.explicitStateReported report) = false)
    (h : applyExplicitReport s report = .ok s') :
    Mints (some s) s' ↔ report.lifecycle = none ∧ UnreportedFault s := by
  obtain ⟨s₁, hs₁, rfl⟩ := applyExplicitReport_eq_ok.mp h
  cases hlifecycle : report.lifecycle with
  | none =>
    simp only [applyReportLifecycle, hlifecycle] at hs₁
    cases hs₁
    rw [(applyReportFields_unmoved s report).mints_iff]
    exact (and_iff_right rfl).symm
  | some lifecycle =>
    simp only [mayCreateUnread, hlifecycle] at hmay
    refine iff_of_false ?_ fun h => absurd h.1 (Option.some_ne_none _)
    cases lifecycle with
    | running =>
      simp only [applyReportLifecycle, hlifecycle] at hs₁
      have hresumed := activityObserved_resumed hs₁
      exact Resumed.not_mints ⟨hresumed.epoch, hresumed.lifecycle, hresumed.completedSeq⟩
    | waiting reason => exact Bool.noConfusion hmay
    | error reason => exact Bool.noConfusion hmay
    | idle =>
      simp only [Bool.or_eq_false_iff, decide_eq_false_iff_not, not_lt] at hmay
      simp only [applyReportLifecycle, hlifecycle] at hs₁
      rw [if_neg] at hs₁
      · cases hs₁
        rw [(applyReportFields_unmoved s report).mints_iff]
        exact not_unreportedFault_of_idle (hs.idle (le_antisymm hmay.1 hs.order))
      · rintro (hopen | ⟨harmed, -, hreport⟩)
        · exact absurd hmay.1 (not_le.mpr hopen)
        · have hnot := hmay.2
          rw [harmed, Bool.true_and, Bool.or_eq_false_iff] at hnot
          rcases hreport with hat | hattention
          · exact Bool.noConfusion (hat.symm.trans hnot.1)
          · exact Bool.noConfusion (hattention.symm.trans hnot.2)

theorem applyRegularExplicitEvent_mints {s s' : PaneState} {event : PaneEvent}
    {tracker : CaptureTrackerSnapshot} {privateTaskPrompt : Option String} (hs : Rests s)
    (hstart : event.isSessionStart = false)
    (hmay : mayCreateUnread (some s) tracker event = false)
    (h : applyRegularExplicitEvent s event privateTaskPrompt = .ok s') :
    Mints (some s) s' ↔ EventMisses s event := by
  cases event with
  | claudeToolResultObserved observedAt result operations =>
    obtain ⟨s₁, hs₁, h⟩ := bind_eq_ok.mp h
    obtain ⟨s₂, hs₂, h⟩ := bind_eq_ok.mp h
    have hresumed := (activityObserved_resumed hs₁).progress hs₂
    rw [(applyClaudeToolResult_frame h).1]
    exact iff_of_false
      (Resumed.not_mints ⟨hresumed.epoch, hresumed.lifecycle, hresumed.completedSeq⟩) id
  | claudeTaskNotificationsObserved observedAt notifications =>
    exact applyClaudeNotifications_mints h
  | claudeStopped observedAt response registry crons => exact Bool.noConfusion hmay
  | claudeSessionEnded observedAt => exact Bool.noConfusion hmay
  | agentSessionStarted observedAt source resumedPrompt => exact Bool.noConfusion hstart
  | beginRun startedAt prompt =>
    obtain ⟨s₁, hs₁, rfl⟩ := beginRun_eq_ok.mp h
    have hresumed := activityObserved_resumed hs₁
    obtain ⟨prompt', context', heq⟩ := recordPrompt_frame s₁ prompt privateTaskPrompt
      (decide (s.runSeq = s.completedSeq))
      (if decide (s.runSeq = s.completedSeq) = true then s.latestResponse.map (·.text) else none)
    rw [heq]
    exact iff_of_false
      (Resumed.not_mints ⟨hresumed.epoch, hresumed.lifecycle, hresumed.completedSeq⟩) id
  | activityObserved observedAt =>
    exact iff_of_false (activityObserved_resumed h).not_mints id
  | activityAndProgressObserved observedAt operations =>
    obtain ⟨s₁, hs₁, h⟩ := bind_eq_ok.mp h
    exact iff_of_false ((activityObserved_resumed hs₁).progress h).not_mints id
  | waitRequested observedAt reason => exact Bool.noConfusion hmay
  | completeRun completedAt =>
    obtain ⟨hidle, hsame⟩ := hs.completes hmay
    cases h
    rw [hsame, (Unmoved.refl s).mints_iff]
    exact iff_of_false (not_unreportedFault_of_idle hidle) id
  | responseAndCompleteRun completedAt response =>
    obtain ⟨-, rfl⟩ := completeRunWithResponse_eq_ok.mp h
    obtain ⟨hidle, hsame⟩ : _ ∧ Pane.completeRun s completedAt false = s := hs.completes hmay
    rw [hsame, if_neg (lt_irrefl _), (Unmoved.refl s).mints_iff]
    exact iff_of_false (not_unreportedFault_of_idle hidle) id
  | failRun observedAt reason => exact Bool.noConfusion hmay
  | progressUpdated observedAt operations => exact (applyProgress_unmoved h).mints_iff
  | explicitStateReported report => exact applyExplicitReport_mints hs hmay h
  | markPaneRead _ => cases h
  | markDone _ _ => cases h
  | taskSummaryGenerated _ _ _ => cases h
  | observationBatch _ _ _ _ _ _ => cases h
  | paneRemoved _ => cases h

/-! ## Captures -/

omit [Sha256] in
/-- An error of this reason would mint: there is an unreported fault of it, or no fault at all and
no error shown before. -/
def Reportable (s : PaneState) (reason : String) : Prop :=
  (∃ fault ∈ s.claudeBackground.faults, fault.reason = reason ∧ fault.reported = false) ∨
    (s.lifecycle.isError = false ∧ ∀ fault ∈ s.claudeBackground.faults, fault.reason ≠ reason)

def CaptureMints (s : PaneState) : CaptureInference → Prop
  | .providerError reason => Reportable s reason
  | .permissionWait _ =>
    (s.agent.value ≠ "codex" ∨ s.completedSeq < s.runSeq) ∧ s.lifecycle.isWaiting = false
  | .usageLimit => s.lifecycle.isWaiting = false
  | .staleRunCompleted => (s.lifecycle = .running ∧ Released s) ∨ UnreportedFault s
  | .activityObserved | .noChange => UnreportedFault s

theorem Started.faults {s s' : PaneState} (hs : s.Coherent) (h : Started s s') :
    s'.claudeBackground.faults = s.claudeBackground.faults := by
  by_cases hclosed : s.runSeq = s.completedSeq
  · have hidle := hs.lifecycle.mpr hclosed
    have hblocks : s.claudeBackground.blocksCompletion = false := by
      by_contra hblocks
      exact hs.wait (by simpa using hblocks) hidle
    rw [(ClaudeBackgroundState.blocksCompletion_eq_false.mp hblocks).2]
    exact (h.opened hclosed).2.2.2
  · exact (h.continued hclosed).2.2.2

omit [Sha256] in
theorem waits_mints {s s' : PaneState} (h : Started s s') {reason : WaitReason}
    (hlifecycle : s'.lifecycle = .waiting reason) :
    Mints (some s) s' ↔ s.lifecycle.isWaiting = false := by
  rw [mints_sameEpoch (congrArg PaneIdentity.agentEpoch h.identity), hlifecycle, h.completedSeq]
  have hsilent : ¬Silenced s' := not_silenced_of_not_error (by rw [hlifecycle]; rfl)
  constructor
  · rintro ⟨-, ⟨-, hnot⟩ | ⟨herror, -⟩ | hlt⟩
    · exact hnot
    · exact Bool.noConfusion herror
    · exact absurd hlt (lt_irrefl _)
  · exact fun hnot => ⟨hsilent, Or.inl ⟨rfl, hnot⟩⟩

theorem fails_mints {s s' : PaneState} (hs : s.Coherent) (h : Started s s') {reason : String}
    (hlifecycle : s'.lifecycle = .error (some reason)) :
    Mints (some s) s' ↔ Reportable s reason := by
  have hfaults := Started.faults hs h
  have hunreported : UnreportedFault s' ↔
      ∃ fault ∈ s.claudeBackground.faults, fault.reason = reason ∧ fault.reported = false := by
    simp only [UnreportedFault, hlifecycle, hfaults, LifecycleState.error.injEq,
      Option.some.injEq, exists_eq_left']
  have hsilenced : Silenced s' ↔ (∃ fault ∈ s.claudeBackground.faults, fault.reason = reason) ∧
      ∀ fault ∈ s.claudeBackground.faults, fault.reason = reason → fault.reported = true := by
    simp only [Silenced, hlifecycle, hfaults, LifecycleState.error.injEq, Option.some.injEq,
      exists_eq_left']
  rw [mints_sameEpoch (congrArg PaneIdentity.agentEpoch h.identity), h.completedSeq]
  constructor
  · rintro ⟨hloud, ⟨hwaiting, -⟩ | ⟨-, hfault | hnot⟩ | hlt⟩
    · rw [hlifecycle] at hwaiting
      exact Bool.noConfusion hwaiting
    · exact Or.inl (hunreported.mp hfault)
    · by_cases hfault : UnreportedFault s'
      · exact Or.inl (hunreported.mp hfault)
      · refine Or.inr ⟨hnot, fun fault hmem hreason => ?_⟩
        refine hloud (hsilenced.mpr ⟨⟨fault, hmem, hreason⟩, fun other hother hsame => ?_⟩)
        by_contra hreported
        exact hfault (hunreported.mpr ⟨other, hother, hsame, by simpa using hreported⟩)
    · exact absurd hlt (lt_irrefl _)
  · have herror : s'.lifecycle.isError = true := by rw [hlifecycle]; rfl
    rintro (hfault | ⟨hnot, hnone⟩)
    · have hfault := hunreported.mpr hfault
      exact ⟨hfault.not_silenced, Or.inr (Or.inl ⟨herror, Or.inl hfault⟩)⟩
    · refine ⟨fun hsilent => ?_, Or.inr (Or.inl ⟨herror, Or.inr hnot⟩)⟩
      obtain ⟨⟨fault, hmem, hreason⟩, -⟩ := hsilenced.mp hsilent
      exact hnone fault hmem hreason

omit [Sha256] in
theorem completes_mints {s s' : PaneState} (hepoch : s'.agentEpoch = s.agentEpoch)
    (hlifecycle : s'.lifecycle = .idle) (hlt : s.completedSeq < s'.completedSeq) :
    Mints (some s) s' :=
  (mints_sameEpoch hepoch).mpr
    ⟨not_silenced_of_not_error (by rw [hlifecycle]; rfl), Or.inr (Or.inr hlt)⟩

theorem applyInference_mints {s s' : PaneState} {inference : CaptureInference}
    {fingerprint : Option Fingerprint} {observedAt : ℤ} (hs : s.Coherent)
    (h : applyInference s inference fingerprint observedAt = .ok s') :
    Mints (some s) s' ↔ CaptureMints s inference := by
  cases inference with
  | permissionWait reason =>
    simp only [applyInference] at h
    split_ifs at h with happlies
    · obtain ⟨hstarted, hlifecycle⟩ := waitRequested_started h
      rw [waits_mints hstarted hlifecycle]
      exact (and_iff_right happlies).symm
    · cases h
      rw [(Unmoved.refl s).mints_iff]
      have hclosed : s.runSeq = s.completedSeq :=
        le_antisymm (not_lt.mp fun hopen => happlies (Or.inr hopen)) hs.order
      exact iff_of_false (not_unreportedFault_of_idle (hs.lifecycle.mpr hclosed))
        fun h => happlies h.1
  | usageLimit =>
    obtain ⟨hstarted, hlifecycle⟩ := waitRequested_started h
    exact waits_mints hstarted hlifecycle
  | providerError reason =>
    obtain ⟨hstarted, hlifecycle⟩ := failRun_started h
    exact fails_mints hs hstarted hlifecycle
  | activityObserved =>
    simp only [applyInference] at h
    split_ifs at h with happlies
    · refine iff_of_false (activityObserved_resumed h).not_mints ?_
      rintro ⟨reason, -, fault, hmem, -⟩
      rw [(ClaudeBackgroundState.blocksCompletion_eq_false.mp happlies.1).2] at hmem
      exact List.not_mem_nil hmem
    · cases h
      exact (Unmoved.refl s).mints_iff
  | staleRunCompleted =>
    simp only [applyInference] at h
    split_ifs at h with hrunning
    · cases h
      have hopen : s.completedSeq < s.runSeq := by
        refine lt_of_le_of_ne hs.order fun hclosed => ?_
        have hidle := hs.lifecycle.mpr hclosed.symm
        rw [hrunning] at hidle
        cases hidle
      have hquiet : ¬UnreportedFault s := by
        intro hfault
        have herror := hfault.isError
        rw [hrunning] at herror
        exact Bool.noConfusion herror
      by_cases hreleased : Released s
      · have hdone : Completed s (completeRun s observedAt false) :=
          completeRun_released hreleased hopen
        have hlater : s.completedSeq < (completeRun s observedAt false).completedSeq := by
          have hseq := hdone.completedSeq
          rcases hdone.runSeq with ⟨-, hrun⟩ | ⟨hzero, -⟩
          · omega
          · omega
        exact iff_of_true (completes_mints (congrArg PaneIdentity.agentEpoch hdone.identity)
          hdone.lifecycle hlater) (Or.inl ⟨hrunning, hreleased⟩)
      · rw [completeRun_held hreleased, (Unmoved.refl s).mints_iff]
        exact iff_of_false hquiet fun h => h.elim (fun h => hreleased h.2) hquiet
    · cases h
      rw [(Unmoved.refl s).mints_iff]
      exact ⟨Or.inr, fun h => h.resolve_left fun h => hrunning h.1⟩
  | noChange =>
    cases h
    exact (Unmoved.refl s).mints_iff

/-! ## Observations -/

def opensEpoch (s : PaneState) (tracker : CaptureTrackerSnapshot)
    (process : Option ProcessObservation) : AgentPresenceObservation → Bool
  | .present agent => !s.agentPresent ||
    (agent = s.agent && processReplaced tracker (checkedProcess process))
  | .absent | .unknown => false

def ObservationMisses (s : PaneState) (tracker : CaptureTrackerSnapshot)
    (presence : AgentPresenceObservation) (capture : Option CaptureObservation)
    (process : Option ProcessObservation) : Prop :=
  opensEpoch s tracker process presence = false ∧
    match presence with
    | .absent => CaptureMints s (effectiveInference tracker capture)
    | .present agent =>
      if agent = s.agent then CaptureMints s (effectiveInference tracker capture)
      else UnreportedFault s
    | .unknown => UnreportedFault s

omit [Sha256] in
theorem confirmAbsent_epoch (s : PaneState) (observedAt : ℤ) :
    (confirmAbsent s observedAt).agentEpoch = s.agentEpoch := by
  have hidentity := confirmAbsent_identity s observedAt
  exact (congrArg PaneIdentity.agentEpoch hidentity :)

omit [Sha256] in
theorem observePresence_opens {s s₁ : PaneState} {tracker tracker₁ : CaptureTrackerSnapshot}
    {presence : AgentPresenceObservation} {capture : Option CaptureObservation}
    {process : Option ProcessObservation} {observedAt : ℤ}
    (hopens : opensEpoch s tracker process presence = true)
    (h : observePresence s tracker presence capture process observedAt = .ok (s₁, tracker₁)) :
    ∃ agent, beginAgentEpoch s agent none .process = .ok s₁ := by
  cases presence with
  | absent => exact Bool.noConfusion hopens
  | unknown => exact Bool.noConfusion hopens
  | present agent =>
    simp only [opensEpoch, Bool.or_eq_true, Bool.not_eq_true', Bool.and_eq_true,
      decide_eq_true_eq] at hopens
    simp only [observePresence] at h
    by_cases hagent : agent = s.agent
    · rw [if_pos hagent] at h
      unfold observeSameAgent at h
      dsimp only at h
      split at h
      · exact ⟨agent, (observeNewEpoch_eq_ok.mp h).1⟩
      · rename_i hguard
        exact absurd (hopens.imp_right And.right) hguard
    · have hgone : ¬s.agentPresent = true := by
        rcases hopens with hgone | ⟨hsame, -⟩
        · simp [hgone]
        · exact absurd hsame hagent
      rw [if_neg hagent, observeOtherAgent, if_neg hgone] at h
      exact ⟨agent, (observeNewEpoch_eq_ok.mp h).1⟩

omit [Sha256] in
/-- Inside an epoch an observed agent that is the one of the record is captured, and another one
only counts as an absence. -/
theorem observePresence_stays {s s₁ : PaneState} {tracker tracker₁ : CaptureTrackerSnapshot}
    {presence : AgentPresenceObservation} {capture : Option CaptureObservation}
    {process : Option ProcessObservation} {observedAt : ℤ}
    (hstays : opensEpoch s tracker process presence = false)
    (h : observePresence s tracker presence capture process observedAt = .ok (s₁, tracker₁)) :
    Observed s tracker presence capture process observedAt s₁ tracker₁ ∧
      ∀ agent, presence = .present agent →
        ¬beginAgentEpoch s agent none .process = .ok s₁ := by
  refine ⟨observePresence_observed h, ?_⟩
  rintro agent rfl hbegin
  have hepoch := (beginAgentEpoch_fresh hbegin).2.agentEpoch
  simp only [opensEpoch, Bool.or_eq_false_iff, Bool.not_eq_false', Bool.and_eq_false_iff,
    decide_eq_false_iff_not] at hstays
  simp only [observePresence] at h
  by_cases hagent : agent = s.agent
  · rw [if_pos hagent] at h
    unfold observeSameAgent at h
    dsimp only at h
    split at h
    · rename_i hguard
      rcases hguard with hgone | hreplaced
      · simp [hgone] at hstays
      · rcases hstays.2 with hother | hkept
        · exact hother hagent
        · exact Bool.noConfusion (hreplaced.symm.trans hkept)
    · have hidentity := applyInference_identity (applyCapture_spec h).1
      have hsame : s₁.agentEpoch = s.agentEpoch := congrArg PaneIdentity.agentEpoch hidentity
      omega
  · rw [if_neg hagent] at h
    cases observeOtherAgent_observed hagent h with
    | epoch _ hpresence _ _ hallowed =>
      cases hpresence
      rcases hallowed with hgone | hsame
      · simp [hgone] at hstays
      · exact hagent hsame
    | unknown hpresence => cases hpresence
    | same hpresence =>
      cases hpresence
      exact hagent rfl
    | absent hpresence => cases hpresence
    | other _ _ _ _ hcounted =>
      rcases hcounted with ⟨rfl, -⟩ | ⟨rfl, -⟩
      · omega
      · rw [confirmAbsent_epoch] at hepoch
        omega

theorem confirmAbsent_idle {s : PaneState} {observedAt : ℤ} (hs : s.Coherent)
    (hidle : s.lifecycle = .idle)
    (hsettled : (confirmAbsent s observedAt).runSeq = (confirmAbsent s observedAt).completedSeq →
      (confirmAbsent s observedAt).lifecycle = .idle) :
    ¬Mints (some s) (confirmAbsent s observedAt) := by
  have hclosed := hs.lifecycle.mp hidle
  have hcounters : (confirmAbsent s observedAt).runSeq = s.runSeq ∧
      (confirmAbsent s observedAt).completedSeq = s.completedSeq := by
    rw [confirmAbsent_eq, settleRun]
    split_ifs with hopen hrun
    · exact (endClaudeTracking_kept s).2
    · omega
    · exact ⟨rfl, rfl⟩
  have hstill : (confirmAbsent s observedAt).lifecycle = .idle :=
    hsettled (by rw [hcounters.1, hcounters.2, hclosed])
  rw [mints_sameEpoch (confirmAbsent_epoch s observedAt), hstill, hcounters.2]
  rintro ⟨-, ⟨hwaiting, -⟩ | ⟨herror, -⟩ | hlt⟩
  · exact Bool.noConfusion hwaiting
  · exact Bool.noConfusion herror
  · exact lt_irrefl _ hlt

omit [Sha256] in
theorem confirmAbsent_started {s s₁ : PaneState} {observedAt : ℤ}
    (hclosed : s.runSeq = s.completedSeq) (h : Started s s₁) :
    Mints (some s) (confirmAbsent s₁ observedAt) := by
  obtain ⟨hrun, hsubagents, htasks, hfaults⟩ := h.opened hclosed
  have hblocks : s₁.claudeBackground.blocksCompletion = false :=
    ClaudeBackgroundState.blocksCompletion_eq_false.mpr ⟨by simp [htasks], hfaults⟩
  have hopen : s₁.completedSeq < s₁.runSeq := by
    have hkept := h.completedSeq
    omega
  have hdone : Completed s₁ (completeRun s₁ observedAt false) :=
    completeRun_released ⟨hsubagents, htasks, hblocks⟩ hopen
  have hsettle : settleRun s₁ observedAt = completeRun s₁ observedAt false := by
    rw [settleRun, if_neg (by simp [backgroundOpen, htasks, hblocks]), if_pos hopen]
  have hepoch : (confirmAbsent s₁ observedAt).agentEpoch = s.agentEpoch :=
    (confirmAbsent_epoch s₁ observedAt).trans (congrArg PaneIdentity.agentEpoch h.identity)
  refine completes_mints hepoch ?_ ?_
  · rw [confirmAbsent_eq, hsettle]
    exact hdone.lifecycle
  · rw [confirmAbsent_eq, hsettle]
    show s.completedSeq < (completeRun s₁ observedAt false).completedSeq
    have hseq := hdone.completedSeq
    have hkept := h.completedSeq
    rcases hdone.runSeq with ⟨-, hsame⟩ | ⟨hzero, -⟩
    · omega
    · omega

theorem confirmAbsent_mints {s s₁ : PaneState} {inference : CaptureInference}
    {fingerprint : Option Fingerprint} {observedAt : ℤ} (hs : s.Coherent)
    (hidle : s.lifecycle = .idle)
    (h : applyInference s inference fingerprint observedAt = .ok s₁)
    (hsettled : (confirmAbsent s₁ observedAt).runSeq = (confirmAbsent s₁ observedAt).completedSeq →
      (confirmAbsent s₁ observedAt).lifecycle = .idle) :
    Mints (some s) (confirmAbsent s₁ observedAt) ↔ CaptureMints s inference := by
  have hclosed := hs.lifecycle.mp hidle
  have hkept (hsame : s₁ = s) (hquiet : ¬CaptureMints s inference) :
      Mints (some s) (confirmAbsent s₁ observedAt) ↔ CaptureMints s inference := by
    subst hsame
    exact iff_of_false (confirmAbsent_idle hs hidle hsettled) hquiet
  have hquiet : ¬UnreportedFault s := not_unreportedFault_of_idle hidle
  cases inference with
  | permissionWait reason =>
    simp only [applyInference] at h
    split_ifs at h with happlies
    · refine iff_of_true (confirmAbsent_started hclosed (waitRequested_started h).1) ⟨happlies, ?_⟩
      rw [hidle]
      rfl
    · cases h
      exact hkept rfl fun h => happlies h.1
  | usageLimit =>
    refine iff_of_true (confirmAbsent_started hclosed (waitRequested_started h).1) ?_
    rw [CaptureMints, hidle]
    rfl
  | providerError reason =>
    refine iff_of_true (confirmAbsent_started hclosed (failRun_started h).1) (Or.inr ⟨?_, ?_⟩)
    · rw [hidle]
      rfl
    · have hblocks : s.claudeBackground.blocksCompletion = false := by
        by_contra hblocks
        exact hs.wait (by simpa using hblocks) hidle
      rw [(ClaudeBackgroundState.blocksCompletion_eq_false.mp hblocks).2]
      exact fun fault hmem => absurd hmem List.not_mem_nil
  | activityObserved =>
    simp only [applyInference] at h
    rw [if_neg (fun happlies => by omega)] at h
    cases h
    exact hkept rfl hquiet
  | staleRunCompleted =>
    simp only [applyInference, hidle] at h
    rw [if_neg (fun hrunning => by cases hrunning)] at h
    cases h
    refine hkept rfl ?_
    rintro (⟨hrunning, -⟩ | hfault)
    · rw [hidle] at hrunning
      cases hrunning
    · exact hquiet hfault
  | noChange =>
    cases h
    exact hkept rfl hquiet

omit [Sha256] in
theorem observationMayCreateUnread_confirmed {s : PaneState} {tracker : CaptureTrackerSnapshot}
    {presence : AgentPresenceObservation} {capture : Option CaptureObservation}
    (hmay : observationMayCreateUnread s tracker presence capture = false)
    (habsence : presence = .absent ∨ ∃ agent, presence = .present agent ∧ agent ≠ s.agent)
    (hcounted : 0 < tracker.absenceCount) (hscan : s.scanVerified = true) :
    s.lifecycle = .idle := by
  unfold observationMayCreateUnread at hmay
  simp only [Bool.or_eq_false_iff] at hmay
  have hconfirmed := hmay.1.1.1.1
  rw [hscan, decide_eq_true (show 1 ≤ tracker.absenceCount from hcounted)] at hconfirmed
  rcases habsence with rfl | ⟨agent, rfl, hdiffers⟩
  · simpa using hconfirmed
  · simpa [hdiffers] using hconfirmed

theorem observation_mints {s s₁ s' : PaneState} {tracker tracker₁ : CaptureTrackerSnapshot}
    {presence : AgentPresenceObservation} {capture : Option CaptureObservation}
    {process : Option ProcessObservation} {observedAt : ℤ} (hs : s.Coherent)
    (hmay : observationMayCreateUnread s tracker presence capture = false)
    (h : observePresence s tracker presence capture process observedAt = .ok (s₁, tracker₁))
    (hprocess : applyProcessObservation s₁ process = .ok s') (hsettled : s'.Coherent) :
    Mints (some s) s' ↔ ObservationMisses s tracker presence capture process := by
  have hframe := applyProcessObservation_spec hprocess
  have hmints : Mints (some s) s' ↔ Mints (some s) s₁ := by rw [hframe]; exact Iff.rfl
  have hidle : s₁.runSeq = s₁.completedSeq → s₁.lifecycle = .idle := by
    have hlifecycle := hsettled.lifecycle.mpr
    rw [hframe] at hlifecycle
    exact hlifecycle
  rw [hmints]
  cases hopens : opensEpoch s tracker process presence with
  | true =>
    obtain ⟨agent, hbegin⟩ := observePresence_opens hopens h
    have hfresh := (beginAgentEpoch_fresh hbegin).2
    refine iff_of_false ?_ fun h => Bool.noConfusion (hopens.symm.trans h.1)
    rw [mints_newEpoch, hfresh.lifecycle, hfresh.completedSeq]
    · rintro ⟨-, hwaiting | herror | hlt⟩
      · exact Bool.noConfusion hwaiting
      · exact Bool.noConfusion herror
      · exact lt_irrefl _ hlt
    · intro t ht
      cases ht
      rw [hfresh.agentEpoch]
      omega
  | false =>
    obtain ⟨hobserved, hnotBegun⟩ := observePresence_stays hopens h
    unfold ObservationMisses
    rw [and_iff_right hopens]
    cases hobserved with
    | epoch agent hpresence hbegins => exact absurd hbegins (hnotBegun agent hpresence)
    | unknown hpresence hrecord =>
      subst hpresence hrecord
      exact (Unmoved.refl _).mints_iff
    | same hpresence hpresent inference heffective hrecord =>
      subst hpresence heffective
      have hverified : ({ s with scanVerified := true } : PaneState).Coherent :=
        { hs with armed := fun h => ⟨(hs.armed h).1, (hs.armed h).2.1, rfl⟩ }
      simp only [if_true]
      have hcongr : Mints (some { s with scanVerified := true }) s₁ ↔ Mints (some s) s₁ :=
        mints_congr rfl rfl rfl
      rw [← hcongr]
      exact applyInference_mints hverified hrecord
    | absent hpresence s₀ hrecord hcounted =>
      subst hpresence
      rcases hcounted with ⟨rfl, -⟩ | ⟨rfl, hpos, hscan, -⟩
      · exact applyInference_mints hs hrecord
      · exact confirmAbsent_mints hs
          (observationMayCreateUnread_confirmed hmay (Or.inl rfl) hpos hscan) hrecord hidle
    | other agent hpresence hdiffers hpresent hcounted =>
      subst hpresence
      simp only [if_neg hdiffers]
      rcases hcounted with ⟨rfl, -⟩ | ⟨rfl, hpos, hscan⟩
      · exact (Unmoved.refl _).mints_iff
      · have hrests := observationMayCreateUnread_confirmed hmay
          (Or.inr ⟨agent, rfl, hdiffers⟩) hpos hscan
        exact iff_of_false (confirmAbsent_idle hs hrests hidle)
          (not_unreportedFault_of_idle hrests)

/-! ## Explicit events across epochs -/

omit [Sha256] in
theorem not_eventMisses {s : PaneState} (h : s.lifecycle.isError = false) (event : PaneEvent) :
    ¬EventMisses s event := by
  have hfault : ¬UnreportedFault s := fun hfault => by
    have herror := hfault.isError
    rw [h] at herror
    exact Bool.noConfusion herror
  cases event with
  | progressUpdated observedAt operations => exact hfault
  | explicitStateReported report => exact fun h => hfault h.2
  | claudeTaskNotificationsObserved observedAt notifications =>
    rintro ⟨reason, hlifecycle, -⟩
    rw [hlifecycle] at h
    exact Bool.noConfusion h
  | _ => exact id

/-- The first record of an epoch: idle, and no run of it completed. -/
structure FirstOfEpoch (s : PaneState) : Prop where
  lifecycle : s.lifecycle = .idle
  runSeq : s.runSeq = 0
  completedSeq : s.completedSeq = 0
  armed : s.syntheticCompletionArmed = false

omit [Sha256] in
theorem FirstOfEpoch.rests {s : PaneState} (h : FirstOfEpoch s) : Rests s :=
  ⟨by rw [h.completedSeq, h.runSeq], fun _ => h.lifecycle⟩

omit [Sha256] in
theorem FirstOfEpoch.mints_iff {s s' : PaneState} {current : Option PaneState}
    (h : FirstOfEpoch s) (hepoch : s'.agentEpoch = s.agentEpoch)
    (hnew : ∀ s₀ ∈ current, s₀.agentEpoch ≠ s'.agentEpoch) :
    Mints current s' ↔ Mints (some s) s' := by
  rw [mints_newEpoch hnew, mints_sameEpoch hepoch, h.lifecycle, h.completedSeq]
  have hwaiting : LifecycleState.idle.isWaiting = false := rfl
  have herror : LifecycleState.idle.isError = false := rfl
  simp only [hwaiting, herror, and_true, or_true]

theorem FirstOfEpoch.not_mints {s s' : PaneState} {current : Option PaneState} {event : PaneEvent}
    {tracker : CaptureTrackerSnapshot} {privateTaskPrompt : Option String} (h : FirstOfEpoch s)
    (hnew : ∀ s₀ ∈ current, s₀.agentEpoch ≠ s.agentEpoch)
    (hstart : event.isSessionStart = false)
    (hmay : mayCreateUnread (some s) tracker event = false)
    (hrecord : applyRegularExplicitEvent s event privateTaskPrompt = .ok s') :
    ¬Mints current s' := by
  have hepoch : s'.agentEpoch = s.agentEpoch :=
    congrArg PaneIdentity.agentEpoch (applyRegularExplicitEvent_identity hrecord).1
  rw [h.mints_iff hepoch (by rwa [hepoch]),
    applyRegularExplicitEvent_mints h.rests hstart hmay hrecord]
  exact not_eventMisses (by rw [h.lifecycle]; rfl) event

omit [Sha256] in
theorem unforeseen_of_evidence {s : PaneState} {current : Option PaneState} {event : PaneEvent}
    {tracker : CaptureTrackerSnapshot}
    (hevidence : isEpochStartEvidence event = true)
    (hmay : mayCreateUnread current tracker event = false) :
    mayCreateUnread (some s) tracker event = false := by
  cases event with
  | waitRequested observedAt reason => exact Bool.noConfusion hmay
  | failRun observedAt reason => exact Bool.noConfusion hmay
  | explicitStateReported report =>
    simp only [isEpochStartEvidence] at hevidence
    simp only [mayCreateUnread] at hmay ⊢
    split at hevidence <;> simp_all
  | _ => first | rfl | exact Bool.noConfusion hevidence

theorem explicitStep_mints {s s' : PaneState} {agent : AgentKind} {session : AgentSessionId}
    {event : PaneEvent} {tracker : CaptureTrackerSnapshot} {privateTaskPrompt : Option String}
    (hs : s.Coherent) (hstart : event.isSessionStart = false)
    (hmay : mayCreateUnread (some s) tracker event = false)
    (step : ExplicitStep s agent session event tracker privateTaskPrompt s') (haltered : s' ≠ s) :
    Mints (some s) s' ↔ (classifyIdentity s agent session = .exactPresent ∨
      classifyIdentity s agent session = .unboundPresent) ∧ EventMisses s event := by
  have hrests : Rests s := ⟨hs.order, hs.lifecycle.mpr⟩
  cases step with
  | regular hidentity hrecord =>
    rw [applyRegularExplicitEvent_mints hrests hstart hmay hrecord]
    exact (and_iff_right (Or.inl hidentity)).symm
  | entered source hevidence hallowed s₀ hbegins hrecord =>
    have hfresh := (beginAgentEpoch_fresh hbegins).2
    have hfirst : FirstOfEpoch s₀ :=
      ⟨hfresh.lifecycle, hfresh.runSeq, hfresh.completedSeq, hfresh.armed⟩
    refine iff_of_false ?_ ?_
    · refine hfirst.not_mints ?_ hstart (unforeseen_of_evidence hevidence hmay) hrecord
      intro t ht
      cases ht
      rw [hfresh.agentEpoch]
      omega
    · rintro ⟨hidentity, -⟩
      rcases hallowed with hgone | ⟨hmismatch, -⟩
      · rcases hidentity with hidentity | hidentity
        · simp [(classifyIdentity_exactPresent hidentity).2.2] at hgone
        · simp [(classifyIdentity_unboundPresent hidentity).2.2] at hgone
      · rw [hmismatch] at hidentity
        rcases hidentity with hidentity | hidentity <;> cases hidentity
  | late hidentity hevidence hcompletion s₁ hrecord hleft =>
    have hquiet : ¬EventMisses s event := by
      cases event with
      | progressUpdated observedAt operations => exact Bool.noConfusion hcompletion
      | claudeTaskNotificationsObserved observedAt notifications =>
        exact Bool.noConfusion hcompletion
      | explicitStateReported report =>
        rintro ⟨hnone, -⟩
        simp [isCompletionForState, hnone] at hcompletion
      | _ => exact id
    have hmints : Mints (some s) s' ↔ Mints (some s) s₁ := by
      rw [hleft]
      exact Iff.rfl
    rw [hmints, applyRegularExplicitEvent_mints hrests hstart hmay hrecord]
    exact iff_of_false hquiet fun h => hquiet h.2
  | bound hidentity haccepted hrecord =>
    have hbound : Mints (some { s with agentSessionId := some session }) s' ↔ Mints (some s) s' :=
      mints_congr rfl rfl rfl
    have hrests' : Rests { s with agentSessionId := some session } := ⟨hrests.order, hrests.idle⟩
    rw [← hbound, applyRegularExplicitEvent_mints hrests' hstart hmay hrecord]
    exact (and_iff_right (Or.inr hidentity)).symm
  | ignored hidentity hrefused hrecord => exact absurd hrecord haltered

/-! ## The first record of a pane -/

omit [Sha256] in
theorem not_mints_first {s : PaneState} (hlifecycle : s.lifecycle = .idle)
    (hcompleted : s.completedSeq = 0) : ¬Mints none s := by
  rw [mints_newEpoch (by simp), hlifecycle, hcompleted]
  rintro ⟨-, hwaiting | herror | hlt⟩
  · exact Bool.noConfusion hwaiting
  · exact Bool.noConfusion herror
  · exact lt_irrefl _ hlt

omit [Sha256] in
theorem newState_first {paneInstance : PaneInstance} {agent : AgentKind}
    {session : Option AgentSessionId} {scanVerified : Bool} {newStateId : Option StateId}
    {s : PaneState} (h : newState paneInstance agent session scanVerified false newStateId = .ok s) :
    FirstOfEpoch s := by
  cases newStateId with
  | none => cases h
  | some stateId =>
    cases h
    exact ⟨rfl, rfl, rfl, rfl⟩

theorem created_not_mints {envelope : PaneEventEnvelope} {context : ReductionContext}
    {s' : PaneState} {tracker : CaptureTrackerSnapshot}
    (hmay : mayCreateUnread none context.tracker envelope.event = false)
    (h : Created envelope context s' tracker) : ¬Mints none s' := by
  cases h with
  | observation base trackerGeneration observedAt agent capture process hevent s₀ hnew hrecord =>
    have hframe := applyProcessObservation_spec hrecord
    cases hid : context.newStateId with
    | none =>
      rw [hid] at hnew
      cases hnew
    | some stateId =>
      rw [hid] at hnew
      cases hnew
      refine not_mints_first ?_ ?_
      · rw [hframe]
        rfl
      · rw [hframe]
        rfl
  | explicit agent session hagent hsession hexternal hclaude hcreates s₀ hnew hrecord =>
    have hfirst := newState_first hnew
    generalize envelope.event = event at hmay hcreates hrecord
    have hregular (hstart : event.isSessionStart = false)
        (hevidence : isEpochStartEvidence event = true)
        (hrecord : applyRegularExplicitEvent s₀ event context.privateTaskPrompt = .ok s') :
        ¬Mints none s' :=
      hfirst.not_mints (by simp) hstart (unforeseen_of_evidence hevidence hmay) hrecord
    cases event with
    | claudeStopped observedAt response registry crons => exact Bool.noConfusion hmay
    | completeRun completedAt => exact Bool.noConfusion hmay
    | responseAndCompleteRun completedAt response => exact Bool.noConfusion hmay
    | agentSessionStarted observedAt source resumedPrompt =>
      cases hrecord
      exact not_mints_first hfirst.lifecycle hfirst.completedSeq
    | explicitStateReported report =>
      by_cases hidle : report.lifecycle = some .idle
      · simp only [mayCreateUnread, hidle] at hmay
        simp only [canCreateFromExplicit, isEpochStartEvidence, isCompletion, hidle,
          decide_true, Bool.true_and, Bool.false_or, hmay] at hcreates
        exact Bool.noConfusion hcreates
      · simp only [applyInitialExplicitEvent, if_neg hidle] at hrecord
        refine hregular rfl ?_ hrecord
        simpa [canCreateFromExplicit, isCompletion, hidle] using hcreates
    | claudeSessionEnded observedAt => exact Bool.noConfusion hmay
    | progressUpdated observedAt operations => exact Bool.noConfusion hcreates
    | markPaneRead _ => exact Bool.noConfusion hcreates
    | markDone _ _ => exact Bool.noConfusion hcreates
    | taskSummaryGenerated _ _ _ => exact Bool.noConfusion hcreates
    | observationBatch _ _ _ _ _ _ => exact Bool.noConfusion hcreates
    | paneRemoved _ => exact Bool.noConfusion hcreates
    | _ => exact hregular rfl rfl hrecord

/-! ## What the check misses -/

/-- The event mints an occurrence that the check does not foresee, when it changes the record. -/
def Missed (s : PaneState) (envelope : PaneEventEnvelope) (tracker : CaptureTrackerSnapshot) :
    Prop :=
  match envelope.event with
  | .taskSummaryGenerated .. => UnreportedFault s
  | .observationBatch _ _ _ presence capture process =>
    ObservationMisses s tracker presence capture process
  | event => (∃ agent ∈ envelope.agent, ∃ session ∈ envelope.agentSessionId,
      classifyIdentity s agent session = .exactPresent ∨
        classifyIdentity s agent session = .unboundPresent) ∧ EventMisses s event

omit [Sha256] in
theorem missed_observation {s : PaneState} {envelope : PaneEventEnvelope}
    {tracker : CaptureTrackerSnapshot} {base : Option StoredStateDescriptor}
    {trackerGeneration : ℕ} {observedAt : ℤ} {presence : AgentPresenceObservation}
    {capture : Option CaptureObservation} {process : Option ProcessObservation}
    (hevent : envelope.event =
      .observationBatch base trackerGeneration observedAt presence capture process) :
    Missed s envelope tracker ↔ ObservationMisses s tracker presence capture process := by
  simp only [Missed, hevent]

omit [Sha256] in
theorem missed_explicit {s : PaneState} {envelope : PaneEventEnvelope}
    {tracker : CaptureTrackerSnapshot} {agent : AgentKind} {session : AgentSessionId}
    (hagent : envelope.agent = some agent) (hsession : envelope.agentSessionId = some session)
    (hexternal : envelope.event.isExternal = true) :
    Missed s envelope tracker ↔ (classifyIdentity s agent session = .exactPresent ∨
      classifyIdentity s agent session = .unboundPresent) ∧ EventMisses s envelope.event := by
  unfold Missed
  split
  · rename_i hevent
    simp [hevent, PaneEvent.isExternal] at hexternal
  · rename_i hevent
    simp [hevent, PaneEvent.isExternal] at hexternal
  · simp [hagent, hsession]

omit [Sha256] in
theorem external_not_acknowledges {event : PaneEvent} (h : event.isExternal = true) :
    event.acknowledges = false := by
  cases event <;> first | rfl | exact Bool.noConfusion h

theorem observationBranch_mints {s s' : PaneState} {envelope : PaneEventEnvelope}
    {context : ReductionContext} {tracker : CaptureTrackerSnapshot}
    {previous : Option CaptureTrackerSnapshot} {base : Option StoredStateDescriptor}
    {trackerGeneration : ℕ} {observedAt : ℤ} {presence : AgentPresenceObservation}
    {capture : Option CaptureObservation} {process : Option ProcessObservation}
    (hs : s.Coherent)
    (hmay : observationMayCreateUnread s context.tracker presence capture = false)
    (h : reduceObservation (some s) envelope.paneInstance context base trackerGeneration
      observedAt presence capture process = .ok (.finish s' tracker previous))
    (hsettled : s'.Coherent) :
    Mints (some s) s' ↔ ObservationMisses s context.tracker presence capture process := by
  unfold reduceObservation at h
  split_ifs at h
  · cases h
  · obtain ⟨⟨s₁, tracker₁⟩, hobserved, h⟩ := bind_eq_ok.mp h
    obtain ⟨s₂, hprocess, h⟩ := bind_eq_ok.mp h
    obtain ⟨tracker₂, -, heq⟩ := bind_pure_eq_ok.mp h
    cases heq
    exact observation_mints hs hmay hobserved hprocess hsettled

theorem branch_mints {s s' : PaneState} {envelope : PaneEventEnvelope}
    {context : ReductionContext} {tracker : CaptureTrackerSnapshot}
    {previous : Option CaptureTrackerSnapshot} (hs : s.Coherent)
    (hmay : mayCreateUnread (some s) context.tracker envelope.event = false)
    (h : dispatch (some s) envelope context = .ok (.finish s' tracker previous))
    (haltered : s' ≠ s) (hsettled : s'.Coherent) :
    (envelope.event.acknowledges = true ∨ ¬Mints (some s) s') ↔
      ¬Missed s envelope context.tracker := by
  cases dispatch_finished h with
  | read throughOrder hevent =>
    refine iff_of_true (Or.inl (by rw [hevent]; rfl)) ?_
    simp [Missed, hevent, EventMisses]
  | done expected completedAt hevent =>
    refine iff_of_true (Or.inl (by rw [hevent]; rfl)) ?_
    simp [Missed, hevent, EventMisses]
  | summary expectedStateId expectedAgentEpoch summary hevent hvalid hrecord =>
    have hmints : Mints (some s) s' ↔ UnreportedFault s := by
      rw [hrecord]
      exact Unmoved.mints_iff ⟨rfl, rfl, rfl, rfl⟩
    simp [Missed, hevent, hmints, PaneEvent.acknowledges, PaneEvent.isMarkPaneRead,
      PaneEvent.isMarkDone]
  | sessionStart agent session observedAt source resumedPrompt hagent hsession hevent hcompact s₀
      hbegins hrecord =>
    have hfresh := (beginAgentEpoch_fresh hbegins).2
    refine iff_of_true (Or.inr ?_) ?_
    · have hfirst : FirstOfEpoch s₀ :=
        ⟨hfresh.lifecycle, hfresh.runSeq, hfresh.completedSeq, hfresh.armed⟩
      have hunmoved : Unmoved s₀ s' := by
        rw [hrecord]
        exact ⟨rfl, rfl, rfl, rfl⟩
      rw [hfirst.mints_iff hunmoved.epoch, hunmoved.mints_iff]
      · exact not_unreportedFault_of_idle hfirst.lifecycle
      · intro t ht
        cases ht
        rw [hunmoved.epoch, hfresh.agentEpoch]
        omega
    · simp [Missed, hevent, EventMisses]
  | interruption agent session hagent hsession hexternal hverifies hrecord =>
    exact absurd hrecord haltered
  | explicit agent session hagent hsession hexternal hstart hclaude hstep =>
    rw [missed_explicit hagent hsession hexternal, external_not_acknowledges hexternal,
      explicitStep_mints hs hstart hmay hstep haltered]
    simp only [Bool.false_eq_true, false_or]
  | observation base trackerGeneration observedAt presence capture process hevent =>
    rw [missed_observation hevent]
    simp only [dispatch, hevent] at h
    rw [hevent] at hmay ⊢
    have hack : ∀ base trackerGeneration observedAt presence capture process,
        (PaneEvent.observationBatch base trackerGeneration observedAt presence capture
          process).acknowledges = false := fun _ _ _ _ _ _ => rfl
    rw [hack, observationBranch_mints hs hmay h hsettled]
    simp only [Bool.false_eq_true, false_or]

/-- The visibility is not needed when the check says so: events that are foreseen, refused or
without effect, and those that miss nothing. -/
theorem visibility_covered_iff {current : Option PaneState} {envelope : PaneEventEnvelope}
    {context : ReductionContext} (hvalid : ∀ s ∈ current, s.validate = .ok ()) :
    (mayCreateUnread current context.tracker envelope.event = false →
        SeenAlike current envelope context) ↔
      mayCreateUnread current context.tracker envelope.event = true ∨
        ¬Alters current envelope context ∨
        ∀ s ∈ current, ¬Missed s envelope context.tracker := by
  cases hmay : mayCreateUnread current context.tracker envelope.event with
  | true => simp
  | false =>
    simp only [true_imp_iff, Bool.false_eq_true, false_or]
    by_cases halters : Alters current envelope context
    · obtain ⟨s', tracker, previous, hdispatch, hdiffers, hsettled⟩ := halters.finish
      have hiff : SeenAlike current envelope context ↔
          (envelope.event.acknowledges = true ∨ ¬Mints current s') := by
        rw [seenAlike_iff]
        constructor
        · intro h
          exact h halters s' tracker previous hdispatch
        · intro h _ s₀ tracker₀ previous₀ hdispatch₀
          rw [hdispatch] at hdispatch₀
          cases hdispatch₀
          exact h
      rw [hiff, or_iff_right (not_not.mpr halters)]
      cases current with
      | none =>
        refine iff_of_true (Or.inr ?_) (by simp)
        exact created_not_mints hmay (dispatch_created hdispatch).2
      | some s =>
        have hs := (PaneState.validate_eq_ok.mp (hvalid s rfl)).toCoherent
        rw [branch_mints hs hmay hdispatch (fun heq => hdiffers (heq ▸ rfl)) hsettled.coherent]
        simp
    · refine iff_of_true (seenAlike_iff.mpr fun h => absurd h halters) (Or.inl halters)

/-- A run with two launches that were not confirmed. The stop showed the first, in sight of the
user. -/
def refaultedRecord : PaneState :=
  { claudeRecord with
    revision := 4
    runSeq := 1
    startedAt := some 1
    lifecycle := .error (some "await_launch_unconfirmed")
    claudeBackground :=
      { faults := [⟨"await_launch_unconfirmed", "a", true⟩, ⟨"await_launch_unconfirmed", "b", false⟩]
        paused := true
        pausedAt := some 3 }
    unread := ⟨1, 1, some ⟨1, 1, .error, 3⟩⟩ }

omit [Sha256] in
/-- Progress of the run reports the second fault: no visibility is asked for, and the occurrence
depends on it. -/
theorem visibility_misses_fault : ¬∀ (current : Option PaneState) (envelope : PaneEventEnvelope)
    (context : ReductionContext), (∀ s ∈ current, @PaneState.validate .constant s = .ok ()) →
    mayCreateUnread current context.tracker envelope.event = false →
    @SeenAlike .constant current envelope context := by
  intro h
  have hseen := h (some refaultedRecord) (claudeEnvelope (.progressUpdated 4 [.taskCreated]))
    (quietContext {}) (by simp; decide) rfl
  exact absurd hseen (by unfold SeenAlike; decide)

example : ([.claudeToolResultObserved 1 (.launchUnconfirmed "a") [],
      .claudeToolResultObserved 2 (.launchUnconfirmed "b") [],
      .claudeStopped 3 none none none].foldl (fun cell event => @Cell.next .constant cell
        { envelope := claudeEnvelope event, visibility := ⟨true⟩ })
      ⟨some claudeRecord, {}⟩).record = some refaultedRecord := by
  decide

omit [Sha256] in
/-- Progress of a record that shows no error ends alike under both visibilities. -/
theorem visibility_covered_progress :
    @SeenAlike .constant (some claudeRecord) (claudeEnvelope (.progressUpdated 4 [.taskCreated]))
      (quietContext {}) := by
  let _ : Sha256 := .constant
  refine (visibility_covered_iff (by simp; decide)).mpr (Or.inr (Or.inr ?_)) rfl
  rintro s hs
  cases hs
  exact fun h => not_eventMisses rfl _ h.2

end VdeTmux.Daemon
