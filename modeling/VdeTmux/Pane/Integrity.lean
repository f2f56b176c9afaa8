import VdeTmux.Pane.Validity

/-!
# When the reducer keeps its own check

On valid records and well-formed events the reducer stops with an intended refusal only, except
on the inputs of `Breaks`; there it always stops with an error of its own.
-/

open Foundation Foundation.Text
namespace VdeTmux.Pane
variable [Sha256]

/-- A private prompt that the task context of the record, or of the record to come, can keep. -/
structure PrivateInputSound (current : Option PaneState) (privateTaskPrompt : Option String) :
    Prop where
  text : ∀ text ∈ privateTaskPrompt, hasControl text = false
  sealing : ∀ s ∈ current, privateTaskPrompt.isSome = true → s.taskContext.Sealed

/-- A valid record, a well-formed event for its pane, and room in every counter. -/
structure Admitted (current : Option PaneState) (envelope : PaneEventEnvelope)
    (context : ReductionContext) : Prop where
  valid : ∀ s ∈ current, s.validate = .ok ()
  pane : ∀ s ∈ current, s.paneInstance = envelope.paneInstance
  parts : envelope.event.PartsValid
  room : Room current envelope.event context
  privatePrompt : PrivateInputSound current context.privateTaskPrompt

theorem Admitted.record {s : PaneState} {envelope : PaneEventEnvelope}
    {context : ReductionContext} (h : Admitted (some s) envelope context) : s.Valid :=
  PaneState.validate_eq_ok.mp (h.valid s rfl)

theorem Finished.settle_ok {s s' : PaneState} {envelope : PaneEventEnvelope}
    {context : ReductionContext} {tracker : CaptureTrackerSnapshot}
    {previous : Option CaptureTrackerSnapshot} (hadmitted : Admitted (some s) envelope context)
    (hok : ¬Breaks s envelope context)
    (h : Finished s envelope context s' tracker previous) :
    ∃ r, settle (some s) envelope.event context (.finish s' tracker previous) = .ok r := by
  have hs := hadmitted.record
  have hroom := hadmitted.room
  have htransition := h.transition hs.toCoherent.counted
  have hsettleable := h.settleable hs hadmitted.parts
    ⟨hadmitted.privatePrompt.text, hadmitted.privatePrompt.sealing s rfl⟩ hok
  refine Pane.settle_ok hsettleable (fun existing hsame => ?_) ?_ ?_
  · exact hroom.revision existing hsame
  · rw [htransition.occurrenceSeq]
    exact hroom.occurrenceSeq s rfl
  · have hlatest : s'.unread.latestOrder = s.unread.latestOrder := by
      simp [UnreadState.latestOrder, htransition.latest]
    have hissued := hroom.latest s rfl
    have horder := hroom.order
    omega

theorem Created.settle_ok {s' : PaneState} {envelope : PaneEventEnvelope}
    {context : ReductionContext} {tracker : CaptureTrackerSnapshot}
    {previous : Option CaptureTrackerSnapshot} (hadmitted : Admitted none envelope context)
    (hpane : envelope.paneInstance.validate = .ok ())
    (h : Created envelope context s' tracker) :
    ∃ r, settle none envelope.event context (.finish s' tracker previous) = .ok r := by
  obtain ⟨hsettleable, hunread⟩ := h.settleable hpane hadmitted.parts hadmitted.privatePrompt.text
  have horder := hadmitted.room.order
  refine Pane.settle_ok hsettleable (by simp) ?_ ?_
  · rw [hunread]
    exact Nat.succ_pos _
  · rw [hunread]
    simpa [UnreadState.latestOrder] using horder

theorem reduce_refuses {current : Option PaneState} {envelope : PaneEventEnvelope}
    {context : ReductionContext} (hadmitted : Admitted current envelope context)
    (hok : ∀ s ∈ current, ¬Breaks s envelope context) :
    RefusesOnly (reduce current envelope context) := by
  refine (errorsIn_mapError fun _ => trivial).bind fun _ hpane => ?_
  refine (errorsIn_refuse ?_).bind fun _ _ => ?_
  · rintro ⟨s, hs, hdiffers⟩
    exact absurd (hadmitted.pane s hs) hdiffers
  · refine errorsIn_ite (fun _ => errorsIn_pure) fun _ => ?_
    have htasks : ∀ s ∈ current, validateTasks s.tasks = .ok () :=
      fun s hs => (PaneState.validate_eq_ok.mp (hadmitted.valid s hs)).tasks
    have hpoll : ∀ s ∈ current, ¬PollRunsOver s envelope.event context.tracker :=
      fun s hs hover => hok s hs (.polled hover)
    refine (dispatch_refuses hadmitted.room htasks hpoll).bind fun pending hdispatch => ?_
    cases pending with
    | unchanged => exact errorsIn_ok
    | finish s' tracker previous =>
      refine errorsIn_of_ok ?_
      cases current with
      | none =>
        exact (dispatch_created hdispatch).2.settle_ok hadmitted (mapError_eq_ok.mp hpane)
      | some s => exact (dispatch_finished hdispatch).settle_ok hadmitted (hok s rfl)

theorem reduce_eq_dispatch {s : PaneState} {envelope : PaneEventEnvelope}
    {context : ReductionContext} (hadmitted : Admitted (some s) envelope context)
    (hcontent : envelope.event.isSemanticallyEmpty = false) :
    reduce (some s) envelope context =
      dispatch (some s) envelope context >>= settle (some s) envelope.event context := by
  have hpane : envelope.paneInstance.validate = .ok () :=
    hadmitted.pane s rfl ▸ hadmitted.record.paneInstance
  have hsame : ¬∃ state ∈ some s, state.paneInstance ≠ envelope.paneInstance := by
    simpa using hadmitted.pane s rfl
  simp only [reduce, hpane, refuse, if_neg hsame, hcontent]
  rfl

theorem not_refuses_of_broken {s s' : PaneState} {envelope : PaneEventEnvelope}
    {context : ReductionContext} {tracker : CaptureTrackerSnapshot}
    {previous : Option CaptureTrackerSnapshot} (hadmitted : Admitted (some s) envelope context)
    (hcontent : envelope.event.isSemanticallyEmpty = false)
    (hdispatch : dispatch (some s) envelope context = .ok (.finish s' tracker previous))
    (hbroken : ¬Settleable s') : ¬RefusesOnly (reduce (some s) envelope context) := by
  have hdiffers : s' ≠ s := fun hsame => hbroken (hsame ▸ hadmitted.record.settleable)
  obtain ⟨message, herror⟩ : ∃ message, settle (some s) envelope.event context
      (.finish s' tracker previous) = .error (.stateInvariantViolation message) :=
    settle_broken (hadmitted.room.revision s rfl) hdiffers hbroken
  intro hrefuses
  refine hrefuses (.stateInvariantViolation message) ?_
  rw [reduce_eq_dispatch hadmitted hcontent, hdispatch]
  exact herror

theorem not_refuses_of_error {s : PaneState} {envelope : PaneEventEnvelope}
    {context : ReductionContext} (counter : String) (hadmitted : Admitted (some s) envelope context)
    (hcontent : envelope.event.isSemanticallyEmpty = false)
    (hdispatch : dispatch (some s) envelope context = .error (.counterOverflow counter)) :
    ¬RefusesOnly (reduce (some s) envelope context) := by
  intro hrefuses
  refine hrefuses (.counterOverflow counter) ?_
  rw [reduce_eq_dispatch hadmitted hcontent, hdispatch]
  rfl

theorem done_breaks {s : PaneState} {envelope : PaneEventEnvelope} {context : ReductionContext}
    {expected : StateVersion} {completedAt : ℤ} (hadmitted : Admitted (some s) envelope context)
    (hevent : envelope.event = .markDone expected completedAt) (hversion : s.version = expected)
    (hclosed : s.runSeq = s.completedSeq) (hprojected : s.currentRun ≠ none) :
    ¬RefusesOnly (reduce (some s) envelope context) := by
  obtain ⟨s', hdone⟩ := markDone_ok completedAt (hadmitted.room.runSeq s rfl)
  have hspec := markDone_spec hdone
  have hnext : s'.runSeq = s.runSeq + 1 := by
    rcases hspec.1 with ⟨-, -, hnext, -⟩ | ⟨hopen, -⟩
    · exact hnext
    · exact absurd hclosed hopen
  have hkept : s'.currentRun = s.currentRun := by
    rw [hspec.2.1]
  have hdispatch : dispatch (some s) envelope context = .ok (.finish s'
      { context.tracker with rebaselinePending := true } (some context.tracker)) := by
    simp only [dispatch, hevent, reduceInternalStateEvent]
    refine seq_eq_ok.mpr ⟨refuse_eq_ok.mpr (by simpa using hversion), ?_⟩
    exact bind_pure_eq_ok.mpr ⟨s', hdone, rfl⟩
  refine not_refuses_of_broken hadmitted (by rw [hevent]; rfl) hdispatch fun hsettled => ?_
  obtain ⟨run, hrun⟩ := Option.ne_none_iff_exists'.mp hprojected
  have hold := (hadmitted.record.currentRun run hrun).2
  have hnew := (hsettled.coherent.currentRun run (hkept.trans hrun)).2
  omega

omit [Sha256] in
theorem reduceExplicit_regular [Sha256] {s : PaneState} {envelope : PaneEventEnvelope}
    {context : ReductionContext} {agent : AgentKind} {session : AgentSessionId}
    (hagent : envelope.agent = some agent) (hsession : envelope.agentSessionId = some session)
    (hclaude : envelope.event.isClaude = true → agent.value = "claude")
    (hstart : envelope.event.isSessionStart = false) :
    reduceExplicit (some s) envelope context =
      reduceRegularExplicit s agent session envelope.event context := by
  have hallowed : ¬(envelope.event.isClaude = true ∧ agent.value ≠ "claude") :=
    fun h => h.2 (hclaude h.1)
  simp only [reduceExplicit, hagent, hsession, if_neg hallowed]
  generalize envelope.event = event at hstart ⊢
  split
  · simp [PaneEvent.isSessionStart] at hstart
  · rfl

theorem dispatch_explicit {s s' : PaneState} {envelope : PaneEventEnvelope}
    {context : ReductionContext} {agent : AgentKind} {session : AgentSessionId}
    (hadmitted : Admitted (some s) envelope context) (hagent : envelope.agent = some agent)
    (hsession : envelope.agentSessionId = some session)
    (hclaude : envelope.event.isClaude = true → agent.value = "claude")
    (hexternal : envelope.event.isExternal = true)
    (hstart : envelope.event.isSessionStart = false)
    (hinterrupts : isInterruption envelope.event = false)
    (htransition : explicitTransition s agent session envelope.event context.tracker
      context.privateTaskPrompt = .ok s') :
    ∃ tracker, dispatch (some s) envelope context =
      .ok (.finish s' tracker (some context.tracker)) := by
  have hverify : interruptionNeedsTerminalVerification s (classifyIdentity s agent session)
      envelope.event = false := by
    simp [interruptionNeedsTerminalVerification, hinterrupts]
  obtain ⟨tracker, hbump⟩ : ∃ tracker, bumpTracker (acceptedTracker s s' agent
      (classifyIdentity s agent session) envelope.event context.tracker) = .ok tracker :=
    bumpTracker_ok (acceptedTracker_generation.trans_lt hadmitted.room.generation)
  refine ⟨tracker, ?_⟩
  rw [dispatch_external hexternal, reduceExplicit_regular hagent hsession hclaude hstart,
    reduceRegularExplicit, hverify]
  refine bind_eq_ok.mpr ⟨s', htransition, bind_pure_eq_ok.mpr ⟨tracker, hbump, rfl⟩⟩

omit [Sha256] in
theorem blockedLifecycle_loud {background : ClaudeBackgroundState}
    (h : blockedLifecycle background ≠ .error (some agentEndedReason)) :
    (blockedLifecycle background).quiet = false := by
  unfold blockedLifecycle at h ⊢
  split at h
  · simp only [ne_eq, LifecycleState.error.injEq] at h
    simp [LifecycleState.quiet, h]
  · rfl

theorem lateStop_breaks {s : PaneState} {envelope : PaneEventEnvelope}
    {context : ReductionContext} {agent : AgentKind} {session : AgentSessionId}
    (hadmitted : Admitted (some s) envelope context) (hagent : envelope.agent = some agent)
    (hsession : envelope.agentSessionId = some session)
    (hclaude : envelope.event.isClaude = true → agent.value = "claude")
    (hidentity : classifyIdentity s agent session = .exactAbsent)
    (hstopped : envelope.event.isClaudeStopped = true)
    (hblocks : s.claudeBackground.blocksCompletion = true)
    (hloud : blockedLifecycle s.claudeBackground ≠ .error (some agentEndedReason)) :
    ¬RefusesOnly (reduce (some s) envelope context) := by
  cases hevent : envelope.event with
  | claudeStopped observedAt response registry crons =>
    have htransition : explicitTransition s agent session envelope.event context.tracker
        context.privateTaskPrompt = .ok { checkStop s observedAt registry crons with
          lifecycle := blockedLifecycle s.claudeBackground
          claudeBackground :=
            (checkStop s observedAt registry crons).claudeBackground.pause observedAt
          agentPresent := false
          scanVerified := true } := by
      simp only [explicitTransition, hidentity, hevent, isEpochStartEvidence,
        isCompletionForState, applyRegularExplicitEvent, applyClaudeStop, checkStop_blocks, hblocks]
      rfl
    obtain ⟨tracker, hdispatch⟩ := dispatch_explicit hadmitted hagent hsession hclaude
      (by rw [hevent]; rfl) (by rw [hevent]; rfl) (by rw [hevent]; rfl) htransition
    refine not_refuses_of_broken hadmitted (by rw [hevent]; rfl) hdispatch ?_
    exact Violates.not_settleable (Or.inr ⟨rfl, blockedLifecycle_loud hloud⟩)
  | _ => simp [hevent, PaneEvent.isClaudeStopped] at hstopped

theorem ended_breaks {s : PaneState} {envelope : PaneEventEnvelope}
    {context : ReductionContext} {agent : AgentKind} {session : AgentSessionId}
    (hadmitted : Admitted (some s) envelope context) (hagent : envelope.agent = some agent)
    (hsession : envelope.agentSessionId = some session)
    (hclaude : envelope.event.isClaude = true → agent.value = "claude")
    (hidentity : classifyIdentity s agent session = .exactPresent)
    (hended : envelope.event.isClaudeSessionEnded = true) (hidle : s.lifecycle = .idle)
    (htasks : s.claudeBackground.tasks ≠ []) :
    ¬RefusesOnly (reduce (some s) envelope context) := by
  cases hevent : envelope.event with
  | claudeSessionEnded observedAt =>
    have hopen : backgroundOpen s = true := by
      simp [backgroundOpen, htasks]
    have htransition : explicitTransition s agent session envelope.event context.tracker
        context.privateTaskPrompt = .ok (endClaudeTracking s) := by
      simp only [explicitTransition, hidentity, hevent, applyRegularExplicitEvent]
    obtain ⟨tracker, hdispatch⟩ := dispatch_explicit hadmitted hagent hsession hclaude
      (by rw [hevent]; rfl) (by rw [hevent]; rfl) (by rw [hevent]; rfl) htransition
    refine not_refuses_of_broken hadmitted (by rw [hevent]; rfl) hdispatch ?_
    obtain ⟨-, hrun, hcompleted⟩ := endClaudeTracking_kept s
    have hclosed := hadmitted.record.lifecycle.mp hidle
    refine Violates.not_settleable (Or.inl ⟨?_, hrun.trans (hclosed.trans hcompleted.symm)⟩)
    rw [endClaudeTracking_lifecycle hopen, hidle]
    exact LifecycleState.noConfusion
  | _ => simp [hevent, PaneEvent.isClaudeSessionEnded] at hended

theorem completion_ok {s : PaneState} {event : PaneEvent} (privateTaskPrompt : Option String)
    (hcompletion : isCompletion event = true) (hparts : event.PartsValid) :
    ∃ s', applyRegularExplicitEvent s event privateTaskPrompt = .ok s' := by
  have hresponse : ∀ (s : PaneState) completedAt response allow,
      response.validate = .ok () →
        ∃ s', completeRunWithResponse s completedAt response allow = .ok s' :=
    fun s completedAt response allow hvalid =>
      ⟨_, completeRunWithResponse_eq_ok.mpr ⟨hvalid, rfl⟩⟩
  cases event with
  | completeRun completedAt => exact ⟨_, rfl⟩
  | responseAndCompleteRun completedAt response => exact hresponse s completedAt response false hparts
  | claudeStopped observedAt response registry crons =>
    simp only [applyRegularExplicitEvent, applyClaudeStop]
    split_ifs
    · exact ⟨_, rfl⟩
    · exact ⟨_, rfl⟩
    · cases response with
      | none =>
        simp only [releaseStop]
        split_ifs <;> exact ⟨_, rfl⟩
      | some response => exact hresponse _ _ response _ hparts.2
  | explicitStateReported report =>
    simp only [isCompletion, Bool.and_eq_true, decide_eq_true_eq] at hcompletion
    obtain ⟨s₁, hs₁⟩ : ∃ s₁, applyReportLifecycle s report = .ok s₁ := by
      simp only [applyReportLifecycle, hcompletion.1]
      split_ifs <;> exact ⟨_, rfl⟩
    exact ⟨_, applyExplicitReport_eq_ok.mpr ⟨s₁, hs₁, rfl⟩⟩
  | _ => simp [isCompletion] at hcompletion

omit [Sha256] in
theorem isCompletion_forState {s : PaneState} {event : PaneEvent}
    (harmed : s.syntheticCompletionArmed = true) (h : isCompletion event = true) :
    isCompletionForState s event = true := by
  cases event <;> simp_all [isCompletionForState, isCompletion]

omit [Sha256] in
theorem isCompletion_shape {event : PaneEvent} (h : isCompletion event = true) :
    event.isExternal = true ∧ event.isSessionStart = false ∧ isInterruption event = false ∧
      event.isSemanticallyEmpty = false := by
  cases event <;>
    simp_all [isCompletion, PaneEvent.isExternal, PaneEvent.isSessionStart, isInterruption,
      PaneEvent.isSemanticallyEmpty, ExplicitStateReport.isSemanticallyEmpty]

theorem held_breaks {s : PaneState} {envelope : PaneEventEnvelope}
    {context : ReductionContext} {agent : AgentKind} {session : AgentSessionId}
    (hadmitted : Admitted (some s) envelope context) (hagent : envelope.agent = some agent)
    (hsession : envelope.agentSessionId = some session)
    (hclaude : envelope.event.isClaude = true → agent.value = "claude")
    (hidentity : classifyIdentity s agent session = .unboundPresent)
    (hcompletion : isCompletion envelope.event = true)
    (harmed : s.syntheticCompletionArmed = true) (hheld : Held s envelope.event) :
    ¬RefusesOnly (reduce (some s) envelope context) := by
  obtain ⟨hexternal, hstart, hinterrupts, hcontent⟩ := isCompletion_shape hcompletion
  obtain ⟨s', hrecord⟩ := completion_ok (s := { s with agentSessionId := some session })
    context.privateTaskPrompt hcompletion hadmitted.parts
  have hsession' : s'.agentSessionId = some session :=
    congrArg PaneIdentity.agentSessionId (applyRegularExplicitEvent_identity hrecord).1
  have htransition : explicitTransition s agent session envelope.event context.tracker
      context.privateTaskPrompt = .ok s' := by
    simp only [explicitTransition, hidentity]
    rw [if_pos (Or.inr ⟨isCompletion_forState harmed hcompletion, harmed⟩)]
    exact hrecord
  obtain ⟨tracker, hdispatch⟩ := dispatch_explicit hadmitted hagent hsession hclaude hexternal
    hstart hinterrupts htransition
  refine not_refuses_of_broken hadmitted hcontent hdispatch fun hsettled => ?_
  have hcoherent : ({ s with agentSessionId := some session } : PaneState).Coherent :=
    { hadmitted.record.toCoherent with schema := hadmitted.record.schema }
  have hleft := (armed_completion hcoherent harmed hcompletion hrecord).mpr hheld
  simp [hsettled.armedSession hleft] at hsession'

omit [Sha256] in
theorem Violates.process {s s' : PaneState} {process : Option ProcessObservation}
    (h : Violates s) (hprocess : applyProcessObservation s process = .ok s') : Violates s' := by
  rw [applyProcessObservation_spec hprocess]
  exact h

theorem dispatch_observation {s s₁ : PaneState} {tracker₁ : CaptureTrackerSnapshot}
    {envelope : PaneEventEnvelope} {context : ReductionContext} {observedAt : ℤ}
    {presence : AgentPresenceObservation} {capture : Option CaptureObservation}
    {process : Option ProcessObservation} (hadmitted : Admitted (some s) envelope context)
    (hevent : envelope.event = .observationBatch (some (.canonical s.version))
      context.tracker.generation observedAt presence capture process)
    (hobserved : observePresence s context.tracker presence capture process observedAt =
      .ok (s₁, tracker₁)) :
    ∃ s' tracker, applyProcessObservation s₁ process = .ok s' ∧
      bumpTracker tracker₁ = .ok tracker ∧
      dispatch (some s) envelope context = .ok (.finish s' tracker (some context.tracker)) := by
  have hparts := hadmitted.parts
  rw [hevent] at hparts
  obtain ⟨s', hprocess⟩ := applyProcessObservation_ok (s := s₁) hparts.2
  have hgeneration := (observePresence_observed hobserved).generation
  obtain ⟨tracker, hbump⟩ := bumpTracker_ok (hgeneration.trans_lt hadmitted.room.generation)
  refine ⟨s', tracker, hprocess, hbump, ?_⟩
  have hfresh : ¬(some (.canonical s.version) ≠ observedDescriptor (some s) ∨
      context.tracker.generation ≠ context.tracker.generation) := by
    simp [observedDescriptor]
  simp only [dispatch, hevent, reduceObservation, if_neg hfresh]
  exact bind_eq_ok.mpr ⟨_, hobserved, bind_eq_ok.mpr ⟨s', hprocess,
    bind_pure_eq_ok.mpr ⟨tracker, hbump, rfl⟩⟩⟩

theorem Observed.violates {s s' : PaneState} {tracker tracker' : CaptureTrackerSnapshot}
    {presence : AgentPresenceObservation} {capture : Option CaptureObservation}
    {process : Option ProcessObservation} {observedAt : ℤ} (hs : s.Valid)
    (hparts : ∀ c ∈ capture, c.inference.PartsValid)
    (hbreaks : BreaksObservation s tracker capture presence)
    (h : Observed s tracker presence capture process observedAt s' tracker') : Violates s' := by
  cases hbreaks with
  | confirmed counts counted unsettled =>
    cases h with
    | absent presence s₁ record countedBranch evidence =>
      simp only [countsAbsence, Bool.and_eq_true] at counts
      rcases countedBranch with ⟨-, hzero | hnot⟩ | ⟨rfl, -⟩
      · omega
      · exact absurd counts hnot
      · have hcoherent :=
          applyInference_coherent hs.toCoherent (effectiveInference_parts hparts) record
        exact confirmAbsent_violates hcoherent
          ((applyInference_unsettled hs.toCoherent record).mpr unsettled)
    | epoch agent presence => cases presence
    | unknown presence => cases presence
    | same presence => cases presence
    | other agent presence => cases presence
  | loud waits gone loud =>
    cases h with
    | absent presence s₁ record countedBranch evidence =>
      rcases countedBranch with ⟨rfl, -⟩ | ⟨-, hcount, hcounts⟩
      · have hidentity := applyInference_identity record
        refine Or.inr ⟨(congrArg PaneIdentity.agentPresent hidentity).trans gone, ?_⟩
        rw [applyInference_lifecycle hs.toCoherent record]
        exact loud
      · rcases waits with hzero | hnot
        · omega
        · simp [countsAbsence, hcounts.1, hcounts.2] at hnot
    | epoch agent presence => cases presence
    | unknown presence => cases presence
    | same presence => cases presence
    | other agent presence => cases presence
  | replaced agent differs present verified counted unsettled =>
    cases h with
    | other agent' presence differs' present' countedBranch evidence streak =>
      rcases countedBranch with ⟨-, hzero | hnot⟩ | ⟨rfl, -⟩
      · omega
      · simp [verified] at hnot
      · exact confirmAbsent_violates hs.toCoherent unsettled
    | epoch agent' presence begins tracker allowed =>
      cases presence
      rcases allowed with hgone | hsame
      · simp [present] at hgone
      · exact absurd hsame differs
    | unknown presence => cases presence
    | same presence =>
      cases presence
      exact absurd rfl differs
    | absent presence => cases presence

omit [Sha256] in
theorem countAbsence_full {s : PaneState} {tracker : CaptureTrackerSnapshot} {observedAt : ℤ}
    (h : u8Max ≤ tracker.absenceCount) :
    countAbsence s tracker observedAt = .error (.counterOverflow "absence") := by
  simp only [countAbsence, increment_of_le h]
  rfl

omit [Sha256] in
theorem countReplacement_full {tracker : CaptureTrackerSnapshot} {agent : AgentKind}
    (hkind : tracker.replacementKind = some agent) (h : u8Max ≤ tracker.replacementStreak) :
    countReplacement tracker agent = .error (.counterOverflow "replacement streak") := by
  simp only [countReplacement, if_pos hkind, increment_of_le h]
  rfl

omit [Sha256] in
theorem PollOverflow.error {s : PaneState} {tracker : CaptureTrackerSnapshot}
    {presence : AgentPresenceObservation} (capture : Option CaptureObservation)
    (process : Option ProcessObservation) (observedAt : ℤ) (hrun : s.runSeq < u64Max)
    (h : PollOverflow s tracker presence) :
    ∃ counter, observePresence s tracker presence capture process observedAt =
      .error (.counterOverflow counter) := by
  cases h with
  | absence verified detectable full =>
    obtain ⟨s₁, tracker₁, hcapture⟩ := applyCapture_ok capture
      { tracker with agentProcess := none, replacementKind := none, replacementStreak := 0 }
      observedAt hrun
    obtain ⟨hverified, hagent, hcount⟩ := applyCapture_counters hcapture
    have hcounts : s₁.scanVerified = true ∧ supportsProcessDetection s₁.agent = true := by
      rw [hverified, hagent]
      exact ⟨verified, detectable⟩
    refine ⟨"absence", ?_⟩
    simp only [observePresence, observeAbsent, hcapture]
    refine bind_eq_error.mpr (Or.inr ⟨_, rfl, ?_⟩)
    rw [if_pos hcounts]
    exact countAbsence_full (full.trans hcount.ge)
  | replaced agent differs present verified full =>
    refine ⟨"absence", ?_⟩
    simp only [observePresence, if_neg differs, observeOtherAgent, if_pos present, if_pos verified]
    exact bind_eq_error.mpr (Or.inl (countAbsence_full full))
  | sighted agent differs present kind full =>
    simp only [observePresence, if_neg differs, observeOtherAgent, if_pos present]
    by_cases hverified : s.scanVerified = true
    · rw [if_pos hverified]
      by_cases hcount : tracker.absenceCount < u8Max
      · refine ⟨"replacement streak", bind_eq_error.mpr (Or.inr ⟨_, countAbsence_ok hcount, ?_⟩)⟩
        split_ifs
        · exact bind_eq_error.mpr (Or.inl (countReplacement_full kind full))
        · exact bind_eq_error.mpr (Or.inl (countReplacement_full kind full))
      · exact ⟨"absence", bind_eq_error.mpr (Or.inl (countAbsence_full (not_lt.mp hcount)))⟩
    · rw [if_neg hverified]
      refine ⟨"replacement streak", bind_eq_error.mpr (Or.inr ⟨_, rfl, ?_⟩)⟩
      exact bind_eq_error.mpr (Or.inl (countReplacement_full kind full))

theorem polled_breaks {s : PaneState} {envelope : PaneEventEnvelope} {context : ReductionContext}
    (hadmitted : Admitted (some s) envelope context)
    (h : PollRunsOver s envelope.event context.tracker) :
    ¬RefusesOnly (reduce (some s) envelope context) := by
  obtain ⟨observedAt, presence, capture, process, hover, hevent⟩ := h.observed
  obtain ⟨counter, herror⟩ := hover.error capture process observedAt (hadmitted.room.runSeq s rfl)
  have hfresh : ¬(some (.canonical s.version) ≠ observedDescriptor (some s) ∨
      context.tracker.generation ≠ context.tracker.generation) := by
    simp [observedDescriptor]
  refine not_refuses_of_error counter hadmitted (by rw [hevent]; rfl) ?_
  simp only [dispatch, hevent, reduceObservation, if_neg hfresh]
  exact bind_eq_error.mpr (Or.inl herror)

theorem observation_breaks {s : PaneState} {envelope : PaneEventEnvelope}
    {context : ReductionContext} {observedAt : ℤ} {presence : AgentPresenceObservation}
    {capture : Option CaptureObservation} {process : Option ProcessObservation}
    (hadmitted : Admitted (some s) envelope context)
    (hevent : envelope.event = .observationBatch (some (.canonical s.version))
      context.tracker.generation observedAt presence capture process)
    (hbreaks : BreaksObservation s context.tracker capture presence) :
    ¬RefusesOnly (reduce (some s) envelope context) := by
  by_cases hover : PollOverflow s context.tracker presence
  · exact polled_breaks hadmitted ⟨_, _, _, _, hover, hevent⟩
  · obtain ⟨⟨s₁, tracker₁⟩, hobserved⟩ := observePresence_ok capture process observedAt
      (hadmitted.room.runSeq s rfl) (hadmitted.room.agentEpoch s rfl) hover
    obtain ⟨s', tracker, hprocess, -, hdispatch⟩ := dispatch_observation hadmitted hevent hobserved
    have hparts := hadmitted.parts
    rw [hevent] at hparts
    have hviolates :=
      (observePresence_observed hobserved).violates hadmitted.record hparts.1 hbreaks
    exact not_refuses_of_broken hadmitted (by rw [hevent]; rfl) hdispatch
      (hviolates.process hprocess).not_settleable

theorem Breaks.not_refuses {s : PaneState} {envelope : PaneEventEnvelope}
    {context : ReductionContext} (hadmitted : Admitted (some s) envelope context)
    (h : Breaks s envelope context) : ¬RefusesOnly (reduce (some s) envelope context) := by
  cases h with
  | done expected completedAt event version closed projected =>
    exact done_breaks hadmitted event version closed projected
  | explicit agent session hasAgent hasSession claude breaks =>
    cases breaks with
    | lateStop identity stopped blocks loud =>
      exact lateStop_breaks hadmitted hasAgent hasSession claude identity stopped blocks loud
    | ended identity ended idle tasks =>
      exact ended_breaks hadmitted hasAgent hasSession claude identity ended idle tasks
    | held identity completion armed held =>
      exact held_breaks hadmitted hasAgent hasSession claude identity completion armed held
  | observation observedAt presence capture process event breaks =>
    exact observation_breaks hadmitted event breaks
  | polled runsOver => exact polled_breaks hadmitted runsOver

/-- A reduction of a valid record stops with an intended refusal only, exactly on the inputs that
are not breaking. -/
theorem reduce_refuses_iff {current : Option PaneState} {envelope : PaneEventEnvelope}
    {context : ReductionContext} (hadmitted : Admitted current envelope context) :
    RefusesOnly (reduce current envelope context) ↔
      ∀ s ∈ current, ¬Breaks s envelope context := by
  constructor
  · rintro hrefuses s rfl hbreaks
    exact hbreaks.not_refuses hadmitted hrefuses
  · exact reduce_refuses hadmitted

def helpedRecord : PaneState :=
  { claudeRecord with
    lifecycle := .running
    runSeq := 1
    startedAt := some 1
    subagents := [⟨"agent", "helper", none⟩] }

def absentOnce : CaptureTrackerSnapshot :=
  { epoch := some (⟨"state"⟩, 1), absenceCount := 1 }

def secondAbsence : PaneEventEnvelope :=
  claudeEnvelope (freshObservation helpedRecord absentOnce .absent none 3)

omit [Sha256] in
theorem secondAbsence_room (absenceCount : ℕ) : Room (some helpedRecord) secondAbsence.event
    (quietContext { absentOnce with absenceCount := absenceCount }) where
  generation := (Nat.succ_pos _ : 0 < u64Max)
  order := (Nat.succ_pos _ : 0 < u64Max)
  latest := by
    rintro _ ⟨⟩
    decide
  revision := by
    rintro _ ⟨⟩
    decide
  runSeq := by
    rintro _ ⟨⟩
    decide
  agentEpoch := by
    rintro _ ⟨⟩
    decide
  occurrenceSeq := by
    rintro _ ⟨⟩
    decide
  tasks := trivial

omit [Sha256] in
theorem secondAbsence_admitted (absenceCount : ℕ) :
    @Admitted .constant (some helpedRecord) secondAbsence
      (quietContext { absentOnce with absenceCount := absenceCount }) := by
  refine @Admitted.mk .constant _ _ _ ?_ ?_ ⟨by simp, rfl⟩ (secondAbsence_room absenceCount)
    ⟨by simp [quietContext], by simp [quietContext]⟩
  · rintro _ ⟨⟩
    decide
  · rintro _ ⟨⟩
    rfl

omit [Sha256] in
/-- The second absence of a running agent with a subagent makes the reducer refuse its own
record. -/
theorem secondAbsence_violates :
    @Admitted .constant (some helpedRecord) secondAbsence (quietContext absentOnce) ∧
      @reduce .constant (some helpedRecord) secondAbsence (quietContext absentOnce) =
        .error (.stateInvariantViolation
          "absent agent must be scan-verified and idle or usage-limited") :=
  ⟨secondAbsence_admitted 1, rfl⟩

omit [Sha256] in
/-- With the first absence still to count the same observation is accepted. -/
theorem reduce_refuses_first :
    @RefusesOnly Reduction (@reduce .constant (some helpedRecord) secondAbsence
      (quietContext { absentOnce with absenceCount := 0 })) := by
  refine (@reduce_refuses_iff .constant _ _ _ (secondAbsence_admitted 0)).mpr ?_
  rintro _ ⟨⟩ hbreaks
  cases hbreaks with
  | done expected completedAt event => cases event
  | explicit agent session hasAgent hasSession claude breaks =>
    cases breaks with
    | lateStop identity stopped => cases stopped
    | ended identity ended => cases ended
    | held identity completion => cases completion
  | observation observedAt presence capture process event breaks =>
    cases event
    cases breaks with
    | confirmed counts counted => exact absurd counted (by decide)
    | loud waits gone => cases gone
  | polled runsOver =>
    obtain ⟨_, _, _, _, hover, hevent⟩ := runsOver
    cases hevent
    cases hover with
    | absence verified detectable full => exact absurd full (by decide)

end VdeTmux.Pane
