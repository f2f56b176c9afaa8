import VdeTmux.Pane.ObservationSteps

/-!
# One reduction

Every way a reduction can end, said once: how a branch of the reducer comes to its record, what
finishing the record adds, and what the unread transition may still change.
-/

open Foundation Foundation.Text
namespace VdeTmux.Pane
variable [Sha256]

inductive ExplicitStep (s : PaneState) (agent : AgentKind) (session : AgentSessionId)
    (event : PaneEvent) (tracker : CaptureTrackerSnapshot) (privateTaskPrompt : Option String)
    (s' : PaneState) : Prop
  | regular (identity : classifyIdentity s agent session = .exactPresent)
      (record : applyRegularExplicitEvent s event privateTaskPrompt = .ok s')
  | entered (source : EpochSource) (evidence : isEpochStartEvidence event = true)
      (allowed : s.agentPresent = false ∨
        (classifyIdentity s agent session = .mismatchPresent ∧
          safeHandover s tracker agent event = true))
      (s₀ : PaneState) (begins : beginAgentEpoch s agent (some session) source = .ok s₀)
      (record : applyRegularExplicitEvent s₀ event privateTaskPrompt = .ok s')
  | late (identity : classifyIdentity s agent session = .exactAbsent)
      (evidence : isEpochStartEvidence event = false)
      (completion : isCompletionForState s event = true) (s₁ : PaneState)
      (record : applyRegularExplicitEvent s event privateTaskPrompt = .ok s₁)
      (left : s' = { s₁ with agentPresent := false, scanVerified := true })
  | bound (identity : classifyIdentity s agent session = .unboundPresent)
      (accepted : isEpochStartEvidence event = true ∨
        (isCompletionForState s event = true ∧ s.syntheticCompletionArmed = true))
      (record : applyRegularExplicitEvent { s with agentSessionId := some session } event
        privateTaskPrompt = .ok s')
  | ignored (identity : classifyIdentity s agent session = .unboundPresent)
      (refused : ¬(isEpochStartEvidence event = true ∨
        (isCompletionForState s event = true ∧ s.syntheticCompletionArmed = true)))
      (record : s' = s)

omit [Sha256] in
theorem classifyIdentity_absent {s : PaneState} {agent : AgentKind} {session : AgentSessionId}
    {identity : ExistingIdentity} (h : classifyIdentity s agent session = identity)
    (habsent : identity = .exactAbsent ∨ identity = .unboundAbsent ∨ identity = .mismatchAbsent) :
    s.agentPresent = false := by
  unfold classifyIdentity at h
  cases hp : s.agentPresent with
  | false => rfl
  | true =>
    rw [hp] at h
    subst h
    split_ifs at habsent
    · split at habsent
      · split_ifs at habsent <;> simp at habsent
      · simp at *
      · simp at habsent
      · simp at *
    · simp at habsent
    · simp at *

omit [Sha256] in
theorem classifyIdentity_exactPresent {s : PaneState} {agent : AgentKind}
    {session : AgentSessionId} (h : classifyIdentity s agent session = .exactPresent) :
    s.agent = agent ∧ s.agentSessionId = some session ∧ s.agentPresent = true := by
  unfold classifyIdentity at h
  split_ifs at h with hagent
  split at h
  · rename_i hsession hpresent
    split_ifs at h with hsame
    exact ⟨hagent, hsame ▸ hsession, hpresent⟩
  · split_ifs at h
  all_goals cases h

omit [Sha256] in
theorem classifyIdentity_exactAbsent {s : PaneState} {agent : AgentKind}
    {session : AgentSessionId} (h : classifyIdentity s agent session = .exactAbsent) :
    s.agent = agent ∧ s.agentSessionId = some session ∧ s.agentPresent = false := by
  unfold classifyIdentity at h
  split_ifs at h with hagent
  split at h
  · split_ifs at h
  · rename_i hsession hpresent
    split_ifs at h with hsame
    exact ⟨hagent, hsame ▸ hsession, hpresent⟩
  all_goals cases h

omit [Sha256] in
theorem classifyIdentity_unboundPresent {s : PaneState} {agent : AgentKind}
    {session : AgentSessionId} (h : classifyIdentity s agent session = .unboundPresent) :
    s.agent = agent ∧ s.agentSessionId = none ∧ s.agentPresent = true := by
  unfold classifyIdentity at h
  split_ifs at h with hagent
  split at h
  · split_ifs at h
  · split_ifs at h
  · rename_i hsession hpresent
    exact ⟨hagent, hsession, hpresent⟩
  · cases h

omit [Sha256] in
theorem safeHandover_evidence {s : PaneState} {tracker : CaptureTrackerSnapshot}
    {agent : AgentKind} {event : PaneEvent} (h : safeHandover s tracker agent event = true) :
    isEpochStartEvidence event = true := by
  simp only [safeHandover, Bool.and_eq_true] at h
  exact h.1.1.2

theorem explicitTransition_step {s s' : PaneState} {agent : AgentKind}
    {session : AgentSessionId} {event : PaneEvent} {tracker : CaptureTrackerSnapshot}
    {privateTaskPrompt : Option String}
    (h : explicitTransition s agent session event tracker privateTaskPrompt = .ok s') :
    ExplicitStep s agent session event tracker privateTaskPrompt s' := by
  unfold explicitTransition at h
  split at h
  · rename_i hidentity
    exact .regular hidentity h
  · rename_i hidentity
    split_ifs at h with hevidence hcompletion
    · obtain ⟨s₀, hbegin, hrecord⟩ := bind_eq_ok.mp h
      exact .entered _ hevidence (Or.inl (classifyIdentity_absent hidentity (by simp))) s₀ hbegin
        hrecord
    · obtain ⟨s₁, hrecord, rfl⟩ := bind_pure_eq_ok.mp h
      exact .late hidentity (by simpa using hevidence) hcompletion s₁ hrecord rfl
  · rename_i hidentity
    split_ifs at h with haccepted
    · exact .bound hidentity haccepted h
    · cases h
      exact .ignored hidentity haccepted rfl
  · rename_i hidentity
    split_ifs at h with hsafe
    obtain ⟨s₀, hbegin, hrecord⟩ := bind_eq_ok.mp h
    exact .entered _ (safeHandover_evidence hsafe) (Or.inr ⟨hidentity, hsafe⟩) s₀ hbegin hrecord
  all_goals
    rename_i hidentity
    split_ifs at h with hevidence
    obtain ⟨s₀, hbegin, hrecord⟩ := bind_eq_ok.mp h
    exact .entered _ hevidence (Or.inl (classifyIdentity_absent hidentity (by simp))) s₀ hbegin
      hrecord

/-- How a branch comes to the record it finishes with, given a record to start from. -/
inductive Finished (s : PaneState) (envelope : PaneEventEnvelope) (context : ReductionContext)
    (s' : PaneState) (tracker : CaptureTrackerSnapshot) :
    Option CaptureTrackerSnapshot → Prop
  | read (throughOrder : ℕ) (event : envelope.event = .markPaneRead throughOrder)
      (record : s' = s ∨
        s' = { s with unread := { s.unread with readSeq := s.unread.occurrenceSeq } })
      (next : tracker = context.tracker) :
      Finished s envelope context s' tracker none
  | summary (expectedStateId : StateId) (expectedAgentEpoch : ℕ) (summary : TaskSummaryState)
      (event : envelope.event =
        .taskSummaryGenerated expectedStateId expectedAgentEpoch summary)
      (valid : summary.validate = .ok ())
      (record : s' =
        { s with taskContext := { s.taskContext with summary := some summary } })
      (next : tracker = context.tracker) :
      Finished s envelope context s' tracker none
  | done (expected : StateVersion) (completedAt : ℤ)
      (event : envelope.event = .markDone expected completedAt) (version : s.version = expected)
      (record : markDone s completedAt = .ok s')
      (next : tracker = { context.tracker with rebaselinePending := true }) :
      Finished s envelope context s' tracker (some context.tracker)
  | sessionStart (agent : AgentKind) (session : AgentSessionId) (observedAt : ℤ)
      (source : AgentSessionSource) (resumedPrompt : Option PromptState)
      (hasAgent : envelope.agent = some agent) (hasSession : envelope.agentSessionId = some session)
      (event : envelope.event = .agentSessionStarted observedAt source resumedPrompt)
      (notCompact : source ≠ .compact) (s₀ : PaneState)
      (begins : beginAgentEpoch s agent (some session) .explicit = .ok s₀)
      (record : s' = applyAgentSessionStarted s₀ source resumedPrompt)
      (next : bumpTracker { resetTrackerForState context.tracker s' with
        hookAuthoritative := true } = .ok tracker) :
      Finished s envelope context s' tracker (some context.tracker)
  | interruption (agent : AgentKind) (session : AgentSessionId)
      (hasAgent : envelope.agent = some agent) (hasSession : envelope.agentSessionId = some session)
      (external : envelope.event.isExternal = true)
      (verifies : interruptionNeedsTerminalVerification s (classifyIdentity s agent session)
        envelope.event = true)
      (record : s' = s)
      (next : bumpTracker { context.tracker with
        interruptionVerificationPending := true } = .ok tracker) :
      Finished s envelope context s' tracker (some context.tracker)
  | explicit (agent : AgentKind) (session : AgentSessionId)
      (hasAgent : envelope.agent = some agent) (hasSession : envelope.agentSessionId = some session)
      (external : envelope.event.isExternal = true)
      (notStart : envelope.event.isSessionStart = false)
      (claude : envelope.event.isClaude = true → agent.value = "claude")
      (step : ExplicitStep s agent session envelope.event context.tracker
        context.privateTaskPrompt s')
      (next : bumpTracker (acceptedTracker s s' agent (classifyIdentity s agent session)
        envelope.event context.tracker) = .ok tracker) :
      Finished s envelope context s' tracker (some context.tracker)
  | observation (base : Option StoredStateDescriptor) (trackerGeneration : ℕ) (observedAt : ℤ)
      (presence : AgentPresenceObservation) (capture : Option CaptureObservation)
      (process : Option ProcessObservation)
      (event : envelope.event =
        .observationBatch base trackerGeneration observedAt presence capture process)
      (current : base = some (.canonical s.version))
      (generation : trackerGeneration = context.tracker.generation)
      (s₁ : PaneState) (tracker₁ : CaptureTrackerSnapshot)
      (observed : Observed s context.tracker presence capture process observedAt s₁ tracker₁)
      (record : applyProcessObservation s₁ process = .ok s')
      (next : bumpTracker tracker₁ = .ok tracker) :
      Finished s envelope context s' tracker (some context.tracker)

theorem reduceObservation_finished {s s' : PaneState} {envelope : PaneEventEnvelope}
    {context : ReductionContext} {tracker : CaptureTrackerSnapshot}
    {previous : Option CaptureTrackerSnapshot} {base : Option StoredStateDescriptor}
    {trackerGeneration : ℕ} {observedAt : ℤ} {presence : AgentPresenceObservation}
    {capture : Option CaptureObservation} {process : Option ProcessObservation}
    (hevent : envelope.event =
      .observationBatch base trackerGeneration observedAt presence capture process)
    (h : reduceObservation (some s) envelope.paneInstance context base trackerGeneration
      observedAt presence capture process = .ok (.finish s' tracker previous)) :
    Finished s envelope context s' tracker previous := by
  unfold reduceObservation at h
  split_ifs at h with hstale
  · cases h
  · simp only [not_or, not_not] at hstale
    obtain ⟨⟨s₁, tracker₁⟩, hobserved, h⟩ := bind_eq_ok.mp h
    obtain ⟨s₂, hprocess, h⟩ := bind_eq_ok.mp h
    obtain ⟨tracker₂, hbump, heq⟩ := bind_pure_eq_ok.mp h
    cases heq
    exact .observation _ _ _ _ _ _ hevent hstale.1 hstale.2 s₁ tracker₁
      (observePresence_observed hobserved) hprocess hbump

theorem reduceInternal_finished {s s' : PaneState} {envelope : PaneEventEnvelope}
    {context : ReductionContext} {tracker : CaptureTrackerSnapshot}
    {previous : Option CaptureTrackerSnapshot}
    (h : reduceInternalStateEvent (some s) envelope.event context =
      .ok (.finish s' tracker previous)) :
    Finished s envelope context s' tracker previous := by
  generalize hevent : envelope.event = event at h
  cases event with
  | markPaneRead throughOrder =>
    cases h
    refine .read throughOrder hevent ?_ rfl
    split_ifs
    · exact Or.inr rfl
    · exact Or.inl rfl
  | markDone expected completedAt =>
    obtain ⟨hversion, h⟩ := seq_eq_ok.mp h
    obtain ⟨s₁, hdone, heq⟩ := bind_pure_eq_ok.mp h
    cases heq
    exact .done expected completedAt hevent (by simpa using hversion) hdone rfl
  | taskSummaryGenerated expectedStateId expectedAgentEpoch summary =>
    simp only [reduceInternalStateEvent] at h
    split_ifs at h
    · cases h
    obtain ⟨hvalid, h⟩ := seq_eq_ok.mp h
    cases h
    exact .summary _ _ summary hevent (mapError_eq_ok.mp hvalid) rfl rfl
  | _ => cases h

theorem reduceExplicit_finished {s s' : PaneState} {envelope : PaneEventEnvelope}
    {context : ReductionContext} {tracker : CaptureTrackerSnapshot}
    {previous : Option CaptureTrackerSnapshot} (hexternal : envelope.event.isExternal = true)
    (h : reduceExplicit (some s) envelope context = .ok (.finish s' tracker previous)) :
    Finished s envelope context s' tracker previous := by
  unfold reduceExplicit at h
  cases hagent : envelope.agent with
  | none => simp [hagent] at h
  | some agent =>
    cases hsession : envelope.agentSessionId with
    | none =>
      simp only [hagent, hsession] at h
      split_ifs at h
    | some session =>
      simp only [hagent, hsession] at h
      split_ifs at h with hclaude
      have hclaude : envelope.event.isClaude = true → agent.value = "claude" := by
        intro hc
        by_contra hne
        exact hclaude ⟨hc, hne⟩
      generalize hevent : envelope.event = event at h
      split at h
      · rename_i observedAt source resumedPrompt
        unfold reduceSessionStart at h
        split_ifs at h with hcompact
        · obtain ⟨-, h⟩ := seq_eq_ok.mp h
          cases h
        · obtain ⟨s₀, hbegin, h⟩ := bind_eq_ok.mp h
          obtain ⟨tracker₁, hbump, heq⟩ := bind_pure_eq_ok.mp h
          cases heq
          exact .sessionStart agent session observedAt source resumedPrompt hagent hsession hevent
            hcompact s₀ hbegin rfl hbump
      · rename_i hnotStart
        unfold reduceRegularExplicit at h
        dsimp only at h
        split_ifs at h with hverify hpending
        · cases h
        · obtain ⟨tracker₁, hbump, heq⟩ := bind_pure_eq_ok.mp h
          cases heq
          exact .interruption agent session hagent hsession hexternal (hevent ▸ hverify) rfl hbump
        · obtain ⟨s₁, hstep, h⟩ := bind_eq_ok.mp h
          obtain ⟨tracker₁, hbump, heq⟩ := bind_pure_eq_ok.mp h
          cases heq
          subst hevent
          refine .explicit agent session hagent hsession hexternal ?_ hclaude
            (explicitTransition_step hstep) hbump
          cases hstart : envelope.event with
          | agentSessionStarted observedAt source resumedPrompt =>
            exact absurd hstart (hnotStart observedAt source resumedPrompt)
          | _ => rfl

theorem dispatch_finished {s s' : PaneState} {envelope : PaneEventEnvelope}
    {context : ReductionContext} {tracker : CaptureTrackerSnapshot}
    {previous : Option CaptureTrackerSnapshot}
    (h : dispatch (some s) envelope context = .ok (.finish s' tracker previous)) :
    Finished s envelope context s' tracker previous := by
  cases hevent : envelope.event with
  | observationBatch base trackerGeneration observedAt presence capture process =>
    simp only [dispatch, hevent] at h
    exact reduceObservation_finished hevent h
  | paneRemoved expected => simp [dispatch, hevent] at h
  | markPaneRead throughOrder =>
    simp only [dispatch, hevent] at h
    exact reduceInternal_finished (hevent ▸ h)
  | markDone expected completedAt =>
    simp only [dispatch, hevent] at h
    exact reduceInternal_finished (hevent ▸ h)
  | taskSummaryGenerated expectedStateId expectedAgentEpoch summary =>
    simp only [dispatch, hevent] at h
    exact reduceInternal_finished (hevent ▸ h)
  | _ =>
    simp only [dispatch, hevent] at h
    exact reduceExplicit_finished (by rw [hevent]; rfl) h

theorem dispatch_external {current : Option PaneState} {envelope : PaneEventEnvelope}
    {context : ReductionContext} (h : envelope.event.isExternal = true) :
    dispatch current envelope context = reduceExplicit current envelope context := by
  unfold dispatch
  split <;> simp_all [PaneEvent.isExternal]

/-- How a branch comes to the record it finishes with when the pane has none. -/
inductive Created (envelope : PaneEventEnvelope) (context : ReductionContext) (s' : PaneState)
    (tracker : CaptureTrackerSnapshot) : Prop
  | explicit (agent : AgentKind) (session : AgentSessionId)
      (hasAgent : envelope.agent = some agent) (hasSession : envelope.agentSessionId = some session)
      (external : envelope.event.isExternal = true)
      (claude : envelope.event.isClaude = true → agent.value = "claude")
      (creates : canCreateFromExplicit envelope.event = true) (s₀ : PaneState)
      (new : newState envelope.paneInstance agent (some session) false false context.newStateId
        = .ok s₀)
      (record : applyInitialExplicitEvent s₀ envelope.event context.privateTaskPrompt = .ok s')
      (next : bumpTracker { resetTrackerForState context.tracker s' with
        hookAuthoritative := agent.value = "codex" || envelope.event.isSessionStart
        rebaselinePending := 0 < s'.completedSeq } = .ok tracker)
  | observation (base : Option StoredStateDescriptor) (trackerGeneration : ℕ) (observedAt : ℤ)
      (agent : AgentKind) (capture : Option CaptureObservation)
      (process : Option ProcessObservation)
      (event : envelope.event = .observationBatch base trackerGeneration observedAt
        (.present agent) capture process)
      (s₀ : PaneState)
      (new : newState envelope.paneInstance agent none true true context.newStateId = .ok s₀)
      (record : applyProcessObservation s₀ process = .ok s')
      (next : bumpTracker (observedTracker context.tracker s' (checkedProcess process)
        s'.agentProcess capture observedAt) = .ok tracker)

theorem reduceExplicit_created {s' : PaneState} {envelope : PaneEventEnvelope}
    {context : ReductionContext} {tracker : CaptureTrackerSnapshot}
    {previous : Option CaptureTrackerSnapshot} (hexternal : envelope.event.isExternal = true)
    (h : reduceExplicit none envelope context = .ok (.finish s' tracker previous)) :
    previous = some context.tracker ∧ Created envelope context s' tracker := by
  unfold reduceExplicit at h
  cases hagent : envelope.agent with
  | none => simp [hagent] at h
  | some agent =>
    cases hsession : envelope.agentSessionId with
    | none =>
      simp only [hagent, hsession] at h
      split_ifs at h
    | some session =>
      simp only [hagent, hsession, reduceFirstExplicit] at h
      split_ifs at h with hclaude hcompact hcreate
      · cases h
      · obtain ⟨s₀, hnew, h⟩ := bind_eq_ok.mp h
        obtain ⟨s₁, hrecord, h⟩ := bind_eq_ok.mp h
        obtain ⟨tracker₁, hbump, heq⟩ := bind_pure_eq_ok.mp h
        cases heq
        refine ⟨rfl, .explicit agent session hagent hsession hexternal ?_ (by simpa using hcreate)
          s₀ hnew hrecord hbump⟩
        intro hc
        by_contra hne
        exact hclaude ⟨hc, hne⟩

theorem dispatch_created {s' : PaneState} {envelope : PaneEventEnvelope}
    {context : ReductionContext} {tracker : CaptureTrackerSnapshot}
    {previous : Option CaptureTrackerSnapshot}
    (h : dispatch none envelope context = .ok (.finish s' tracker previous)) :
    previous = some context.tracker ∧ Created envelope context s' tracker := by
  cases hevent : envelope.event with
  | observationBatch base trackerGeneration observedAt presence capture process =>
    simp only [dispatch, hevent, reduceObservation] at h
    split_ifs at h
    · cases h
    · cases presence with
      | present agent =>
        obtain ⟨s₀, hnew, h⟩ := bind_eq_ok.mp h
        obtain ⟨s₁, hprocess, h⟩ := bind_eq_ok.mp h
        obtain ⟨tracker₁, hbump, heq⟩ := bind_pure_eq_ok.mp h
        cases heq
        exact ⟨rfl, .observation _ _ _ agent capture process hevent s₀ hnew hprocess hbump⟩
      | absent => cases h
      | unknown => cases h
  | paneRemoved expected => simp [dispatch, hevent] at h
  | markPaneRead throughOrder => simp [dispatch, hevent, reduceInternalStateEvent] at h
  | markDone expected completedAt => simp [dispatch, hevent, reduceInternalStateEvent] at h
  | taskSummaryGenerated expectedStateId expectedAgentEpoch summary =>
    simp [dispatch, hevent, reduceInternalStateEvent] at h
  | _ =>
    simp only [dispatch, hevent] at h
    exact reduceExplicit_created (by rw [hevent]; rfl) h

def FaultsReported (faults faults' : List BackgroundWaitFault) : Prop :=
  faults' = faults ∨ ∃ shown : BackgroundWaitFault → Bool,
    faults' = updateFirst shown (fun fault => { fault with reported := true }) faults

/-- A new occurrence: its sequence number is the next one and its order passes all issued ones. -/
structure Minted (latestUnreadOrder : ℕ) (unread unread' : UnreadState) : Prop where
  seqRoom : unread.occurrenceSeq < u64Max
  orderRoom : max latestUnreadOrder unread.latestOrder < u64Max
  occurrenceSeq : unread'.occurrenceSeq = unread.occurrenceSeq + 1
  readSeq : unread'.readSeq = unread.readSeq ∨ unread'.readSeq = unread'.occurrenceSeq
  latest : ∃ reason occurredAt, unread'.latest = some ⟨unread.occurrenceSeq + 1,
    max latestUnreadOrder unread.latestOrder + 1, reason, occurredAt⟩

omit [Sha256] in
theorem reportFault_spec {s s' : PaneState} {fresh : Bool} (h : reportFault s = some (s', fresh)) :
    s' = { s with claudeBackground :=
      { s.claudeBackground with faults := s'.claudeBackground.faults } } ∧
    FaultsReported s.claudeBackground.faults s'.claudeBackground.faults := by
  unfold reportFault at h
  split at h
  · split_ifs at h
    · cases h
      exact ⟨rfl, Or.inr ⟨_, rfl⟩⟩
    · cases h
      exact ⟨rfl, Or.inl rfl⟩
  · cases h
    exact ⟨rfl, Or.inl rfl⟩

omit [Sha256] in
theorem applyUnreadTransition_spec {current : Option PaneState} {event : PaneEvent}
    {s s' : PaneState} {context : ReductionContext}
    (h : applyUnreadTransition current event s context = .ok s') :
    s' = { s with
      unread := s'.unread
      claudeBackground := { s.claudeBackground with faults := s'.claudeBackground.faults } } ∧
    FaultsReported s.claudeBackground.faults s'.claudeBackground.faults ∧
    (s'.unread = s.unread ∨ Minted context.latestUnreadOrder s.unread s'.unread) := by
  unfold applyUnreadTransition at h
  split at h
  · cases h
    exact ⟨rfl, Or.inl rfl, Or.inl rfl⟩
  · split at h
    · cases h
      exact ⟨rfl, Or.inl rfl, Or.inl rfl⟩
    · rename_i s₁ fresh hreport
      obtain ⟨hframe, hfaults⟩ := reportFault_spec hreport
      have hunread : s₁.unread = s.unread := by
        rw [hframe]
      split at h
      · cases h
        exact ⟨by rw [hframe], hfaults, Or.inl hunread⟩
      · obtain ⟨unread, hoccur, rfl⟩ := bind_pure_eq_ok.mp h
        obtain ⟨hseq, horder, rfl⟩ := UnreadState.occur_eq_ok.mp hoccur
        rw [hunread] at hseq horder
        refine ⟨by rw [hframe], hfaults, Or.inr ⟨hseq, horder, ?_, ?_, ?_⟩⟩
        · dsimp only
          split_ifs <;> simp [hunread]
        · dsimp only
          split_ifs <;> simp [hunread]
        · dsimp only
          split_ifs <;> simp [hunread]

omit [Sha256] in
theorem applyUnreadTransition_ok {current : Option PaneState} {event : PaneEvent}
    {s : PaneState} {context : ReductionContext} (hseq : s.unread.occurrenceSeq < u64Max)
    (horder : max context.latestUnreadOrder s.unread.latestOrder < u64Max) :
    ∃ s', applyUnreadTransition current event s context = .ok s' := by
  unfold applyUnreadTransition
  split
  · exact ⟨s, rfl⟩
  · split
    · exact ⟨s, rfl⟩
    · rename_i s₁ fresh hreport
      have hunread : s₁.unread = s.unread := by
        rw [(reportFault_spec hreport).1]
      split
      · exact ⟨s₁, rfl⟩
      · rename_i reason hreason
        refine ⟨_, bind_pure_eq_ok.mpr ⟨_, UnreadState.occur_eq_ok.mpr ⟨?_, ?_, rfl⟩, rfl⟩⟩
        · rwa [hunread]
        · rwa [hunread]

omit [Sha256] in
theorem FaultsReported.length_eq {faults faults' : List BackgroundWaitFault}
    (h : FaultsReported faults faults') : faults'.length = faults.length := by
  rcases h with rfl | ⟨shown, rfl⟩
  · rfl
  · exact length_updateFirst _ _ _

omit [Sha256] in
theorem FaultsReported.eq_nil_iff {faults faults' : List BackgroundWaitFault}
    (h : FaultsReported faults faults') : faults' = [] ↔ faults = [] := by
  rw [← List.length_eq_zero_iff, h.length_eq, List.length_eq_zero_iff]

omit [Sha256] in
theorem FaultsReported.mem {faults faults' : List BackgroundWaitFault}
    (h : FaultsReported faults faults') {fault' : BackgroundWaitFault} (hfault : fault' ∈ faults') :
    ∃ fault ∈ faults, fault.reason = fault'.reason ∧ fault.key = fault'.key := by
  rcases h with rfl | ⟨shown, rfl⟩
  · exact ⟨fault', hfault, rfl, rfl⟩
  · rcases mem_updateFirst hfault with hmem | ⟨old, hold, -, rfl⟩
    · exact ⟨fault', hmem, rfl, rfl⟩
    · exact ⟨old, hold, rfl, rfl⟩

omit [Sha256] in
theorem FaultsReported.overflowKeys {background : ClaudeBackgroundState}
    {faults' : List BackgroundWaitFault} (h : FaultsReported background.faults faults') :
    background.overflowKeys ⊆
      ({ background with faults := faults' } : ClaudeBackgroundState).overflowKeys := by
  rcases h with rfl | ⟨shown, rfl⟩
  · exact List.Subset.refl _
  · intro key hkey
    obtain ⟨fault, hfault, hreason, rfl⟩ := ClaudeBackgroundState.mem_overflowKeys.mp hkey
    refine ClaudeBackgroundState.mem_overflowKeys.mpr ?_
    rcases mem_or_updateFirst (p := shown) (f := fun fault => { fault with reported := true })
      hfault with hmem | hmem
    · exact ⟨fault, hmem, hreason, rfl⟩
    · exact ⟨_, hmem, hreason, rfl⟩

omit [Sha256] in
theorem FaultsReported.valid {background : ClaudeBackgroundState} {runSeq : ℕ}
    {faults' : List BackgroundWaitFault} (h : FaultsReported background.faults faults')
    (hvalid : background.Valid runSeq) :
    ({ background with faults := faults' } : ClaudeBackgroundState).Valid runSeq :=
  { hvalid with
    faultsBound := h.length_eq ▸ hvalid.faultsBound
    faults := by
      intro fault' hfault
      obtain ⟨fault, hmem, hreason, hkey⟩ := h.mem hfault
      rw [← hreason, ← hkey]
      exact hvalid.faults fault hmem }

omit [Sha256] in
theorem Minted.validate {latestUnreadOrder : ℕ} {unread unread' : UnreadState}
    (h : Minted latestUnreadOrder unread unread') (hvalid : unread.validate = .ok ()) :
    unread'.validate = .ok () := by
  have hread := (UnreadState.validate_eq_ok.mp hvalid).1
  have hseq := h.occurrenceSeq
  obtain ⟨reason, occurredAt, hlatest⟩ := h.latest
  refine UnreadState.validate_eq_ok.mpr ⟨?_, Or.inr ⟨_, hlatest, ?_, ?_, ?_⟩⟩
  · rcases h.readSeq with hkeep | hall
    · omega
    · omega
  · omega
  · exact hseq.symm
  · exact Nat.succ_pos _

theorem applyUnreadTransition_valid {current : Option PaneState} {event : PaneEvent}
    {s s' : PaneState} {context : ReductionContext} (hs : s.Valid)
    (h : applyUnreadTransition current event s context = .ok s') : s'.Valid := by
  obtain ⟨hframe, hfaults, hunread⟩ := applyUnreadTransition_spec h
  rw [hframe]
  refine
    { hs with
      background := hfaults.valid hs.background
      wait := fun hblocks => hs.wait ?_
      claude := hs.claude.imp_right fun h => ⟨h.1, hfaults.eq_nil_iff.mpr h.2.1, h.2.2⟩
      unread := ?_ }
  · simp only [ClaudeBackgroundState.blocksCompletion, ClaudeBackgroundState.pendingCount,
      Bool.or_eq_true, Bool.not_eq_true', List.isEmpty_eq_false_iff, ne_eq] at hblocks ⊢
    exact hblocks.imp_right (mt hfaults.eq_nil_iff.mpr)
  · rcases hunread with hkeep | hmint
    · exact hkeep ▸ hs.unread
    · exact hmint.validate hs.unread

omit [Sha256] in
theorem nextRevision_pos {current : Option PaneState} {revision : ℕ}
    (h : nextRevision current = .ok revision) : 0 < revision := by
  cases current with
  | none =>
    cases h
    exact Nat.one_pos
  | some s =>
    obtain ⟨-, rfl⟩ := increment_eq_ok.mp h
    exact Nat.succ_pos _

theorem validateInvariant_eq_ok {s : PaneState} {u : Unit} :
    validateInvariant s = .ok u ↔ s.Valid := by
  simp [validateInvariant, PaneState.validate_eq_ok]

inductive Settled (current : Option PaneState) (event : PaneEvent) (context : ReductionContext)
    (s : PaneState) (tracker : CaptureTrackerSnapshot)
    (previous : Option CaptureTrackerSnapshot) (r : Reduction) : Prop
  | same (record : current = some s)
      (result : r = ⟨some s, trackerDelta tracker previous,
        if (trackerDelta tracker previous).isSome then .trackerOnly else .noop⟩)
  | changed (differs : current ≠ some s) (revision : ℕ)
      (next : nextRevision current = .ok revision)
      (valid : ({ s with revision := revision } : PaneState).Valid) (s' : PaneState)
      (unread : applyUnreadTransition current event { s with revision := revision } context
        = .ok s')
      (result : r = ⟨some s', trackerDelta tracker previous, .canonicalChanged⟩)

theorem settle_settled {current : Option PaneState} {event : PaneEvent}
    {context : ReductionContext} {s : PaneState} {tracker : CaptureTrackerSnapshot}
    {previous : Option CaptureTrackerSnapshot} {r : Reduction}
    (h : settle current event context (.finish s tracker previous) = .ok r) :
    Settled current event context s tracker previous r := by
  obtain ⟨r₁, hfinish, h⟩ := bind_eq_ok.mp h
  unfold finishStateReduction at hfinish
  dsimp only at hfinish
  by_cases hsame : current = some s
  · rw [if_pos hsame] at hfinish
    cases hfinish
    refine .same hsame ?_
    cases hdelta : trackerDelta tracker previous with
    | none =>
      rw [hdelta] at h
      cases h
      rfl
    | some delta =>
      rw [hdelta] at h
      cases h
      rfl
  · rw [if_neg hsame] at hfinish
    obtain ⟨revision, hrevision, hfinish⟩ := bind_eq_ok.mp hfinish
    obtain ⟨hvalid, hfinish⟩ := seq_eq_ok.mp hfinish
    cases hfinish
    obtain ⟨s', hunread, h⟩ := bind_eq_ok.mp h
    obtain ⟨-, h⟩ := seq_eq_ok.mp h
    cases h
    exact .changed hsame revision hrevision (validateInvariant_eq_ok.mp hvalid) s' hunread rfl

theorem reduce_eq_ok {current : Option PaneState} {envelope : PaneEventEnvelope}
    {context : ReductionContext} {r : Reduction} (h : reduce current envelope context = .ok r) :
    envelope.paneInstance.validate = .ok () ∧
    (∀ s ∈ current, s.paneInstance = envelope.paneInstance) ∧
    (r = .unchanged current ∨
      (envelope.event.isSemanticallyEmpty = false ∧
        ∃ s tracker previous, dispatch current envelope context = .ok (.finish s tracker previous) ∧
          Settled current envelope.event context s tracker previous r)) := by
  obtain ⟨hpane, h⟩ := seq_eq_ok.mp h
  obtain ⟨hinstance, h⟩ := seq_eq_ok.mp h
  refine ⟨mapError_eq_ok.mp hpane, by simpa using hinstance, ?_⟩
  split_ifs at h with hempty
  · cases h
    exact Or.inl rfl
  · obtain ⟨pending, hdispatch, h⟩ := bind_eq_ok.mp h
    cases pending with
    | unchanged =>
      cases h
      exact Or.inl rfl
    | finish s tracker previous =>
      exact Or.inr ⟨by simpa using hempty, s, tracker, previous, hdispatch, settle_settled h⟩

def claudePane : PaneInstance := ⟨"%1", 7⟩

def claudeRecord : PaneState :=
  { initialState claudePane ⟨"claude"⟩ (some ⟨"session"⟩) true false ⟨"state"⟩ with
    revision := 1 }

def claudeEnvelope (event : PaneEvent) : PaneEventEnvelope :=
  ⟨⟨"daemon"⟩, ⟨"event"⟩, claudePane, some ⟨"claude"⟩, some ⟨"session"⟩, event⟩

def quietContext (tracker : CaptureTrackerSnapshot) : ReductionContext :=
  ⟨{}, tracker, none, 0, none⟩

def freshObservation (s : PaneState) (tracker : CaptureTrackerSnapshot)
    (presence : AgentPresenceObservation) (capture : Option CaptureObservation)
    (observedAt : ℤ) : PaneEvent :=
  .observationBatch (some (.canonical s.version)) tracker.generation observedAt presence capture
    none

end VdeTmux.Pane
