import VdeTmux.Pane.Reduction

/-!
# Versions and sequences

A successful reduction changes the record exactly when it says so, by one revision, and moves the
epoch, the run counters and the unread counters forward only.
-/

open Foundation Foundation.Text
namespace VdeTmux.Pane

structure RunAdvance (s s' : PaneState) : Prop where
  runSeq_le : s.runSeq ≤ s'.runSeq
  runSeq_succ : s'.runSeq ≤ s.runSeq + 1
  completedSeq_le : s.completedSeq ≤ s'.completedSeq
  completedSeq_succ : s'.completedSeq ≤ s.completedSeq + 1

/-- What a branch of the reducer does to the counters of a record before it is finished. -/
structure Transition (s s' : PaneState) : Prop where
  stateId : s'.stateId = s.stateId
  paneInstance : s'.paneInstance = s.paneInstance
  revision : s'.revision = s.revision
  occurrenceSeq : s'.unread.occurrenceSeq = s.unread.occurrenceSeq
  latest : s'.unread.latest = s.unread.latest
  readSeq : s.unread.readSeq ≤ s'.unread.readSeq
  epoch : s'.agentEpoch = s.agentEpoch + 1 ∨ (s'.agentEpoch = s.agentEpoch ∧ RunAdvance s s')

theorem RunAdvance.refl (s : PaneState) : RunAdvance s s :=
  ⟨le_rfl, Nat.le_succ _, le_rfl, Nat.le_succ _⟩

theorem RunAdvance.of_eq {s s' : PaneState} (hrun : s'.runSeq = s.runSeq)
    (hcompleted : s'.completedSeq = s.completedSeq) : RunAdvance s s' := by
  constructor <;> omega

structure Counted (s : PaneState) : Prop where
  order : s.completedSeq ≤ s.runSeq
  oneOpen : s.runSeq ≤ s.completedSeq + 1
  read : s.unread.readSeq ≤ s.unread.occurrenceSeq

theorem PaneState.Coherent.counted [Sha256] {s : PaneState} (hs : s.Coherent) : Counted s :=
  ⟨hs.order, hs.oneOpen, (UnreadState.validate_eq_ok.mp hs.unread).1⟩

theorem RunMove.advance {stopped : Prop} {s s' : PaneState} (hs : Counted s)
    (h : RunMove stopped s s') : RunAdvance s s' := by
  have horder := hs.order
  have hopen := hs.oneOpen
  cases h with
  | kept run completed => exact .of_eq run completed
  | opened closed run completed => constructor <;> omega
  | completed subagents unblocked tasks run completed => constructor <;> omega

theorem settleRun_runs (s : PaneState) (observedAt : ℤ) :
    (settleRun s observedAt).runSeq = s.runSeq ∧
      ((settleRun s observedAt).completedSeq = s.completedSeq ∨
        (Released s ∧ s.completedSeq < s.runSeq ∧
          (settleRun s observedAt).completedSeq = s.runSeq)) := by
  unfold settleRun
  split_ifs with hbackground hopen
  · exact ⟨(endClaudeTracking_kept s).2.1, Or.inl (endClaudeTracking_kept s).2.2⟩
  · rcases completeRun_cases s observedAt false with heq | hdone
    · rw [heq]
      exact ⟨rfl, Or.inl rfl⟩
    · have hrun : (completeRun s observedAt false).runSeq = s.runSeq := by
        rcases hdone.runSeq with ⟨-, hsame⟩ | ⟨hzero, -⟩
        · exact hsame
        · omega
      exact ⟨hrun, Or.inr ⟨hdone.released, hopen, hdone.completedSeq.trans hrun⟩⟩
  · exact ⟨rfl, Or.inl rfl⟩

theorem RunMove.advance_settled {stopped : Prop} {s s₁ : PaneState} (hs : Counted s)
    (h : RunMove stopped s s₁) (observedAt : ℤ) :
    RunAdvance s (confirmAbsent s₁ observedAt) := by
  have horder := hs.order
  have hopen := hs.oneOpen
  obtain ⟨hrun, hcompleted⟩ := settleRun_runs s₁ observedAt
  have hrun' : (confirmAbsent s₁ observedAt).runSeq = s₁.runSeq := hrun
  have hcompleted' : (confirmAbsent s₁ observedAt).completedSeq = s₁.completedSeq ∨
      (s₁.completedSeq < s₁.runSeq ∧
        (confirmAbsent s₁ observedAt).completedSeq = s₁.runSeq) :=
    hcompleted.imp_right And.right
  cases h with
  | kept run completed => constructor <;> omega
  | opened closed run completed => constructor <;> omega
  | completed subagents unblocked tasks run completed => constructor <;> omega

theorem Transition.of_identity {s s' : PaneState}
    (hidentity : s'.identity = s.identity) (hruns : RunAdvance s s') : Transition s s' := by
  have hunread : s'.unread = s.unread := congrArg PaneIdentity.unread hidentity
  exact
    { stateId := congrArg PaneIdentity.stateId hidentity
      paneInstance := congrArg PaneIdentity.paneInstance hidentity
      revision := congrArg PaneIdentity.revision hidentity
      occurrenceSeq := by rw [hunread]
      latest := by rw [hunread]
      readSeq := by rw [hunread]
      epoch := Or.inr ⟨congrArg PaneIdentity.agentEpoch hidentity, hruns⟩ }

theorem Transition.andThen {s s' s'' : PaneState} (h : Transition s s')
    (hstate : s''.stateId = s'.stateId) (hpane : s''.paneInstance = s'.paneInstance)
    (hrevision : s''.revision = s'.revision) (hunread : s''.unread = s'.unread)
    (hepoch : s''.agentEpoch = s'.agentEpoch) (hrun : s''.runSeq = s'.runSeq)
    (hcompleted : s''.completedSeq = s'.completedSeq) : Transition s s'' :=
  { stateId := hstate.trans h.stateId
    paneInstance := hpane.trans h.paneInstance
    revision := hrevision.trans h.revision
    occurrenceSeq := by rw [hunread, h.occurrenceSeq]
    latest := by rw [hunread, h.latest]
    readSeq := by rw [hunread]; exact h.readSeq
    epoch := by
      rw [hepoch]
      refine h.epoch.imp_right fun ⟨hsame, hruns⟩ => ⟨hsame, ?_⟩
      exact ⟨by rw [hrun]; exact hruns.runSeq_le, by rw [hrun]; exact hruns.runSeq_succ,
        by rw [hcompleted]; exact hruns.completedSeq_le,
        by rw [hcompleted]; exact hruns.completedSeq_succ⟩ }

theorem FreshEpoch.transition {s s' : PaneState} {agent : AgentKind}
    {session : Option AgentSessionId} (hs : Counted s) (h : FreshEpoch s s' agent session) :
    Transition s s' :=
  { stateId := h.stateId
    paneInstance := h.paneInstance
    revision := h.revision
    occurrenceSeq := by rw [h.unread, epochUnread_occurrenceSeq]
    latest := by rw [h.unread, epochUnread_latest]
    readSeq := by rw [h.unread]; exact epochUnread_readSeq hs.read
    epoch := Or.inl h.agentEpoch }

theorem FreshEpoch.transition_then {s s₀ s' : PaneState} {agent : AgentKind}
    {session : Option AgentSessionId} (hs : Counted s) (h : FreshEpoch s s₀ agent session)
    (hidentity : s'.identity = s₀.identity) : Transition s s' := by
  have h₀ := h.transition hs
  have hunread : s'.unread = s₀.unread := congrArg PaneIdentity.unread hidentity
  have hepoch : s'.agentEpoch = s₀.agentEpoch := congrArg PaneIdentity.agentEpoch hidentity
  exact
    { stateId := (congrArg PaneIdentity.stateId hidentity).trans h₀.stateId
      paneInstance := (congrArg PaneIdentity.paneInstance hidentity).trans h₀.paneInstance
      revision := (congrArg PaneIdentity.revision hidentity).trans h₀.revision
      occurrenceSeq := by rw [hunread, h₀.occurrenceSeq]
      latest := by rw [hunread, h₀.latest]
      readSeq := by rw [hunread]; exact h₀.readSeq
      epoch := Or.inl (hepoch.trans h.agentEpoch) }

theorem Observed.transition {s s' : PaneState} {tracker tracker' : CaptureTrackerSnapshot}
    {presence : AgentPresenceObservation} {capture : Option CaptureObservation}
    {process : Option ProcessObservation} {observedAt : ℤ} (hs : Counted s)
    (h : Observed s tracker presence capture process observedAt s' tracker') :
    Transition s s' := by
  cases h with
  | epoch agent presence begins tracker => exact (beginAgentEpoch_fresh begins).2.transition hs
  | unknown presence record tracker =>
    rw [record]
    exact .of_identity rfl (.refl s)
  | same presence present inference effective record evidence =>
    have hstep : InEpoch False _ _ := applyInference_inEpoch record
    have hunread : s'.unread = s.unread := congrArg PaneIdentity.unread hstep.identity
    have hcounted : Counted { s with scanVerified := true } := ⟨hs.order, hs.oneOpen, hs.read⟩
    have hadvance := hstep.move.advance hcounted
    exact
      { stateId := congrArg PaneIdentity.stateId hstep.identity
        paneInstance := congrArg PaneIdentity.paneInstance hstep.identity
        revision := congrArg PaneIdentity.revision hstep.identity
        occurrenceSeq := by rw [hunread]
        latest := by rw [hunread]
        readSeq := by rw [hunread]
        epoch := Or.inr ⟨congrArg PaneIdentity.agentEpoch hstep.identity, { hadvance with }⟩ }
  | absent presence s₁ record counted evidence =>
    have hstep : InEpoch False _ _ := applyInference_inEpoch record
    rcases counted with ⟨rfl, -⟩ | ⟨rfl, -, -, -⟩
    · exact .of_identity hstep.identity (hstep.move.advance hs)
    · have hidentity := confirmAbsent_identity s₁ observedAt
      rw [hstep.identity] at hidentity
      have hunread : (confirmAbsent s₁ observedAt).unread = s.unread :=
        congrArg PaneIdentity.unread hidentity
      exact
        { stateId := congrArg PaneIdentity.stateId hidentity
          paneInstance := congrArg PaneIdentity.paneInstance hidentity
          revision := congrArg PaneIdentity.revision hidentity
          occurrenceSeq := by rw [hunread]
          latest := by rw [hunread]
          readSeq := by rw [hunread]
          epoch := Or.inr ⟨congrArg PaneIdentity.agentEpoch hidentity,
            hstep.move.advance_settled hs observedAt⟩ }
  | other agent presence differs present counted evidence streak =>
    rcases counted with ⟨rfl, -⟩ | ⟨rfl, -, -⟩
    · exact .of_identity rfl (.refl _)
    · have hidentity := confirmAbsent_identity s observedAt
      have hunread : (confirmAbsent s observedAt).unread = s.unread :=
        congrArg PaneIdentity.unread hidentity
      exact
        { stateId := congrArg PaneIdentity.stateId hidentity
          paneInstance := congrArg PaneIdentity.paneInstance hidentity
          revision := congrArg PaneIdentity.revision hidentity
          occurrenceSeq := by rw [hunread]
          latest := by rw [hunread]
          readSeq := by rw [hunread]
          epoch := Or.inr ⟨congrArg PaneIdentity.agentEpoch hidentity,
            (RunMove.kept rfl rfl : RunMove False s s).advance_settled hs observedAt⟩ }

variable [Sha256]

theorem ExplicitStep.transition {s s' : PaneState} {agent : AgentKind} {session : AgentSessionId}
    {event : PaneEvent} {tracker : CaptureTrackerSnapshot} {privateTaskPrompt : Option String}
    (hs : Counted s) (h : ExplicitStep s agent session event tracker privateTaskPrompt s') :
    Transition s s' := by
  cases h with
  | regular identity record =>
    obtain ⟨hidentity, hmove⟩ := applyRegularExplicitEvent_identity record
    exact .of_identity hidentity (hmove.advance hs)
  | entered source evidence allowed s₀ begins record =>
    exact (beginAgentEpoch_fresh begins).2.transition_then hs
      (applyRegularExplicitEvent_identity record).1
  | late identity evidence completion s₁ record left =>
    obtain ⟨hidentity, hmove⟩ := applyRegularExplicitEvent_identity record
    rw [left]
    exact (Transition.of_identity hidentity (hmove.advance hs)).andThen rfl rfl rfl rfl rfl rfl
      rfl
  | bound identity accepted record =>
    obtain ⟨hidentity, hmove⟩ := applyRegularExplicitEvent_identity record
    have hcounted : Counted { s with agentSessionId := some session } :=
      ⟨hs.order, hs.oneOpen, hs.read⟩
    have hunread : s'.unread = s.unread := congrArg PaneIdentity.unread hidentity
    have hadvance := hmove.advance hcounted
    exact
      { stateId := congrArg PaneIdentity.stateId hidentity
        paneInstance := congrArg PaneIdentity.paneInstance hidentity
        revision := congrArg PaneIdentity.revision hidentity
        occurrenceSeq := by rw [hunread]
        latest := by rw [hunread]
        readSeq := by rw [hunread]
        epoch := Or.inr ⟨congrArg PaneIdentity.agentEpoch hidentity, { hadvance with }⟩ }
  | ignored identity refused record =>
    rw [record]
    exact .of_identity rfl (.refl s)

omit [Sha256] in
theorem markDone_transition {s s' : PaneState} {completedAt : ℤ} (hs : Counted s)
    (h : markDone s completedAt = .ok s') : Transition s s' := by
  obtain ⟨hseq, hframe, -⟩ := markDone_spec h
  have horder := hs.order
  have hopen := hs.oneOpen
  have hidentity : s'.identity = s.identity := by
    rw [hframe]
    rfl
  have hcompleted : s'.completedSeq = s'.runSeq := by
    rw [hframe]
  refine .of_identity hidentity ?_
  constructor <;> omega

theorem Finished.transition {s s' : PaneState} {envelope : PaneEventEnvelope}
    {context : ReductionContext} {tracker : CaptureTrackerSnapshot}
    {previous : Option CaptureTrackerSnapshot} (hs : Counted s)
    (h : Finished s envelope context s' tracker previous) : Transition s s' := by
  cases h with
  | read throughOrder event record next =>
    rcases record with rfl | rfl
    · exact .of_identity rfl (.refl _)
    · exact ⟨rfl, rfl, rfl, rfl, rfl, hs.read, Or.inr ⟨rfl, .of_eq rfl rfl⟩⟩
  | summary expectedStateId expectedAgentEpoch summary event valid record next =>
    rw [record]
    exact .of_identity rfl (.of_eq rfl rfl)
  | done expected completedAt event version record next => exact markDone_transition hs record
  | sessionStart agent session observedAt source resumedPrompt hasAgent hasSession event
      notCompact s₀ begins record next =>
    rw [record]
    exact (beginAgentEpoch_fresh begins).2.transition_then hs rfl
  | interruption agent session hasAgent hasSession external verifies record next =>
    rw [record]
    exact .of_identity rfl (.refl s)
  | explicit agent session hasAgent hasSession external notStart claude step next =>
    exact step.transition hs
  | observation base trackerGeneration observedAt presence capture process event current
      generation s₁ tracker₁ observed record next =>
    rw [applyProcessObservation_spec record]
    exact (observed.transition hs).andThen rfl rfl rfl rfl rfl rfl rfl

omit [Sha256] in
theorem Observed.generation {s s' : PaneState} {tracker tracker' : CaptureTrackerSnapshot}
    {presence : AgentPresenceObservation} {capture : Option CaptureObservation}
    {process : Option ProcessObservation} {observedAt : ℤ}
    (h : Observed s tracker presence capture process observedAt s' tracker') :
    tracker'.generation = tracker.generation := by
  cases h with
  | epoch agent presence begins tracker =>
    rw [tracker]
    dsimp only [observedTracker, resetTrackerForState]
    split_ifs <;> rfl
  | unknown presence record tracker =>
    rw [tracker]
    rfl
  | same presence present inference effective record evidence =>
    obtain ⟨_, _, h⟩ := evidence
    exact congrArg TrackerEvidence.generation h
  | absent presence s₁ record counted evidence =>
    obtain ⟨_, h⟩ := evidence
    exact congrArg TrackerEvidence.generation h
  | other agent presence differs present counted evidence streak =>
    obtain ⟨_, h⟩ := evidence
    rw [h]

omit [Sha256] in
theorem acceptedTracker_generation {existing state : PaneState} {agent : AgentKind}
    {identity : ExistingIdentity} {event : PaneEvent} {tracker : CaptureTrackerSnapshot} :
    (acceptedTracker existing state agent identity event tracker).generation =
      tracker.generation := by
  dsimp only [acceptedTracker, resetTrackerForState]
  split_ifs <;> rfl

theorem Finished.generation {s s' : PaneState} {envelope : PaneEventEnvelope}
    {context : ReductionContext} {tracker : CaptureTrackerSnapshot}
    {previous : Option CaptureTrackerSnapshot}
    (h : Finished s envelope context s' tracker previous) :
    tracker.generation = context.tracker.generation ∧ envelope.event.isExternal = false ∧
        (previous = none ∨ ∃ expected completedAt, envelope.event = .markDone expected completedAt)
      ∨ tracker.generation = context.tracker.generation + 1 ∧ previous = some context.tracker ∧
        (envelope.event.isExternal = true ∨ ∃ base trackerGeneration observedAt presence capture
          process, envelope.event =
            .observationBatch base trackerGeneration observedAt presence capture process) := by
  cases h with
  | read throughOrder event record next =>
    exact Or.inl ⟨by rw [next], by rw [event]; rfl, Or.inl rfl⟩
  | summary expectedStateId expectedAgentEpoch summary event valid record next =>
    exact Or.inl ⟨by rw [next], by rw [event]; rfl, Or.inl rfl⟩
  | done expected completedAt event version record next =>
    exact Or.inl ⟨by rw [next], by rw [event]; rfl, Or.inr ⟨_, _, event⟩⟩
  | sessionStart agent session observedAt source resumedPrompt hasAgent hasSession event
      notCompact s₀ begins record next =>
    obtain ⟨-, rfl⟩ := bumpTracker_eq_ok.mp next
    exact Or.inr ⟨rfl, rfl, Or.inl (by rw [event]; rfl)⟩
  | interruption agent session hasAgent hasSession external verifies record next =>
    obtain ⟨-, rfl⟩ := bumpTracker_eq_ok.mp next
    exact Or.inr ⟨rfl, rfl, Or.inl external⟩
  | explicit agent session hasAgent hasSession external notStart claude step next =>
    obtain ⟨-, rfl⟩ := bumpTracker_eq_ok.mp next
    exact Or.inr ⟨congrArg (· + 1) acceptedTracker_generation, rfl, Or.inl external⟩
  | observation base trackerGeneration observedAt presence capture process event current
      generation s₁ tracker₁ observed record next =>
    obtain ⟨-, rfl⟩ := bumpTracker_eq_ok.mp next
    exact Or.inr ⟨congrArg (· + 1) observed.generation, rfl, Or.inr ⟨_, _, _, _, _, _, event⟩⟩

/-- How the versions and counters of two successive records of a pane relate. -/
structure VersionStep (s s' : PaneState) : Prop where
  stateId : s'.stateId = s.stateId
  paneInstance : s'.paneInstance = s.paneInstance
  epoch_le : s.agentEpoch ≤ s'.agentEpoch
  epoch_succ : s'.agentEpoch ≤ s.agentEpoch + 1
  runs : s'.agentEpoch = s.agentEpoch → RunAdvance s s'
  occurrenceSeq : s.unread.occurrenceSeq ≤ s'.unread.occurrenceSeq
  readSeq : s.unread.readSeq ≤ s'.unread.readSeq
  latestOrder : s.unread.latestOrder ≤ s'.unread.latestOrder

omit [Sha256] in
theorem VersionStep.refl (s : PaneState) : VersionStep s s :=
  ⟨rfl, rfl, le_rfl, Nat.le_succ _, fun _ => .refl s, le_rfl, le_rfl, le_rfl⟩

omit [Sha256] in
theorem Transition.versionStep {s s₁ s' : PaneState} {current : Option PaneState}
    {event : PaneEvent} {context : ReductionContext} {revision : ℕ} (h : Transition s s₁)
    (hs : Counted s)
    (hunread : applyUnreadTransition current event { s₁ with revision := revision } context
      = .ok s') :
    VersionStep s s' ∧ s'.revision = revision := by
  obtain ⟨hframe, -, hcases⟩ := applyUnreadTransition_spec hunread
  have hread := hs.read
  have hseq := h.occurrenceSeq
  have hmono : s.unread.occurrenceSeq ≤ s'.unread.occurrenceSeq ∧
      s.unread.readSeq ≤ s'.unread.readSeq ∧ s.unread.latestOrder ≤ s'.unread.latestOrder := by
    have hlatest : s₁.unread.latestOrder = s.unread.latestOrder := by
      simp [UnreadState.latestOrder, h.latest]
    rcases hcases with hkeep | hmint
    · rw [hkeep]
      exact ⟨hseq.ge, h.readSeq, hlatest.ge⟩
    · obtain ⟨reason, occurredAt, hnew⟩ := hmint.latest
      have hoccurrence := hmint.occurrenceSeq
      dsimp only at hoccurrence hnew
      refine ⟨by omega, ?_, ?_⟩
      · rcases hmint.readSeq with hsame | hall
        · rw [hsame]
          exact h.readSeq
        · omega
      · rw [← hlatest, show s'.unread.latestOrder =
          max context.latestUnreadOrder s₁.unread.latestOrder + 1 by
            simp [UnreadState.latestOrder, hnew]]
        exact (le_max_right _ _).trans (Nat.le_succ _)
  have hepoch : s'.agentEpoch = s₁.agentEpoch := by
    rw [hframe]
  have hrun : s'.runSeq = s₁.runSeq := by
    rw [hframe]
  have hcompleted : s'.completedSeq = s₁.completedSeq := by
    rw [hframe]
  refine ⟨⟨?_, ?_, ?_, ?_, ?_, hmono.1, hmono.2.1, hmono.2.2⟩, ?_⟩
  · rw [hframe]
    exact h.stateId
  · rw [hframe]
    exact h.paneInstance
  · rcases h.epoch with hnext | ⟨hsame, -⟩ <;> omega
  · rcases h.epoch with hnext | ⟨hsame, -⟩ <;> omega
  · intro heq
    rcases h.epoch with hnext | ⟨-, hruns⟩
    · omega
    · exact ⟨by rw [hrun]; exact hruns.runSeq_le, by rw [hrun]; exact hruns.runSeq_succ,
        by rw [hcompleted]; exact hruns.completedSeq_le,
        by rw [hcompleted]; exact hruns.completedSeq_succ⟩
  · rw [hframe]

theorem reduce_some {s : PaneState} {envelope : PaneEventEnvelope} {context : ReductionContext}
    {r : Reduction} (hs : Counted s) (h : reduce (some s) envelope context = .ok r) :
    ∃ s', r.record = some s' ∧ VersionStep s s' ∧
      ((r.outcome = .canonicalChanged ∧ s'.revision = s.revision + 1) ∨
        (r.outcome ≠ .canonicalChanged ∧ s' = s)) := by
  obtain ⟨-, -, rfl | ⟨-, s₁, tracker, previous, hdispatch, hsettled⟩⟩ := reduce_eq_ok h
  · exact ⟨s, rfl, .refl s, Or.inr ⟨by simp [Reduction.unchanged], rfl⟩⟩
  · have htransition := (dispatch_finished hdispatch).transition hs
    cases hsettled with
    | same record result =>
      cases record
      subst result
      refine ⟨s, rfl, .refl s, Or.inr ⟨?_, rfl⟩⟩
      dsimp only
      split_ifs <;> simp
    | changed differs revision next valid s' unread result =>
      subst result
      obtain ⟨-, rfl⟩ := increment_eq_ok.mp next
      obtain ⟨hstep, hrevision⟩ := htransition.versionStep hs unread
      exact ⟨s', rfl, hstep, Or.inl ⟨rfl, hrevision⟩⟩

theorem reduce_none {envelope : PaneEventEnvelope} {context : ReductionContext} {r : Reduction}
    (h : reduce none envelope context = .ok r) :
    (r = .unchanged none) ∨
      ∃ s', r.record = some s' ∧ r.outcome = .canonicalChanged ∧ s'.revision = 1 := by
  obtain ⟨-, -, rfl | ⟨-, s₁, tracker, previous, -, hsettled⟩⟩ := reduce_eq_ok h
  · exact Or.inl rfl
  · cases hsettled with
    | same record result => cases record
    | changed differs revision next valid s' unread result =>
      subst result
      cases next
      refine Or.inr ⟨s', rfl, rfl, ?_⟩
      rw [(applyUnreadTransition_spec unread).1]

theorem reduce_trackerDelta {current : Option PaneState} {envelope : PaneEventEnvelope}
    {context : ReductionContext} {r : Reduction} {delta : CaptureTrackerDelta}
    (h : reduce current envelope context = .ok r) (hdelta : r.trackerDelta = some delta) :
    context.tracker.generation ≤ delta.next.generation ∧
      (envelope.event.isMarkDone = false →
        context.tracker.generation < delta.next.generation) := by
  obtain ⟨-, -, rfl | ⟨-, s₁, tracker, previous, hdispatch, hsettled⟩⟩ := reduce_eq_ok h
  · simp [Reduction.unchanged] at hdelta
  · have hnext : trackerDelta tracker previous = some delta := by
      cases hsettled with
      | same record result =>
        rw [result] at hdelta
        exact hdelta
      | changed differs revision next valid s' unread result =>
        rw [result] at hdelta
        exact hdelta
    unfold trackerDelta at hnext
    split_ifs at hnext with hdiffers
    cases hnext
    cases current with
    | none =>
      obtain ⟨-, hcreated⟩ := dispatch_created hdispatch
      have hgeneration : tracker.generation = context.tracker.generation + 1 := by
        cases hcreated with
        | explicit agent session hasAgent hasSession external claude creates s₀ new record next =>
          obtain ⟨-, rfl⟩ := bumpTracker_eq_ok.mp next
          rfl
        | observation base trackerGeneration observedAt agent capture process event s₀ new record
            next =>
          obtain ⟨-, rfl⟩ := bumpTracker_eq_ok.mp next
          rfl
      dsimp only
      omega
    | some s =>
      dsimp only
      rcases (dispatch_finished hdispatch).generation with ⟨hsame, -, hnone | hdone⟩ | ⟨hnext, -⟩
      · simp [hnone] at hdiffers
      · obtain ⟨expected, completedAt, hevent⟩ := hdone
        exact ⟨hsame.ge, by simp [hevent, PaneEvent.isMarkDone]⟩
      · omega

/-- The record changes exactly when the outcome says so, by one revision; identity is kept, the
counters move forward, and the tracker generation grows with every explicit event and every
observation that hands a tracker back. -/
theorem reduce_monotone {current : Option PaneState} {envelope : PaneEventEnvelope}
    {context : ReductionContext} {r : Reduction}
    (hvalid : ∀ s ∈ current, s.validate = .ok ()) (h : reduce current envelope context = .ok r) :
    (r.outcome = .canonicalChanged ↔ r.record ≠ current) ∧
    (∀ s' ∈ r.record, r.outcome = .canonicalChanged →
      s'.revision = (current.map (·.revision)).getD 0 + 1) ∧
    (∀ s ∈ current, ∃ s' ∈ r.record, VersionStep s s') ∧
    ∀ delta ∈ r.trackerDelta, context.tracker.generation ≤ delta.next.generation ∧
      (envelope.event.isMarkDone = false →
        context.tracker.generation < delta.next.generation) := by
  refine ⟨?_, ?_, ?_, fun delta hdelta => reduce_trackerDelta h hdelta⟩
  all_goals cases current with
    | none =>
      rcases reduce_none h with rfl | ⟨s', hrecord, hchanged, hrevision⟩
      · simp [Reduction.unchanged]
      · simp [hrecord, hchanged, hrevision]
    | some s =>
      have hcounted := (PaneState.validate_eq_ok.mp (hvalid s rfl)).toCoherent.counted
      obtain ⟨s', hrecord, hstep, ⟨hchanged, hrevision⟩ | ⟨hkept, rfl⟩⟩ := reduce_some hcounted h
      · have hne : s' ≠ s := by
          rintro rfl
          omega
        simp [hrecord, hchanged, hrevision, hstep, hne]
      · simp [hrecord, hkept, hstep]

omit [Sha256] in
theorem reduce_monotone_activity :
    ∃ r, @reduce .constant (some claudeRecord) (claudeEnvelope (.activityObserved 5))
        (quietContext {}) = .ok r ∧
      r.outcome = .canonicalChanged ∧ r.record ≠ some claudeRecord ∧
      ∀ s' ∈ r.record, s'.revision = 2 := by
  have hvalid : ∀ s ∈ some claudeRecord, @PaneState.validate .constant s = .ok () := by
    rintro _ ⟨⟩
    decide
  obtain ⟨hchanged, hrevision, -, -⟩ := @reduce_monotone .constant (some claudeRecord)
    (claudeEnvelope (.activityObserved 5)) (quietContext {}) _ hvalid rfl
  exact ⟨_, rfl, rfl, hchanged.mp rfl, fun s' hs' => hrevision s' hs' rfl⟩

end VdeTmux.Pane
