import VdeTmux.Pane.Run

/-!
# The receipt gate

A run completes only when nothing of it is left open: no subagent, no pending background task and
no fault of the wait. Receipts alone are released by a stop of the parent. A fault that says that
tracking overflowed stays until the run it belongs to is over.
-/

open Foundation Foundation.Text
namespace VdeTmux.Pane

/-- What the record must have received before its run completes. -/
structure Receipted (s : PaneState) (event : PaneEvent) : Prop where
  subagents : s.subagents = []
  pending : ∀ task ∈ s.claudeBackground.tasks, task.receipt ≠ .pending
  faults : s.claudeBackground.faults = []
  stopped : s.claudeBackground.tasks ≠ [] → event.isClaudeStopped = true

/-- A confirmed absence whose capture opened a run of its own on a record without an open one. -/
structure CapturedAway (s : PaneState) (event : PaneEvent) (s' : PaneState) : Prop where
  closed : s.runSeq = s.completedSeq
  gone : s'.agentPresent = false
  observed : ∃ base trackerGeneration observedAt capture process, event =
    .observationBatch base trackerGeneration observedAt .absent (some capture) process

theorem Released.receipted {s : PaneState} {event : PaneEvent} (h : Released s) :
    Receipted s event := by
  obtain ⟨hsubagents, htasks, hblocks⟩ := h
  obtain ⟨hpending, hfaults⟩ := ClaudeBackgroundState.blocksCompletion_eq_false.mp hblocks
  exact ⟨hsubagents, hpending, hfaults, fun hne => absurd htasks hne⟩

theorem RunMove.receipted {s s' : PaneState} {event : PaneEvent}
    (h : RunMove (event.isClaudeStopped = true) s s')
    (hcompleted : s.completedSeq < s'.completedSeq) : Receipted s event := by
  cases h with
  | kept run completed => omega
  | opened closed run completed => omega
  | completed subagents unblocked tasks run completed =>
    obtain ⟨hpending, hfaults⟩ := ClaudeBackgroundState.blocksCompletion_eq_false.mp unblocked
    exact ⟨subagents, hpending, hfaults, fun hne => tasks.resolve_left hne⟩

theorem Started.released {s s' : PaneState} (h : Started s s') (hopen : s.runSeq ≠ s.completedSeq)
    (hreleased : Released s') : Released s := by
  obtain ⟨-, hsubagents, htasks, hfaults⟩ := h.continued hopen
  obtain ⟨hnone, hempty, hblocks⟩ := hreleased
  refine ⟨hsubagents ▸ hnone, htasks ▸ hempty, ?_⟩
  rw [← ClaudeBackgroundState.blocksCompletion_congr htasks hfaults]
  exact hblocks

theorem Completed.receipted {s s' : PaneState} {event : PaneEvent} (h : Completed s s') :
    Receipted s event := h.released.receipted

theorem Observed.receipted {s s' : PaneState} {tracker tracker' : CaptureTrackerSnapshot}
    {event : PaneEvent} {base : Option StoredStateDescriptor} {trackerGeneration : ℕ}
    {presence : AgentPresenceObservation} {capture : Option CaptureObservation}
    {process : Option ProcessObservation} {observedAt : ℤ}
    (hevent : event =
      .observationBatch base trackerGeneration observedAt presence capture process)
    (h : Observed s tracker presence capture process observedAt s' tracker')
    (hepoch : s'.agentEpoch = s.agentEpoch) (hcompleted : s.completedSeq < s'.completedSeq) :
    Receipted s event ∨ CapturedAway s event s' := by
  cases h with
  | epoch agent presence begins tracker =>
    have hnext := (beginAgentEpoch_fresh begins).2.agentEpoch
    omega
  | unknown presence record tracker =>
    rw [record] at hcompleted
    exact absurd hcompleted (lt_irrefl _)
  | same presence present inference effective record evidence =>
    rcases applyInference_cases record with rfl | hstarted | hcomplete
    · exact absurd hcompleted (lt_irrefl _)
    · have hsame : s'.completedSeq = s.completedSeq := hstarted.completedSeq
      omega
    · have hreleased : Released s := hcomplete.released
      exact Or.inl hreleased.receipted
  | absent presence s₁ record counted evidence =>
    rcases applyInference_cases record with rfl | hstarted | hcomplete
    · rcases counted with ⟨rfl, -⟩ | ⟨rfl, -⟩
      · exact absurd hcompleted (lt_irrefl _)
      · rw [confirmAbsent_eq] at hcompleted
        rcases (settleRun_runs s₁ observedAt).2 with hsame | ⟨hreleased, -⟩
        · exact absurd hcompleted (by simp [hsame])
        · exact Or.inl hreleased.receipted
    · have hsame : s₁.completedSeq = s.completedSeq := hstarted.completedSeq
      rcases counted with ⟨rfl, -⟩ | ⟨rfl, -⟩
      · omega
      · rw [confirmAbsent_eq] at hcompleted
        rcases (settleRun_runs s₁ observedAt).2 with hkept | ⟨hreleased, -⟩
        · exact absurd hcompleted (by simp [hkept, hsame])
        · by_cases hclosed : s.runSeq = s.completedSeq
          · refine Or.inr ⟨hclosed, rfl, ?_⟩
            cases capture with
            | none =>
              cases record
              have hidle := hstarted.opened hclosed
              omega
            | some capture =>
              subst presence
              exact ⟨_, _, _, capture, _, hevent⟩
          · exact Or.inl (hstarted.released hclosed hreleased).receipted
    · exact Or.inl hcomplete.receipted
  | other agent presence differs present counted evidence streak =>
    rcases counted with ⟨rfl, -⟩ | ⟨rfl, -⟩
    · exact absurd hcompleted (lt_irrefl _)
    · rw [confirmAbsent_eq] at hcompleted
      rcases (settleRun_runs s observedAt).2 with hsame | ⟨hreleased, -⟩
      · exact absurd hcompleted (by simp [hsame])
      · exact Or.inl hreleased.receipted

variable [Sha256]

theorem ExplicitStep.receipted {s s' : PaneState} {agent : AgentKind} {session : AgentSessionId}
    {event : PaneEvent} {tracker : CaptureTrackerSnapshot} {privateTaskPrompt : Option String}
    (h : ExplicitStep s agent session event tracker privateTaskPrompt s')
    (hepoch : s'.agentEpoch = s.agentEpoch) (hcompleted : s.completedSeq < s'.completedSeq) :
    Receipted s event := by
  cases h with
  | regular identity record =>
    exact (applyRegularExplicitEvent_identity record).2.receipted hcompleted
  | entered source evidence allowed s₀ begins record =>
    have hidentity := (applyRegularExplicitEvent_identity record).1
    have hsame : s'.agentEpoch = s₀.agentEpoch := congrArg PaneIdentity.agentEpoch hidentity
    have hnext := (beginAgentEpoch_fresh begins).2.agentEpoch
    omega
  | late identity evidence completion s₁ record left =>
    rw [left] at hcompleted
    exact (applyRegularExplicitEvent_identity record).2.receipted hcompleted
  | bound identity accepted record =>
    have hgate : Receipted { s with agentSessionId := some session } event :=
      (applyRegularExplicitEvent_identity record).2.receipted hcompleted
    exact ⟨hgate.subagents, hgate.pending, hgate.faults, hgate.stopped⟩
  | ignored identity refused record =>
    rw [record] at hcompleted
    exact absurd hcompleted (lt_irrefl _)

theorem Finished.receipted {s s' : PaneState} {envelope : PaneEventEnvelope}
    {context : ReductionContext} {tracker : CaptureTrackerSnapshot}
    {previous : Option CaptureTrackerSnapshot}
    (h : Finished s envelope context s' tracker previous)
    (hdone : envelope.event.isMarkDone = false) (hepoch : s'.agentEpoch = s.agentEpoch)
    (hcompleted : s.completedSeq < s'.completedSeq) :
    Receipted s envelope.event ∨ CapturedAway s envelope.event s' := by
  cases h with
  | read throughOrder event record next =>
    rcases record with rfl | rfl <;> exact absurd hcompleted (lt_irrefl _)
  | summary expectedStateId expectedAgentEpoch summary event valid record next =>
    rw [record] at hcompleted
    exact absurd hcompleted (lt_irrefl _)
  | done expected completedAt event version record next =>
    rw [event] at hdone
    exact absurd hdone (by simp [PaneEvent.isMarkDone])
  | sessionStart agent session observedAt source resumedPrompt hasAgent hasSession event
      notCompact s₀ begins record next =>
    have hsame : s'.agentEpoch = s₀.agentEpoch := by
      rw [record]
      rfl
    have hnext := (beginAgentEpoch_fresh begins).2.agentEpoch
    omega
  | interruption agent session hasAgent hasSession external verifies record next =>
    rw [record] at hcompleted
    exact absurd hcompleted (lt_irrefl _)
  | explicit agent session hasAgent hasSession external notStart claude step next =>
    exact Or.inl (step.receipted hepoch hcompleted)
  | observation base trackerGeneration observedAt presence capture process event current
      generation s₁ tracker₁ observed record next =>
    have hframe := applyProcessObservation_spec record
    rw [hframe] at hepoch hcompleted
    refine (observed.receipted event hepoch hcompleted).imp_right fun haway => ?_
    refine ⟨haway.closed, ?_, haway.observed⟩
    rw [hframe]
    exact haway.gone

inductive Forgets (s : PaneState) (event : PaneEvent) (tracker : CaptureTrackerSnapshot)
    (s' : PaneState) : Prop
  | done (event : event.isMarkDone = true)
  | newRun (closed : s.runSeq = s.completedSeq) (opened : s'.runSeq = s.runSeq + 1)
  | ended (event : event.isClaudeSessionEnded = true)
  | absence (observed : ∃ base trackerGeneration observedAt presence capture process, event =
      .observationBatch base trackerGeneration observedAt presence capture process)
      (counted : 0 < tracker.absenceCount) (gone : s'.agentPresent = false)
  | epoch (next : s'.agentEpoch = s.agentEpoch + 1)

def OverflowKept (s : PaneState) (event : PaneEvent) (tracker : CaptureTrackerSnapshot)
    (s' : PaneState) : Prop :=
  s.claudeBackground.overflowKeys ⊆ s'.claudeBackground.overflowKeys ∨ Forgets s event tracker s'

omit [Sha256] in
theorem OverflowKept.of_eq {s s' : PaneState} {event : PaneEvent}
    {tracker : CaptureTrackerSnapshot} (h : s'.claudeBackground = s.claudeBackground) :
    OverflowKept s event tracker s' :=
  Or.inl (h ▸ List.Subset.refl _)

omit [Sha256] in
theorem OverflowKept.congr {s s' s₀ s₁ : PaneState} {event : PaneEvent}
    {tracker : CaptureTrackerSnapshot} (h : OverflowKept s₀ event tracker s₁)
    (hbackground : s.claudeBackground = s₀.claudeBackground) (hrun : s.runSeq = s₀.runSeq)
    (hcompleted : s.completedSeq = s₀.completedSeq) (hepoch : s.agentEpoch = s₀.agentEpoch)
    (hkeys : s₁.claudeBackground.overflowKeys ⊆ s'.claudeBackground.overflowKeys)
    (hrun' : s'.runSeq = s₁.runSeq) (hepoch' : s'.agentEpoch = s₁.agentEpoch)
    (hgone : s₁.agentPresent = false → s'.agentPresent = false) :
    OverflowKept s event tracker s' := by
  rcases h with hkept | hforgets
  · exact Or.inl (hbackground ▸ List.Subset.trans hkept hkeys)
  · refine Or.inr ?_
    cases hforgets with
    | done event => exact .done event
    | newRun closed opened => exact .newRun (by omega) (by omega)
    | ended event => exact .ended event
    | absence observed counted gone => exact .absence observed counted (hgone gone)
    | epoch next => exact .epoch (by omega)

omit [Sha256] in
theorem InEpoch.overflowKept {stopped : Prop} {s s' : PaneState} {event : PaneEvent}
    {tracker : CaptureTrackerSnapshot} (h : InEpoch stopped s s') :
    OverflowKept s event tracker s' := by
  by_cases hrun : s'.runSeq = s.runSeq
  · exact Or.inl (h.overflow hrun)
  · cases h.move with
    | kept run completed => exact absurd run hrun
    | opened closed run completed => exact Or.inr (.newRun closed run)
    | completed subagents unblocked tasks run completed =>
      rw [OverflowKept, overflowKeys_eq_nil unblocked]
      exact Or.inl (List.nil_subset _)

omit [Sha256] in
theorem Observed.overflowKept {s s' : PaneState} {tracker tracker' : CaptureTrackerSnapshot}
    {event : PaneEvent} {base : Option StoredStateDescriptor} {trackerGeneration : ℕ}
    {presence : AgentPresenceObservation} {capture : Option CaptureObservation}
    {process : Option ProcessObservation} {observedAt : ℤ}
    (hevent : event =
      .observationBatch base trackerGeneration observedAt presence capture process)
    (h : Observed s tracker presence capture process observedAt s' tracker') :
    OverflowKept s event tracker s' := by
  cases h with
  | epoch agent presence begins tracker =>
    exact Or.inr (.epoch (beginAgentEpoch_fresh begins).2.agentEpoch)
  | unknown presence record tracker => exact .of_eq (record ▸ rfl)
  | same presence present inference effective record evidence =>
    have hmove : InEpoch False { s with scanVerified := true } s' := applyInference_inEpoch record
    exact hmove.overflowKept.congr rfl rfl rfl rfl (List.Subset.refl _) rfl rfl id
  | absent presence s₁ record counted evidence =>
    rcases counted with ⟨rfl, -⟩ | ⟨rfl, hcount, -⟩
    · have hmove : InEpoch False s s' := applyInference_inEpoch record
      exact hmove.overflowKept
    · exact Or.inr (.absence ⟨_, _, _, _, _, _, hevent⟩ hcount rfl)
  | other agent presence differs present counted evidence streak =>
    rcases counted with ⟨rfl, -⟩ | ⟨rfl, hcount, -⟩
    · exact .of_eq rfl
    · exact Or.inr (.absence ⟨_, _, _, _, _, _, hevent⟩ hcount rfl)

theorem applyRegularExplicitEvent_overflowKept {s s' : PaneState} {event : PaneEvent}
    {tracker : CaptureTrackerSnapshot} {privateTaskPrompt : Option String}
    (h : applyRegularExplicitEvent s event privateTaskPrompt = .ok s') :
    OverflowKept s event tracker s' := by
  cases hended : event.isClaudeSessionEnded with
  | true => exact Or.inr (.ended hended)
  | false => exact (applyRegularExplicitEvent_inEpoch hended h).overflowKept

theorem ExplicitStep.overflowKept {s s' : PaneState} {agent : AgentKind}
    {session : AgentSessionId} {event : PaneEvent} {tracker : CaptureTrackerSnapshot}
    {privateTaskPrompt : Option String}
    (h : ExplicitStep s agent session event tracker privateTaskPrompt s') :
    OverflowKept s event tracker s' := by
  cases h with
  | regular identity record => exact applyRegularExplicitEvent_overflowKept record
  | entered source evidence allowed s₀ begins record =>
    have hidentity := (applyRegularExplicitEvent_identity record).1
    have hsame : s'.agentEpoch = s₀.agentEpoch := congrArg PaneIdentity.agentEpoch hidentity
    exact Or.inr (.epoch (hsame.trans (beginAgentEpoch_fresh begins).2.agentEpoch))
  | late identity evidence completion s₁ record left =>
    rw [left]
    exact (applyRegularExplicitEvent_overflowKept record).congr rfl rfl rfl rfl
      (List.Subset.refl _) rfl rfl fun _ => rfl
  | bound identity accepted record =>
    exact (applyRegularExplicitEvent_overflowKept record).congr rfl rfl rfl rfl
      (List.Subset.refl _) rfl rfl id
  | ignored identity refused record => exact .of_eq (record ▸ rfl)

theorem Finished.overflowKept {s s' : PaneState} {envelope : PaneEventEnvelope}
    {context : ReductionContext} {tracker : CaptureTrackerSnapshot}
    {previous : Option CaptureTrackerSnapshot}
    (h : Finished s envelope context s' tracker previous) :
    OverflowKept s envelope.event context.tracker s' := by
  cases h with
  | read throughOrder event record next =>
    rcases record with rfl | rfl <;> exact .of_eq rfl
  | summary expectedStateId expectedAgentEpoch summary event valid record next =>
    exact .of_eq (record ▸ rfl)
  | done expected completedAt event version record next =>
    exact Or.inr (.done (event ▸ rfl))
  | sessionStart agent session observedAt source resumedPrompt hasAgent hasSession event
      notCompact s₀ begins record next =>
    have hnext : s₀.agentEpoch = s.agentEpoch + 1 := (beginAgentEpoch_fresh begins).2.agentEpoch
    exact Or.inr (.epoch (record ▸ hnext))
  | interruption agent session hasAgent hasSession external verifies record next =>
    exact .of_eq (record ▸ rfl)
  | explicit agent session hasAgent hasSession external notStart claude step next =>
    exact step.overflowKept
  | observation base trackerGeneration observedAt presence capture process event current
      generation s₁ tracker₁ observed record next =>
    rw [applyProcessObservation_spec record]
    exact (observed.overflowKept event).congr rfl rfl rfl rfl (List.Subset.refl _) rfl rfl id

/-- What one event of a run may do to the completions and the overflow faults of a record. -/
structure GateStep (s : PaneState) (input : Input) (tracker : CaptureTrackerSnapshot)
    (s' : PaneState) : Prop where
  receipted : s'.agentEpoch = s.agentEpoch → s.completedSeq < s'.completedSeq →
    input.event.isMarkDone = false →
    Receipted s input.event ∨ CapturedAway s input.event s'
  overflow : OverflowKept s input.event tracker s'

theorem Changed.gateStep {s s₁ s' : PaneState} {input : Input} {tracker : CaptureTrackerSnapshot}
    (h : Changed s input.envelope (input.context tracker) s₁ s') :
    GateStep s input tracker s' := by
  obtain ⟨next, previous, hfinished⟩ := h.finished
  obtain ⟨hframe, hfaults, -⟩ := applyUnreadTransition_spec h.unread
  have hepoch : s'.agentEpoch = s₁.agentEpoch := by
    rw [hframe]
  have hcompleted : s'.completedSeq = s₁.completedSeq := by
    rw [hframe]
  refine ⟨fun hsame hgrows hdone => ?_, ?_⟩
  · refine (hfinished.receipted hdone (by omega) (by omega)).imp_right fun haway => ?_
    refine ⟨haway.closed, ?_, haway.observed⟩
    rw [hframe]
    exact haway.gone
  · refine hfinished.overflowKept.congr rfl rfl rfl rfl ?_ ?_ hepoch ?_
    · rw [hframe]
      exact hfaults.overflowKeys
    · rw [hframe]
    · rw [hframe]
      exact id

/-- The entries of a run that follow a record, whatever the run began with. -/
def Forgotten (past : List (Cell × Input)) : Prop :=
  ∃ e ∈ past, ∃ s ∈ e.1.record, ∃ s' ∈ (e.1.next e.2).record,
    Forgets s e.2.event e.1.tracker s'

theorem Cell.next_gateStep {cell : Cell} (input : Input) {s : PaneState}
    (h : cell.record = some s) :
    ∃ s', (cell.next input).record = some s' ∧ GateStep s input cell.tracker s' := by
  rcases Cell.next_some input h with hsame | ⟨s₁, s', hnext, hchanged⟩
  · refine ⟨s, hsame, fun _ hgrows => absurd hgrows (lt_irrefl _), .of_eq rfl⟩
  · exact ⟨s', hnext, hchanged.gateStep⟩

theorem overflow_kept {start cell : Cell} {past : List (Cell × Input)} {s : PaneState}
    (h : Trace Cell.Step start past cell) (hs : start.record = some s) (hpast : ¬Forgotten past) :
    ∃ s', cell.record = some s' ∧
      s.claudeBackground.overflowKeys ⊆ s'.claudeBackground.overflowKeys := by
  induction h with
  | nil => exact ⟨s, hs, List.Subset.refl _⟩
  | snoc before taken ih =>
    rename_i past cell₁ cell' input
    obtain ⟨s₁, hs₁, hkept⟩ := ih fun ⟨e, he, hforgets⟩ =>
      hpast ⟨e, List.mem_cons_of_mem _ he, hforgets⟩
    obtain ⟨s', hs', hgate⟩ := Cell.next_gateStep input hs₁
    rw [taken]
    refine ⟨s', hs', ?_⟩
    rcases hgate.overflow with hnow | hforgets
    · exact List.Subset.trans hkept hnow
    · exact absurd ⟨_, List.mem_cons_self, s₁, hs₁, s', hs', hforgets⟩ hpast

/-- Along every run of a pane, each completion inside an epoch passed the gate, and an overflow
fault outlasts everything but its run. -/
theorem receipt_gate {start cell : Cell} {past : List (Cell × Input)}
    (h : Trace Cell.Step start past cell) :
    (∀ e ∈ past, ∀ s ∈ e.1.record, ∀ s' ∈ (e.1.next e.2).record,
      s'.agentEpoch = s.agentEpoch → s.completedSeq < s'.completedSeq →
      e.2.event.isMarkDone = false →
      Receipted s e.2.event ∨ CapturedAway s e.2.event s') ∧
    (¬Forgotten past → ∀ s ∈ start.record, ∃ s' ∈ cell.record,
      s.claudeBackground.overflowKeys ⊆ s'.claudeBackground.overflowKeys) := by
  refine ⟨?_, fun hpast s hs => overflow_kept h hs hpast⟩
  intro e _ s hs s' hs' hepoch hgrows hdone
  obtain ⟨s₁, hs₁, hgate⟩ := Cell.next_gateStep e.2 hs
  obtain rfl : s₁ = s' := Option.some.inj (hs₁.symm.trans hs')
  exact hgate.receipted hepoch hgrows hdone

def overflowedRecord : PaneState :=
  { claudeRecord with
    runSeq := 1
    startedAt := some 1
    lifecycle := .running
    claudeBackground := ({} : ClaudeBackgroundState).fault overflowReason "overflow" }

omit [Sha256] in
/-- A first run is completed with nothing left open, and a notification for a task that is called
as the overflow fault is leaves that fault in place. -/
theorem receipt_gate_runs :
    (∃ s, (@Cell.next .constant {} ⟨claudeEnvelope (.activityObserved 1), {}, some ⟨"state"⟩, 0,
        none⟩).record = some s ∧ Receipted s (.completeRun 2)) ∧
      ∃ s', (@Cell.next .constant ⟨some overflowedRecord, {}⟩
        { envelope := claudeEnvelope
            (.claudeTaskNotificationsObserved 2 [⟨"overflow", "tool", some "done"⟩]) }).record =
          some s' ∧ "overflow" ∈ s'.claudeBackground.overflowKeys := by
  constructor
  · have hrun := @Cell.replay_trace .constant {} {} []
      [⟨claudeEnvelope (.activityObserved 1), {}, some ⟨"state"⟩, 0, none⟩,
        { envelope := claudeEnvelope (.completeRun 2) }] .nil
    have hgate := (@receipt_gate .constant _ _ _ hrun).1 _ List.mem_cons_self _ rfl _ rfl rfl
      (by decide) rfl
    refine ⟨_, rfl, hgate.resolve_right ?_⟩
    rintro ⟨-, -, _, _, _, _, _, hevent⟩
    cases hevent
  · have hrun := @Cell.replay_trace .constant ⟨some overflowedRecord, {}⟩ _ []
      [{ envelope := claudeEnvelope
          (.claudeTaskNotificationsObserved 2 [⟨"overflow", "tool", some "done"⟩]) }] .nil
    have hkept := (@receipt_gate .constant _ _ _ hrun).2
    obtain ⟨s', hs', hsubset⟩ := hkept (by
      rintro ⟨e, he, s, hs, s', hs', hforgets⟩
      cases List.mem_singleton.mp he
      cases hs
      cases hs'
      cases hforgets with
      | done event => cases event
      | newRun closed opened => exact absurd closed (by decide)
      | ended event => cases event
      | absence observed counted gone => exact absurd counted (by decide)
      | epoch next => exact absurd next (by decide)) overflowedRecord rfl
    exact ⟨s', hs', hsubset (by decide)⟩

/-- A subagent that starts between two runs, and a usage limit on the screen of a pane that is
just left for good. -/
def captureAwayInputs : List Input :=
  let version := fun revision : ℕ => some (.canonical ⟨⟨"state"⟩, 1, revision⟩)
  [{ envelope := claudeEnvelope (.activityObserved 1), newStateId := some ⟨"state"⟩ },
    { envelope := claudeEnvelope (.completeRun 2) },
    { envelope := claudeEnvelope
        (.observationBatch (version 2) 2 3 (.present ⟨"claude"⟩) none none) },
    { envelope := claudeEnvelope (.progressUpdated 4 [.upsertSubagent ⟨"agent", "helper", none⟩]) },
    { envelope := claudeEnvelope (.observationBatch (version 4) 4 5 .absent none none) },
    { envelope := claudeEnvelope (.observationBatch (version 4) 5 6 .absent
        (some ⟨.usageLimit, none, none, false⟩) none) }]

omit [Sha256] in
/-- The run that the usage limit opened is completed although a subagent was listed. -/
theorem receipt_gate_captured :
    ¬ ∀ (past : List (Cell × Input)) (cell : Cell), Trace (@Cell.Step .constant) {} past cell →
      (∀ e ∈ past, @Cell.Accepts .constant e.1 e.2) →
      ∀ e ∈ past, ∀ s ∈ e.1.record, ∀ s' ∈ (@Cell.next .constant e.1 e.2).record,
        s'.agentEpoch = s.agentEpoch → s.completedSeq < s'.completedSeq →
        e.2.event.isMarkDone = false → Receipted s e.2.event := by
  intro hclaim
  have hrun := @Cell.replay_trace .constant {} {} [] captureAwayInputs .nil
  have hgate := hclaim _ _ hrun (by decide) _ List.mem_cons_self _ rfl _ rfl rfl (by decide) rfl
  exact absurd hgate.subagents (by decide)

end VdeTmux.Pane
