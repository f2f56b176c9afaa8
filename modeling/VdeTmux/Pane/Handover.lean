import VdeTmux.Pane.Run

/-!
# Handover between sessions

A live, bound record belongs to one session. Another agent or session takes it over by starting a
session of its own, or by activity after the observation loop saw its agent twice. The streak that
the reducer reads from the tracker never exceeds the sightings that the history of the pane holds.
-/

open Foundation Foundation.Text
namespace VdeTmux.Pane

def PaneEvent.isObservation : PaneEvent → Bool
  | observationBatch .. => true
  | _ => false

/-- An interruption of the session of the record that only asks for a look at the terminal. -/
def deferred (s : PaneState) (envelope : PaneEventEnvelope) : Bool :=
  match envelope.agent, envelope.agentSessionId with
  | some agent, some session =>
    interruptionNeedsTerminalVerification s (classifyIdentity s agent session) envelope.event
  | _, _ => false

def sights (agent : AgentKind) (cell : Cell) (input : Input) : Bool :=
  match input.event with
  | .observationBatch _ _ _ (.present observed) _ _ =>
    observed = agent && cell.record.any fun s => s.agentPresent && s.agent ≠ agent
  | _ => false

/-- How often `agent` was sighted since the last entry that `keeps` does not pass over. -/
def sightings (keeps : Cell → Input → Bool) (agent : AgentKind) : List (Cell × Input) → ℕ
  | [] => 0
  | (cell, input) :: past =>
    if keeps cell input then sightings keeps agent past
    else if sights agent cell input then sightings keeps agent past + 1
    else 0

section
variable [Sha256]

/-- An entry that is neither an accepted observation nor an accepted explicit event. -/
def overlooked (cell : Cell) (input : Input) : Bool :=
  match cell.reduce input with
  | .error _ => true
  | .ok r => r.outcome = .noop || (!input.event.isExternal && !input.event.isObservation)

def keepsStreak (cell : Cell) (input : Input) : Bool :=
  overlooked cell input || cell.record.any fun s => deferred s input.envelope

def Backed (tracker : CaptureTrackerSnapshot) (past : List (Cell × Input)) : Prop :=
  ∀ agent, tracker.replacementKind = some agent →
    tracker.replacementStreak ≤ sightings keepsStreak agent past

theorem Backed.of_none {tracker : CaptureTrackerSnapshot} {past : List (Cell × Input)}
    (h : tracker.replacementKind = none) : Backed tracker past := by
  intro agent hkind
  simp [h] at hkind

theorem Backed.kept {tracker tracker' : CaptureTrackerSnapshot} {past : List (Cell × Input)}
    {cell : Cell} {input : Input} (h : Backed tracker past) (hkeeps : keepsStreak cell input = true)
    (hkind : tracker'.replacementKind = tracker.replacementKind)
    (hstreak : tracker'.replacementStreak = tracker.replacementStreak) :
    Backed tracker' ((cell, input) :: past) := by
  intro agent hagent
  simp only [sightings, hkeeps, if_true, hstreak]
  exact h agent (hkind ▸ hagent)

theorem Observed.backed {s s' : PaneState} {tracker tracker' : CaptureTrackerSnapshot}
    {presence : AgentPresenceObservation} {capture : Option CaptureObservation}
    {process : Option ProcessObservation} {observedAt : ℤ} {past : List (Cell × Input)}
    {input : Input} {cell : Cell} {base : Option StoredStateDescriptor} {trackerGeneration : ℕ}
    (hevent : input.event =
      .observationBatch base trackerGeneration observedAt presence capture process)
    (hrecord : cell.record = some s) (hpast : Backed tracker past)
    (hcounts : keepsStreak cell input = false)
    (h : Observed s tracker presence capture process observedAt s' tracker') :
    Backed tracker' ((cell, input) :: past) := by
  cases h with
  | epoch agent presence begins tracker =>
    refine .of_none ?_
    rw [tracker]
    rfl
  | unknown presence record tracker =>
    refine .of_none ?_
    rw [tracker]
    rfl
  | same presence present inference effective record evidence =>
    obtain ⟨_, _, h⟩ := evidence
    exact .of_none (congrArg TrackerEvidence.replacementKind h)
  | absent presence s₁ record counted evidence =>
    obtain ⟨_, h⟩ := evidence
    exact .of_none (congrArg TrackerEvidence.replacementKind h)
  | other agent presence differs present counted evidence streak =>
    obtain ⟨_, htracker⟩ := evidence
    have hnamed : tracker'.replacementKind = some agent := by
      rw [htracker]
    have hsights : sights agent cell input = true := by
      simp [sights, hevent, presence, hrecord, present, Ne.symm differs]
    intro agent' hkind
    obtain rfl : agent = agent' := Option.some.inj (hnamed.symm.trans hkind)
    simp only [sightings, hcounts, hsights, if_true, Bool.false_eq_true, if_false]
    rcases streak with ⟨hsame, hnext⟩ | ⟨-, hfirst⟩
    · have hle := hpast agent hsame
      omega
    · omega

omit [Sha256] in
theorem deferred_observation {s : PaneState} {envelope : PaneEventEnvelope}
    (h : envelope.event.isObservation = true) : deferred s envelope = false := by
  unfold deferred
  split
  · cases hevent : envelope.event with
    | observationBatch base trackerGeneration observedAt presence capture process =>
      simp [interruptionNeedsTerminalVerification, isInterruption]
    | _ => simp [hevent, PaneEvent.isObservation] at h
  · rfl

theorem Created.replacementKind {envelope : PaneEventEnvelope} {context : ReductionContext}
    {s' : PaneState} {tracker : CaptureTrackerSnapshot} (h : Created envelope context s' tracker) :
    tracker.replacementKind = none := by
  cases h with
  | explicit agent session hasAgent hasSession external claude creates s₀ new record next =>
    obtain ⟨-, rfl⟩ := bumpTracker_eq_ok.mp next
    rfl
  | observation base trackerGeneration observedAt agent capture process event s₀ new record next =>
    obtain ⟨-, rfl⟩ := bumpTracker_eq_ok.mp next
    rfl

theorem Finished.backed {s s' : PaneState} {cell : Cell} {input : Input}
    {tracker : CaptureTrackerSnapshot} {previous : Option CaptureTrackerSnapshot}
    {r : Reduction} {past : List (Cell × Input)} (hrecord : cell.record = some s)
    (hpast : Backed cell.tracker past) (hreduce : cell.reduce input = .ok r)
    (hsettled : Settled (some s) input.event (input.context cell.tracker) s' tracker previous r)
    (h : Finished s input.envelope (input.context cell.tracker) s' tracker previous) :
    Backed tracker ((cell, input) :: past) := by
  have hinternal : input.event.isExternal = false → input.event.isObservation = false →
      keepsStreak cell input = true := by
    intro hexternal hobservation
    simp [keepsStreak, overlooked, hreduce, hexternal, hobservation]
  cases h with
  | read throughOrder event record next =>
    rw [next]
    exact hpast.kept (hinternal (by rw [Input.event, event]; rfl)
      (by rw [Input.event, event]; rfl)) rfl rfl
  | summary expectedStateId expectedAgentEpoch summary event valid record next =>
    rw [next]
    exact hpast.kept (hinternal (by rw [Input.event, event]; rfl)
      (by rw [Input.event, event]; rfl)) rfl rfl
  | done expected completedAt event version record next =>
    rw [next]
    exact hpast.kept (hinternal (by rw [Input.event, event]; rfl)
      (by rw [Input.event, event]; rfl)) rfl rfl
  | sessionStart agent session observedAt source resumedPrompt hasAgent hasSession event
      notCompact s₀ begins record next =>
    obtain ⟨-, rfl⟩ := bumpTracker_eq_ok.mp next
    exact .of_none rfl
  | interruption agent session hasAgent hasSession external verifies record next =>
    obtain ⟨-, rfl⟩ := bumpTracker_eq_ok.mp next
    refine hpast.kept ?_ rfl rfl
    simp [keepsStreak, hrecord, deferred, hasAgent, hasSession, verifies]
  | explicit agent session hasAgent hasSession external notStart claude step next =>
    obtain ⟨-, rfl⟩ := bumpTracker_eq_ok.mp next
    exact .of_none rfl
  | observation base trackerGeneration observedAt presence capture process event current
      generation s₁ tracker₁ observed record next =>
    obtain ⟨-, rfl⟩ := bumpTracker_eq_ok.mp next
    have hdelta := hsettled.outcome_ne_noop
      (trackerDelta_isSome (congrArg (· + 1) observed.generation))
    have hobservation : input.event.isObservation = true := by
      rw [Input.event, event]
      rfl
    have hcounts : keepsStreak cell input = false := by
      simp [keepsStreak, overlooked, hreduce, hdelta, hobservation, hrecord,
        deferred_observation hobservation]
    have hbacked : Backed tracker₁ ((cell, input) :: past) :=
      observed.backed event hrecord hpast hcounts
    exact hbacked

theorem Cell.next_backed {cell : Cell} {input : Input} {past : List (Cell × Input)}
    (hpast : Backed cell.tracker past) :
    Backed (cell.next input).tracker ((cell, input) :: past) := by
  cases hreduce : cell.reduce input with
  | error e =>
    have hnext : cell.next input = cell := by
      simp only [Cell.next, hreduce]
    rw [hnext]
    exact hpast.kept (by simp [keepsStreak, overlooked, hreduce]) rfl rfl
  | ok r =>
    have hnext : (cell.next input).tracker = cell.tracker.after r.trackerDelta := by
      simp only [Cell.next, hreduce]
    rw [hnext]
    obtain ⟨-, -, rfl | ⟨-, s', tracker, previous, hdispatch, hsettled⟩⟩ := reduce_eq_ok hreduce
    · exact hpast.kept (by simp [keepsStreak, overlooked, hreduce, Reduction.unchanged]) rfl rfl
    · rw [hsettled.trackerDelta_eq]
      cases hrecord : cell.record with
      | none =>
        rw [hrecord] at hdispatch
        obtain ⟨rfl, hcreated⟩ := dispatch_created hdispatch
        have hafter : (input.context cell.tracker).tracker.after _ = tracker := after_trackerDelta
        refine .of_none ?_
        rw [show cell.tracker.after _ = tracker from hafter]
        exact hcreated.replacementKind
      | some s =>
        rw [hrecord] at hdispatch hsettled
        have hfinished := dispatch_finished hdispatch
        have hafter : cell.tracker.after (trackerDelta tracker previous) = tracker :=
          hfinished.after
        rw [hafter]
        exact hfinished.backed hrecord hpast hreduce hsettled

theorem trace_backed {past : List (Cell × Input)} {cell : Cell}
    (h : Trace Cell.Step {} past cell) : Backed cell.tracker past := by
  induction h with
  | nil => exact .of_none rfl
  | snoc before taken ih =>
    rw [taken]
    exact Cell.next_backed ih

/-- The event comes from another agent or session than the record belongs to. -/
def Foreign (s : PaneState) (envelope : PaneEventEnvelope) : Prop :=
  ¬(envelope.agent = some s.agent ∧ envelope.agentSessionId = s.agentSessionId)

/-- The event names this pane, an agent and a session, and its agent may send it. -/
structure WellAddressed (s : PaneState) (envelope : PaneEventEnvelope) : Prop where
  paneInstance : envelope.paneInstance.validate = .ok ()
  pane : s.paneInstance = envelope.paneInstance
  agent : envelope.agent ≠ none
  session : envelope.agentSessionId ≠ none
  claude : envelope.event.isClaude = true → ∀ agent ∈ envelope.agent, agent.value = "claude"

def PaneEvent.startsSession : PaneEvent → Bool
  | agentSessionStarted _ source _ => source ≠ .compact
  | _ => false

/-- How an event that may not take the record over ends. -/
inductive TurnedAway (s : PaneState) (envelope : PaneEventEnvelope) :
    Except ReduceError Reduction → Prop
  | empty (empty : envelope.event.isSemanticallyEmpty = true) :
      TurnedAway s envelope (.ok (.unchanged (some s)))
  | stale (addressed : WellAddressed s envelope)
      (content : envelope.event.isSemanticallyEmpty = false) :
      TurnedAway s envelope (.error .staleAgentEvent)
  | invalidPane (malformed : ¬WellAddressed s envelope) :
      TurnedAway s envelope (.error .invalidPaneInstance)
  | invalidRequest (malformed : ¬WellAddressed s envelope) (message : String) :
      TurnedAway s envelope (.error (.invalidRequest message))

omit [Sha256] in
theorem classifyIdentity_foreign {s : PaneState} {agent : AgentKind} {session bound : AgentSessionId}
    (hpresent : s.agentPresent = true) (hbound : s.agentSessionId = some bound)
    (hforeign : ¬(agent = s.agent ∧ session = bound)) :
    classifyIdentity s agent session = .mismatchPresent := by
  unfold classifyIdentity
  by_cases hagent : s.agent = agent
  · have hsession : bound ≠ session := fun h => hforeign ⟨hagent.symm, h.symm⟩
    simp [hagent, hbound, hpresent, hsession]
  · simp [hagent, hpresent]

theorem reduceExplicit_foreign {s : PaneState} {envelope : PaneEventEnvelope}
    {context : ReductionContext} {agent : AgentKind} {session bound : AgentSessionId}
    (hpresent : s.agentPresent = true) (hbound : s.agentSessionId = some bound)
    (hagent : envelope.agent = some agent) (hsession : envelope.agentSessionId = some session)
    (hforeign : ¬(agent = s.agent ∧ session = bound))
    (hclaude : envelope.event.isClaude = true → agent.value = "claude")
    (hstart : envelope.event.startsSession = false)
    (hsafe : safeHandover s context.tracker agent envelope.event = false) :
    reduceExplicit (some s) envelope context = .error .staleAgentEvent := by
  have hidentity := classifyIdentity_foreign hpresent hbound hforeign
  have hallowed : ¬(envelope.event.isClaude = true ∧ agent.value ≠ "claude") := by
    rintro ⟨hc, hne⟩
    exact hne (hclaude hc)
  simp only [reduceExplicit, hagent, hsession, if_neg hallowed]
  generalize henv : envelope.event = event at hstart hsafe ⊢
  split
  · rename_i observedAt source resumedPrompt
    have hcompact : source = .compact := by
      simpa [PaneEvent.startsSession] using hstart
    have hother : s.agent ≠ agent ∨ s.agentSessionId ≠ some session ∨ s.agentPresent = false := by
      by_contra hsame
      simp only [not_or, not_not, hbound, Option.some.injEq] at hsame
      exact hforeign ⟨hsame.1.symm, hsame.2.1.symm⟩
    simp only [reduceSessionStart, if_pos hcompact, refuse, if_pos hother]
    rfl
  · have hverify : interruptionNeedsTerminalVerification s .mismatchPresent event = false := by
      simp [interruptionNeedsTerminalVerification]
    simp only [reduceRegularExplicit, hidentity, hverify, explicitTransition, hsafe]
    rfl

theorem reduce_foreign {s : PaneState} {envelope : PaneEventEnvelope} {context : ReductionContext}
    {bound : AgentSessionId} (hpresent : s.agentPresent = true)
    (hbound : s.agentSessionId = some bound) (hexternal : envelope.event.isExternal = true)
    (hforeign : Foreign s envelope) (hstart : envelope.event.startsSession = false)
    (hsafe : ∀ agent ∈ envelope.agent,
      safeHandover s context.tracker agent envelope.event = false) :
    TurnedAway s envelope (reduce (some s) envelope context) := by
  unfold reduce
  rcases ok_or_error envelope.paneInstance.validate with ⟨⟨⟩, hpane⟩ | ⟨e, hpane⟩
  swap
  · rw [hpane]
    exact .invalidRequest (fun h => by simp [h.paneInstance] at hpane) _
  by_cases hsame : s.paneInstance = envelope.paneInstance
  swap
  · rw [hpane, refuse, if_pos ⟨s, rfl, hsame⟩]
    exact .invalidPane fun h => hsame h.pane
  rw [hpane, refuse, if_neg (by simpa using hsame)]
  cases hempty : envelope.event.isSemanticallyEmpty with
  | true => exact .empty hempty
  | false =>
    have hexplicit : dispatch (some s) envelope context = _ := dispatch_external hexternal
    cases hagent : envelope.agent with
    | none =>
      have herror : reduceExplicit (some s) envelope context =
          .error (.invalidRequest "explicit event requires an agent") := by
        simp only [reduceExplicit, hagent]
      rw [hexplicit, herror]
      exact .invalidRequest (fun h => h.agent hagent) _
    | some agent =>
      by_cases hclaude : envelope.event.isClaude = true ∧ agent.value ≠ "claude"
      · have herror : reduceExplicit (some s) envelope context =
            .error (.invalidRequest "Claude observation requires a Claude agent") := by
          simp only [reduceExplicit, hagent, if_pos hclaude]
        rw [hexplicit, herror]
        exact .invalidRequest (fun h => hclaude.2 (h.claude hclaude.1 agent hagent)) _
      · cases hsession : envelope.agentSessionId with
        | none =>
          have herror : reduceExplicit (some s) envelope context =
              .error (.invalidRequest "explicit event requires an agent session ID") := by
            simp only [reduceExplicit, hagent, hsession, if_neg hclaude]
          rw [hexplicit, herror]
          exact .invalidRequest (fun h => h.session hsession) _
        | some session =>
          have hclaude : envelope.event.isClaude = true → agent.value = "claude" := by
            intro hc
            by_contra hne
            exact hclaude ⟨hc, hne⟩
          have hdiffers : ¬(agent = s.agent ∧ session = bound) := by
            rintro ⟨rfl, rfl⟩
            exact hforeign ⟨hagent, hsession.trans hbound.symm⟩
          rw [hexplicit, reduceExplicit_foreign hpresent hbound hagent hsession hdiffers hclaude
            hstart (hsafe agent hagent)]
          refine .stale ⟨hpane, hsame, by simp [hagent], by simp [hsession], ?_⟩ hempty
          rintro hc _ hmem
          obtain rfl := Option.some.inj (hagent.symm.trans hmem)
          exact hclaude hc

/-- What entitles an event of another session to take a live, bound record over. -/
def TakesOver (past : List (Cell × Input)) (input : Input) : Prop :=
  input.event.startsSession = true ∨
    (isEpochStartEvidence input.event = true ∧
      ∃ agent ∈ input.envelope.agent, 2 ≤ sightings keepsStreak agent past)

/-- No stale session takes over a live, bound record: an event of another agent or session is
entitled to it by its history, or it is turned away and leaves the pane as it is. -/
theorem no_stale_takeover {past : List (Cell × Input)} {cell : Cell} {s : PaneState}
    {bound : AgentSessionId} {input : Input} (h : Trace Cell.Step {} past cell)
    (hrecord : cell.record = some s) (hpresent : s.agentPresent = true)
    (hbound : s.agentSessionId = some bound) (hexternal : input.event.isExternal = true)
    (hforeign : Foreign s input.envelope) :
    TakesOver past input ∨
      (cell.next input = cell ∧ TurnedAway s input.envelope (cell.reduce input)) := by
  by_cases htakes : TakesOver past input
  · exact Or.inl htakes
  · refine Or.inr ?_
    simp only [TakesOver, not_or, not_and, not_exists, Bool.not_eq_true] at htakes
    have hturned : TurnedAway s input.envelope (cell.reduce input) := by
      rw [Cell.reduce, hrecord]
      refine reduce_foreign hpresent hbound hexternal hforeign htakes.1 fun agent hagent => ?_
      by_contra hsafe
      simp only [safeHandover, Bool.and_eq_true, decide_eq_true_eq, Bool.not_eq_false] at hsafe
      obtain ⟨⟨⟨-, hevidence⟩, htwo⟩, hkind⟩ := hsafe
      exact htakes.2 hevidence agent hagent (htwo.trans (trace_backed h agent hkind))
    refine ⟨?_, hturned⟩
    generalize hr : cell.reduce input = result at hturned
    cases hturned with
    | empty empty =>
      simp only [Cell.next, hr, Reduction.unchanged, CaptureTrackerSnapshot.after]
      rw [← hrecord]
      rfl
    | _ => simp only [Cell.next, hr]

def codexEnvelope (event : PaneEvent) : PaneEventEnvelope :=
  { claudeEnvelope event with agent := some ⟨"codex"⟩, agentSessionId := some ⟨"other"⟩ }

/-- A Claude session with one completed run. -/
def completedInputs : List Input :=
  [{ envelope := claudeEnvelope (.activityObserved 1), newStateId := some ⟨"state"⟩ },
    { envelope := claudeEnvelope (.completeRun 2) }]

/-- Codex is sighted, the Claude session reports a failure, and Codex is sighted again. -/
def interruptedSightings : List Input :=
  let base := some (.canonical ⟨⟨"state"⟩, 1, 2⟩)
  completedInputs ++
    [{ envelope := claudeEnvelope (.observationBatch base 2 3 (.present ⟨"codex"⟩) none none) },
      { envelope := claudeEnvelope (.failRun 4 none) },
      { envelope := claudeEnvelope (.observationBatch base 4 5 (.present ⟨"codex"⟩) none none) }]

omit [Sha256] in
theorem no_stale_takeover_unsighted :
    ∃ s, (@Cell.replay .constant {} [] completedInputs).2.record = some s ∧
      TurnedAway s (codexEnvelope (.activityObserved 3))
        (@Cell.reduce .constant (@Cell.replay .constant {} [] completedInputs).2
          { envelope := codexEnvelope (.activityObserved 3) }) := by
  have hrun := @Cell.replay_trace .constant {} {} [] completedInputs .nil
  have hcell := @no_stale_takeover .constant _ _ _ ⟨"session"⟩
    { envelope := codexEnvelope (.activityObserved 3) } hrun rfl rfl rfl rfl
    (fun h => absurd h.1 (by decide))
  rcases hcell with (hstart | ⟨-, agent, hagent, htwo⟩) | ⟨-, hturned⟩
  · exact absurd hstart (by decide)
  · cases hagent
    exact absurd htwo (by decide)
  · exact ⟨_, rfl, hturned⟩

omit [Sha256] in
/-- A failure that only waits for a look at the terminal does not interrupt the sightings, and
what is turned away is not always stale: an empty event is accepted without effect, and one
without a session is refused as malformed. -/
theorem takeover_interrupted :
    (¬ ∀ (past : List (Cell × Input)) (cell : Cell) (s : PaneState) (input : Input),
      Trace (@Cell.Step .constant) {} past cell →
      (∀ e ∈ past, @Cell.Accepts .constant e.1 e.2) → cell.record = some s →
      s.agentPresent = true → s.agentSessionId ≠ none → input.event.isExternal = true →
      Foreign s input.envelope → (@Cell.next .constant cell input).record ≠ cell.record →
      input.event.startsSession = true ∨ (isEpochStartEvidence input.event = true ∧
        ∃ agent ∈ input.envelope.agent,
          2 ≤ sightings (@overlooked .constant) agent past)) ∧
    (@Cell.reduce .constant (@Cell.replay .constant {} [] completedInputs).2
      { envelope := codexEnvelope (.progressUpdated 3 []) }).isOk = true ∧
    @Cell.reduce .constant (@Cell.replay .constant {} [] completedInputs).2
      { envelope := { codexEnvelope (.activityObserved 3) with agentSessionId := none } } =
        .error (.invalidRequest "explicit event requires an agent session ID") := by
  refine ⟨fun hclaim => ?_, rfl, rfl⟩
  have hrun := @Cell.replay_trace .constant {} {} [] interruptedSightings .nil
  have htaken := hclaim _ _ _ { envelope := codexEnvelope (.activityObserved 6) } hrun (by decide)
    rfl rfl (by decide) rfl (fun h => absurd h.1 (by decide)) (by decide)
  rcases htaken with hstart | ⟨-, agent, hagent, htwo⟩
  · exact absurd hstart (by decide)
  · cases hagent
    exact absurd htwo (by decide)

end
end VdeTmux.Pane
