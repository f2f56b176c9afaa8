import VdeTmux.Pane.Integrity
import VdeTmux.Pane.Run

/-!
# Confirmed absence

Two polls in a row that find no agent end its presence, and later ones have nothing left to do.
Both fail on the records that the reducer cannot settle: it refuses the second poll, or it makes
up the same fault again on every second one.
-/

open Foundation Foundation.Text
namespace VdeTmux.Pane

def polled (s : PaneState) (tracker : CaptureTrackerSnapshot) (observedAt : ℤ) : PaneState :=
  if countsAbsence s = true ∧ 0 < tracker.absenceCount then confirmAbsent s observedAt else s

def polledCount (s : PaneState) (tracker : CaptureTrackerSnapshot) : ℕ :=
  if countsAbsence s = true then
    if 0 < tracker.absenceCount then 0 else tracker.absenceCount + 1
  else tracker.absenceCount

/-- A poll without an agent counts too far, or confirms an absence that leaves a broken record. -/
def PollRefused (s : PaneState) (tracker : CaptureTrackerSnapshot) : Prop :=
  countsAbsence s = true ∧ (u8Max ≤ tracker.absenceCount ∨
    (0 < tracker.absenceCount ∧ Unsettled s s.lifecycle))

theorem observePresence_absent {s : PaneState} {tracker : CaptureTrackerSnapshot}
    (process : Option ProcessObservation) (observedAt : ℤ)
    (h : countsAbsence s = true → tracker.absenceCount < u8Max) :
    ∃ tracker', observePresence s tracker .absent none process observedAt =
        .ok (polled s tracker observedAt, tracker') ∧
      tracker'.absenceCount = polledCount s tracker := by
  obtain ⟨tracker₀, hstep, hcount⟩ : ∃ tracker₀ : CaptureTrackerSnapshot,
      observePresence s tracker .absent none process observedAt =
        (if s.scanVerified = true ∧ supportsProcessDetection s.agent = true then
          countAbsence s tracker₀ observedAt
        else .ok (s, tracker₀)) ∧
      tracker₀.absenceCount = tracker.absenceCount := ⟨_, rfl, rfl⟩
  have hcounts : countsAbsence s = true ↔
      s.scanVerified = true ∧ supportsProcessDetection s.agent = true := by
    simp [countsAbsence]
  rw [hstep, polled, polledCount, ← hcount]
  by_cases hs : countsAbsence s = true
  · rw [if_pos (hcounts.mp hs), countAbsence_ok (hcount ▸ h hs)]
    by_cases hpos : 0 < tracker₀.absenceCount
    · rw [if_pos hpos, if_pos ⟨hs, hpos⟩, if_pos hs, if_pos hpos]
      exact ⟨_, rfl, rfl⟩
    · rw [if_neg hpos, if_neg (fun h => hpos h.2), if_pos hs, if_neg hpos]
      exact ⟨_, rfl, rfl⟩
  · rw [if_neg (fun h => hs (hcounts.mpr h)), if_neg (fun h => hs h.1), if_neg hs]
    exact ⟨_, rfl, rfl⟩

variable [Sha256]

/-- An up-to-date poll that finds no agent and captures nothing. -/
structure AbsentPoll (cell : Cell) (process : Option ProcessObservation) (input : Input) :
    Prop where
  pane : ∀ s ∈ cell.record, s.paneInstance = input.envelope.paneInstance
  upToDate : ∃ observedAt, input.envelope.event = .observationBatch
    (observedDescriptor cell.record) cell.tracker.generation observedAt .absent none process
  process : forSome ProcessObservation.validate process = .ok ()
  room : Room cell.record input.event (input.context cell.tracker)

def Input.silentContext (input : Input) (tracker : CaptureTrackerSnapshot) : ReductionContext :=
  { input.context tracker with privateTaskPrompt := none }

section
variable {cell : Cell} {input : Input} {s : PaneState} {process : Option ProcessObservation}

namespace AbsentPoll

theorem reduce_eq (h : AbsentPoll cell process input) (hrecord : cell.record = some s) :
    cell.reduce input =
      Pane.reduce (some s) input.envelope (input.silentContext cell.tracker) := by
  obtain ⟨observedAt, hevent⟩ := h.upToDate
  simp only [Cell.reduce, Pane.reduce, dispatch, hevent, hrecord]
  rfl

theorem admitted (h : AbsentPoll cell process input) (hrecord : cell.record = some s)
    (hs : s.Valid) : Admitted (some s) input.envelope (input.silentContext cell.tracker) := by
  obtain ⟨observedAt, hevent⟩ := h.upToDate
  have hroom := h.room
  rw [hrecord] at hroom
  refine ⟨?_, ?_, ?_, ⟨hroom.generation, hroom.order, hroom.latest, hroom.revision, hroom.runSeq,
    hroom.agentEpoch, hroom.occurrenceSeq, hroom.tasks⟩, ⟨nofun, fun _ _ => nofun⟩⟩
  · rintro _ ⟨⟩
    exact PaneState.validate_eq_ok.mpr hs
  · rintro _ ⟨⟩
    exact h.pane s (hrecord ▸ rfl)
  · rw [hevent]
    exact ⟨nofun, h.process⟩

theorem breaks_iff (h : AbsentPoll cell process input) (hrecord : cell.record = some s)
    (hs : s.Valid) :
    Breaks s input.envelope (input.silentContext cell.tracker) ↔ PollRefused s cell.tracker := by
  obtain ⟨observedAt, hevent⟩ := h.upToDate
  rw [hrecord] at hevent
  constructor
  · intro hbreaks
    cases hbreaks with
    | done expected completedAt event => simp [hevent] at event
    | explicit agent session hasAgent hasSession claude breaks =>
      cases breaks with
      | lateStop identity stopped => simp [hevent, PaneEvent.isClaudeStopped] at stopped
      | ended identity ended => simp [hevent, PaneEvent.isClaudeSessionEnded] at ended
      | held identity completion => simp [hevent, isCompletion] at completion
    | observation observedAt presence capture process event breaks =>
      rw [hevent] at event
      cases event
      cases breaks with
      | confirmed counts counted unsettled => exact ⟨counts, Or.inr ⟨counted, unsettled⟩⟩
      | loud waits gone loud =>
        have hquiet := (hs.absent gone).2
        exact absurd loud (by simp [effectiveInference, capturedLifecycle, hquiet])
    | polled runsOver =>
      obtain ⟨_, _, _, _, hover, event⟩ := runsOver
      rw [hevent] at event
      cases event
      cases hover with
      | absence verified detectable full =>
        exact ⟨by simp [countsAbsence, verified, detectable], Or.inl full⟩
  · rintro ⟨hcounts, hfull | ⟨hpos, hunsettled⟩⟩
    · have hboth := hcounts
      simp only [countsAbsence, Bool.and_eq_true] at hboth
      exact .polled ⟨observedAt, .absent, none, process, .absence hboth.1 hboth.2 hfull, hevent⟩
    · exact .observation observedAt .absent none process hevent (.confirmed hcounts hpos hunsettled)

theorem accepts_iff (h : AbsentPoll cell process input) (hrecord : cell.record = some s)
    (hs : s.Valid) : cell.Accepts input ↔ ¬PollRefused s cell.tracker := by
  have hadmitted := h.admitted hrecord hs
  rw [Cell.Accepts, h.reduce_eq hrecord, ← h.breaks_iff hrecord hs]
  constructor
  · intro haccepts hbreaks
    refine hbreaks.not_refuses hadmitted fun e herror => ?_
    rw [herror] at haccepts
    cases haccepts
  · intro hok
    obtain ⟨observedAt, hevent⟩ := h.upToDate
    rw [hrecord] at hevent
    have hroom := hadmitted.room
    have hover : ¬PollOverflow s cell.tracker .absent :=
      fun hover => hok (.polled ⟨_, _, _, _, hover, hevent⟩)
    obtain ⟨⟨s₁, tracker₁⟩, hobserved⟩ := observePresence_ok none process observedAt
      (hroom.runSeq s rfl) (hroom.agentEpoch s rfl) hover
    obtain ⟨s₂, tracker₂, -, -, hdispatch⟩ := dispatch_observation hadmitted hevent hobserved
    obtain ⟨r, hsettle⟩ := (dispatch_finished hdispatch).settle_ok hadmitted hok
    rw [reduce_eq_dispatch hadmitted (by rw [hevent]; rfl), hdispatch]
    exact congrArg Except.isOk hsettle

end AbsentPoll

/-- What an accepted poll leaves: the polled record with its process report, settled. -/
structure AfterPoll (s : PaneState) (tracker : CaptureTrackerSnapshot)
    (process : Option ProcessObservation) (observedAt : ℤ) (s₁ s' : PaneState)
    (tracker' : CaptureTrackerSnapshot) : Prop where
  process : applyProcessObservation (polled s tracker observedAt) process = .ok s₁
  valid : s'.Valid
  record : s' = { s₁ with
    revision := s'.revision
    unread := s'.unread
    claudeBackground := { s₁.claudeBackground with faults := s'.claudeBackground.faults } }
  faults : FaultsReported s₁.claudeBackground.faults s'.claudeBackground.faults
  same : s' = s ↔ s₁ = s
  count : tracker'.absenceCount = polledCount s tracker
  generation : tracker'.generation = tracker.generation + 1

theorem Settled.record {s₁ : PaneState} {event : PaneEvent} {context : ReductionContext}
    {tracker : CaptureTrackerSnapshot} {previous : Option CaptureTrackerSnapshot} {r : Reduction}
    (h : Settled (some s) event context s₁ tracker previous r) (hs : s.Valid) :
    ∃ s', r.record = some s' ∧ s'.Valid ∧ s' = { s₁ with
        revision := s'.revision
        unread := s'.unread
        claudeBackground := { s₁.claudeBackground with faults := s'.claudeBackground.faults } } ∧
      FaultsReported s₁.claudeBackground.faults s'.claudeBackground.faults ∧
      (s' = s ↔ s₁ = s) := by
  cases h with
  | same record result =>
    cases record
    exact ⟨s, by rw [result], hs, rfl, Or.inl rfl, Iff.rfl⟩
  | changed differs revision next valid s' unread result =>
    obtain ⟨-, rfl⟩ := increment_eq_ok.mp next
    obtain ⟨hrecord, hfaults, -⟩ := applyUnreadTransition_spec unread
    have hrevision : s'.revision = s.revision + 1 := by
      rw [hrecord]
    refine ⟨s', by rw [result], applyUnreadTransition_valid valid unread, ?_, hfaults, ?_⟩
    · rw [hrevision]
      exact hrecord
    · constructor
      · rintro rfl
        omega
      · rintro rfl
        exact absurd rfl differs

theorem AbsentPoll.next (h : AbsentPoll cell process input) (hrecord : cell.record = some s)
    (hs : s.Valid) (haccepts : cell.Accepts input) :
    ∃ observedAt s₁ s', (cell.next input).record = some s' ∧
      AfterPoll s cell.tracker process observedAt s₁ s' (cell.next input).tracker := by
  have hadmitted := h.admitted hrecord hs
  have hok := (h.accepts_iff hrecord hs).mp haccepts
  have hfits : countsAbsence s = true → cell.tracker.absenceCount < u8Max :=
    fun hcounts => not_le.mp fun hfull => hok ⟨hcounts, Or.inl hfull⟩
  obtain ⟨observedAt, hevent⟩ := h.upToDate
  rw [hrecord] at hevent
  obtain ⟨tracker₁, hobserved, hcount⟩ := observePresence_absent process observedAt hfits
  obtain ⟨s₁, tracker₂, hprocess, hbump, hdispatch⟩ :=
    dispatch_observation hadmitted hevent hobserved
  obtain ⟨r, hsettle⟩ := (dispatch_finished hdispatch).settle_ok hadmitted
    (fun hbreaks => hok ((h.breaks_iff hrecord hs).mp hbreaks))
  have hreduce : cell.reduce input = .ok r := by
    rw [h.reduce_eq hrecord, reduce_eq_dispatch hadmitted (by rw [hevent]; rfl), hdispatch]
    exact hsettle
  have hsettled := settle_settled hsettle
  obtain ⟨s', hresult, hvalid, hframe, hfaults, hsame⟩ := hsettled.record hs
  have hnext : cell.next input = ⟨some s', tracker₂⟩ := by
    have hafter : cell.tracker.after (trackerDelta tracker₂ (some cell.tracker)) = tracker₂ :=
      after_trackerDelta
    have htracker : cell.tracker.after r.trackerDelta = tracker₂ := by
      rw [hsettled.trackerDelta_eq]
      exact hafter
    simp only [Cell.next, hreduce, htracker, hresult]
  have hgeneration := (observePresence_observed hobserved).generation
  obtain ⟨-, rfl⟩ := bumpTracker_eq_ok.mp hbump
  rw [hnext]
  exact ⟨observedAt, s₁, s', rfl, hprocess, hvalid, hframe, hfaults, hsame, hcount,
    congrArg (· + 1) hgeneration⟩

section
variable {tracker tracker' : CaptureTrackerSnapshot} {observedAt : ℤ} {s₁ s' : PaneState}

theorem AfterPoll.polled_eq (h : AfterPoll s tracker process observedAt s₁ s' tracker') :
    s₁ = { polled s tracker observedAt with
      agentProcess := s₁.agentProcess
      backgroundProcess := s₁.backgroundProcess
      listeningPorts := s₁.listeningPorts } := applyProcessObservation_spec h.process

theorem AfterPoll.gone (h : AfterPoll s tracker process observedAt s₁ s' tracker')
    (hcounts : countsAbsence s = true) (hpos : 0 < tracker.absenceCount) :
    s'.agentPresent = false ∧ countsAbsence s' = true := by
  have hidentity := confirmAbsent_identity s observedAt
  have hpolled : polled s tracker observedAt = confirmAbsent s observedAt :=
    if_pos ⟨hcounts, hpos⟩
  have hagent : (confirmAbsent s observedAt).agent = s.agent :=
    congrArg PaneIdentity.agent hidentity
  have hverified : (confirmAbsent s observedAt).scanVerified = true :=
    congrArg PaneIdentity.scanVerified hidentity
  have hpresent : (confirmAbsent s observedAt).agentPresent = false :=
    congrArg PaneIdentity.agentPresent hidentity
  simp only [countsAbsence, Bool.and_eq_true] at hcounts
  rw [h.record, h.polled_eq, hpolled]
  simp [countsAbsence, hagent, hverified, hpresent, hcounts.2]

theorem AfterPoll.counted (h : AfterPoll s tracker process observedAt s₁ s' tracker')
    (hzero : tracker.absenceCount = 0) :
    s'.agentPresent = s.agentPresent ∧ countsAbsence s' = countsAbsence s ∧
      (Unsettled s' s'.lifecycle ↔ Unsettled s s.lifecycle) := by
  have hpolled : polled s tracker observedAt = s := if_neg (by simp [hzero])
  have hs₁ := h.polled_eq
  rw [hpolled] at hs₁
  have htasks : s'.claudeBackground.tasks = s.claudeBackground.tasks := by
    rw [h.record, hs₁]
  have hpending : ∀ receipt, (∀ task ∈ s'.claudeBackground.tasks, task.receipt ≠ receipt) ↔
      ∀ task ∈ s.claudeBackground.tasks, task.receipt ≠ receipt := by
    simp [htasks]
  have hfaults : s'.claudeBackground.faults = [] ↔ s.claudeBackground.faults = [] := by
    have hnil := h.faults.eq_nil_iff
    rw [hs₁] at hnil
    exact hnil
  have hopen : backgroundOpen s' = backgroundOpen s := by
    rw [Bool.eq_iff_iff]
    simp only [backgroundOpen, htasks, Bool.or_eq_true]
    rw [← Bool.not_eq_false (ClaudeBackgroundState.blocksCompletion _),
      ← Bool.not_eq_false (ClaudeBackgroundState.blocksCompletion s.claudeBackground),
      ClaudeBackgroundState.blocksCompletion_eq_false,
      ClaudeBackgroundState.blocksCompletion_eq_false, hpending, hfaults]
  have hlifecycle : s'.lifecycle = s.lifecycle := by
    rw [h.record, hs₁]
  have hrun : s'.runSeq = s.runSeq ∧ s'.completedSeq = s.completedSeq ∧
      s'.subagents = s.subagents := by
    rw [h.record, hs₁]
    exact ⟨rfl, rfl, rfl⟩
  refine ⟨?_, ?_, ?_⟩
  · rw [h.record, hs₁]
  · rw [h.record, hs₁]
    rfl
  · simp only [Unsettled, hlifecycle, htasks, hopen, hrun]

end

/-- Two absences in a row are accepted and end the presence of the agent. -/
structure Converges (cell : Cell) (first second : Input) : Prop where
  accepted : cell.Accepts first
  acceptedAgain : (cell.next first).Accepts second
  gone : ∃ s', ((cell.next first).next second).record = some s' ∧ s'.agentPresent = false

theorem converges_iff {process' : Option ProcessObservation} {second : Input}
    (hrecord : cell.record = some s) (hs : s.Valid) (hcounts : countsAbsence s = true)
    (hfirst : AbsentPoll cell process input)
    (hsecond : AbsentPoll (cell.next input) process' second) :
    Converges cell input second ↔
      cell.tracker.absenceCount < u8Max ∧ ¬Unsettled s s.lifecycle := by
  have hsmall : 1 < u8Max := by decide
  by_cases hpos : 0 < cell.tracker.absenceCount
  · constructor
    · intro h
      have hok := (hfirst.accepts_iff hrecord hs).mp h.accepted
      exact ⟨not_le.mp fun hfull => hok ⟨hcounts, Or.inl hfull⟩,
        fun hunsettled => hok ⟨hcounts, Or.inr ⟨hpos, hunsettled⟩⟩⟩
    · rintro ⟨hroom, hsettled⟩
      have haccepts := (hfirst.accepts_iff hrecord hs).mpr (by
        rintro ⟨-, hfull | ⟨-, hunsettled⟩⟩
        · omega
        · exact hsettled hunsettled)
      obtain ⟨_, s₁, s', hrecord', hafter⟩ := hfirst.next hrecord hs haccepts
      obtain ⟨hgone, hcounts'⟩ := hafter.gone hcounts hpos
      have hcount : (cell.next input).tracker.absenceCount = 0 := by
        rw [hafter.count, polledCount, if_pos hcounts, if_pos hpos]
      have haccepts' := (hsecond.accepts_iff hrecord' hafter.valid).mpr (by
        rintro ⟨-, hfull | ⟨hcounted, -⟩⟩ <;> omega)
      obtain ⟨_, s₂, s'', hrecord'', hafter'⟩ := hsecond.next hrecord' hafter.valid haccepts'
      exact ⟨haccepts, haccepts', s'', hrecord'', (hafter'.counted hcount).1.trans hgone⟩
  · have hzero : cell.tracker.absenceCount = 0 := by omega
    have haccepts := (hfirst.accepts_iff hrecord hs).mpr (by
      rintro ⟨-, hfull | ⟨hcounted, -⟩⟩ <;> omega)
    obtain ⟨_, s₁, s', hrecord', hafter⟩ := hfirst.next hrecord hs haccepts
    obtain ⟨-, hcounts', hunsettled⟩ := hafter.counted hzero
    have hcount : (cell.next input).tracker.absenceCount = 1 := by
      rw [hafter.count, polledCount, if_pos hcounts, if_neg hpos, hzero]
    constructor
    · intro h
      refine ⟨by omega, fun hbroken => ?_⟩
      refine (hsecond.accepts_iff hrecord' hafter.valid).mp h.acceptedAgain
        ⟨hcounts'.trans hcounts, Or.inr ⟨by omega, hunsettled.mpr hbroken⟩⟩
    · rintro ⟨-, hsettled⟩
      have haccepts' := (hsecond.accepts_iff hrecord' hafter.valid).mpr (by
        rintro ⟨-, hfull | ⟨-, hbroken⟩⟩
        · omega
        · exact hsettled (hunsettled.mp hbroken))
      obtain ⟨_, s₂, s'', hrecord'', hafter'⟩ := hsecond.next hrecord' hafter.valid haccepts'
      exact ⟨haccepts, haccepts', s'', hrecord'',
        (hafter'.gone (hcounts'.trans hcounts) (by omega)).1⟩

/-- A confirmed absence finds nothing to settle: what it shows as the fault of a lost result is
already there as a new one. -/
structure Rested (s : PaneState) : Prop where
  process : s.backgroundProcess = none
  crons : s.claudeCrons = {}
  ports : s.listeningPorts = []
  fault : backgroundOpen s = true →
    s.claudeBackground = ({} : ClaudeBackgroundState).fault agentEndedReason "session"
  run : backgroundOpen s = false → s.completedSeq < s.runSeq → s.subagents ≠ []

/-- The polls of an absent record disturb it. -/
structure Restless (s : PaneState) : Prop where
  detectable : supportsProcessDetection s.agent = true
  settles : ¬Unsettled s s.lifecycle
  stirs : ¬Rested s

omit [Sha256] in
theorem endClaudeTracking_eq_self {s : PaneState} (hopen : backgroundOpen s = true)
    (hquiet : s.lifecycle.quiet = true) (hloud : s.lifecycle ≠ .idle) (hcrons : s.claudeCrons = {})
    (hfault : s.claudeBackground =
      ({} : ClaudeBackgroundState).fault agentEndedReason "session") :
    endClaudeTracking s = s := by
  have hlifecycle : (if s.lifecycle.isUsageLimited then s.lifecycle
      else .error (some agentEndedReason)) = s.lifecycle := by
    split_ifs with husage
    · rfl
    · refine (PaneState.quiet_iff.mp hquiet ?_ (Bool.eq_false_iff.mpr husage)).symm
      exact Bool.eq_false_iff.mpr fun hidle => hloud (LifecycleState.isIdle_eq_true.mp hidle)
  rw [endClaudeTracking, if_pos hopen, hlifecycle, ← hfault, ← hcrons]

theorem Rested.settleRun_eq_self {observedAt : ℤ} (h : Rested s) (hs : s.Valid)
    (hquiet : s.lifecycle.quiet = true) : settleRun s observedAt = s := by
  unfold settleRun
  split_ifs with hopen hrun
  · have hfault := h.fault hopen
    refine endClaudeTracking_eq_self hopen hquiet (hs.wait ?_) h.crons hfault
    rw [hfault]
    decide
  · exact completeRun_held (not_released_of_subagents (h.run (Bool.eq_false_iff.mpr hopen) hrun))
  · rfl

theorem confirmAbsent_eq_self {observedAt : ℤ} (hs : s.Valid) (hgone : s.agentPresent = false) :
    confirmAbsent s observedAt = s ↔ Rested s := by
  obtain ⟨hverified, hquiet⟩ := hs.absent hgone
  constructor
  · intro h
    refine ⟨(congrArg PaneState.backgroundProcess h).symm, (congrArg PaneState.claudeCrons h).symm,
      (congrArg PaneState.listeningPorts h).symm, fun hopen => ?_, fun hclosed hrun hnil => ?_⟩
    · have hbackground := congrArg PaneState.claudeBackground h
      rw [← hbackground, confirmAbsent_eq, settleRun, if_pos hopen, endClaudeTracking, if_pos hopen]
    · have hcompleted := congrArg PaneState.completedSeq h
      rw [confirmAbsent_eq, settleRun, if_neg (by simp [hclosed]), if_pos hrun] at hcompleted
      have hdone : Completed s (completeRun s observedAt false) :=
        completeRun_released (released_of_closed hclosed hnil) hrun
      have hnext := hdone.completedSeq
      rcases hdone.runSeq with ⟨-, hsame⟩ | ⟨hzero, -⟩
      · dsimp only at hcompleted
        omega
      · omega
  · intro h
    rw [confirmAbsent_eq, h.settleRun_eq_self hs hquiet]
    obtain ⟨hprocess, hcrons, hports, -, -⟩ := h
    rw [← hgone, ← hprocess, ← hcrons, ← hports]
    have hsame : ({ s with scanVerified := true } : PaneState) = s := by
      rw [← hverified]
    exact hsame

theorem countsAbsence_of_gone (hs : s.Valid) (hgone : s.agentPresent = false) :
    countsAbsence s = supportsProcessDetection s.agent := by
  simp [countsAbsence, (hs.absent hgone).1]

/-- A poll without an agent and without a process report disturbs an absent record exactly when
it confirms its absence once more, and the record is restless. -/
theorem AbsentPoll.next_quiet (h : AbsentPoll cell none input) (hrecord : cell.record = some s)
    (hs : s.Valid) (hgone : s.agentPresent = false) :
    (cell.next input).record = some s ↔
      ¬(0 < cell.tracker.absenceCount ∧ cell.tracker.absenceCount < u8Max ∧ Restless s) := by
  have hcounts := countsAbsence_of_gone hs hgone
  by_cases haccepts : cell.Accepts input
  · have hok := (h.accepts_iff hrecord hs).mp haccepts
    obtain ⟨observedAt, s₁, s', hrecord', hafter⟩ := h.next hrecord hs haccepts
    cases hafter.process
    rw [hrecord', Option.some.injEq, hafter.same, polled]
    by_cases hconfirms : countsAbsence s = true ∧ 0 < cell.tracker.absenceCount
    · rw [if_pos hconfirms, confirmAbsent_eq_self hs hgone]
      have hroom : cell.tracker.absenceCount < u8Max :=
        not_le.mp fun hfull => hok ⟨hconfirms.1, Or.inl hfull⟩
      have hsettled : ¬Unsettled s s.lifecycle :=
        fun hunsettled => hok ⟨hconfirms.1, Or.inr ⟨hconfirms.2, hunsettled⟩⟩
      constructor
      · rintro hrested ⟨-, -, hrestless⟩
        exact hrestless.stirs hrested
      · intro hcalm
        by_contra hrested
        exact hcalm ⟨hconfirms.2, hroom, ⟨hcounts ▸ hconfirms.1, hsettled, hrested⟩⟩
    · rw [if_neg hconfirms]
      refine iff_of_true rfl fun ⟨hpos, _, hrestless⟩ => hconfirms ⟨?_, hpos⟩
      exact hcounts.trans hrestless.detectable
  · rw [Cell.next_refused haccepts]
    refine iff_of_true hrecord fun ⟨hpos, hroom, hrestless⟩ => haccepts ?_
    refine (h.accepts_iff hrecord hs).mpr ?_
    rintro ⟨-, hfull | ⟨-, hunsettled⟩⟩
    · omega
    · exact hrestless.settles hunsettled

def PollStep (cell : Cell) (input : Input) (cell' : Cell) : Prop :=
  cell.Step input cell' ∧ AbsentPoll cell none input

def StaysQuiet (cell : Cell) : Prop :=
  ∀ past cell', Trace PollStep cell past cell' → cell'.record = cell.record

theorem pollStep_quiet {cell' : Cell} (hs : s.Valid) (hgone : s.agentPresent = false)
    (hquiet : cell.record = some s ∧ (Restless s → u8Max ≤ cell.tracker.absenceCount))
    (h : PollStep cell input cell') :
    cell'.record = some s ∧ (Restless s → u8Max ≤ cell'.tracker.absenceCount) := by
  obtain ⟨rfl, hpoll⟩ := h
  obtain ⟨hrecord, hfull⟩ := hquiet
  refine ⟨(hpoll.next_quiet hrecord hs hgone).mpr ?_, fun hrestless => ?_⟩
  · rintro ⟨-, hroom, hrestless⟩
    exact absurd (hfull hrestless) (by omega)
  · have hrefused : ¬cell.Accepts input := by
      rw [hpoll.accepts_iff hrecord hs, not_not]
      exact ⟨(countsAbsence_of_gone hs hgone).trans hrestless.detectable,
        Or.inl (hfull hrestless)⟩
    rw [Cell.next_refused hrefused]
    exact hfull hrestless

def Input.again (input : Input) (cell : Cell) : Input :=
  { input with
    envelope := { input.envelope with
      event := .observationBatch (observedDescriptor cell.record) cell.tracker.generation 0
        .absent none none } }

omit [Sha256] in
theorem AbsentPoll.again {cell' : Cell} (h : AbsentPoll cell none input)
    (hrecord : cell'.record = cell.record) (hroom : cell'.tracker.generation < u64Max) :
    AbsentPoll cell' none (input.again cell') := by
  have hfirst := h.room
  refine ⟨hrecord ▸ h.pane, ⟨0, rfl⟩, rfl, ⟨hroom, hfirst.order, ?_, ?_, ?_, ?_, ?_, trivial⟩⟩
  · exact hrecord ▸ hfirst.latest
  · exact hrecord ▸ hfirst.revision
  · exact hrecord ▸ hfirst.runSeq
  · exact hrecord ▸ hfirst.agentEpoch
  · exact hrecord ▸ hfirst.occurrenceSeq

theorem staysQuiet_iff (hrecord : cell.record = some s) (hs : s.Valid)
    (hgone : s.agentPresent = false) (hpoll : AbsentPoll cell none input)
    (hroom : cell.tracker.generation + 1 < u64Max) :
    StaysQuiet cell ↔ (Restless s → u8Max ≤ cell.tracker.absenceCount) := by
  constructor
  · intro hquiet hrestless
    by_contra hcounts
    have hnot := not_le.mp hcounts
    have hnext := (hquiet _ _ (Trace.nil.snoc ⟨rfl, hpoll⟩)).trans hrecord
    by_cases hpos : 0 < cell.tracker.absenceCount
    · exact (hpoll.next_quiet hrecord hs hgone).mp hnext ⟨hpos, hnot, hrestless⟩
    · have haccepts := (hpoll.accepts_iff hrecord hs).mpr (by
        rintro ⟨-, hfull | ⟨hcounted, -⟩⟩ <;> omega)
      obtain ⟨_, _, s', hrecord', hafter⟩ := hpoll.next hrecord hs haccepts
      have hcount : (cell.next input).tracker.absenceCount = 1 := by
        rw [hafter.count, polledCount,
          if_pos ((countsAbsence_of_gone hs hgone).trans hrestless.detectable), if_neg hpos]
        omega
      have hagain : AbsentPoll (cell.next input) none (input.again (cell.next input)) :=
        hpoll.again (hnext.trans hrecord.symm) (by rw [hafter.generation]; exact hroom)
      have hlater := (hquiet _ _ ((Trace.nil.snoc ⟨rfl, hpoll⟩).snoc ⟨rfl, hagain⟩)).trans hrecord
      exact (hagain.next_quiet hnext hs hgone).mp hlater
        ⟨by omega, by rw [hcount]; decide, hrestless⟩
  · intro hcalm past cell' htrace
    rw [hrecord]
    exact (htrace.invariant ⟨hrecord, hcalm⟩
      fun _ _ _ hquiet hstep => pollStep_quiet hs hgone hquiet hstep).1

/-- Confirmed absence converges and is then quiet exactly where the reducer can settle the record
and finds it rested. -/
theorem absence_settles_iff (hrecord : cell.record = some s) (hvalid : s.validate = .ok ()) :
    (∀ process process' first second, countsAbsence s = true → AbsentPoll cell process first →
      AbsentPoll (cell.next first) process' second →
      (Converges cell first second ↔
        cell.tracker.absenceCount < u8Max ∧ ¬Unsettled s s.lifecycle)) ∧
    (∀ first, s.agentPresent = false → AbsentPoll cell none first →
      cell.tracker.generation + 1 < u64Max →
      (StaysQuiet cell ↔ (Restless s → u8Max ≤ cell.tracker.absenceCount))) := by
  have hs := PaneState.validate_eq_ok.mp hvalid
  exact ⟨fun _ _ _ _ hcounts hfirst hsecond => converges_iff hrecord hs hcounts hfirst hsecond,
    fun _ hgone hpoll hroom => staysQuiet_iff hrecord hs hgone hpoll hroom⟩

end

def absentInput (cell : Cell) (observedAt : ℤ) : Input :=
  { envelope := claudeEnvelope (.observationBatch (observedDescriptor cell.record)
      cell.tracker.generation observedAt .absent none none) }

/-- The Claude run with a subagent before its first absence. -/
def helpedCell : Cell := ⟨some helpedRecord, { epoch := some (⟨"state"⟩, 1) }⟩

/-- A record whose agent left with a result pending, after that was reported. -/
def endedRecord : PaneState :=
  { claudeRecord with
    agentPresent := false
    lifecycle := .error (some agentEndedReason)
    runSeq := 1
    startedAt := some 1
    unread := { occurrenceSeq := 1, latest := some ⟨1, 1, .error, 3⟩ }
    claudeBackground := { faults := [⟨agentEndedReason, "session", true⟩] } }

def endedCell : Cell := ⟨some endedRecord, { epoch := some (⟨"state"⟩, 1) }⟩

def leavingCell : Cell :=
  ⟨some { claudeRecord with lifecycle := .running, runSeq := 1, startedAt := some 1 },
    { epoch := some (⟨"state"⟩, 1) }⟩

def afterFirst (cell : Cell) : Cell := @Cell.next .constant cell (absentInput cell 4)

def afterSecond (cell : Cell) : Cell :=
  @Cell.next .constant (afterFirst cell) (absentInput (afterFirst cell) 5)

omit [Sha256] in
theorem absentInput_poll {cell : Cell} {s : PaneState} (observedAt : ℤ)
    (hrecord : cell.record = some s) (hpane : s.paneInstance = claudePane)
    (hgeneration : cell.tracker.generation < u64Max) (hlatest : s.unread.latestOrder < u64Max)
    (hrevision : s.revision < u64Max) (hrun : s.runSeq < u64Max) (hepoch : s.agentEpoch < u64Max)
    (hseq : s.unread.occurrenceSeq < u64Max) :
    AbsentPoll cell none (absentInput cell observedAt) := by
  refine ⟨?_, ⟨observedAt, rfl⟩, rfl, ⟨hgeneration, Nat.succ_pos _, ?_, ?_, ?_, ?_, ?_, trivial⟩⟩
  all_goals
    rw [hrecord]
    rintro _ ⟨⟩
    assumption

omit [Sha256] in
/-- Two polls end the run of an agent that left, and later ones leave its record alone. -/
theorem absence_settles_leaving :
    @Converges .constant leavingCell (absentInput leavingCell 4)
        (absentInput (afterFirst leavingCell) 5) ∧
      (∃ s', (afterSecond leavingCell).record = some s' ∧ s'.agentPresent = false ∧
        s'.lifecycle = .idle) ∧
      @StaysQuiet .constant (afterSecond leavingCell) := by
  have hfirst : AbsentPoll leavingCell none (absentInput leavingCell 4) :=
    absentInput_poll 4 rfl rfl (by decide) (by decide) (by decide) (by decide) (by decide)
      (by decide)
  have hsecond : AbsentPoll (afterFirst leavingCell) none
      (absentInput (afterFirst leavingCell) 5) :=
    absentInput_poll 5 (show (afterFirst leavingCell).record = leavingCell.record from rfl) rfl
      (by decide) (by decide) (by decide) (by decide) (by decide) (by decide)
  have hthird : AbsentPoll (afterSecond leavingCell) none
      (absentInput (afterSecond leavingCell) 6) :=
    absentInput_poll 6 rfl rfl (by decide) (by decide) (by decide) (by decide) (by decide)
      (by decide)
  refine ⟨?_, ⟨_, rfl, rfl, rfl⟩, ?_⟩
  · refine ((@absence_settles_iff .constant leavingCell _ rfl rfl).1 none none _ _ rfl hfirst
      hsecond).mpr ⟨by decide, ?_⟩
    rintro (⟨hidle, -⟩ | ⟨-, -, hsubagents, -⟩)
    · cases hidle
    · exact hsubagents rfl
  · refine ((@absence_settles_iff .constant (afterSecond leavingCell) _ rfl rfl).2 _ rfl hthird
      (by decide)).mpr fun hrestless => absurd ?_ hrestless.stirs
    exact ⟨rfl, rfl, rfl, fun hopen => absurd hopen (by decide),
      fun _ hrun => absurd hrun (by decide)⟩

omit [Sha256] in
/-- The reducer refuses the second absence of a run with a subagent, and every second poll of an
agent that left with a result pending reports its loss anew. -/
theorem absence_disturbs :
    (@PaneState.validate .constant helpedRecord = .ok () ∧ countsAbsence helpedRecord = true ∧
      AbsentPoll helpedCell none (absentInput helpedCell 4) ∧
      AbsentPoll (afterFirst helpedCell) none (absentInput (afterFirst helpedCell) 5) ∧
      @Cell.reduce .constant (afterFirst helpedCell) (absentInput (afterFirst helpedCell) 5) =
        .error (.stateInvariantViolation
          "absent agent must be scan-verified and idle or usage-limited")) ∧
    (@PaneState.validate .constant endedRecord = .ok () ∧ endedRecord.agentPresent = false ∧
      AbsentPoll endedCell none (absentInput endedCell 4) ∧
      AbsentPoll (afterFirst endedCell) none (absentInput (afterFirst endedCell) 5) ∧
      ∃ s', (@Cell.next .constant (afterFirst endedCell)
          (absentInput (afterFirst endedCell) 5)).record = some s' ∧
        s'.revision = endedRecord.revision + 1 ∧
        s'.unread.occurrenceSeq = endedRecord.unread.occurrenceSeq + 1) := by
  refine ⟨⟨rfl, rfl, ?_, ?_, rfl⟩, rfl, rfl, ?_, ?_, _, rfl, rfl, rfl⟩
  · exact absentInput_poll 4 rfl rfl (by decide) (by decide) (by decide) (by decide) (by decide)
      (by decide)
  · exact absentInput_poll (s := helpedRecord) 5 rfl rfl (by decide) (by decide) (by decide)
      (by decide) (by decide) (by decide)
  · exact absentInput_poll 4 rfl rfl (by decide) (by decide) (by decide) (by decide) (by decide)
      (by decide)
  · exact absentInput_poll (s := endedRecord) 5 rfl rfl (by decide) (by decide) (by decide)
      (by decide) (by decide) (by decide)

end VdeTmux.Pane
