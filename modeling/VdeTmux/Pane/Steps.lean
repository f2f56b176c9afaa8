import VdeTmux.Pane.Reducer

/-!
# What one operation does to a record

Inversion rules for the operations the reducer is made of, the fields each of them leaves alone,
and that each of them keeps the rules of a coherent record.
-/

open Foundation Foundation.Text
namespace VdeTmux.Pane

/-- The fields that only a new epoch, a confirmed absence or the end of a reduction changes. -/
structure PaneIdentity where
  schemaVersion : ℕ
  stateId : StateId
  revision : ℕ
  paneInstance : PaneInstance
  agent : AgentKind
  agentSessionId : Option AgentSessionId
  agentEpoch : ℕ
  agentPresent : Bool
  scanVerified : Bool
  unread : UnreadState
deriving DecidableEq

def PaneState.identity (s : PaneState) : PaneIdentity :=
  ⟨s.schemaVersion, s.stateId, s.revision, s.paneInstance, s.agent, s.agentSessionId,
    s.agentEpoch, s.agentPresent, s.scanVerified, s.unread⟩

theorem startNewRun_eq_ok {s s' : PaneState} {startedAt : ℤ} :
    startNewRun s startedAt = .ok s' ↔
      (s.runSeq = s.completedSeq ∧ s.runSeq < u64Max ∧
        s' = { openRun s (s.runSeq + 1) startedAt with syntheticCompletionArmed := false }) ∨
      (s.runSeq ≠ s.completedSeq ∧ s' = { s with syntheticCompletionArmed := false }) := by
  unfold startNewRun
  split_ifs with h
  · simp only [bind_eq_ok, increment_eq_ok, pure_eq_ok]
    constructor
    · rintro ⟨_, ⟨hlt, rfl⟩, rfl⟩
      exact Or.inl ⟨h, hlt, rfl⟩
    · rintro (⟨-, hlt, rfl⟩ | ⟨hne, -⟩)
      · exact ⟨_, ⟨hlt, rfl⟩, rfl⟩
      · exact absurd h hne
  · simp only [pure_eq_ok, h, false_and, false_or, ne_eq, not_false_eq_true, true_and,
      eq_comm (a := s')]

/-- What starting or continuing a run under a new lifecycle does. -/
structure Started (s s' : PaneState) : Prop where
  identity : s'.identity = s.identity
  completedSeq : s'.completedSeq = s.completedSeq
  armed : s'.syntheticCompletionArmed = false
  notIdle : s'.lifecycle ≠ .idle
  opened : s.runSeq = s.completedSeq → s'.runSeq = s.runSeq + 1 ∧ s'.subagents = [] ∧
    s'.claudeBackground.tasks = [] ∧ s'.claudeBackground.faults = []
  continued : s.runSeq ≠ s.completedSeq → s'.runSeq = s.runSeq ∧ s'.subagents = s.subagents ∧
    s'.claudeBackground.tasks = s.claudeBackground.tasks ∧
    s'.claudeBackground.faults = s.claudeBackground.faults

theorem startNewRun_started {s s₁ : PaneState} {startedAt : ℤ} {l : LifecycleState}
    (h : startNewRun s startedAt = .ok s₁) (hl : l ≠ .idle) :
    Started s { s₁ with lifecycle := l } := by
  rcases startNewRun_eq_ok.mp h with ⟨hclosed, -, rfl⟩ | ⟨hopen, rfl⟩
  · exact ⟨rfl, rfl, rfl, hl, fun _ => ⟨rfl, rfl, rfl, rfl⟩, fun hne => absurd hclosed hne⟩
  · exact ⟨rfl, rfl, rfl, hl, fun hc => absurd hc hopen, fun _ => ⟨rfl, rfl, rfl, rfl⟩⟩

theorem activityObserved_eq_ok {s s' : PaneState} {observedAt : ℤ} :
    activityObserved s observedAt = .ok s' ↔ ∃ s₁, startNewRun s observedAt = .ok s₁ ∧
      s' = { s₁ with lifecycle := .running, claudeBackground := s₁.claudeBackground.activity } := by
  simp only [activityObserved, bind_pure_eq_ok]

theorem waitRequested_eq_ok {s s' : PaneState} {observedAt : ℤ} {reason : WaitReason} :
    waitRequested s observedAt reason = .ok s' ↔ ∃ s₁, startNewRun s observedAt = .ok s₁ ∧
      s' = { s₁ with lifecycle := .waiting reason } := by
  simp only [waitRequested, bind_pure_eq_ok]

theorem failRun_eq_ok {s s' : PaneState} {observedAt : ℤ} {reason : Option String} :
    failRun s observedAt reason = .ok s' ↔ ∃ s₁, startNewRun s observedAt = .ok s₁ ∧
      s' = { s₁ with lifecycle := .error reason } := by
  simp only [failRun, bind_pure_eq_ok]

theorem activityObserved_started {s s' : PaneState} {observedAt : ℤ}
    (h : activityObserved s observedAt = .ok s') : Started s s' := by
  obtain ⟨s₁, hs₁, rfl⟩ := activityObserved_eq_ok.mp h
  have hstart := startNewRun_started (l := .running) hs₁ (by simp)
  exact { hstart with }

theorem waitRequested_started {s s' : PaneState} {observedAt : ℤ} {reason : WaitReason}
    (h : waitRequested s observedAt reason = .ok s') :
    Started s s' ∧ s'.lifecycle = .waiting reason := by
  obtain ⟨s₁, hs₁, rfl⟩ := waitRequested_eq_ok.mp h
  exact ⟨startNewRun_started hs₁ (by simp), rfl⟩

theorem failRun_started {s s' : PaneState} {observedAt : ℤ} {reason : Option String}
    (h : failRun s observedAt reason = .ok s') :
    Started s s' ∧ s'.lifecycle = .error reason := by
  obtain ⟨s₁, hs₁, rfl⟩ := failRun_eq_ok.mp h
  exact ⟨startNewRun_started hs₁ (by simp), rfl⟩

section Coherent
variable [Sha256]

theorem PaneState.Coherent.start {s s₁ : PaneState} {startedAt : ℤ} {l : LifecycleState}
    (hs : s.Coherent) (h : startNewRun s startedAt = .ok s₁) (hl : l ≠ .idle)
    (hreason : l.validateReason = .ok ()) : ({ s₁ with lifecycle := l } : PaneState).Coherent := by
  rcases startNewRun_eq_ok.mp h with ⟨hclosed, -, rfl⟩ | ⟨hopen, rfl⟩
  · exact
      { hs with
        background := .default _
        order := hs.order.trans (Nat.le_succ _)
        oneOpen := by simp [openRun, hclosed]
        currentRun := by simp [openRun]
        wait := fun _ => hl
        claude := hs.claude.imp_right fun h => ⟨rfl, rfl, h.2.2⟩
        lifecycle := by simp [hl, openRun, hclosed]
        armed := by simp
        zeroRun := by simp [openRun]
        startedAt := by simp [openRun]
        reason := hreason
        prompt := rfl
        latestResponse := rfl
        tasks := validateTasks_default
        subagents := validateSubagents_nil
        worktreeActivity := rfl }
  · exact
      { hs with
        wait := fun _ => hl
        lifecycle := by simp [hl, hopen]
        armed := by simp
        reason := hreason }

theorem PaneState.Coherent.activity {s : PaneState} (hs : s.Coherent) :
    ({ s with claudeBackground := s.claudeBackground.activity } : PaneState).Coherent :=
  { hs with background := hs.background.activity }

theorem activityObserved_coherent {s s' : PaneState} {observedAt : ℤ} (hs : s.Coherent)
    (h : activityObserved s observedAt = .ok s') : s'.Coherent := by
  obtain ⟨s₁, hs₁, rfl⟩ := activityObserved_eq_ok.mp h
  exact (hs.start (l := .running) hs₁ (by simp) rfl).activity

theorem waitRequested_coherent {s s' : PaneState} {observedAt : ℤ} {reason : WaitReason}
    (hs : s.Coherent) (hreason : reason.validate = .ok ())
    (h : waitRequested s observedAt reason = .ok s') : s'.Coherent := by
  obtain ⟨s₁, hs₁, rfl⟩ := waitRequested_eq_ok.mp h
  exact hs.start hs₁ (by simp) hreason

theorem failRun_coherent {s s' : PaneState} {observedAt : ℤ} {reason : Option String}
    (hs : s.Coherent) (hreason : (LifecycleState.error reason).validateReason = .ok ())
    (h : failRun s observedAt reason = .ok s') : s'.Coherent := by
  obtain ⟨s₁, hs₁, rfl⟩ := failRun_eq_ok.mp h
  exact hs.start hs₁ (by simp) hreason

end Coherent

def Released (s : PaneState) : Prop :=
  s.subagents = [] ∧ s.claudeBackground.tasks = [] ∧ s.claudeBackground.blocksCompletion = false

structure Completed (s s' : PaneState) : Prop where
  identity : s'.identity = s.identity
  released : Released s
  runSeq : s.runSeq ≠ s.completedSeq ∧ s'.runSeq = s.runSeq ∨ s.runSeq = 0 ∧ s'.runSeq = 1
  completedSeq : s'.completedSeq = s'.runSeq
  lifecycle : s'.lifecycle = .idle
  armed : s'.syntheticCompletionArmed = false
  background : s'.claudeBackground = {}
  subagents : s'.subagents = []

theorem released_iff {s : PaneState} : Released s ↔
    ¬(s.subagents ≠ [] ∨ s.claudeBackground.tasks ≠ [] ∨
      s.claudeBackground.blocksCompletion = true) := by
  simp [Released, not_or]

theorem completeRun_held {s : PaneState} {completedAt : ℤ} {allow : Bool} (h : ¬Released s) :
    completeRun s completedAt allow = s := by
  rw [released_iff, not_not] at h
  rw [completeRun, if_pos h]

theorem completeRun_cases (s : PaneState) (completedAt : ℤ) (allow : Bool) :
    completeRun s completedAt allow = s ∨ Completed s (completeRun s completedAt allow) := by
  unfold completeRun
  split_ifs with hheld hzero harmed hclosed
  · exact Or.inl rfl
  · exact Or.inl rfl
  · exact Or.inr ⟨rfl, released_iff.mpr hheld, Or.inr ⟨hzero, rfl⟩, rfl, rfl, rfl, rfl, rfl⟩
  · exact Or.inl rfl
  · exact Or.inr ⟨rfl, released_iff.mpr hheld, Or.inl ⟨hclosed, rfl⟩, rfl, rfl, rfl, rfl, rfl⟩

theorem completeRun_released {s : PaneState} {completedAt : ℤ} {allow : Bool} (h : Released s)
    (hopen : s.completedSeq < s.runSeq) :
    Completed s (completeRun s completedAt allow) := by
  rcases completeRun_cases s completedAt allow with heq | hdone
  · rw [completeRun, if_neg (released_iff.mp h), if_neg (by omega), if_neg (by omega)] at heq
    have hseq := congrArg PaneState.completedSeq heq
    simp only [closeRun] at hseq
    omega
  · exact hdone

theorem completeRun_identity {s : PaneState} {completedAt : ℤ} {allow : Bool} :
    (completeRun s completedAt allow).identity = s.identity := by
  rcases completeRun_cases s completedAt allow with h | h
  · rw [h]
  · exact h.identity

theorem completeRunWithResponse_eq_ok {s s' : PaneState} {completedAt : ℤ}
    {response : ResponseState} {allow : Bool} :
    completeRunWithResponse s completedAt response allow = .ok s' ↔
      response.validate = .ok () ∧
      s' = if s.completedSeq < (completeRun s completedAt allow).completedSeq then
          { completeRun s completedAt allow with latestResponse := some response }
        else completeRun s completedAt allow := by
  simp only [completeRunWithResponse, seq_eq_ok, mapError_eq_ok]
  split_ifs <;> simp only [pure_eq_ok, eq_comm (a := s')]

theorem completeRunWithResponse_cases {s s' : PaneState} {completedAt : ℤ}
    {response : ResponseState} {allow : Bool}
    (h : completeRunWithResponse s completedAt response allow = .ok s') :
    s' = s ∨ Completed s s' := by
  obtain ⟨-, rfl⟩ := completeRunWithResponse_eq_ok.mp h
  rcases completeRun_cases s completedAt allow with heq | hdone
  · simp [heq]
  · right
    split_ifs
    · exact { hdone with }
    · exact hdone

section Coherent
variable [Sha256]

theorem PaneState.Coherent.currentRun_eq_none {s : PaneState} (hs : s.Coherent)
    (hzero : s.runSeq = 0) : s.currentRun = none := by
  cases hrun : s.currentRun with
  | none => rfl
  | some run =>
    obtain ⟨hvalid, hseq⟩ := hs.currentRun run hrun
    have hpos := run.runSeq_pos hvalid
    omega

theorem PaneState.Coherent.closeRun {s : PaneState} {completedAt : ℤ} (hs : s.Coherent)
    (hpos : 0 < s.runSeq) : (closeRun s completedAt).Coherent :=
  { hs with
    background := .default _
    order := le_rfl
    oneOpen := Nat.le_succ _
    wait := by simp [Pane.closeRun]
    claude := hs.claude.imp_right fun h => ⟨rfl, rfl, h.2.2⟩
    lifecycle := by simp [Pane.closeRun]
    armed := by simp [Pane.closeRun]
    completedAt := by simp [Pane.closeRun]; omega
    reason := rfl
    subagents := validateSubagents_nil
    worktreeActivity := rfl }

theorem PaneState.Coherent.closeFirst {s : PaneState} {completedAt : ℤ} (hs : s.Coherent)
    (hzero : s.runSeq = 0) :
    (Pane.closeRun { s with runSeq := 1, startedAt := some completedAt } completedAt).Coherent :=
  { hs with
    background := .default _
    order := le_rfl
    oneOpen := Nat.le_succ _
    currentRun := by simp [Pane.closeRun, hs.currentRun_eq_none hzero]
    wait := by simp [Pane.closeRun]
    claude := hs.claude.imp_right fun h => ⟨rfl, rfl, h.2.2⟩
    lifecycle := by simp [Pane.closeRun]
    armed := by simp [Pane.closeRun]
    zeroRun := by simp [Pane.closeRun]
    startedAt := by simp [Pane.closeRun]
    completedAt := by simp [Pane.closeRun]
    reason := rfl
    subagents := validateSubagents_nil
    worktreeActivity := rfl }

theorem completeRun_coherent {s : PaneState} {completedAt : ℤ} {allow : Bool} (hs : s.Coherent) :
    (completeRun s completedAt allow).Coherent := by
  unfold completeRun
  split_ifs with hheld hzero
  · exact hs
  · exact hs
  · exact hs.closeFirst hzero
  · exact hs
  · exact hs.closeRun (Nat.pos_of_ne_zero hzero)

theorem PaneState.Coherent.response {s : PaneState} (hs : s.Coherent)
    {response : Option ResponseState}
    (h : forSome ResponseState.validate response = .ok ()) :
    ({ s with latestResponse := response } : PaneState).Coherent :=
  { hs with latestResponse := h }

theorem completeRunWithResponse_coherent {s s' : PaneState} {completedAt : ℤ}
    {response : ResponseState} {allow : Bool} (hs : s.Coherent)
    (h : completeRunWithResponse s completedAt response allow = .ok s') : s'.Coherent := by
  obtain ⟨hresponse, rfl⟩ := completeRunWithResponse_eq_ok.mp h
  split_ifs
  · exact (completeRun_coherent hs).response hresponse
  · exact completeRun_coherent hs

end Coherent

theorem markDone_spec {s s' : PaneState} {completedAt : ℤ} (h : markDone s completedAt = .ok s') :
    (s.runSeq = s.completedSeq ∧ s.runSeq < u64Max ∧ s'.runSeq = s.runSeq + 1 ∧
        s'.startedAt = some completedAt ∨
      s.runSeq ≠ s.completedSeq ∧ s'.runSeq = s.runSeq ∧ s'.startedAt = s.startedAt) ∧
    s' = { s with
      runSeq := s'.runSeq
      startedAt := s'.startedAt
      completedSeq := s'.runSeq
      lifecycle := .idle
      completedAt := some completedAt
      syntheticCompletionArmed := false
      tasks := {}
      latestResponse := s'.latestResponse
      claudeBackground := {}
      subagents := []
      worktreeActivity := none } ∧
    (s'.latestResponse = none ∨ s'.latestResponse = s.latestResponse) := by
  unfold markDone at h
  split_ifs at h with hclosed hopen hopen
  all_goals
    obtain ⟨runSeq, hseq, rfl⟩ := bind_pure_eq_ok.mp h
    first
    | obtain ⟨hlt, rfl⟩ := increment_eq_ok.mp hseq
      exact ⟨Or.inl ⟨hclosed, hlt, rfl, rfl⟩, rfl, by simp⟩
    | obtain rfl := pure_eq_ok.mp hseq
      exact ⟨Or.inr ⟨hclosed, rfl, rfl⟩, rfl, by simp⟩

theorem epochUnread_occurrenceSeq {unread : UnreadState} :
    (epochUnread unread).occurrenceSeq = unread.occurrenceSeq := by
  unfold epochUnread
  split_ifs <;> rfl

theorem epochUnread_latest {unread : UnreadState} :
    (epochUnread unread).latest = unread.latest := by
  unfold epochUnread
  split_ifs <;> rfl

theorem epochUnread_readSeq {unread : UnreadState} (h : unread.readSeq ≤ unread.occurrenceSeq) :
    unread.readSeq ≤ (epochUnread unread).readSeq := by
  unfold epochUnread
  split_ifs
  · exact h
  · exact le_rfl

theorem epochUnread_validate {unread : UnreadState} (h : unread.validate = .ok ()) :
    (epochUnread unread).validate = .ok () := by
  unfold epochUnread
  split_ifs
  · exact UnreadState.validate_read h
  · exact h

structure FreshEpoch (s s' : PaneState) (agent : AgentKind) (session : Option AgentSessionId) :
    Prop where
  stateId : s'.stateId = s.stateId
  paneInstance : s'.paneInstance = s.paneInstance
  schema : s'.schemaVersion = s.schemaVersion
  revision : s'.revision = s.revision
  agentEpoch : s'.agentEpoch = s.agentEpoch + 1
  agent : s'.agent = agent
  session : s'.agentSessionId = session
  present : s'.agentPresent = true
  unread : s'.unread = epochUnread s.unread
  runSeq : s'.runSeq = 0
  completedSeq : s'.completedSeq = 0
  lifecycle : s'.lifecycle = .idle
  armed : s'.syntheticCompletionArmed = false
  background : s'.claudeBackground = {}
  subagents : s'.subagents = []
  taskContext : s'.taskContext = {}

theorem beginAgentEpoch_fresh {s s' : PaneState} {agent : AgentKind}
    {session : Option AgentSessionId} {source : EpochSource}
    (h : beginAgentEpoch s agent session source = .ok s') :
    s.agentEpoch < u64Max ∧ FreshEpoch s s' agent session := by
  obtain ⟨epoch, hepoch, rfl⟩ := bind_pure_eq_ok.mp h
  obtain ⟨hlt, rfl⟩ := increment_eq_ok.mp hepoch
  exact ⟨hlt, rfl, rfl, rfl, rfl, rfl, rfl, rfl, rfl, rfl, rfl, rfl, rfl, rfl, rfl, rfl, rfl⟩

section Coherent
variable [Sha256]

theorem beginAgentEpoch_coherent {s s' : PaneState} {agent : AgentKind}
    {session : Option AgentSessionId} {source : EpochSource} (hs : s.Coherent)
    (h : beginAgentEpoch s agent session source = .ok s') : s'.Coherent := by
  obtain ⟨epoch, hepoch, rfl⟩ := bind_pure_eq_ok.mp h
  obtain ⟨hlt, rfl⟩ := increment_eq_ok.mp hepoch
  exact
    { hs with
      background := .default _
      crons := ClaudeCronSnapshot.validate_default
      process := rfl
      epoch := Nat.succ_pos _
      order := le_rfl
      oneOpen := Nat.zero_le _
      currentRun := by simp
      wait := by simp
      claude := Or.inr ⟨rfl, rfl, rfl⟩
      lifecycle := by simp
      armed := by simp
      zeroRun := fun _ => rfl
      startedAt := by simp
      completedAt := by simp
      reason := rfl
      prompt := rfl
      latestResponse := rfl
      taskContext := TaskContextState.validate_default
      tasks := validateTasks_default
      subagents := validateSubagents_nil
      worktreeActivity := rfl
      backgroundProcess := rfl
      listeningPorts := validatePorts_nil
      unread := epochUnread_validate hs.unread }

/-- A record that is marked done is coherent unless a new run was opened for the mark while a
durable run is projected. -/
theorem markDone_coherent {s s' : PaneState} {completedAt : ℤ} (hs : s.Coherent)
    (hrun : s.runSeq = s.completedSeq → s.currentRun = none)
    (h : markDone s completedAt = .ok s') : s'.Coherent := by
  obtain ⟨hseq, heq, hresponse⟩ := markDone_spec h
  have hpos : 0 < s'.runSeq := by
    have horder := hs.order
    omega
  have hstarted : s'.startedAt ≠ none := by
    rcases hseq with ⟨-, -, -, hstart⟩ | ⟨-, hsame, hstart⟩
    · simp [hstart]
    · rw [hstart]
      exact hs.startedAt (hsame ▸ hpos)
  have hcurrent : ∀ run ∈ s.currentRun, run.validate = .ok () ∧ run.runSeq = s'.runSeq := by
    intro run hmem
    rcases hseq with ⟨hclosed, -, -, -⟩ | ⟨-, hsame, -⟩
    · simp [hrun hclosed] at hmem
    · rw [hsame]
      exact hs.currentRun run hmem
  have hlatest : forSome ResponseState.validate s'.latestResponse = .ok () := by
    rcases hresponse with hnone | hkeep
    · rw [hnone]
      rfl
    · rw [hkeep]
      exact hs.latestResponse
  rw [heq]
  exact
    { hs with
      background := .default _
      order := le_rfl
      oneOpen := Nat.le_succ _
      currentRun := hcurrent
      wait := by simp
      claude := hs.claude.imp_right fun h => ⟨rfl, rfl, h.2.2⟩
      lifecycle := by simp
      armed := by simp
      zeroRun := fun hzero => absurd hzero hpos.ne'
      startedAt := fun _ => hstarted
      completedAt := by simp [hpos.ne']
      reason := rfl
      latestResponse := hlatest
      tasks := validateTasks_default
      subagents := validateSubagents_nil
      worktreeActivity := rfl }

end Coherent

end VdeTmux.Pane
