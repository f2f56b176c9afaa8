import VdeTmux.Pane.Reduction

/-!
# Following a durable run

When a projected durable run is taken over into a record, and what the record is then. The
projection clears the fields of the run before, yet neither the background tasks nor the mark for
a synthetic completion, which every other start of a run clears.
-/

open Foundation Foundation.Text
namespace VdeTmux.Pane
namespace PaneState

def Supersedes (s : PaneState) (p : CurrentDurableRunProjection) : Prop :=
  ∃ existing ∈ s.currentRun, p.runSeq < existing.runSeq ∨
    (existing.runId = p.runId ∧ p.runRevision < existing.runRevision)

def Conflicts (s : PaneState) (p : CurrentDurableRunProjection) : Prop :=
  ∃ existing ∈ s.currentRun, existing.runSeq = p.runSeq ∧ existing.runId ≠ p.runId

/-- Neither stale nor in conflict, and not behind the record. -/
structure Fresh (s : PaneState) (p : CurrentDurableRunProjection) : Prop where
  current : ¬s.Supersedes p
  same : ¬s.Conflicts p
  runSeq : s.runSeq ≤ p.runSeq

theorem acceptsProjection_of_supersedes {s : PaneState} {p : CurrentDurableRunProjection}
    (h : s.Supersedes p) : s.acceptsProjection p = .ok false := by
  obtain ⟨existing, hexisting, hrule⟩ := h
  unfold acceptsProjection
  rw [hexisting]
  dsimp only
  rcases hrule with hlower | ⟨hid, holder⟩
  · rw [if_pos hlower]
  · split_ifs with hlower hconflict
    · rfl
    · exact absurd hid hconflict.2
    · rfl
    · rename_i hnot
      exact absurd ⟨hid, holder⟩ hnot

theorem acceptsProjection_of_fresh {s : PaneState} {p : CurrentDurableRunProjection}
    (h : s.Fresh p) : s.acceptsProjection p = .ok true := by
  unfold acceptsProjection
  cases hexisting : s.currentRun with
  | none => rfl
  | some existing =>
    dsimp only
    split_ifs with hlower hconflict holder
    · exact absurd ⟨existing, hexisting, .inl hlower⟩ h.current
    · exact absurd ⟨existing, hexisting, hconflict⟩ h.same
    · exact absurd ⟨existing, hexisting, .inr holder⟩ h.current
    · rfl

def projected (s : PaneState) (p : CurrentDurableRunProjection) (active : Bool) (observedAt : ℤ) :
    PaneState :=
  (s.advanceRun p.runSeq observedAt).followExecution p.runSeq active observedAt

def Completes (s : PaneState) (p : CurrentDurableRunProjection) (active : Bool) : Prop :=
  active = false ∧ s.completedSeq < p.runSeq

instance (s : PaneState) (p : CurrentDurableRunProjection) (active : Bool) :
    Decidable (s.Completes p active) :=
  inferInstanceAs (Decidable (_ ∧ _))

theorem projected_runSeq {s : PaneState} {p : CurrentDurableRunProjection}
    (h : s.runSeq ≤ p.runSeq) (active : Bool) (observedAt : ℤ) :
    (s.projected p active observedAt).runSeq = p.runSeq := by
  unfold projected advanceRun followExecution
  cases active with
  | true =>
    by_cases hadvances : s.runSeq < p.runSeq
    · simp only [if_pos hadvances, if_true]
    · simp only [if_neg hadvances, if_true]
      omega
  | false =>
    by_cases hadvances : s.runSeq < p.runSeq
    · simp only [if_pos hadvances, Bool.false_eq_true, if_false]
    · simp only [if_neg hadvances, Bool.false_eq_true, if_false]
      omega

theorem projected_completedSeq (s : PaneState) (p : CurrentDurableRunProjection)
    (active : Bool) (observedAt : ℤ) : (s.projected p active observedAt).completedSeq =
      if active then p.runSeq - 1 else p.runSeq := by
  unfold projected followExecution
  cases active with
  | true => rfl
  | false => rfl

structure SameIdentity (s q : PaneState) : Prop where
  schemaVersion : q.schemaVersion = s.schemaVersion
  revision : q.revision = s.revision
  paneInstance : q.paneInstance = s.paneInstance
  agent : q.agent = s.agent
  agentSessionId : q.agentSessionId = s.agentSessionId
  agentProcess : q.agentProcess = s.agentProcess
  agentEpoch : q.agentEpoch = s.agentEpoch
  agentPresent : q.agentPresent = s.agentPresent
  scanVerified : q.scanVerified = s.scanVerified
  armed : q.syntheticCompletionArmed = s.syntheticCompletionArmed
  unread : q.unread = s.unread
  taskContext : q.taskContext = s.taskContext
  backgroundProcess : q.backgroundProcess = s.backgroundProcess
  claudeBackground : q.claudeBackground = s.claudeBackground
  claudeCrons : q.claudeCrons = s.claudeCrons
  listeningPorts : q.listeningPorts = s.listeningPorts

theorem projected_sameIdentity (s : PaneState) (p : CurrentDurableRunProjection)
    (active : Bool) (observedAt : ℤ) : s.SameIdentity (s.projected p active observedAt) := by
  unfold projected advanceRun followExecution
  by_cases hadvances : s.runSeq < p.runSeq
  · simp only [if_pos hadvances]
    cases active <;> exact ⟨rfl, rfl, rfl, rfl, rfl, rfl, rfl, rfl, rfl, rfl, rfl, rfl, rfl, rfl,
      rfl, rfl⟩
  · simp only [if_neg hadvances]
    cases active <;> exact ⟨rfl, rfl, rfl, rfl, rfl, rfl, rfl, rfl, rfl, rfl, rfl, rfl, rfl, rfl,
      rfl, rfl⟩

structure RunFields [Sha256] (q : PaneState) : Prop where
  reason : q.lifecycle.validateReason = .ok ()
  prompt : forSome PromptState.validate q.prompt = .ok ()
  latestResponse : forSome ResponseState.validate q.latestResponse = .ok ()
  tasks : validateTasks q.tasks = .ok ()
  subagents : validateSubagents q.subagents = .ok ()
  worktreeActivity : forSome validateWorktreeActivity q.worktreeActivity = .ok ()
  startedAt : 0 < q.runSeq → q.startedAt ≠ none
  completedAt : q.completedSeq = 0 ↔ q.completedAt = none
  lifecycle : q.lifecycle = .idle ↔ q.runSeq = q.completedSeq

section
variable [Sha256]

/-- Advancing keeps the texts in their limits; only the timestamps of the completed run wait for
the next step. -/
theorem advanceRun_texts {s : PaneState} (hs : s.Coherent) (runSeq : ℕ) (observedAt : ℤ) :
    let q := s.advanceRun runSeq observedAt
    q.lifecycle = s.lifecycle ∧ forSome PromptState.validate q.prompt = .ok () ∧
      forSome ResponseState.validate q.latestResponse = .ok () ∧
      validateTasks q.tasks = .ok () ∧ validateSubagents q.subagents = .ok () ∧
      forSome validateWorktreeActivity q.worktreeActivity = .ok () ∧
      (0 < q.runSeq → q.startedAt ≠ none) := by
  unfold advanceRun
  by_cases hadvances : s.runSeq < runSeq
  · simp only [if_pos hadvances]
    exact ⟨trivial, rfl, rfl, validateTasks_default, validateSubagents_nil, rfl, fun _ => by simp⟩
  · simp only [if_neg hadvances]
    exact ⟨trivial, hs.prompt, hs.latestResponse, hs.tasks, hs.subagents, hs.worktreeActivity,
      hs.startedAt⟩

theorem projected_runFields {s : PaneState} (hs : s.Coherent) {p : CurrentDurableRunProjection}
    (hp : 0 < p.runSeq) (hle : s.runSeq ≤ p.runSeq) (active : Bool) (observedAt : ℤ) :
    (s.projected p active observedAt).RunFields := by
  obtain ⟨hlifecycle, hprompt, hresponse, htasks, hsubagents, hworktree, hstarted⟩ :=
    advanceRun_texts hs p.runSeq observedAt
  have hrun := projected_runSeq hle active observedAt
  have hcompleted := projected_completedSeq s p active observedAt
  cases active with
  | true =>
    refine ⟨?_, hprompt, hresponse, htasks, hsubagents, hworktree, hstarted, ?_, ?_⟩
    · simp only [projected, followExecution, if_true, hlifecycle]
      split_ifs with hidle
      · rfl
      · exact hs.reason
    · rw [hcompleted]
      simp only [projected, followExecution, if_true]
      split_ifs with hpos
      · simp only [iff_false]
        omega
      · simp only [iff_true]
        omega
    · rw [hrun, hcompleted]
      simp only [projected, followExecution, if_true]
      split_ifs with hidle
      · simp only [false_iff]
        omega
      · constructor
        · intro hnow
          exact absurd (LifecycleState.isIdle_eq_true.mpr hnow) hidle
        · intro heq
          omega
  | false =>
    refine ⟨rfl, hprompt, hresponse, htasks, validateSubagents_nil, rfl, hstarted, ?_, ?_⟩
    · rw [hcompleted]
      simp only [projected, followExecution, Bool.false_eq_true, if_false, reduceCtorEq, iff_false]
      omega
    · rw [hrun, hcompleted]
      simp only [projected, followExecution, Bool.false_eq_true, if_false]

end

/-- The record can follow the run: it is not armed for a synthetic completion, no background task
belongs to a run before, and nothing blocks a completion. -/
structure Fits (s : PaneState) (p : CurrentDurableRunProjection) (active : Bool) : Prop where
  armed : s.syntheticCompletionArmed = false
  tasks : s.runSeq < p.runSeq → s.claudeBackground.tasks = []
  wait : active = false → s.claudeBackground.blocksCompletion = false

section
variable [Sha256] {s : PaneState} {p : CurrentDurableRunProjection} {active : Bool}
  {observedAt : ℤ} {unread : UnreadState}

def followed (s : PaneState) (p : CurrentDurableRunProjection) (active : Bool) (observedAt : ℤ)
    (unread : UnreadState) : PaneState :=
  { s.projected p active observedAt with unread := unread, currentRun := some p }

theorem followed_valid (hs : s.Valid) (hpresent : s.agentPresent = true)
    (hp : p.validate = .ok ()) (hle : s.runSeq ≤ p.runSeq) (hunread : unread.validate = .ok ())
    (hfits : s.Fits p active) :
    ({ s.followed p active observedAt unread with revision := s.revision + 1 } :
      PaneState).Valid := by
  have hpos := CurrentDurableRunProjection.runSeq_pos hp
  have hfields := projected_runFields hs.toCoherent hpos hle active observedAt
  have hsame := projected_sameIdentity s p active observedAt
  have hrun := projected_runSeq hle active observedAt
  have hcompleted := projected_completedSeq s p active observedAt
  have horder : (s.projected p active observedAt).completedSeq ≤ p.runSeq ∧
      p.runSeq ≤ (s.projected p active observedAt).completedSeq + 1 := by
    rw [hcompleted]
    split_ifs <;> omega
  refine
    { schema := hsame.schemaVersion.trans hs.schema, background := ?_, crons := ?_,
      paneInstance := ?_, process := ?_, epoch := ?_, order := ?_, oneOpen := ?_, currentRun := ?_,
      wait := ?_, claude := ?_, lifecycle := hfields.lifecycle, armed := ?_, zeroRun := ?_,
      startedAt := hfields.startedAt, completedAt := hfields.completedAt,
      reason := hfields.reason, prompt := hfields.prompt,
      latestResponse := hfields.latestResponse, taskContext := ?_, tasks := hfields.tasks,
      subagents := hfields.subagents, worktreeActivity := hfields.worktreeActivity,
      backgroundProcess := ?_, listeningPorts := ?_, unread := hunread,
      revision := Nat.succ_pos _, absent := ?_, armedSession := ?_ }
  all_goals dsimp only [followed]
  · rw [hsame.claudeBackground, hrun]
    rcases hle.lt_or_eq with hadvances | heq
    · exact hs.background.of_no_tasks (hfits.tasks hadvances) _
    · exact heq ▸ hs.background
  · rw [hsame.claudeCrons]
    exact hs.crons
  · rw [hsame.paneInstance]
    exact hs.paneInstance
  · rw [hsame.agentProcess]
    exact hs.process
  · rw [hsame.agentEpoch]
    exact hs.epoch
  · rw [hrun]
    exact horder.1
  · rw [hrun]
    exact horder.2
  · rintro run ⟨⟩
    exact ⟨hp, hrun.symm⟩
  · rw [hsame.claudeBackground, ne_eq, hfields.lifecycle, hrun, hcompleted]
    intro hblocks hclosed
    cases active with
    | true =>
      simp only [if_true] at hclosed
      omega
    | false => simp [hfits.wait rfl] at hblocks
  · rw [hsame.agent, hsame.claudeBackground, hsame.claudeCrons]
    exact hs.claude
  · rw [hsame.armed, hfits.armed]
    simp
  · rw [hrun]
    omega
  · rw [hsame.taskContext]
    exact hs.taskContext
  · rw [hsame.backgroundProcess]
    exact hs.backgroundProcess
  · rw [hsame.listeningPorts]
    exact hs.listeningPorts
  · rw [hsame.agentPresent, hpresent]
    simp
  · rw [hsame.armed, hfits.armed]
    simp

theorem fits_of_followed_valid (hs : s.Valid) (hp : p.validate = .ok ())
    (hle : s.runSeq ≤ p.runSeq) {revision : ℕ}
    (h : ({ s.followed p active observedAt unread with revision := revision } :
      PaneState).Valid) : s.Fits p active := by
  have hpos := CurrentDurableRunProjection.runSeq_pos hp
  have hsame := projected_sameIdentity s p active observedAt
  have hrun := projected_runSeq hle active observedAt
  have harmed := h.armed
  have hbackground := h.background
  have hwait := h.wait
  have hlifecycle := h.lifecycle
  dsimp only [followed] at harmed hbackground hwait hlifecycle
  rw [hsame.armed, hrun] at harmed
  rw [hsame.claudeBackground, hrun] at hbackground
  rw [hsame.claudeBackground, ne_eq, hlifecycle, hrun,
    projected_completedSeq] at hwait
  refine ⟨?_, ?_, ?_⟩
  · rw [Bool.eq_false_iff]
    intro hmark
    have hzero := (harmed hmark).2.1
    omega
  · intro hadvances
    refine List.eq_nil_iff_forall_not_mem.mpr fun task htask => ?_
    -- the task belongs to the run of the record and to the new one
    have hold := (hs.background.tasks task htask).owner
    have hnew := (hbackground.tasks task htask).owner
    omega
  · rintro rfl
    rw [Bool.eq_false_iff]
    intro hblocks
    exact hwait hblocks rfl

def Follows (s : PaneState) (p : CurrentDurableRunProjection) (active : Bool) : Prop :=
  s.currentRun = some p ∧
    if active then s.completedSeq < s.runSeq
    else s.completedSeq = s.runSeq ∧ s.subagents = [] ∧ s.worktreeActivity = none

theorem followed_of_follows (hs : s.Valid) (h : s.Follows p active) :
    s.followed p active observedAt s.unread = s := by
  obtain ⟨hcurrent, hrule⟩ := h
  obtain ⟨-, hseq⟩ := hs.currentRun p hcurrent
  have hnot : ¬s.runSeq < p.runSeq := by omega
  have hcompletedAt := hs.completedAt
  have hidle := hs.lifecycle
  have hone := hs.oneOpen
  unfold followed projected advanceRun followExecution
  rw [if_neg hnot]
  cases active with
  | true =>
    simp only [if_true] at hrule ⊢
    have hcompleted : p.runSeq - 1 = s.completedSeq := by omega
    have hrunning : s.lifecycle.isIdle = false := by
      rw [Bool.eq_false_iff]
      intro hnow
      have heq := hidle.mp (LifecycleState.isIdle_eq_true.mp hnow)
      omega
    have hat : (if 0 < p.runSeq - 1 then some (s.completedAt.getD observedAt) else none) =
        s.completedAt := by
      rw [hcompleted]
      split_ifs with hpos
      · obtain ⟨at', hat'⟩ := Option.ne_none_iff_exists'.mp (mt hcompletedAt.mpr (by omega))
        rw [hat', Option.getD_some]
      · exact (hcompletedAt.mp (by omega)).symm
    rw [hcompleted] at hat ⊢
    simp only [hrunning, hat, Bool.false_eq_true, if_false, ← hcurrent]
  | false =>
    simp only [Bool.false_eq_true, if_false] at hrule ⊢
    obtain ⟨hclosed, hsubagents, hworktree⟩ := hrule
    have hcompleted : p.runSeq = s.completedSeq := by omega
    have hpos := CurrentDurableRunProjection.runSeq_pos (hs.currentRun p hcurrent).1
    obtain ⟨at', hat'⟩ := Option.ne_none_iff_exists'.mp (mt hcompletedAt.mpr (by omega))
    have hnow := hidle.mpr hclosed.symm
    simp only [hcompleted, hat', Option.getD_some, ← hcurrent, ← hnow, ← hsubagents,
      ← hworktree]
    rw [← hat']

omit [Sha256] in
theorem follows_of_followed (hle : s.runSeq ≤ p.runSeq) (hp : p.validate = .ok ())
    (h : s.followed p active observedAt unread = s) : s.Follows p active := by
  have hpos := CurrentDurableRunProjection.runSeq_pos hp
  have hrun : s.runSeq = p.runSeq := (congrArg PaneState.runSeq h).symm.trans
    (projected_runSeq hle active observedAt)
  have hcompleted : s.completedSeq = if active then p.runSeq - 1 else p.runSeq :=
    (congrArg PaneState.completedSeq h).symm.trans
    (projected_completedSeq s p active observedAt)
  refine ⟨(congrArg PaneState.currentRun h).symm, ?_⟩
  cases active with
  | true =>
    simp only [if_true] at hcompleted ⊢
    omega
  | false =>
    simp only [Bool.false_eq_true, if_false] at hcompleted ⊢
    exact ⟨hcompleted.trans hrun.symm, (congrArg PaneState.subagents h).symm,
      (congrArg PaneState.worktreeActivity h).symm⟩

theorem Follows.fits (hs : s.Valid) (h : s.Follows p active) : s.Fits p active := by
  obtain ⟨hp, hseq⟩ := hs.currentRun p h.1
  have hpos := CurrentDurableRunProjection.runSeq_pos hp
  refine ⟨?_, ?_, ?_⟩
  · rw [Bool.eq_false_iff]
    intro hmark
    have hzero := (hs.armed hmark).2.1
    omega
  · intro hadvances
    omega
  · rintro rfl
    rw [Bool.eq_false_iff]
    intro hblocks
    exact hs.wait hblocks (hs.lifecycle.mpr h.2.1.symm)

end
/-- The counters have room for what changes. -/
structure Room (s : PaneState) (p : CurrentDurableRunProjection) (active : Bool)
    (latestUnreadOrder : ℕ) : Prop where
  unread : s.Completes p active →
    s.unread.occurrenceSeq < u64Max ∧ max latestUnreadOrder s.unread.latestOrder < u64Max
  revision : ¬s.Follows p active → s.revision < u64Max

def issueUnread (s : PaneState) (p : CurrentDurableRunProjection) (active : Bool)
    (observedAt : ℤ) (latestUnreadOrder : ℕ) : Except ModelError UnreadState :=
  if s.Completes p active then
    (s.projected p active observedAt).unread.occur latestUnreadOrder .completed
      ((s.projected p active observedAt).completedAt.getD observedAt)
      ⟨"unread occurrence sequence overflow"⟩ ⟨"unread occurrence order overflow"⟩
  else pure (s.projected p active observedAt).unread

def commit [Sha256] (s q : PaneState) : Except ModelError (PaneState × Bool) :=
  if q = s then pure (s, false)
  else increment u64Max ⟨"pane revision overflow"⟩ q.revision >>= fun revision =>
    ({ q with revision := revision } : PaneState).validate >>= fun _ =>
      pure ({ q with revision := revision }, true)

def unreadAfter (s : PaneState) (p : CurrentDurableRunProjection) (active : Bool)
    (observedAt : ℤ) (latestUnreadOrder : ℕ) : UnreadState :=
  if s.Completes p active then
    { s.unread with
      occurrenceSeq := s.unread.occurrenceSeq + 1
      latest := some ⟨s.unread.occurrenceSeq + 1,
        max latestUnreadOrder s.unread.latestOrder + 1, .completed,
        (s.projected p active observedAt).completedAt.getD observedAt⟩ }
  else s.unread

section
variable {s : PaneState} {p : CurrentDurableRunProjection} {active : Bool} {observedAt : ℤ}
  {latestUnreadOrder : ℕ}

theorem issueUnread_eq_ok {unread : UnreadState} :
    s.issueUnread p active observedAt latestUnreadOrder = .ok unread ↔
      (s.Completes p active → s.unread.occurrenceSeq < u64Max ∧
        max latestUnreadOrder s.unread.latestOrder < u64Max) ∧
      unread = s.unreadAfter p active observedAt latestUnreadOrder := by
  unfold issueUnread unreadAfter
  rw [(projected_sameIdentity s p active observedAt).unread]
  split_ifs with hcompletes
  · simp only [UnreadState.occur_eq_ok, hcompletes, true_imp_iff, and_assoc]
  · simp only [pure_eq_ok, hcompletes, false_imp_iff, true_and]
    exact eq_comm

theorem unreadAfter_validate (h : s.unread.validate = .ok ()) (p : CurrentDurableRunProjection)
    (active : Bool) (observedAt : ℤ) (latestUnreadOrder : ℕ) :
    (s.unreadAfter p active observedAt latestUnreadOrder).validate = .ok () := by
  unfold unreadAfter
  split_ifs
  · exact UnreadState.validate_occur h
  · exact h

variable [Sha256]

theorem reconcileCurrentRun_eq (hp : p.validate = .ok ()) (hat : 0 ≤ observedAt) :
    s.reconcileCurrentRun p active observedAt latestUnreadOrder =
      s.acceptsProjection p >>= fun proceed =>
        if proceed = false then pure (s, false)
        else s.issueUnread p active observedAt latestUnreadOrder >>= fun unread =>
          s.commit (s.followed p active observedAt unread) := by
  have hrefuse (e : ModelError) : refuse (observedAt < 0) e = .ok () := if_neg (Int.not_lt.mpr hat)
  unfold reconcileCurrentRun
  rw [hp, hrefuse]
  cases s.acceptsProjection p with
  | error e => rfl
  | ok proceed =>
    cases proceed with
    | false => rfl
    | true =>
      by_cases hcompletes : s.Completes p active
      · rw [issueUnread, if_pos hcompletes]
        exact if_pos hcompletes
      · rw [issueUnread, if_neg hcompletes]
        exact if_neg hcompletes

theorem reconcileCurrentRun_of_supersedes (hp : p.validate = .ok ()) (hat : 0 ≤ observedAt)
    (h : s.Supersedes p) :
    s.reconcileCurrentRun p active observedAt latestUnreadOrder = .ok (s, false) := by
  rw [reconcileCurrentRun_eq hp hat, acceptsProjection_of_supersedes h]
  rfl

theorem reconcileCurrentRun_eq_ok (hp : p.validate = .ok ()) (hat : 0 ≤ observedAt)
    (h : s.Fresh p) {s' : PaneState} {changed : Bool} :
    s.reconcileCurrentRun p active observedAt latestUnreadOrder = .ok (s', changed) ↔
      (s.Completes p active → s.unread.occurrenceSeq < u64Max ∧
        max latestUnreadOrder s.unread.latestOrder < u64Max) ∧
      s.commit (s.followed p active observedAt
        (s.unreadAfter p active observedAt latestUnreadOrder)) = .ok (s', changed) := by
  rw [reconcileCurrentRun_eq hp hat, acceptsProjection_of_fresh h, bind_eq_ok]
  simp only [Except.ok.injEq, exists_eq_left', Bool.true_eq_false, if_false]
  rw [bind_eq_ok]
  simp only [issueUnread_eq_ok, and_assoc, exists_and_left, exists_eq_left]

theorem commit_eq_ok {q s' : PaneState} {changed : Bool} :
    s.commit q = .ok (s', changed) ↔ (q = s ∧ s' = s ∧ changed = false) ∨
      (q ≠ s ∧ q.revision < u64Max ∧ ({ q with revision := q.revision + 1 } : PaneState).Valid ∧
        s' = { q with revision := q.revision + 1 } ∧ changed = true) := by
  unfold commit
  split_ifs with hsame
  · simp only [pure_eq_ok, Prod.mk.injEq, hsame, true_and, ne_eq, not_true_eq_false, false_and,
      or_false, @eq_comm _ s, @eq_comm _ false]
  · simp only [bind_eq_ok, increment_eq_ok, pure_eq_ok, Prod.mk.injEq, hsame, false_and, ne_eq,
      not_false_eq_true, true_and, false_or]
    constructor
    · rintro ⟨_, ⟨hroom, rfl⟩, _, hvalid, rfl, rfl⟩
      exact ⟨hroom, validate_eq_ok.mp hvalid, rfl, rfl⟩
    · rintro ⟨hroom, hvalid, rfl, rfl⟩
      exact ⟨_, ⟨hroom, rfl⟩, (), validate_eq_ok.mpr hvalid, rfl, rfl⟩

end

def GainsCompleted (before after : UnreadState) : Prop :=
  ∃ order occurredAt, after = { before with
    occurrenceSeq := before.occurrenceSeq + 1
    latest := some ⟨before.occurrenceSeq + 1, order, .completed, occurredAt⟩ }

structure Reconciled [Sha256] (s : PaneState) (p : CurrentDurableRunProjection) (active : Bool)
    (s' : PaneState) : Prop where
  valid : s'.validate = .ok ()
  runSeq : s'.runSeq = max s.runSeq p.runSeq
  completedSeq : s'.completedSeq = if active then s'.runSeq - 1 else s'.runSeq
  gained : s.Completes p active → GainsCompleted s.unread s'.unread
  kept : ¬s.Completes p active → s'.unread = s.unread

/-- A stale projection is skipped, a fresh one is followed. -/
structure Reconciles [Sha256] (s : PaneState) (p : CurrentDurableRunProjection) (active : Bool)
    (observedAt : ℤ) (latestUnreadOrder : ℕ) : Prop where
  stale : s.Supersedes p →
    s.reconcileCurrentRun p active observedAt latestUnreadOrder = .ok (s, false)
  fresh : s.Fresh p → ∃ s' changed,
    s.reconcileCurrentRun p active observedAt latestUnreadOrder = .ok (s', changed) ∧
      s.Reconciled p active s'

section
variable [Sha256] {s : PaneState} {p : CurrentDurableRunProjection} {active : Bool}
  {observedAt : ℤ} {latestUnreadOrder : ℕ}

omit [Sha256] in
theorem Follows.not_completes
    (hcurrent : ∀ run ∈ s.currentRun, run.runSeq = s.runSeq) (h : s.Follows p active) :
    ¬s.Completes p active := by
  rintro ⟨rfl, hopen⟩
  obtain ⟨hrun, hclosed, -⟩ := h
  have hseq := hcurrent p hrun
  omega

theorem reconciled_followed (hs : s.Valid) (hpresent : s.agentPresent = true)
    (hp : p.validate = .ok ()) (hle : s.runSeq ≤ p.runSeq) (hfits : s.Fits p active)
    (observedAt : ℤ) (latestUnreadOrder : ℕ) :
    s.Reconciled p active { s.followed p active observedAt
      (s.unreadAfter p active observedAt latestUnreadOrder) with revision := s.revision + 1 } := by
  have hunread := unreadAfter_validate hs.unread p active observedAt latestUnreadOrder
  have hrun := projected_runSeq hle active observedAt
  refine ⟨?_, ?_, ?_, ?_, ?_⟩
  · exact validate_eq_ok.mpr (followed_valid hs hpresent hp hle hunread hfits)
  · exact hrun.trans (max_eq_right hle).symm
  · dsimp only [followed]
    rw [hrun]
    exact projected_completedSeq s p active observedAt
  · intro hcompletes
    dsimp only [followed, unreadAfter]
    rw [if_pos hcompletes]
    exact ⟨_, _, rfl⟩
  · intro hcompletes
    dsimp only [followed, unreadAfter]
    rw [if_neg hcompletes]

theorem reconciled_of_follows (hs : s.Valid) (h : s.Follows p active) : s.Reconciled p active s := by
  have hseq := (hs.currentRun p h.1).2
  have hone := hs.oneOpen
  have hnot := h.not_completes fun run hrun => (hs.currentRun run hrun).2
  refine ⟨validate_eq_ok.mpr hs, ?_, ?_, fun hcompletes => absurd hcompletes hnot, fun _ => rfl⟩
  · rw [hseq, max_self]
  · have hrule := h.2
    cases active with
    | true =>
      simp only [if_true] at hrule ⊢
      omega
    | false =>
      simp only [Bool.false_eq_true, if_false] at hrule ⊢
      exact hrule.1

theorem reconcile_of_fits (hs : s.Valid) (hpresent : s.agentPresent = true)
    (hp : p.validate = .ok ()) (hat : 0 ≤ observedAt) (hfresh : s.Fresh p)
    (hfits : s.Fits p active) (hroom : s.Room p active latestUnreadOrder) :
    ∃ s' changed,
      s.reconcileCurrentRun p active observedAt latestUnreadOrder = .ok (s', changed) ∧
        s.Reconciled p active s' := by
  have hrevision : (s.followed p active observedAt
      (s.unreadAfter p active observedAt latestUnreadOrder)).revision = s.revision :=
    (projected_sameIdentity s p active observedAt).revision
  by_cases hfollows : s.Follows p active
  · have hnot := hfollows.not_completes fun run hrun => (hs.currentRun run hrun).2
    refine ⟨s, false, ?_, reconciled_of_follows hs hfollows⟩
    refine (reconcileCurrentRun_eq_ok hp hat hfresh).mpr ⟨hroom.unread, ?_⟩
    refine commit_eq_ok.mpr (.inl ⟨?_, rfl, rfl⟩)
    unfold unreadAfter
    rw [if_neg hnot]
    exact followed_of_follows hs hfollows
  · have hdone := reconciled_followed hs hpresent hp hfresh.runSeq hfits observedAt
      latestUnreadOrder
    refine ⟨_, true, ?_, hdone⟩
    refine (reconcileCurrentRun_eq_ok hp hat hfresh).mpr ⟨hroom.unread, ?_⟩
    refine commit_eq_ok.mpr (.inr ⟨?_, ?_, ?_, ?_, rfl⟩)
    · intro hsame
      exact hfollows (follows_of_followed hfresh.runSeq hp hsame)
    · rw [hrevision]
      exact hroom.revision hfollows
    · rw [hrevision]
      exact validate_eq_ok.mp hdone.valid
    · rw [hrevision]

theorem fits_of_reconcile (hs : s.Valid) (hp : p.validate = .ok ()) (hat : 0 ≤ observedAt)
    (hfresh : s.Fresh p) {s' : PaneState} {changed : Bool}
    (h : s.reconcileCurrentRun p active observedAt latestUnreadOrder = .ok (s', changed)) :
    s.Fits p active ∧ s.Room p active latestUnreadOrder := by
  obtain ⟨hunread, hcommit⟩ := (reconcileCurrentRun_eq_ok hp hat hfresh).mp h
  rcases commit_eq_ok.mp hcommit with ⟨hsame, -, -⟩ | ⟨-, hroom, hvalid, -, -⟩
  · have hfollows := follows_of_followed hfresh.runSeq hp hsame
    exact ⟨hfollows.fits hs, hunread, fun hnot => absurd hfollows hnot⟩
  · have hrevision := (projected_sameIdentity s p active observedAt).revision
    refine ⟨fits_of_followed_valid hs hp hfresh.runSeq hvalid, hunread, fun _ => ?_⟩
    rw [← hrevision]
    exact hroom

/-- A fresh run is followed exactly when the record can follow it and its counters have room. -/
theorem reconciles_iff (hs : s.validate = .ok ()) (hpresent : s.agentPresent = true)
    (hp : p.validate = .ok ()) (hat : 0 ≤ observedAt) :
    s.Reconciles p active observedAt latestUnreadOrder ↔
      (s.Fresh p → s.Fits p active ∧ s.Room p active latestUnreadOrder) := by
  have hvalid := validate_eq_ok.mp hs
  constructor
  · intro h hfresh
    obtain ⟨s', changed, hok, -⟩ := h.fresh hfresh
    exact fits_of_reconcile hvalid hp hat hfresh hok
  · intro h
    refine ⟨fun hstale => reconcileCurrentRun_of_supersedes hp hat hstale, fun hfresh => ?_⟩
    obtain ⟨hfits, hroom⟩ := h hfresh
    exact reconcile_of_fits hvalid hpresent hp hat hfresh hfits hroom

end
end PaneState

def waitingRecord : PaneState :=
  { claudeRecord with
    lifecycle := .running
    runSeq := 1
    startedAt := some 1
    claudeBackground :=
      { tasks := [⟨"task", "tool", 1, "make", 2, .pending, none, .unknown, none⟩] } }

def durableRun (runSeq : ℕ) : CurrentDurableRunProjection :=
  ⟨"0123456789abcdef0123456789abcdef", runSeq, 1⟩

/-- A first run with a subagent that the agent has completed is followed. -/
theorem reconciles_helped : @PaneState.Reconciles .constant
    { claudeRecord with
      lifecycle := .running
      runSeq := 1
      startedAt := some 1
      subagents := [⟨"agent", "helper", none⟩] } (durableRun 1) false 3 0 := by
  refine (@PaneState.reconciles_iff .constant _ _ _ _ _ rfl rfl rfl (by decide)).mpr fun _ => ?_
  refine ⟨⟨rfl, fun _ => rfl, fun _ => rfl⟩, ⟨fun _ => ?_, fun _ => ?_⟩⟩
  · decide
  · decide

/-- A task of the first run stays listed in the second one, and the check refuses it. -/
theorem reconcile_refuses :
    ¬ ∀ (s : PaneState) (p : CurrentDurableRunProjection) (active : Bool) (observedAt : ℤ)
      (latestUnreadOrder : ℕ), @PaneState.validate .constant s = .ok () →
      s.agentPresent = true → p.validate = .ok () → 0 ≤ observedAt →
      @PaneState.Reconciles .constant s p active observedAt latestUnreadOrder := by
  intro hclaim
  let _ : Sha256 := .constant
  have hfresh : waitingRecord.Fresh (durableRun 2) := by
    refine ⟨?_, ?_, by decide⟩
    · rintro ⟨_, hnone, -⟩
      cases hnone
    · rintro ⟨_, hnone, -⟩
      cases hnone
  obtain ⟨s', changed, hok, -⟩ :=
    (hclaim waitingRecord (durableRun 2) true 3 0 rfl rfl rfl (by decide)).fresh hfresh
  have herror : @PaneState.reconcileCurrentRun .constant waitingRecord (durableRun 2) true 3 0 =
      .error ⟨"invalid background wait task"⟩ := rfl
  rw [herror] at hok
  cases hok

end VdeTmux.Pane
