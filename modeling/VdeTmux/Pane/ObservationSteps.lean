import VdeTmux.Pane.EventSteps

/-!
# What an observation does

A capture acts on a record through one inference, a second absence in a row settles the run and
ends the presence of the agent, and a process report only refreshes what is known about the
process.
-/

open Foundation Foundation.Text
namespace VdeTmux.Pane

/-- The inference that reaches the record. A pending rebaseline holds back everything but an
interruption. -/
def effectiveInference (tracker : CaptureTrackerSnapshot)
    (capture : Option CaptureObservation) : CaptureInference :=
  match capture with
  | none => .noChange
  | some capture =>
    if tracker.rebaselinePending = true ∧ capture.inference.isInterruption = false then .noChange
    else capture.inference

structure TrackerEvidence where
  generation : ℕ
  epoch : Option (StateId × ℕ)
  hookAuthoritative : Bool
  codexBindingRejected : Option CodexBindingRejection
  agentProcess : Option AgentProcessIdentity
  lastAgentProcess : Option AgentProcessIdentity
  absenceCount : ℕ
  replacementKind : Option AgentKind
  replacementStreak : ℕ
deriving DecidableEq

def CaptureTrackerSnapshot.evidence (tracker : CaptureTrackerSnapshot) : TrackerEvidence :=
  ⟨tracker.generation, tracker.epoch, tracker.hookAuthoritative, tracker.codexBindingRejected,
    tracker.agentProcess, tracker.lastAgentProcess, tracker.absenceCount,
    tracker.replacementKind, tracker.replacementStreak⟩

theorem rebaselinedTracker_evidence {tracker : CaptureTrackerSnapshot}
    {fingerprint : Option Fingerprint} {observedAt : ℤ} :
    (rebaselinedTracker tracker fingerprint observedAt).evidence = tracker.evidence := by
  unfold rebaselinedTracker
  split_ifs <;> rfl

theorem scannedTracker_evidence {tracker : CaptureTrackerSnapshot}
    {fingerprint : Option Fingerprint} {observedAt : ℤ} :
    (scannedTracker tracker fingerprint observedAt).evidence = tracker.evidence := by
  unfold scannedTracker
  split_ifs <;> rfl

/-- A capture is its effective inference on the record and a change of the tracker that leaves
the evidence alone. -/
theorem applyCapture_spec {s s' : PaneState} {capture : Option CaptureObservation}
    {tracker tracker' : CaptureTrackerSnapshot} {observedAt : ℤ}
    (h : applyCapture s capture tracker observedAt = .ok (s', tracker')) :
    applyInference s (effectiveInference tracker capture) tracker.fingerprint observedAt = .ok s' ∧
      tracker'.evidence = tracker.evidence := by
  cases capture with
  | none =>
    cases h
    exact ⟨rfl, rfl⟩
  | some capture =>
    simp only [applyCapture, effectiveInference] at h ⊢
    split_ifs at h ⊢
    · cases h
      exact ⟨rfl, rebaselinedTracker_evidence⟩
    · obtain ⟨s₁, hs₁, heq⟩ := bind_pure_eq_ok.mp h
      cases heq
      exact ⟨hs₁, scannedTracker_evidence⟩

theorem applyCapture_of_inference {s s' : PaneState} {capture : Option CaptureObservation}
    {tracker : CaptureTrackerSnapshot} {observedAt : ℤ}
    (h : applyInference s (effectiveInference tracker capture) tracker.fingerprint observedAt
      = .ok s') :
    ∃ tracker', applyCapture s capture tracker observedAt = .ok (s', tracker') := by
  cases capture with
  | none =>
    cases h
    exact ⟨_, rfl⟩
  | some capture =>
    simp only [applyCapture, effectiveInference] at h ⊢
    split_ifs at h ⊢
    · cases h
      exact ⟨_, rfl⟩
    · exact ⟨_, bind_pure_eq_ok.mpr ⟨s', h, rfl⟩⟩

theorem applyInference_inEpoch {s s' : PaneState} {inference : CaptureInference}
    {fingerprint : Option Fingerprint} {observedAt : ℤ} {stopped : Prop}
    (h : applyInference s inference fingerprint observedAt = .ok s') : InEpoch stopped s s' := by
  cases inference with
  | permissionWait reason =>
    simp only [applyInference] at h
    split_ifs at h
    · exact (waitRequested_started h).1.inEpoch
    · cases h
      exact .refl _
  | usageLimit => exact (waitRequested_started h).1.inEpoch
  | providerError reason => exact (failRun_started h).1.inEpoch
  | activityObserved =>
    simp only [applyInference] at h
    split_ifs at h
    · exact (activityObserved_started h).inEpoch
    · cases h
      exact .refl _
  | staleRunCompleted =>
    simp only [applyInference] at h
    split_ifs at h
    · cases h
      exact completeRun_inEpoch _ _ _
    · cases h
      exact .refl _
  | noChange =>
    cases h
    exact .refl _

theorem applyInference_identity {s s' : PaneState} {inference : CaptureInference}
    {fingerprint : Option Fingerprint} {observedAt : ℤ}
    (h : applyInference s inference fingerprint observedAt = .ok s') : s'.identity = s.identity :=
  (applyInference_inEpoch h : InEpoch False s s').identity

theorem applyInference_cases {s s' : PaneState} {inference : CaptureInference}
    {fingerprint : Option Fingerprint} {observedAt : ℤ}
    (h : applyInference s inference fingerprint observedAt = .ok s') :
    s' = s ∨ Started s s' ∨ Completed s s' := by
  cases inference with
  | permissionWait reason =>
    simp only [applyInference] at h
    split_ifs at h
    · exact Or.inr (Or.inl (waitRequested_started h).1)
    · cases h
      exact Or.inl rfl
  | usageLimit => exact Or.inr (Or.inl (waitRequested_started h).1)
  | providerError reason => exact Or.inr (Or.inl (failRun_started h).1)
  | activityObserved =>
    simp only [applyInference] at h
    split_ifs at h
    · exact Or.inr (Or.inl (activityObserved_started h))
    · cases h
      exact Or.inl rfl
  | staleRunCompleted =>
    simp only [applyInference] at h
    split_ifs at h
    · cases h
      exact (completeRun_cases s observedAt false).imp_right Or.inr
    · cases h
      exact Or.inl rfl
  | noChange =>
    cases h
    exact Or.inl rfl

theorem effectiveInference_parts {tracker : CaptureTrackerSnapshot}
    {capture : Option CaptureObservation} (h : ∀ c ∈ capture, c.inference.PartsValid) :
    (effectiveInference tracker capture).PartsValid := by
  cases capture with
  | none => trivial
  | some capture =>
    simp only [effectiveInference]
    split_ifs
    · trivial
    · exact h capture rfl

theorem applyInference_coherent [Sha256] {s s' : PaneState} {inference : CaptureInference}
    {fingerprint : Option Fingerprint} {observedAt : ℤ} (hs : s.Coherent)
    (hparts : inference.PartsValid)
    (h : applyInference s inference fingerprint observedAt = .ok s') : s'.Coherent := by
  cases inference with
  | permissionWait reason =>
    simp only [applyInference] at h
    split_ifs at h
    · exact waitRequested_coherent hs hparts h
    · cases h
      exact hs
  | usageLimit => exact waitRequested_coherent hs WaitReason.usageLimit_validate h
  | providerError reason => exact failRun_coherent hs hparts h
  | activityObserved =>
    simp only [applyInference] at h
    split_ifs at h
    · exact activityObserved_coherent hs h
    · cases h
      exact hs
  | staleRunCompleted =>
    simp only [applyInference] at h
    split_ifs at h
    · cases h
      exact completeRun_coherent hs
    · cases h
      exact hs
  | noChange =>
    cases h
    exact hs

def settleRun (s : PaneState) (observedAt : ℤ) : PaneState :=
  if backgroundOpen s then endClaudeTracking s
  else if s.completedSeq < s.runSeq then completeRun s observedAt false
  else s

theorem confirmAbsent_eq (s : PaneState) (observedAt : ℤ) :
    confirmAbsent s observedAt = { settleRun s observedAt with
      agentPresent := false
      scanVerified := true
      backgroundProcess := none
      claudeCrons := {}
      listeningPorts := [] } := rfl

theorem settleRun_identity (s : PaneState) (observedAt : ℤ) :
    (settleRun s observedAt).identity = s.identity := by
  unfold settleRun
  split_ifs
  · exact (endClaudeTracking_kept s).1
  · exact completeRun_identity
  · rfl

theorem confirmAbsent_identity (s : PaneState) (observedAt : ℤ) :
    (confirmAbsent s observedAt).identity =
      { s.identity with agentPresent := false, scanVerified := true } := by
  have h := settleRun_identity s observedAt
  rw [confirmAbsent_eq, ← h]
  rfl

theorem settleRun_coherent [Sha256] {s : PaneState} {observedAt : ℤ} (hs : s.Coherent)
    (hidle : s.lifecycle = .idle → s.claudeBackground.tasks = []) :
    (settleRun s observedAt).Coherent := by
  unfold settleRun
  split_ifs
  · exact endClaudeTracking_coherent hs hidle
  · exact completeRun_coherent hs
  · exact hs

theorem PaneState.Coherent.depart [Sha256] {s : PaneState} (hs : s.Coherent) :
    ({ s with
      agentPresent := false
      scanVerified := true
      backgroundProcess := none
      claudeCrons := {}
      listeningPorts := [] } : PaneState).Coherent :=
  { hs with
    crons := ClaudeCronSnapshot.validate_default
    claude := hs.claude.imp_right fun h => ⟨h.1, h.2.1, rfl⟩
    armed := fun h => ⟨(hs.armed h).1, (hs.armed h).2.1, rfl⟩
    backgroundProcess := rfl
    listeningPorts := validatePorts_nil }

theorem countAbsence_cases {s s' : PaneState} {tracker tracker' : CaptureTrackerSnapshot}
    {observedAt : ℤ} (h : countAbsence s tracker observedAt = .ok (s', tracker')) :
    tracker.absenceCount < u8Max ∧
    ((tracker.absenceCount = 0 ∧ s' = s ∧ tracker' = { tracker with absenceCount := 1 }) ∨
      (0 < tracker.absenceCount ∧ s' = confirmAbsent s observedAt ∧
        tracker' = { tracker with absenceCount := 0 })) := by
  obtain ⟨count, hcount, h⟩ := bind_eq_ok.mp h
  obtain ⟨hlt, rfl⟩ := increment_eq_ok.mp hcount
  refine ⟨hlt, ?_⟩
  split_ifs at h with htwo
  · cases h
    exact Or.inr ⟨by omega, rfl, rfl⟩
  · cases h
    have hzero : tracker.absenceCount = 0 := by omega
    exact Or.inl ⟨hzero, rfl, by rw [hzero]⟩

theorem countAbsence_ok {s : PaneState} {tracker : CaptureTrackerSnapshot} {observedAt : ℤ}
    (h : tracker.absenceCount < u8Max) :
    countAbsence s tracker observedAt = .ok
      (if 0 < tracker.absenceCount then
        (confirmAbsent s observedAt, { tracker with absenceCount := 0 })
      else (s, { tracker with absenceCount := tracker.absenceCount + 1 })) := by
  unfold countAbsence
  rw [increment_of_lt h]
  by_cases hpos : 0 < tracker.absenceCount
  · simp [bind, Except.bind, pure, Except.pure, hpos, show 2 ≤ tracker.absenceCount + 1 by omega]
  · simp [bind, Except.bind, pure, Except.pure, hpos,
      show ¬2 ≤ tracker.absenceCount + 1 by omega]

theorem applyProcessObservation_spec {s s' : PaneState} {process : Option ProcessObservation}
    (h : applyProcessObservation s process = .ok s') :
    s' = { s with
      agentProcess := s'.agentProcess
      backgroundProcess := s'.backgroundProcess
      listeningPorts := s'.listeningPorts } := by
  cases process with
  | none =>
    cases h
    rfl
  | some process =>
    obtain ⟨-, h⟩ := seq_eq_ok.mp h
    cases h
    rfl

theorem applyProcessObservation_coherent [Sha256] {s s' : PaneState}
    {process : Option ProcessObservation} (hs : s.Coherent)
    (h : applyProcessObservation s process = .ok s') : s'.Coherent := by
  cases process with
  | none =>
    cases h
    exact hs
  | some process =>
    obtain ⟨hvalid, h⟩ := seq_eq_ok.mp h
    cases h
    obtain ⟨-, hidentity, hports⟩ := ProcessObservation.validate_eq_ok.mp (mapError_eq_ok.mp hvalid)
    refine { hs with process := ?_, backgroundProcess := ?_, listeningPorts := ?_ }
    · dsimp only
      split_ifs
      · cases hp : process.agentProcess with
        | none => exact hs.process
        | some identity => simpa [hp] using hidentity
      · exact hs.process
    · dsimp only
      split_ifs
      · rfl
      · exact hs.backgroundProcess
    · cases hp : process.listeningPorts with
      | none => exact hs.listeningPorts
      | some ports => simpa [hp] using hports

theorem applyProcessObservation_ok {s : PaneState} {process : Option ProcessObservation}
    (h : forSome ProcessObservation.validate process = .ok ()) :
    ∃ s', applyProcessObservation s process = .ok s' := by
  cases process with
  | none => exact ⟨s, rfl⟩
  | some process =>
    exact ⟨_, seq_eq_ok.mpr ⟨mapError_eq_ok.mpr h, rfl⟩⟩

theorem bumpTracker_eq_ok {tracker tracker' : CaptureTrackerSnapshot} :
    bumpTracker tracker = .ok tracker' ↔ tracker.generation < u64Max ∧
      tracker' = { tracker with generation := tracker.generation + 1 } := by
  simp only [bumpTracker, bind_pure_eq_ok, increment_eq_ok]
  constructor
  · rintro ⟨_, ⟨hlt, rfl⟩, rfl⟩
    exact ⟨hlt, rfl⟩
  · rintro ⟨hlt, rfl⟩
    exact ⟨_, ⟨hlt, rfl⟩, rfl⟩

theorem observeNewEpoch_eq_ok {s s' : PaneState} {tracker tracker' : CaptureTrackerSnapshot}
    {agent : AgentKind} {capture : Option CaptureObservation}
    {process : Option AgentProcessIdentity} {observedAt : ℤ} :
    observeNewEpoch s tracker agent capture process observedAt = .ok (s', tracker') ↔
      beginAgentEpoch s agent none .process = .ok s' ∧
        tracker' = observedTracker tracker s' process process capture observedAt := by
  simp only [observeNewEpoch, bind_pure_eq_ok, Prod.mk.injEq]
  constructor
  · rintro ⟨_, hs, rfl, rfl⟩
    exact ⟨hs, rfl⟩
  · rintro ⟨hs, rfl⟩
    exact ⟨s', hs, rfl, rfl⟩

theorem countReplacement_spec {tracker tracker' : CaptureTrackerSnapshot} {agent : AgentKind}
    (h : countReplacement tracker agent = .ok tracker') :
    tracker' = { tracker with
      replacementKind := some agent
      replacementStreak := tracker'.replacementStreak } ∧
    ((tracker.replacementKind = some agent ∧
        tracker'.replacementStreak = tracker.replacementStreak + 1) ∨
      (tracker.replacementKind ≠ some agent ∧ tracker'.replacementStreak = 1)) := by
  unfold countReplacement at h
  split_ifs at h with hkind
  · obtain ⟨streak, hstreak, rfl⟩ := bind_pure_eq_ok.mp h
    obtain ⟨-, rfl⟩ := increment_eq_ok.mp hstreak
    exact ⟨by rw [← hkind], Or.inl ⟨hkind, rfl⟩⟩
  · cases h
    exact ⟨rfl, Or.inr ⟨hkind, rfl⟩⟩

/-- How an observation of the presence of an agent acts on the record. -/
inductive Observed (s : PaneState) (tracker : CaptureTrackerSnapshot)
    (presence : AgentPresenceObservation) (capture : Option CaptureObservation)
    (process : Option ProcessObservation) (observedAt : ℤ) (s' : PaneState)
    (tracker' : CaptureTrackerSnapshot) : Prop
  | epoch (agent : AgentKind) (presence : presence = .present agent)
      (begins : beginAgentEpoch s agent none .process = .ok s')
      (tracker : tracker' = observedTracker
        (if agent = s.agent then
          { tracker with absenceCount := 0, replacementKind := none, replacementStreak := 0 }
        else tracker) s' (checkedProcess process) (checkedProcess process) capture observedAt)
      (allowed : s.agentPresent = false ∨ agent = s.agent)
  | unknown (presence : presence = .unknown) (record : s' = s)
      (tracker : tracker' = observeUnknown tracker)
  | same (presence : presence = .present s.agent) (present : s.agentPresent = true)
      (inference : CaptureInference) (effective : inference = effectiveInference tracker capture)
      (record : applyInference { s with scanVerified := true } inference tracker.fingerprint
        observedAt = .ok s')
      (evidence : ∃ agentProcess lastAgentProcess, tracker'.evidence = { tracker.evidence with
        agentProcess := agentProcess
        lastAgentProcess := lastAgentProcess
        absenceCount := 0
        replacementKind := none
        replacementStreak := 0 })
  | absent (presence : presence = .absent) (s₁ : PaneState)
      (record : applyInference s (effectiveInference tracker capture) tracker.fingerprint
        observedAt = .ok s₁)
      (counted : (s' = s₁ ∧ (tracker.absenceCount = 0 ∨
          ¬(s.scanVerified = true ∧ supportsProcessDetection s.agent = true))) ∨
        (s' = confirmAbsent s₁ observedAt ∧ 0 < tracker.absenceCount ∧ s.scanVerified = true ∧
          supportsProcessDetection s.agent = true))
      (evidence : ∃ absenceCount, tracker'.evidence = { tracker.evidence with
        agentProcess := none
        absenceCount := absenceCount
        replacementKind := none
        replacementStreak := 0 })
  | other (agent : AgentKind) (presence : presence = .present agent) (differs : agent ≠ s.agent)
      (present : s.agentPresent = true)
      (counted : (s' = s ∧ (tracker.absenceCount = 0 ∨ s.scanVerified = false)) ∨
        (s' = confirmAbsent s observedAt ∧ 0 < tracker.absenceCount ∧ s.scanVerified = true))
      (evidence : ∃ absenceCount, tracker' = { tracker with
        absenceCount := absenceCount
        replacementKind := some agent
        replacementStreak := tracker'.replacementStreak })
      (streak : (tracker.replacementKind = some agent ∧
          tracker'.replacementStreak = tracker.replacementStreak + 1) ∨
        (tracker.replacementKind ≠ some agent ∧ tracker'.replacementStreak = 1))

theorem observeAbsent_observed {s s' : PaneState} {tracker tracker' : CaptureTrackerSnapshot}
    {capture : Option CaptureObservation} {process : Option ProcessObservation} {observedAt : ℤ}
    (h : observeAbsent s tracker capture observedAt = .ok (s', tracker')) :
    Observed s tracker .absent capture process observedAt s' tracker' := by
  obtain ⟨⟨s₁, tracker₁⟩, hcapture, h⟩ := bind_eq_ok.mp h
  obtain ⟨hrecord, hevidence⟩ := applyCapture_spec hcapture
  have hidentity := applyInference_identity hrecord
  have hscan : s₁.scanVerified = s.scanVerified := congrArg PaneIdentity.scanVerified hidentity
  have hagent : s₁.agent = s.agent := congrArg PaneIdentity.agent hidentity
  have hcount : tracker₁.absenceCount = tracker.absenceCount :=
    congrArg TrackerEvidence.absenceCount hevidence
  have hkeep (count : ℕ) : ({ tracker₁ with absenceCount := count } :
      CaptureTrackerSnapshot).evidence = { tracker₁.evidence with absenceCount := count } := rfl
  dsimp only at h
  rw [hscan, hagent] at h
  split_ifs at h with hverified
  · obtain ⟨-, ⟨hzero, rfl, rfl⟩ | ⟨hpos, rfl, rfl⟩⟩ := countAbsence_cases h
    · exact .absent rfl _ hrecord (Or.inl ⟨rfl, Or.inl (hcount ▸ hzero)⟩)
        ⟨1, by rw [hkeep, hevidence]; rfl⟩
    · exact .absent rfl _ hrecord (Or.inr ⟨rfl, hcount ▸ hpos, hverified⟩)
        ⟨0, by rw [hkeep, hevidence]; rfl⟩
  · cases h
    exact .absent rfl _ hrecord (Or.inl ⟨rfl, Or.inr hverified⟩) ⟨_, hevidence⟩

theorem observeSameAgent_observed {s s' : PaneState} {tracker tracker' : CaptureTrackerSnapshot}
    {capture : Option CaptureObservation} {process : Option ProcessObservation} {observedAt : ℤ}
    (h : observeSameAgent s tracker s.agent capture process observedAt = .ok (s', tracker')) :
    Observed s tracker (.present s.agent) capture process observedAt s' tracker' := by
  unfold observeSameAgent at h
  dsimp only at h
  split at h
  · obtain ⟨hbegin, rfl⟩ := observeNewEpoch_eq_ok.mp h
    exact .epoch s.agent rfl hbegin (by rw [if_pos rfl]) (Or.inr rfl)
  · rename_i hepoch
    obtain ⟨hrecord, hevidence⟩ := applyCapture_spec h
    exact .same rfl (by simpa using (not_or.mp hepoch).1) _ rfl hrecord ⟨_, _, hevidence⟩

theorem observeOtherAgent_observed {s s' : PaneState} {tracker tracker' : CaptureTrackerSnapshot}
    {agent : AgentKind} {capture : Option CaptureObservation}
    {process : Option ProcessObservation} {observedAt : ℤ} (hagent : agent ≠ s.agent)
    (h : observeOtherAgent s tracker agent capture process observedAt = .ok (s', tracker')) :
    Observed s tracker (.present agent) capture process observedAt s' tracker' := by
  unfold observeOtherAgent at h
  split_ifs at h with hpresent hscan
  · obtain ⟨⟨s₁, tracker₁⟩, hcount, h⟩ := bind_eq_ok.mp h
    obtain ⟨tracker₂, hreplace, heq⟩ := bind_pure_eq_ok.mp h
    cases heq
    obtain ⟨hframe, hstreak⟩ := countReplacement_spec hreplace
    obtain ⟨-, ⟨hzero, rfl, rfl⟩ | ⟨hpos, rfl, rfl⟩⟩ := countAbsence_cases hcount
    · exact .other agent rfl hagent hpresent (Or.inl ⟨rfl, Or.inl hzero⟩) ⟨1, hframe⟩ hstreak
    · exact .other agent rfl hagent hpresent (Or.inr ⟨rfl, hpos, hscan⟩) ⟨0, hframe⟩ hstreak
  · obtain ⟨⟨s₁, tracker₁⟩, hcount, h⟩ := bind_eq_ok.mp h
    obtain ⟨tracker₂, hreplace, heq⟩ := bind_pure_eq_ok.mp h
    cases heq
    cases hcount
    obtain ⟨hframe, hstreak⟩ := countReplacement_spec hreplace
    exact .other agent rfl hagent hpresent (Or.inl ⟨rfl, Or.inr (by simpa using hscan)⟩)
      ⟨_, hframe⟩ hstreak
  · obtain ⟨hbegin, rfl⟩ := observeNewEpoch_eq_ok.mp h
    exact .epoch agent rfl hbegin (by rw [if_neg hagent]) (Or.inl (by simpa using hpresent))

theorem observePresence_observed {s s' : PaneState} {tracker tracker' : CaptureTrackerSnapshot}
    {presence : AgentPresenceObservation} {capture : Option CaptureObservation}
    {process : Option ProcessObservation} {observedAt : ℤ}
    (h : observePresence s tracker presence capture process observedAt = .ok (s', tracker')) :
    Observed s tracker presence capture process observedAt s' tracker' := by
  unfold observePresence at h
  split at h
  · cases h
    exact .unknown rfl rfl rfl
  · exact observeAbsent_observed h
  · split_ifs at h with hagent
    · subst hagent
      exact observeSameAgent_observed h
    · exact observeOtherAgent_observed hagent h

end VdeTmux.Pane
