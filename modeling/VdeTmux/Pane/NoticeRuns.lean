import VdeTmux.Pane.BlockedNotices
import VdeTmux.Pane.UnreadRuns

/-!
# Notifications over whole runs

An event that leaves a pane blocked which was not blocked before it queues one notification, and
nothing else queues any. The notification stays current for exactly as long as the pane stays
blocked in that epoch.
-/

open Foundation Foundation.Text
namespace VdeTmux.Pane

/-! ## Candidates -/

section
variable [Sha256]

theorem reduce_continues {current : Option PaneState} {envelope : PaneEventEnvelope}
    {context : ReductionContext} {r : Reduction} {candidate : PaneState}
    {fresh : StateId → Prop} (hvalid : ∀ s ∈ current, s.Valid)
    (h : reduce current envelope context = .ok r) (houtcome : r.outcome = .canonicalChanged)
    (hrecord : r.record = some candidate) (hfresh : ∀ stateId ∈ context.newStateId, fresh stateId) :
    Notice.Continues fresh current candidate := by
  cases current with
  | none => exact hfresh _ ((reduce_reduced hvalid h houtcome hrecord).fresh rfl)
  | some s =>
    obtain ⟨s', hs', hversion, hcases⟩ := reduce_some (hvalid s rfl).counted h
    rw [hrecord] at hs'
    cases hs'
    rcases hcases with ⟨-, hsucc⟩ | ⟨hkept, -⟩
    · exact ⟨hversion.stateId, hsucc⟩
    · exact absurd houtcome hkept

omit [Sha256] in
theorem resolveBadge_blocked_of_lifecycle {s s' : PaneState} (h : s'.lifecycle = s.lifecycle)
    (hblocked : resolveBadge s' = .blocked) : resolveBadge s = .blocked := by
  unfold resolveBadge at hblocked ⊢
  rw [h] at hblocked
  cases hlifecycle : s.lifecycle with
  | idle =>
    simp only [hlifecycle] at hblocked
    split_ifs at hblocked
  | running =>
    simp only [hlifecycle] at hblocked
    cases hblocked
  | waiting reason =>
    simp only [hlifecycle] at hblocked
    exact hblocked
  | error reason => rfl

omit [Sha256] in
theorem PaneState.projected_lifecycle (s : PaneState) (p : CurrentDurableRunProjection)
    (active : Bool) (observedAt : ℤ) :
    (s.projected p active observedAt).lifecycle = .running ∨
      (s.projected p active observedAt).lifecycle = .idle ∨
      (s.projected p active observedAt).lifecycle = s.lifecycle := by
  have hadvanced : (s.advanceRun p.runSeq observedAt).lifecycle = s.lifecycle := by
    unfold advanceRun
    split_ifs <;> rfl
  cases active with
  | false => exact Or.inr (Or.inl rfl)
  | true =>
    have hfollowed : (s.projected p true observedAt).lifecycle =
        if s.lifecycle.isIdle then .running else s.lifecycle := by
      rw [← hadvanced]
      rfl
    rw [hfollowed]
    split_ifs
    · exact Or.inl rfl
    · exact Or.inr (Or.inr rfl)

omit [Sha256] in
theorem PaneState.projected_blocked {s : PaneState} {p : CurrentDurableRunProjection}
    {active : Bool} {observedAt : ℤ} (h : resolveBadge (s.projected p active observedAt) = .blocked) :
    resolveBadge s = .blocked := by
  rcases s.projected_lifecycle p active observedAt with hrunning | hidle | hkept
  · rw [resolveBadge, hrunning] at h
    cases h
  · rw [resolveBadge, hidle] at h
    dsimp only at h
    split_ifs at h
  · exact resolveBadge_blocked_of_lifecycle hkept h

theorem PaneState.reconcileCurrentRun_blocked {s candidate : PaneState}
    {p : CurrentDurableRunProjection} {active : Bool} {observedAt : ℤ} {latestUnreadOrder : ℕ}
    (h : s.reconcileCurrentRun p active observedAt latestUnreadOrder = .ok (candidate, true)) :
    candidate.agentEpoch = s.agentEpoch ∧
      (resolveBadge candidate = .blocked → resolveBadge s = .blocked) := by
  obtain ⟨⟨⟩, hp, h'⟩ := bind_eq_ok.mp h
  have hat : 0 ≤ observedAt := by
    obtain ⟨hat, -⟩ := seq_eq_ok.mp h'
    simpa using hat
  rw [reconcileCurrentRun_eq hp hat] at h
  obtain ⟨proceed, -, h⟩ := bind_eq_ok.mp h
  split_ifs at h
  · cases h
  · obtain ⟨unread, -, h⟩ := bind_eq_ok.mp h
    obtain ⟨-, -, hfalse⟩ | ⟨-, -, -, rfl, -⟩ := commit_eq_ok.mp h
    · cases hfalse
    · refine ⟨(projected_sameIdentity s p active observedAt).agentEpoch, fun hblocked => ?_⟩
      have hprojected : resolveBadge (s.projected p active observedAt) = .blocked := by
        refine resolveBadge_blocked_of_lifecycle ?_ hblocked
        rfl
      exact projected_blocked hprojected

end

namespace CanonicalStateRuntime

/-! ## One event -/

theorem storeCandidate_posted (runtime : CanonicalStateRuntime) (pane : PaneInstance)
    (event : PaneEvent) (candidate : PaneState) (delta : Option CaptureTrackerDelta) (order : ℕ)
    (hjobs : runtime.notificationJobs.length ≤ maxNotificationJobs) :
    (∀ other, (runtime.storeCandidate pane event candidate delta order).notice other =
      if other = pane then
        ⟨some candidate, Notice.noticedAfter runtime.records[pane]? candidate
          runtime.notificationGenerations[pane]?⟩
      else runtime.notice other) ∧
    (runtime.storeCandidate pane event candidate delta order).notificationJobs =
      keepLast maxNotificationJobs (runtime.notificationJobs ++
        newNotifications pane runtime.records[pane]? (some candidate)) := by
  generalize hstored : (({ runtime with
    latestUnreadOrder := order
    records := runtime.records.insert pane candidate } : CanonicalStateRuntime).track pane delta) =
      stored
  have hposted := track_posted { runtime with
    latestUnreadOrder := order
    records := runtime.records.insert pane candidate } pane delta
  rw [hstored] at hposted
  simp only [posted, Prod.mk.injEq] at hposted
  obtain ⟨hrecords, hgenerations, hqueue⟩ := hposted
  have hderived := stored.deriveCandidateProjection_notices pane runtime.records[pane]? candidate
    event (transitionAtEpoch event candidate) (hqueue ▸ hjobs)
  have hcore := congrArg Prod.fst (stored.deriveCandidateProjection_core pane runtime.records[pane]?
    (some candidate) event (transitionAtEpoch event candidate))
  unfold storeCandidate
  dsimp only
  rw [hstored]
  rw [hgenerations, hqueue] at hderived
  refine ⟨fun other => ?_, hderived.2⟩
  have hrecord : (stored.deriveCandidateProjection pane runtime.records[pane]? (some candidate)
      event (transitionAtEpoch event candidate)).records[other]? =
      (runtime.records.insert pane candidate)[other]? := by
    rw [show (stored.deriveCandidateProjection pane runtime.records[pane]? (some candidate) event
      (transitionAtEpoch event candidate)).records = stored.records from hcore, hrecords]
  rw [notice, hrecord, hderived.1 other, getElem?_insert]
  split_ifs
  · rfl
  · rfl

structure Noticed (fresh : StateId → Prop) (runtime next : CanonicalStateRuntime)
    (pane : PaneInstance) (candidate : PaneState) : Prop where
  continues : Notice.Continues fresh runtime.records[pane]? candidate
  notices : ∀ other, next.notice other =
    if other = pane then
      ⟨some candidate, Notice.noticedAfter runtime.records[pane]? candidate
        runtime.notificationGenerations[pane]?⟩
    else runtime.notice other
  jobs : next.notificationJobs = keepLast maxNotificationJobs (runtime.notificationJobs ++
    newNotifications pane runtime.records[pane]? (some candidate))

theorem Noticed.step {fresh : StateId → Prop} {runtime next : CanonicalStateRuntime}
    {pane : PaneInstance} {candidate : PaneState} (h : Noticed fresh runtime next pane candidate)
    (other : PaneInstance) : next.notice other = runtime.notice other ∨
      Notice.Step fresh (runtime.notice other) (next.notice other) := by
  rw [h.notices other]
  split_ifs with hother
  · subst hother
    exact Or.inr (.changed candidate h.continues)
  · exact Or.inl rfl

section
variable [Sha256] [ProjectionFrame]

theorem applyEventInMemory_noticed {runtime : CanonicalStateRuntime} (h : runtime.ledger.Sound)
    (htidy : runtime.Tidy) (envelope : PaneEventEnvelope) (visibility : VisibilitySnapshot)
    (privateTaskPrompt : Option String) (generated : Except String StateId)
    {fresh : StateId → Prop} (hfresh : ∀ stateId, generated = .ok stateId → fresh stateId) :
    (runtime.applyEventInMemory envelope visibility privateTaskPrompt generated).2.posted =
        runtime.posted ∨
      ∃ candidate, Noticed fresh runtime
        (runtime.applyEventInMemory envelope visibility privateTaskPrompt generated).2
          envelope.paneInstance candidate ∧
        ∀ throughOrder, envelope.event = .markPaneRead throughOrder →
          Read throughOrder runtime.records[envelope.paneInstance]? (some candidate) := by
  unfold applyEventInMemory
  split
  · exact Or.inl rfl
  · rename_i newStateId hgenerate
    split
    · exact Or.inl rfl
    · rename_i r hreduce
      split
      · rename_i candidate houtcome hrecord
        unfold applyCandidate
        split
        · exact Or.inl rfl
        · rename_i order _
          obtain ⟨hnotices, hjobs⟩ := runtime.storeCandidate_posted envelope.paneInstance
            envelope.event candidate r.trackerDelta order htidy.jobs
          have hposted := publishInPlace_posted (runtime.storeCandidate envelope.paneInstance
            envelope.event candidate r.trackerDelta order)
          have hcontinues := reduce_continues (fun s hs => (h.records _ s hs).2) hreduce houtcome
            hrecord (generateStateId_fresh hfresh hgenerate)
          refine Or.inr ⟨candidate, ⟨hcontinues, fun other => ?_, ?_⟩, fun throughOrder hevent => ?_⟩
          · rw [publishResult_snd, notice_of_posted hposted, hnotices other]
          · rw [publishResult_snd, jobs_of_posted hposted, hjobs]
          · rw [← hrecord]
            rcases reduce_read hevent hreduce with hsame | hread
            · rw [hrecord] at hsame
              have hcontinues : Notice.Continues fresh runtime.records[envelope.paneInstance]?
                candidate := hcontinues
              rw [show runtime.records[envelope.paneInstance]? = some candidate from hsame.symm]
                at hcontinues
              exact absurd hcontinues.2 (Nat.succ_ne_self _).symm
            · exact hread
      · refine Or.inl ?_
        unfold applyTracked
        dsimp only
        split_ifs
        · rw [publishResult_snd, publishInPlace_posted, track_posted]
        · exact track_posted _ _ _

end

end CanonicalStateRuntime

/-! ## Reads -/

namespace Notice

inductive ReadStep (notice : Notice) : Notice → Prop
  | marked (s : PaneState) (record : notice.record = some s) :
    ReadStep notice ⟨some s.marked, noticedAfter notice.record s.marked notice.noticed⟩

theorem ReadStep.step {notice notice' : Notice} (h : ReadStep notice notice')
    (fresh : StateId → Prop) : Step fresh notice notice' := by
  cases h with
  | marked s record =>
    refine .changed s.marked ?_
    rw [record]
    exact ⟨rfl, rfl⟩

inductive Moves (fresh : StateId → Prop) (notice notice' : Notice) : Prop
  | same (same : notice' = notice)
  | step (step : Step fresh notice notice')
  | reads (reads : Relation.ReflTransGen ReadStep notice notice')

section
variable {version : StateVersion} {notice notice' : Notice}

theorem Holds.reads (h : Holds version notice)
    (hreads : Relation.ReflTransGen ReadStep notice notice') : Holds version notice' := by
  induction hreads with
  | refl => exact h
  | tail _ hread ih =>
    rcases ih.step (hread.step fun _ => True) with hholds | ⟨-, hgone⟩
    · exact hholds
    · refine absurd ?_ hgone
      obtain ⟨s, hs, hid, hepoch, hblocked⟩ := ih.blocked
      cases hread with
      | marked s' record =>
        rw [hs] at record
        cases record
        refine ⟨s.marked, rfl, hid, hepoch, ?_⟩
        refine resolveBadge_blocked_of_lifecycle ?_ hblocked
        rfl

theorem Holds.moves {fresh : StateId → Prop} (h : Holds version notice)
    (hmoves : Moves fresh notice notice') :
    Holds version notice' ∨ Over version notice' ∧ ¬Blocked version notice'.record := by
  cases hmoves with
  | same same => exact Or.inl (same ▸ h)
  | step step => exact h.step step
  | reads reads => exact Or.inl (h.reads reads)

theorem Over.moves (h : Over version notice)
    (hmoves : Moves (fun stateId => stateId ≠ version.stateId) notice notice') :
    Over version notice' := by
  cases hmoves with
  | same same => exact same ▸ h
  | step step => exact h.step step
  | reads reads =>
    induction reads with
    | refl => exact h
    | tail _ hread ih => exact ih.step (hread.step _)

end

end Notice

namespace CanonicalStateRuntime

theorem newNotifications_marked (pane : PaneInstance) (s : PaneState) :
    newNotifications pane (some s) (some s.marked) = [] := by
  unfold newNotifications
  rw [Option.filter_eq_none_iff.mpr fun candidate hcandidate => ?_]
  · rfl
  · cases hcandidate
    have hsame : resolveBadge s.marked = .blocked → resolveBadge s = .blocked := by
      refine resolveBadge_blocked_of_lifecycle ?_
      rfl
    simpa [recordBadge] using fun hnot hblocked => hnot (hsame hblocked)

section
variable [Sha256] [ProjectionFrame]

/-- What a sequence of reads leaves: every notice after the reads of its pane, and the queue. -/
structure ReadThrough (runtime next : CanonicalStateRuntime) : Prop where
  sound : next.ledger.Sound
  tidy : next.Tidy
  notices : ∀ pane, Relation.ReflTransGen Notice.ReadStep (runtime.notice pane) (next.notice pane)
  jobs : next.notificationJobs = runtime.notificationJobs

omit [ProjectionFrame] in
theorem ReadThrough.trans {r r' r'' : CanonicalStateRuntime} (h : ReadThrough r r')
    (h' : ReadThrough r' r'') : ReadThrough r r'' :=
  ⟨h'.sound, h'.tidy, fun pane => (h.notices pane).trans (h'.notices pane), h'.jobs.trans h.jobs⟩

theorem applyEventInMemory_readThrough {runtime : CanonicalStateRuntime}
    (h : runtime.ledger.Sound) (htidy : runtime.Tidy) {envelope : PaneEventEnvelope}
    {throughOrder : ℕ} (hevent : envelope.event = .markPaneRead throughOrder) :
    ReadThrough runtime (runtime.applyEventInMemory envelope {} none (.error "")).2 := by
  have hsound : (runtime.applyEventInMemory envelope {} none (.error "")).2.ledger.Sound := by
    rcases applyEventInMemory_ledger runtime envelope {} none (.error "") (fun _ hid => hid)
      with hsame | hstep
    · exact hsame ▸ h
    · exact hstep.sound h
  have hnone : ∀ stateId, (.error "" : Except String StateId) = .ok stateId → False := by
    intro _ hid
    cases hid
  refine ⟨hsound, htidy.applyEventInMemory _ _ _ _, ?_, ?_⟩
  all_goals
    rcases applyEventInMemory_noticed h htidy envelope {} none (.error "") hnone
      with hposted | ⟨candidate, hnoticed, hread⟩
  · intro pane
    rw [notice_of_posted hposted]
  · intro pane
    obtain ⟨s, latest, hs, -, -, hmarked⟩ := hread throughOrder hevent
    cases hmarked
    rw [hnoticed.notices pane]
    split_ifs with hpane
    · subst hpane
      exact .single (.marked s hs)
    · exact .refl
  · exact jobs_of_posted hposted
  · obtain ⟨s, latest, hs, -, -, hmarked⟩ := hread throughOrder hevent
    cases hmarked
    rw [hnoticed.jobs, hs, newNotifications_marked, List.append_nil,
      keepLast_of_length_le htidy.jobs]

theorem readPane_readThrough {revisionBefore : ℕ} {draft draft' : ReadDraft}
    {envelope : PaneEventEnvelope} (h : draft.working.ledger.Sound) (htidy : draft.working.Tidy)
    (hread : readPane revisionBefore draft envelope = .ok draft') :
    ReadThrough draft.working draft'.working := by
  have hrevised : ({ draft.working with snapshotRevision := revisionBefore } :
      CanonicalStateRuntime).ledger.Sound := h
  unfold readPane at hread
  split_ifs at hread with hmark
  obtain ⟨throughOrder, hevent⟩ : ∃ throughOrder, envelope.event = .markPaneRead throughOrder := by
    unfold PaneEvent.isMarkPaneRead at hmark
    split at hmark
    · rename_i throughOrder hevent
      exact ⟨throughOrder, hevent⟩
    · exact absurd rfl hmark
  have hthrough := applyEventInMemory_readThrough hrevised (htidy.revised revisionBefore) hevent
  split at hread
  · rename_i result working hresult
    rw [hresult] at hthrough
    cases hread
    exact ⟨hthrough.sound, hthrough.tidy, hthrough.notices, hthrough.jobs⟩
  · rename_i e working hresult
    rw [hresult] at hthrough
    split_ifs at hread
    cases hread
    exact ⟨hthrough.sound, hthrough.tidy, hthrough.notices, hthrough.jobs⟩

theorem readPanes_readThrough {revisionBefore : ℕ} {draft draft' : ReadDraft}
    {envelopes : List PaneEventEnvelope} (h : draft.working.ledger.Sound)
    (htidy : draft.working.Tidy)
    (hread : readPanes revisionBefore draft envelopes = .ok draft') :
    ReadThrough draft.working draft'.working := by
  induction envelopes generalizing draft with
  | nil =>
    cases hread
    exact ⟨h, htidy, fun _ => .refl, rfl⟩
  | cons envelope rest ih =>
    obtain ⟨next, hnext, hrest⟩ := bind_eq_ok.mp hread
    have hfirst := readPane_readThrough h htidy hnext
    exact hfirst.trans (ih hfirst.sound hfirst.tidy hrest)

theorem applyPaneReads_readThrough {runtime : CanonicalStateRuntime} (h : runtime.ledger.Sound)
    (htidy : runtime.Tidy) (saved : Except StoreError Unit) (envelopes : List PaneEventEnvelope) :
    (∀ pane, Relation.ReflTransGen Notice.ReadStep (runtime.notice pane)
        ((runtime.applyPaneReads saved envelopes).2.notice pane)) ∧
      (runtime.applyPaneReads saved envelopes).2.notificationJobs = runtime.notificationJobs := by
  unfold applyPaneReads
  split_ifs
  · exact ⟨fun _ => .refl, rfl⟩
  · split
    · exact ⟨fun _ => .refl, rfl⟩
    · rename_i result working hdraft
      rcases commit_snd runtime _ with hsame | ⟨_, draft, hresult, hcommit⟩
      · rw [hsame]
        exact ⟨fun _ => .refl, rfl⟩
      · rw [hcommit]
        obtain rfl := readsSaved_draft hresult
        obtain ⟨read, hread, hsettle⟩ := bind_eq_ok.mp hdraft
        obtain ⟨settled, hsettled, hsettle⟩ := bind_pure_eq_ok.mp hsettle
        cases hsettle
        have hposted := settleProjection_posted (mapError_eq_ok.mp hsettled)
        have hthrough := readPanes_readThrough h htidy hread
        refine ⟨fun pane => ?_, (jobs_of_posted hposted).trans hthrough.jobs⟩
        rw [notice_of_posted hposted]
        exact hthrough.notices pane

/-! ## The other operations -/

theorem projectCurrentRun_notices (runtime : CanonicalStateRuntime)
    (saved : Except StoreError Unit) (pane : PaneInstance)
    (projection : CurrentDurableRunProjection) (executionActive : Bool) (observedAt : ℤ) :
    (∀ fresh other, Notice.Moves fresh (runtime.notice other)
        ((runtime.projectCurrentRun saved pane projection executionActive
          observedAt).2.notice other)) ∧
      (runtime.projectCurrentRun saved pane projection executionActive
        observedAt).2.notificationJobs = runtime.notificationJobs := by
  unfold projectCurrentRun
  rcases commit_snd runtime _ with hsame | ⟨_, draft, hresult, hcommit⟩
  · rw [hsame]
    exact ⟨fun _ _ => .same rfl, rfl⟩
  · rw [hcommit]
    obtain ⟨-, hresult⟩ := seq_eq_ok.mp hresult
    split at hresult
    · cases hresult
      exact ⟨fun _ _ => .same rfl, rfl⟩
    · rename_i current hcurrent
      obtain ⟨⟨candidate, changed⟩, hreconcile, hresult⟩ := bind_eq_ok.mp hresult
      cases changed with
      | false =>
        cases hresult
        exact ⟨fun _ _ => .same rfl, rfl⟩
      | true =>
        obtain ⟨published, hpublish, hresult⟩ := bind_eq_ok.mp hresult
        obtain ⟨-, hresult⟩ := seq_eq_ok.mp hresult
        cases hresult
        have hposted := publish_posted hpublish
        have hreconciled := mapError_eq_ok.mp hreconcile
        obtain ⟨-, -, hid, hrevision, -⟩ := PaneState.reconcileCurrentRun_changed hreconciled
        obtain ⟨hepoch, hblocked⟩ := PaneState.reconcileCurrentRun_blocked hreconciled
        refine ⟨fun fresh other => ?_, (jobs_of_posted hposted).trans rfl⟩
        rw [notice_of_posted hposted]
        simp only [notice, getElem?_insert]
        split_ifs with hother
        · subst hother
          exact .step (.projected current candidate hcurrent hid hepoch hrevision hblocked)
        · exact .same rfl

omit [Sha256] [ProjectionFrame] in
theorem forgetPane_notice (runtime : CanonicalStateRuntime) (pane other : PaneInstance) :
    (runtime.forgetPane pane).notice other =
      if other = pane then ⟨none, none⟩ else runtime.notice other := by
  simp only [forgetPane, notice, getElem?_erase]
  split_ifs <;> rfl

theorem removeAbsentPane_notices (runtime : CanonicalStateRuntime) (saved : Except StoreError Unit)
    (pane : PaneInstance) (expected : Option StoredStateDescriptor) :
    (∀ fresh other, Notice.Moves fresh (runtime.notice other)
        ((runtime.removeAbsentPane saved pane expected).2.notice other)) ∧
      (runtime.removeAbsentPane saved pane expected).2.notificationJobs =
        runtime.notificationJobs := by
  unfold removeAbsentPane
  rcases commit_snd runtime _ with hsame | ⟨_, draft, hresult, hcommit⟩
  · rw [hsame]
    exact ⟨fun _ _ => .same rfl, rfl⟩
  · rw [hcommit]
    obtain ⟨-, hresult⟩ := seq_eq_ok.mp hresult
    split_ifs at hresult
    · cases hresult
      exact ⟨fun _ _ => .same rfl, rfl⟩
    · obtain ⟨published, hpublish, hresult⟩ := bind_eq_ok.mp hresult
      obtain ⟨-, hresult⟩ := seq_eq_ok.mp hresult
      cases hresult
      have hposted := publish_posted hpublish
      refine ⟨fun fresh other => ?_, (jobs_of_posted hposted).trans rfl⟩
      rw [notice_of_posted hposted, forgetPane_notice]
      split_ifs with hother
      · exact .step .removed
      · exact .same rfl

omit [Sha256] [ProjectionFrame] in
theorem noteCodexBindingRejected_posted (runtime : CanonicalStateRuntime) (pane : PaneInstance)
    (expected : StateVersion) (process : AgentProcessIdentity) :
    (runtime.noteCodexBindingRejected pane expected process).2.posted = runtime.posted := by
  unfold noteCodexBindingRejected
  split
  · rfl
  · dsimp only
    split_ifs
    · rfl
    · refine commit_posted fun _ draft hresult => ?_
      obtain ⟨generation, -, hresult⟩ := bind_pure_eq_ok.mp hresult
      cases hresult
      rfl

theorem advancePollProjection_posted (runtime : CanonicalStateRuntime) :
    runtime.advancePollProjection.2.posted = runtime.posted := by
  refine commit_posted fun _ draft hresult => ?_
  obtain ⟨settled, hsettled, hresult⟩ := bind_pure_eq_ok.mp hresult
  cases hresult
  exact (settleProjection_posted hsettled).trans
    ((foldl_posted advanceFlash_posted _ _).trans (foldl_posted advanceTriage_posted _ _))

omit [Sha256] [ProjectionFrame] in
theorem expireScreenEvidence_posted (runtime : CanonicalStateRuntime) (now : ℤ) :
    (runtime.expireScreenEvidence now).2.posted = runtime.posted := by
  unfold expireScreenEvidence
  dsimp only
  split_ifs
  · rcases commit_snd _ _ with hsame | ⟨_, draft, hresult, hcommit⟩
    · rw [hsame]
      rfl
    · rw [hcommit]
      obtain ⟨bumped, hbumped, hresult⟩ := map_eq_ok.mp hresult
      cases hresult
      exact (bumpSnapshotRevision_posted hbumped).trans rfl
  · rfl

theorem addDiagnostic_posted (runtime : CanonicalStateRuntime) (pane : PaneInstance)
    (message : String) : (runtime.addDiagnostic pane message).2.posted = runtime.posted := by
  refine commit_posted fun _ draft hresult => ?_
  obtain ⟨published, hpublish, hresult⟩ := bind_pure_eq_ok.mp hresult
  cases hresult
  rw [publish_posted hpublish]
  simp only [posted]

theorem finishSequencedProjection_posted (runtime : CanonicalStateRuntime)
    (diagnosticPane : Option PaneInstance) (messages : List String) (projectionChanged : Bool)
    (revisionBefore : ℕ) :
    (runtime.finishSequencedProjection diagnosticPane messages projectionChanged
      revisionBefore).2.posted = runtime.posted := by
  refine commit_posted fun _ draft hresult => ?_
  obtain ⟨bumped, hbump, hresult⟩ := bind_eq_ok.mp hresult
  obtain ⟨-, hresult⟩ := seq_eq_ok.mp hresult
  have hbumped := bumpIf_posted hbump
  dsimp only at hresult
  split_ifs at hresult
  · obtain ⟨again, hagain, hresult⟩ := bind_eq_ok.mp hresult
    cases hresult
    rw [preflightProjection_posted, bumpSnapshotRevision_posted hagain, preflightProjection_posted,
      hbumped]
    simp only [posted]
  · cases hresult
    rw [preflightProjection_posted, hbumped]
    simp only [posted]

theorem markProjectionChanged_posted (runtime : CanonicalStateRuntime) :
    runtime.markProjectionChanged.2.posted = runtime.posted := by
  refine commit_posted fun _ draft hresult => ?_
  obtain ⟨published, hpublish, hresult⟩ := bind_pure_eq_ok.mp hresult
  cases hresult
  exact publish_posted hpublish

/-! ## All operations -/

/-- The notification an operation queues, given the runtime after it. -/
def enqueued (runtime : CanonicalStateRuntime) : Operation → CanonicalStateRuntime →
    List CanonicalNotification
  | .applyEvent _ envelope _ _ _, next =>
    newNotifications envelope.paneInstance runtime.records[envelope.paneInstance]?
      next.records[envelope.paneInstance]?
  | _, _ => []

theorem applyEvent_notices {runtime : CanonicalStateRuntime} (h : runtime.ledger.Sound)
    (htidy : runtime.Tidy) (saved : Except StoreError Unit) (envelope : PaneEventEnvelope)
    (visibility : VisibilitySnapshot) (privateTaskPrompt : Option String)
    (generated : Except String StateId) {fresh : StateId → Prop}
    (hfresh : ∀ stateId, generated = .ok stateId → fresh stateId) {next : CanonicalStateRuntime}
    (hnext : (runtime.applyEventWithPrivateTaskPrompt saved envelope visibility privateTaskPrompt
      generated).2 = next) :
    next.posted = runtime.posted ∨
      ∃ candidate, Noticed fresh runtime next envelope.paneInstance candidate := by
  rcases applyEvent_snd runtime saved envelope visibility privateTaskPrompt generated
    with hsame | hmemory
  · rw [← hnext, hsame]
    exact Or.inl rfl
  · rw [← hnext, hmemory]
    exact (applyEventInMemory_noticed h htidy envelope visibility privateTaskPrompt generated
      hfresh).imp_right fun ⟨candidate, hnoticed, _⟩ => ⟨candidate, hnoticed⟩

theorem perform_moves {runtime : CanonicalStateRuntime} (h : runtime.ledger.Sound)
    (htidy : runtime.Tidy) {operation : Operation} (hrestart : operation ≠ .restart)
    {fresh : StateId → Prop} (hfresh : ∀ stateId, operation.generates stateId → fresh stateId)
    (pane : PaneInstance) :
    Notice.Moves fresh (runtime.notice pane) ((runtime.perform operation).2.notice pane) := by
  cases operation with
  | applyEvent saved envelope visibility privateTaskPrompt generated =>
    rcases applyEvent_notices h htidy saved envelope visibility privateTaskPrompt generated hfresh
      rfl with hposted | ⟨candidate, hnoticed⟩
    · exact .same (notice_of_posted hposted pane)
    · exact (hnoticed.step pane).elim .same .step
  | applyPaneReads saved envelopes =>
    exact .reads ((applyPaneReads_readThrough h htidy saved envelopes).1 pane)
  | projectCurrentRun saved changed projection executionActive observedAt =>
    exact (runtime.projectCurrentRun_notices saved changed projection executionActive
      observedAt).1 fresh pane
  | removeAbsentPane saved changed expected =>
    exact (runtime.removeAbsentPane_notices saved changed expected).1 fresh pane
  | noteCodexBindingRejected changed expected process =>
    exact .same (notice_of_posted (runtime.noteCodexBindingRejected_posted _ _ _) pane)
  | advancePollProjection =>
    exact .same (notice_of_posted runtime.advancePollProjection_posted pane)
  | expireScreenEvidence now =>
    exact .same (notice_of_posted (runtime.expireScreenEvidence_posted now) pane)
  | addDiagnostic changed message =>
    exact .same (notice_of_posted (runtime.addDiagnostic_posted changed message) pane)
  | finishSequencedProjection diagnosticPane messages projectionChanged revisionBefore =>
    exact .same (notice_of_posted (runtime.finishSequencedProjection_posted _ _ _ _) pane)
  | markProjectionChanged =>
    exact .same (notice_of_posted runtime.markProjectionChanged_posted pane)
  | drainNotificationJobs => exact .same rfl
  | restart => exact absurd rfl hrestart

theorem perform_jobs {runtime : CanonicalStateRuntime} (h : runtime.ledger.Sound)
    (htidy : runtime.Tidy) {operation : Operation} (hrestart : operation ≠ .restart)
    (hdrain : operation ≠ .drainNotificationJobs) :
    (runtime.perform operation).2.notificationJobs = keepLast maxNotificationJobs
      (runtime.notificationJobs ++ runtime.enqueued operation (runtime.perform operation).2) := by
  have hsame {jobs : List CanonicalNotification} (hjobs : jobs = runtime.notificationJobs) :
      jobs = keepLast maxNotificationJobs (runtime.notificationJobs ++ []) := by
    rw [hjobs, List.append_nil, keepLast_of_length_le htidy.jobs]
  cases operation with
  | applyEvent saved envelope visibility privateTaskPrompt generated =>
    generalize hnext : (runtime.perform
      (.applyEvent saved envelope visibility privateTaskPrompt generated)).2 = next
    rcases applyEvent_notices h htidy saved envelope visibility privateTaskPrompt generated
      (fun _ hid => hid) hnext with hposted | ⟨candidate, hnoticed⟩
    · have hrecords : next.records = runtime.records := congrArg Prod.fst hposted
      rw [enqueued, hrecords, newNotifications_same]
      exact hsame (jobs_of_posted hposted)
    · have hrecord := congrArg Notice.record (hnoticed.notices envelope.paneInstance)
      rw [if_pos rfl] at hrecord
      rw [hnoticed.jobs, enqueued, show next.records[envelope.paneInstance]? = some candidate
        from hrecord]
  | applyPaneReads saved envelopes =>
    exact hsame (applyPaneReads_readThrough h htidy saved envelopes).2
  | projectCurrentRun saved pane projection executionActive observedAt =>
    exact hsame (runtime.projectCurrentRun_notices saved pane projection executionActive
      observedAt).2
  | removeAbsentPane saved pane expected =>
    exact hsame (runtime.removeAbsentPane_notices saved pane expected).2
  | noteCodexBindingRejected pane expected process =>
    exact hsame (jobs_of_posted (runtime.noteCodexBindingRejected_posted pane expected process))
  | advancePollProjection => exact hsame (jobs_of_posted runtime.advancePollProjection_posted)
  | expireScreenEvidence now =>
    exact hsame (jobs_of_posted (runtime.expireScreenEvidence_posted now))
  | addDiagnostic pane message =>
    exact hsame (jobs_of_posted (runtime.addDiagnostic_posted pane message))
  | finishSequencedProjection diagnosticPane messages projectionChanged revisionBefore =>
    exact hsame (jobs_of_posted (runtime.finishSequencedProjection_posted diagnosticPane messages
      projectionChanged revisionBefore))
  | markProjectionChanged => exact hsame (jobs_of_posted runtime.markProjectionChanged_posted)
  | drainNotificationJobs => exact absurd rfl hdrain
  | restart => exact absurd rfl hrestart

/-! ## Runs -/

theorem stretch_run {next later : CanonicalStateRuntime} {version : StateVersion}
    {pane : PaneInstance} {after : List (CanonicalStateRuntime × Operation)}
    (hsound : next.ledger.Sound) (htidy : next.Tidy)
    (hholds : Notice.Holds version (next.notice pane)) (hrun : Trace Step next after later)
    (hallowed : ∀ e ∈ after, e.2 ≠ .restart ∧
      ∀ stateId, e.2.generates stateId → stateId ≠ version.stateId) :
    (later.ledger.Sound ∧ later.Tidy) ∧
      (Notice.Holds version (later.notice pane) ∧
          (∀ r ∈ states after later, Notice.Blocked version r.records[pane]?) ∨
        Notice.Over version (later.notice pane) ∧
          ∃ r ∈ states after later, ¬Notice.Blocked version r.records[pane]?) := by
  induction hrun with
  | nil =>
    refine ⟨⟨hsound, htidy⟩, Or.inl ⟨hholds, fun r hr => ?_⟩⟩
    rw [List.mem_singleton.mp hr]
    exact hholds.blocked
  | @snoc past before later operation _ taken ih =>
    obtain ⟨⟨hrestart, hfresh⟩, hallowed⟩ := List.forall_mem_cons.mp hallowed
    obtain ⟨⟨hsound, htidy⟩, hstretch⟩ := ih hallowed
    have htaken : later = (before.perform operation).2 := taken
    have hmoves := perform_moves hsound htidy hrestart hfresh pane
    rw [← htaken] at hmoves
    refine ⟨⟨?_, ?_⟩, ?_⟩
    · rw [htaken]
      exact (perform_advances hsound operation).1
    · rw [htaken]
      exact htidy.perform operation
    · rcases hstretch with ⟨hholds, hall⟩ | ⟨hover, r, hr, hgone⟩
      · rcases hholds.moves hmoves with hholds | ⟨hover, hgone⟩
        · exact Or.inl ⟨hholds, List.forall_mem_cons.mpr ⟨hholds.blocked, hall⟩⟩
        · exact Or.inr ⟨hover, later, List.mem_cons_self, hgone⟩
      · exact Or.inr ⟨hover.moves hmoves, r, List.mem_cons_of_mem _ hr, hgone⟩

omit [Sha256] [ProjectionFrame] in
theorem notificationIsCurrent_iff {runtime : CanonicalStateRuntime}
    {notification : CanonicalNotification} :
    runtime.notificationIsCurrent notification = true ↔ runtime.failStopped = false ∧
      (runtime.notice notification.paneInstance).noticed = some notification.stateVersion ∧
      ∃ s, runtime.records[notification.paneInstance]? = some s ∧ s.agentPresent = true ∧
        s.stateId = notification.stateVersion.stateId ∧
        s.agentEpoch = notification.stateVersion.agentEpoch ∧ resolveBadge s = .blocked := by
  simp only [notificationIsCurrent, notice, Bool.and_eq_true, Bool.not_eq_true',
    decide_eq_true_eq, Option.any_eq_true, and_assoc]

omit [Sha256] [ProjectionFrame] in
theorem mem_newNotifications {pane : PaneInstance} {previous current : Option PaneState}
    {notification : CanonicalNotification}
    (h : notification ∈ newNotifications pane previous current) :
    ∃ s, current = some s ∧ recordBadge previous ≠ some .blocked ∧ resolveBadge s = .blocked ∧
      notification = ⟨pane, s.version⟩ := by
  rw [newNotifications, Option.mem_toList, Option.map_eq_some_iff] at h
  obtain ⟨s, hs, rfl⟩ := h
  obtain ⟨hcurrent, hnew⟩ := Option.filter_eq_some_iff.mp hs
  obtain ⟨hbefore, hblocked⟩ := of_decide_eq_true hnew
  exact ⟨s, hcurrent, hbefore, hblocked, rfl⟩

theorem enqueued_holds {runtime : CanonicalStateRuntime} (h : runtime.ledger.Sound)
    (htidy : runtime.Tidy) {operation : Operation} {notification : CanonicalNotification}
    (hqueued : notification ∈ runtime.enqueued operation (runtime.perform operation).2) :
    Notice.Holds notification.stateVersion
      ((runtime.perform operation).2.notice notification.paneInstance) := by
  cases operation with
  | applyEvent saved envelope visibility privateTaskPrompt generated =>
    generalize hnext : (runtime.perform
      (.applyEvent saved envelope visibility privateTaskPrompt generated)).2 = next at hqueued ⊢
    rw [enqueued] at hqueued
    rcases applyEvent_notices h htidy saved envelope visibility privateTaskPrompt generated
      (fun _ hid => hid) hnext with hposted | ⟨candidate, hnoticed⟩
    · have hrecords : next.records = runtime.records := congrArg Prod.fst hposted
      rw [hrecords, newNotifications_same] at hqueued
      cases hqueued
    · have hnotice := hnoticed.notices envelope.paneInstance
      rw [if_pos rfl] at hnotice
      obtain ⟨s, hs, hbefore, hblocked, rfl⟩ := mem_newNotifications hqueued
      have hcandidate : some candidate = some s := (congrArg Notice.record hnotice).symm.trans hs
      cases hcandidate
      dsimp only
      rw [hnotice, Notice.noticedAfter, if_pos ⟨hbefore, hblocked⟩]
      exact .begins hblocked
  | _ => cases hqueued

/-- However operations are interleaved after a hydration: an event after which a pane is blocked
that was not before it queues one notification with the new version, and nothing else queues any;
and until a restart, given that new records take other ids, a notification is current exactly when
the daemon runs, the agent is there, and the pane was blocked in that epoch in every state since. -/
theorem notification_current_iff {records : PaneMap PaneState}
    {hydrated runtime next : CanonicalStateRuntime}
    {before : List (CanonicalStateRuntime × Operation)} {operation : Operation}
    (hhydrate : hydrate records = .ok hydrated) (hrun : Trace Step hydrated before runtime)
    (hstep : Step runtime operation next) (hrestart : operation ≠ .restart) :
    (operation ≠ .drainNotificationJobs → next.notificationJobs =
      keepLast maxNotificationJobs (runtime.notificationJobs ++ runtime.enqueued operation next)) ∧
    ∀ notification ∈ runtime.enqueued operation next, ∀ after later, Trace Step next after later →
      (∀ e ∈ after, e.2 ≠ .restart ∧ ∀ stateId, e.2.generates stateId →
        stateId ≠ notification.stateVersion.stateId) →
      (later.notificationIsCurrent notification = true ↔ later.failStopped = false ∧
        (∃ s, later.records[notification.paneInstance]? = some s ∧ s.agentPresent = true) ∧
        ∀ r ∈ states after later,
          Notice.Blocked notification.stateVersion r.records[notification.paneInstance]?) := by
  have hsound := (run_advances (hydrate_sound hhydrate) hrun).1
  have htidy := run_tidy (hydrate_tidy hhydrate) hrun
  have hnext : next = (runtime.perform operation).2 := hstep
  subst hnext
  refine ⟨perform_jobs hsound htidy hrestart, ?_⟩
  intro notification hqueued after later hlater hallowed
  have hstretch := (stretch_run (perform_advances hsound operation).1 (htidy.perform operation)
    (enqueued_holds hsound htidy hqueued) hlater hallowed).2
  rw [notificationIsCurrent_iff]
  refine and_congr_right fun _ => ⟨?_, ?_⟩
  · rintro ⟨hnoticed, s, hs, hpresent, -, -, hblocked⟩
    refine ⟨⟨s, hs, hpresent⟩, ?_⟩
    rcases hstretch with ⟨-, hall⟩ | ⟨hover, -⟩
    · exact hall
    · refine absurd ?_ (hover.quiet hnoticed)
      rw [show (later.notice notification.paneInstance).record = some s from hs]
      exact congrArg some hblocked
  · rintro ⟨⟨s, hs, hpresent⟩, hall⟩
    rcases hstretch with ⟨hholds, -⟩ | ⟨-, r, hr, hgone⟩
    · obtain ⟨s', hs', hid, hepoch, hblocked⟩ := hholds.blocked
      have hsame : some s = some s' := hs.symm.trans hs'
      cases hsame
      exact ⟨hholds.noticed, s, hs, hpresent, hid, hepoch, hblocked⟩
    · exact absurd (hall r hr) hgone

end

set_option maxRecDepth 20000 in
theorem notification_current_iff_failed :
    let _ := Sha256.constant
    let _ : ProjectionFrame := ⟨fun _ _ _ _ => 0⟩
    let next := (({} : CanonicalStateRuntime).perform (.applyEvent (.ok ())
      (claudeEnvelope (.failRun 5 none)) {} none (.ok ⟨"state"⟩))).2
    let notification : CanonicalNotification := ⟨claudePane, ⟨⟨"state"⟩, 1, 1⟩⟩
    next.notificationJobs = [notification] ∧
      ((next.perform .advancePollProjection).2.notificationIsCurrent notification = true ↔
        (next.perform .advancePollProjection).2.failStopped = false ∧
        (∃ s, (next.perform .advancePollProjection).2.records[claudePane]? = some s ∧
          s.agentPresent = true) ∧
        ∀ r ∈ [(next.perform .advancePollProjection).2, next],
          Notice.Blocked notification.stateVersion r.records[claudePane]?) := by
  let _ := Sha256.constant
  let _ : ProjectionFrame := ⟨fun _ _ _ _ => 0⟩
  have hempty : hydrate ∅ = .ok {} := rfl
  have hstep : Step ({} : CanonicalStateRuntime) (.applyEvent (.ok ())
    (claudeEnvelope (.failRun 5 none)) {} none (.ok ⟨"state"⟩)) _ := rfl
  obtain ⟨hjobs, hcurrent⟩ := notification_current_iff hempty .nil hstep (by intro h; cases h)
  refine ⟨(hjobs (by intro h; cases h)).trans rfl, ?_⟩
  refine hcurrent ⟨claudePane, ⟨⟨"state"⟩, 1, 1⟩⟩ (List.mem_singleton.mpr rfl) _ _
    (Trace.nil.snoc rfl) ?_
  intro e he
  cases List.mem_singleton.mp he
  refine ⟨?_, ?_⟩
  · intro h
    cases h
  · intro _ h
    cases h

end CanonicalStateRuntime
end VdeTmux.Pane
