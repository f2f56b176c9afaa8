import VdeTmux.Pane.UnreadRuns

/-!
# Observations of a frozen state

An observation names the version and the tracker generation of the state it was taken from. The
pair never comes back: it is either still the state it was, but for screen evidence that has
expired since, or it is gone for good and the observation changes nothing.
-/

open Foundation Foundation.Text
namespace VdeTmux.Pane

/-- The tracker is what it was, or its screen evidence has expired since. -/
def SameEvidence (tracker tracker' : CaptureTrackerSnapshot) : Prop :=
  tracker' = tracker ∨ tracker.codexScreen.isSome = true ∧ tracker' = { tracker with
    codexScreen := none
    codexScreenExpiredAt := tracker.codexScreen.map (·.2) }

theorem SameEvidence.refl (tracker : CaptureTrackerSnapshot) : SameEvidence tracker tracker :=
  Or.inl rfl

theorem SameEvidence.generation {t t' : CaptureTrackerSnapshot} (h : SameEvidence t t') :
    t'.generation = t.generation := by
  rcases h with rfl | ⟨-, rfl⟩
  · rfl
  · rfl

theorem SameEvidence.trans {t t' t'' : CaptureTrackerSnapshot} (h : SameEvidence t t')
    (h' : SameEvidence t' t'') : SameEvidence t t'' := by
  rcases h' with rfl | ⟨hscreen, hexpired⟩
  · exact h
  · rcases h with rfl | ⟨-, rfl⟩
    · exact Or.inr ⟨hscreen, hexpired⟩
    · cases hscreen

/-- The pane some steps after it was frozen with the record `s`. -/
inductive Since (s : PaneState) (tracker : CaptureTrackerSnapshot) (cell : Cell) : Prop
  | gone (record : ∀ s', cell.record = some s' → s'.stateId ≠ s.stateId)
  | later (s' : PaneState) (record : cell.record = some s') (stateId : s'.stateId = s.stateId)
      (revision : s.revision ≤ s'.revision) (generation : tracker.generation ≤ cell.tracker.generation)
      (same : s'.revision = s.revision → s' = s)
      (evidence : s'.revision = s.revision → cell.tracker.generation = tracker.generation →
        SameEvidence tracker cell.tracker)

structure Forward (cell cell' : Cell) (s' : PaneState) : Prop where
  revision : ∀ s, cell.record = some s → s.revision ≤ s'.revision
  generation : cell.tracker.generation ≤ cell'.tracker.generation
  same : ∀ s, cell.record = some s → s'.revision = s.revision → s' = s
  evidence : ∀ s, cell.record = some s → s'.revision = s.revision →
    cell'.tracker.generation = cell.tracker.generation → SameEvidence cell.tracker cell'.tracker

theorem Since.forward {s s₁ s' : PaneState} {tracker : CaptureTrackerSnapshot} {cell cell' : Cell}
    (h : Since s tracker cell) (hrecord : cell.record = some s₁) (hrecord' : cell'.record = some s')
    (hid : s'.stateId = s₁.stateId) (hforward : Forward cell cell' s') :
    Since s tracker cell' := by
  cases h with
  | gone record =>
    refine .gone fun s'' hs'' => ?_
    rw [hrecord'] at hs''
    cases hs''
    exact hid ▸ record s₁ hrecord
  | later s₂ record stateId revision generation same evidence =>
    rw [hrecord] at record
    cases record
    have hrevision := hforward.revision s₁ hrecord
    have hgeneration := hforward.generation
    refine .later s' hrecord' (hid.trans stateId) (revision.trans hrevision)
      (generation.trans hgeneration) ?_ ?_
    · intro heq
      have hold : s₁.revision = s.revision := by omega
      exact (hforward.same s₁ hrecord (by omega)).trans (same hold)
    · intro heq hsame
      have hold : s₁.revision = s.revision := by omega
      exact (evidence hold (by omega)).trans (hforward.evidence s₁ hrecord (by omega) (by omega))

section
variable [Sha256]

omit [Sha256] in
theorem markDone_ne {s s' : PaneState} {completedAt : ℤ} (h : markDone s completedAt = .ok s') :
    s' ≠ s := by
  obtain ⟨hseq, hframe, -⟩ := markDone_spec h
  rintro rfl
  have hcompleted : s'.completedSeq = s'.runSeq := by
    rw [hframe]
  omega

theorem Finished.evidence {s s' : PaneState} {envelope : PaneEventEnvelope}
    {context : ReductionContext} {tracker : CaptureTrackerSnapshot}
    {previous : Option CaptureTrackerSnapshot}
    (h : Finished s envelope context s' tracker previous) (hkept : s' = s)
    (hsame : tracker.generation = context.tracker.generation) : tracker = context.tracker := by
  have hgeneration := h.generation
  cases h with
  | read throughOrder event record next => exact next
  | summary expectedStateId expectedAgentEpoch summary event valid record next => exact next
  | done expected completedAt event version record next => exact absurd hkept (markDone_ne record)
  | observation base trackerGeneration observedAt presence capture process event current generation
      s₁ tracker₁ observed record next =>
    rcases hgeneration with ⟨-, -, hnone | ⟨_, _, hdone⟩⟩ | ⟨hnext, -⟩
    · cases hnone
    · rw [event] at hdone
      cases hdone
    · omega
  | _ =>
    rcases hgeneration with ⟨-, hinternal, hnone | ⟨_, _, hdone⟩⟩ | ⟨hnext, -⟩
    · cases hnone
    · simp_all [PaneEvent.isExternal]
    · omega

theorem reduce_tracker {s : PaneState} {envelope : PaneEventEnvelope} {context : ReductionContext}
    {r : Reduction} (h : reduce (some s) envelope context = .ok r) :
    context.tracker.generation ≤ (context.tracker.after r.trackerDelta).generation ∧
      (r.outcome ≠ .canonicalChanged →
        (context.tracker.after r.trackerDelta).generation = context.tracker.generation →
          context.tracker.after r.trackerDelta = context.tracker) := by
  obtain ⟨-, -, rfl | ⟨-, s₁, tracker, previous, hdispatch, hsettled⟩⟩ := reduce_eq_ok h
  · exact ⟨le_rfl, fun _ _ => rfl⟩
  · have hfinished := dispatch_finished hdispatch
    rw [hsettled.trackerDelta_eq, hfinished.after]
    refine ⟨?_, fun houtcome hsame => ?_⟩
    · rcases hfinished.generation with ⟨hsame, -⟩ | ⟨hnext, -⟩
      · exact hsame.ge
      · omega
    · cases hsettled with
      | same record result => exact hfinished.evidence (Option.some.inj record).symm hsame
      | changed differs revision next valid s' unread result =>
        rw [result] at houtcome
        exact absurd rfl houtcome

theorem Cell.next_forward {cell : Cell} {input : Input} {s : PaneState} {r : Reduction}
    (hs : Counted s) (hrecord : cell.record = some s) (h : cell.reduce input = .ok r) :
    ∃ s', (cell.next input).record = some s' ∧ s'.stateId = s.stateId ∧
      Forward cell (cell.next input) s' := by
  have hnext : cell.next input = ⟨r.record, cell.tracker.after r.trackerDelta⟩ := by
    simp only [Cell.next, h]
  rw [hnext]
  rw [Cell.reduce, hrecord] at h
  obtain ⟨s', hs', hversion, hcases⟩ := reduce_some hs h
  obtain ⟨hgeneration, hevidence⟩ := reduce_tracker h
  have hrevision : s' = s ∨ s'.revision = s.revision + 1 := by
    rcases hcases with ⟨-, hsucc⟩ | ⟨-, hsame⟩
    · exact Or.inr hsucc
    · exact Or.inl hsame
  refine ⟨s', hs', hversion.stateId, ⟨?_, hgeneration, ?_, ?_⟩⟩
  · rintro s₀ hs₀
    rw [hrecord] at hs₀
    cases hs₀
    rcases hrevision with rfl | hsucc
    · exact le_rfl
    · omega
  · rintro s₀ hs₀ heq
    rw [hrecord] at hs₀
    cases hs₀
    rcases hrevision with rfl | hsucc
    · rfl
    · omega
  · intro s₀ hs₀ heq hsame
    rw [hrecord] at hs₀
    cases hs₀
    rcases hcases with ⟨-, hsucc⟩ | ⟨houtcome, -⟩
    · omega
    · exact Or.inl (hevidence houtcome hsame)

theorem Since.step {s : PaneState} {tracker : CaptureTrackerSnapshot} {pane : PaneInstance}
    {ledger ledger' : Ledger} (h : Since s tracker (ledger.cell pane)) (hsound : ledger.Sound)
    (hstep : Ledger.Step (fun stateId => stateId ≠ s.stateId) ledger ledger') :
    Since s tracker (ledger'.cell pane) := by
  have hother {changed : PaneInstance} {cell : Cell}
      (hcell : changed = pane → Since s tracker cell) :
      Since s tracker ((ledger.set changed cell).cell pane) := by
    by_cases hsame : pane = changed
    · subst hsame
      rw [Ledger.set_cell_same]
      exact hcell rfl
    · rw [Ledger.set_cell_of_ne hsame]
      exact h
  cases hstep with
  | tracked input r order reduced outcome =>
    refine hother fun hpane => ?_
    rw [hpane] at reduced ⊢
    cases hrecord : (ledger.cell pane).record with
    | none =>
      refine .gone fun s' hs' => ?_
      have hnone : ((ledger.cell pane).next input).record = none := by
        simp only [Cell.next, reduced]
        exact (reduce_kept reduced outcome).trans hrecord
      rw [hnone] at hs'
      cases hs'
    | some s₁ =>
      have hcounted := (hsound.records pane s₁ hrecord).2.counted
      obtain ⟨s', hs', hid, hforward⟩ := Cell.next_forward hcounted hrecord reduced
      exact h.forward hrecord hs' hid hforward
  | changed input r candidate order reduced outcome record newId =>
    refine hother fun hpane => ?_
    rw [hpane] at reduced ⊢
    cases hrecord : (ledger.cell pane).record with
    | none =>
      have hreduced := reduce_reduced (fun s hs => (hsound.records _ s hs).2) reduced outcome record
      refine .gone fun s' hs' => ?_
      have hcandidate : ((ledger.cell pane).next input).record = some candidate := by
        simp only [Cell.next, reduced]
        exact record
      rw [hcandidate] at hs'
      cases hs'
      exact newId _ (hreduced.fresh hrecord)
    | some s₁ =>
      have hcounted := (hsound.records pane s₁ hrecord).2.counted
      obtain ⟨s', hs', hid, hforward⟩ := Cell.next_forward hcounted hrecord reduced
      exact h.forward hrecord hs' hid hforward
  | projected changed current candidate projection executionActive observedAt existing reconciled =>
    refine hother fun hpane => ?_
    subst hpane
    obtain ⟨-, -, hid, hrevision, -⟩ := PaneState.reconcileCurrentRun_changed reconciled
    refine h.forward existing rfl hid ⟨?_, le_rfl, ?_, ?_⟩
    all_goals
      intro s₀ hs₀
      rw [existing] at hs₀
      cases hs₀
      omega
  | noted changed record process existing =>
    refine hother fun hpane => ?_
    subst hpane
    refine h.forward existing rfl rfl ⟨?_, Nat.le_succ _, ?_, ?_⟩
    all_goals
      intro s₀ hs₀
      rw [existing] at hs₀
      cases hs₀
    · exact le_rfl
    · exact fun _ => rfl
    · intro _ hsame
      exact absurd hsame (Nat.succ_ne_self _)
  | removed changed =>
    refine hother fun _ => .gone fun s' hs' => ?_
    cases hs'

theorem Since.steps {s : PaneState} {tracker : CaptureTrackerSnapshot} {pane : PaneInstance}
    {ledger ledger' : Ledger} (h : Since s tracker (ledger.cell pane)) (hsound : ledger.Sound)
    (hsteps : CanonicalStateRuntime.LedgerSteps (fun stateId => stateId ≠ s.stateId) ledger ledger') :
    Since s tracker (ledger'.cell pane) := by
  have hrun : Since s tracker (ledger'.cell pane) ∧ ledger'.Sound := by
    induction hsteps with
    | refl => exact ⟨h, hsound⟩
    | tail _ hstep ih => exact ⟨ih.1.step ih.2 hstep, hstep.sound ih.2⟩
  exact hrun.1

end

namespace CanonicalStateRuntime

theorem expireScreen_evidence (now : ℤ) (tracker : CaptureTrackerSnapshot) :
    SameEvidence tracker (expireScreen now tracker) := by
  unfold expireScreen
  split_ifs with hexpired
  · exact Or.inr ⟨Option.isSome_of_any hexpired, rfl⟩
  · exact .refl _

theorem expireScreenEvidence_cell (runtime : CanonicalStateRuntime) (now : ℤ)
    (pane : PaneInstance) : (runtime.expireScreenEvidence now).2.cell pane =
      ⟨runtime.records[pane]?, expireScreen now (runtime.tracker pane)⟩ := by
  have hcell : ({ runtime with trackers := runtime.trackers.map fun _ => expireScreen now } :
      CanonicalStateRuntime).cell pane =
      ⟨runtime.records[pane]?, expireScreen now (runtime.tracker pane)⟩ := by
    simp only [cell, tracker, Std.ExtTreeMap.getElem?_map, Cell.mk.injEq, true_and]
    cases runtime.trackers[pane]? with
    | none => rfl
    | some tracker => rfl
  unfold expireScreenEvidence
  dsimp only
  split_ifs
  · rcases commit_snd _ _ with hsame | ⟨_, draft, hresult, hcommit⟩
    · rw [hsame]
      exact hcell
    · rw [hcommit]
      obtain ⟨bumped, hbumped, hresult⟩ := map_eq_ok.mp hresult
      cases hresult
      have hledger := ledger_of_core (bumpSnapshotRevision_core hbumped)
      exact (congrArg (fun ledger : Ledger => ledger.cell pane) hledger).trans hcell
  · exact hcell

section
variable [Sha256] [ProjectionFrame]

theorem since_perform {runtime : CanonicalStateRuntime} {s : PaneState}
    {tracker : CaptureTrackerSnapshot} {pane : PaneInstance}
    (h : Since s tracker (runtime.cell pane)) (hsound : runtime.ledger.Sound)
    {operation : Operation} (hrestart : operation ≠ .restart)
    (hfresh : ∀ stateId, operation.generates stateId → stateId ≠ s.stateId) :
    Since s tracker ((runtime.perform operation).2.cell pane) := by
  cases hresets : operation.resets with
  | false => exact h.steps hsound (perform_steps runtime hresets hfresh)
  | true =>
    cases operation with
    | expireScreenEvidence now =>
      have hcell : (runtime.perform (.expireScreenEvidence now)).2.cell pane =
          ⟨runtime.records[pane]?, expireScreen now (runtime.tracker pane)⟩ :=
        runtime.expireScreenEvidence_cell now pane
      have hevidence := expireScreen_evidence now (runtime.tracker pane)
      have hgeneration : (expireScreen now (runtime.tracker pane)).generation =
          (runtime.tracker pane).generation := hevidence.generation
      rw [hcell]
      cases h with
      | gone record => exact .gone record
      | later s' record stateId revision generation same evidence =>
        refine .later s' record stateId revision (generation.trans hgeneration.ge) same ?_
        intro heq hsame
        exact (evidence heq (hgeneration.symm.trans hsame)).trans hevidence
    | restart => exact absurd rfl hrestart
    | _ => cases hresets

theorem since_run {runtime later : CanonicalStateRuntime} {s : PaneState} {pane : PaneInstance}
    {past : List (CanonicalStateRuntime × Operation)} (hsound : runtime.ledger.Sound)
    (hrecord : runtime.records[pane]? = some s) (hrun : Trace Step runtime past later)
    (hallowed : ∀ e ∈ past, e.2 ≠ .restart ∧ ∀ stateId, e.2.generates stateId → stateId ≠ s.stateId) :
    Since s (runtime.tracker pane) (later.cell pane) := by
  have hstart : runtime.ledger.Sound ∧ Since s (runtime.tracker pane) (runtime.cell pane) :=
    ⟨hsound, .later s hrecord rfl le_rfl le_rfl (fun _ => rfl) fun _ _ => .refl _⟩
  refine (hrun.invariant_of (I := fun runtime' => runtime'.ledger.Sound ∧
      Since s (runtime.tracker pane) (runtime'.cell pane)) (fun _ operation => operation ≠ .restart ∧
      ∀ stateId, operation.generates stateId → stateId ≠ s.stateId) hstart hallowed ?_).2
  rintro before operation _ ⟨hsound, hsince⟩ ⟨hrestart, hfresh⟩ rfl
  exact ⟨(perform_advances hsound operation).1, since_perform hsince hsound hrestart hfresh⟩

omit [ProjectionFrame] in
theorem reduce_stale {current : Option PaneState} {envelope : PaneEventEnvelope}
    {context : ReductionContext} {r : Reduction} {base : Option StoredStateDescriptor}
    {trackerGeneration : ℕ} {observedAt : ℤ} {presence : AgentPresenceObservation}
    {capture : Option CaptureObservation} {process : Option ProcessObservation}
    (hevent : envelope.event =
      .observationBatch base trackerGeneration observedAt presence capture process)
    (hstale : base ≠ observedDescriptor current ∨ trackerGeneration ≠ context.tracker.generation)
    (h : reduce current envelope context = .ok r) : r = .unchanged current := by
  obtain ⟨-, -, hsame | ⟨-, s, tracker, previous, hdispatch, -⟩⟩ := reduce_eq_ok h
  · exact hsame
  · simp only [dispatch, hevent, reduceObservation, if_pos hstale] at hdispatch
    cases hdispatch

theorem applyEventInMemory_stale {runtime : CanonicalStateRuntime} {envelope : PaneEventEnvelope}
    {base : Option StoredStateDescriptor} {trackerGeneration : ℕ} {observedAt : ℤ}
    {presence : AgentPresenceObservation} {capture : Option CaptureObservation}
    {process : Option ProcessObservation}
    (hevent : envelope.event =
      .observationBatch base trackerGeneration observedAt presence capture process)
    (hstale : base ≠ runtime.descriptor envelope.paneInstance ∨
      trackerGeneration ≠ (runtime.tracker envelope.paneInstance).generation)
    (visibility : VisibilitySnapshot) (privateTaskPrompt : Option String)
    (generated : Except String StateId) :
    (runtime.applyEventInMemory envelope visibility privateTaskPrompt generated).2 = runtime ∧
      ∀ result, (runtime.applyEventInMemory envelope visibility privateTaskPrompt generated).1 =
        .ok result → result.outcome = .noop := by
  unfold applyEventInMemory
  split
  · exact ⟨rfl, nofun⟩
  · split
    · exact ⟨rfl, nofun⟩
    · rename_i r hreduce
      have hsame : r = .unchanged runtime.records[envelope.paneInstance]? := by
        refine reduce_stale hevent ?_ hreduce
        exact hstale
      rw [hsame]
      refine ⟨rfl, ?_⟩
      intro result hresult
      cases hresult
      rfl

theorem applyEvent_stale {runtime : CanonicalStateRuntime} {envelope : PaneEventEnvelope}
    {base : Option StoredStateDescriptor} {trackerGeneration : ℕ} {observedAt : ℤ}
    {presence : AgentPresenceObservation} {capture : Option CaptureObservation}
    {process : Option ProcessObservation}
    (hevent : envelope.event =
      .observationBatch base trackerGeneration observedAt presence capture process)
    (hstale : base ≠ runtime.descriptor envelope.paneInstance ∨
      trackerGeneration ≠ (runtime.tracker envelope.paneInstance).generation)
    (saved : Except StoreError Unit) (visibility : VisibilitySnapshot)
    (generated : Except String StateId) :
    (runtime.applyEvent saved envelope visibility generated).2 = runtime ∧
      ∀ result, (runtime.applyEvent saved envelope visibility generated).1 = .ok result →
        result.outcome = .noop := by
  obtain ⟨hkept, hnoop⟩ := applyEventInMemory_stale hevent hstale visibility none generated
  unfold applyEvent applyEventWithPrivateTaskPrompt
  cases hstop : runtime.failStopped with
  | true => exact ⟨rfl, nofun⟩
  | false =>
    generalize hpair : runtime.applyEventInMemory envelope visibility none generated = pair
    rw [hpair] at hkept hnoop
    obtain ⟨outcome, draft⟩ := pair
    cases outcome with
    | error e => exact ⟨rfl, nofun⟩
    | ok result =>
      have hresult := hnoop result rfl
      obtain rfl : draft = runtime := hkept
      simp only [refuse, Bool.false_eq_true, if_false, bind, Except.bind, hresult, reduceCtorEq, commit, pure, Except.pure]
      refine ⟨trivial, ?_⟩
      intro result' hresult'
      cases hresult'
      exact hresult

/-- Whatever happens between freezing a pane and its observation, short of a restart and given
that new records take other ids: either the pane is still what it was frozen as, or the
observation changes nothing at all. -/
theorem frozen_observation {records : PaneMap PaneState}
    {hydrated runtime later : CanonicalStateRuntime}
    {before after : List (CanonicalStateRuntime × Operation)}
    (hhydrate : hydrate records = .ok hydrated) (hrun : Trace Step hydrated before runtime)
    {panes : List PaneInstance} {snapshot : ObservationDispatchSnapshot}
    (hfrozen : snapshot ∈ runtime.freezeObservationDispatch panes) {s : PaneState}
    (hstate : snapshot.state = some s) (hlater : Trace Step runtime after later)
    (hallowed : ∀ e ∈ after, e.2 ≠ .restart ∧ ∀ stateId, e.2.generates stateId → stateId ≠ s.stateId)
    {envelope : PaneEventEnvelope} {observedAt : ℤ} {presence : AgentPresenceObservation}
    {capture : Option CaptureObservation} {process : Option ProcessObservation}
    (hpane : envelope.paneInstance = snapshot.paneInstance)
    (hevent : envelope.event = .observationBatch snapshot.base snapshot.tracker.generation
      observedAt presence capture process) :
    (later.records[snapshot.paneInstance]? = snapshot.state ∧
      SameEvidence snapshot.tracker (later.tracker snapshot.paneInstance)) ∨
    ∀ saved visibility generated,
      (later.applyEvent saved envelope visibility generated).2 = later ∧
      ∀ result, (later.applyEvent saved envelope visibility generated).1 = .ok result →
        result.outcome = .noop := by
  obtain ⟨pane, -, rfl⟩ := List.mem_map.mp (List.mem_mergeSort.mp hfrozen)
  have hrecord : runtime.records[pane]? = some s := hstate
  have hname : envelope.paneInstance = pane := hpane
  have hsound := (run_advances (hydrate_sound hhydrate) hrun).1
  have hdescriptor : runtime.descriptor pane = some (.canonical s.version) := by
    simp only [descriptor, observedDescriptor, hrecord, Option.map_some]
  have hstale : runtime.descriptor pane ≠ later.descriptor pane ∨
      (runtime.tracker pane).generation ≠ (later.tracker pane).generation →
      ∀ saved visibility generated,
        (later.applyEvent saved envelope visibility generated).2 = later ∧
        ∀ result, (later.applyEvent saved envelope visibility generated).1 = .ok result →
          result.outcome = .noop := by
    intro hdiffers
    refine applyEvent_stale hevent ?_
    rw [hname]
    exact hdiffers
  cases since_run hsound hrecord hlater hallowed with
  | gone record =>
    refine Or.inr (hstale (Or.inl ?_))
    intro heq
    rw [hdescriptor] at heq
    cases hnow : later.records[pane]? with
    | none => simp [descriptor, observedDescriptor, hnow] at heq
    | some s' =>
      simp only [descriptor, observedDescriptor, hnow, Option.map_some, Option.some.injEq,
        StoredStateDescriptor.canonical.injEq] at heq
      exact record s' hnow (congrArg StateVersion.stateId heq).symm
  | later s' record stateId revision generation same evidence =>
    by_cases hrevision : s'.revision = s.revision
    · by_cases hgeneration : (later.tracker pane).generation = (runtime.tracker pane).generation
      · have hsame := same hrevision
        subst hsame
        exact Or.inl ⟨record.trans hrecord.symm, evidence hrevision hgeneration⟩
      · exact Or.inr (hstale (Or.inr fun heq => hgeneration heq.symm))
    · refine Or.inr (hstale (Or.inl fun heq => hrevision ?_))
      have hnow : later.records[pane]? = some s' := record
      rw [hdescriptor] at heq
      simp only [descriptor, observedDescriptor, hnow, Option.map_some, Option.some.injEq,
        StoredStateDescriptor.canonical.injEq] at heq
      exact (congrArg StateVersion.revision heq).symm

end

/-- A pane that is frozen, active meanwhile, and observed as absent. -/
theorem frozen_observation_active :
    let _ := Sha256.constant
    let _ : ProjectionFrame := ⟨fun _ _ _ _ => 0⟩
    ∃ runtime : CanonicalStateRuntime,
      hydrate ((∅ : PaneMap PaneState).insert claudePane claudeRecord) = .ok runtime ∧
      let later := (runtime.perform
        (.applyEvent (.ok ()) (claudeEnvelope (.activityObserved 5)) {} none (.error ""))).2
      let snapshot := runtime.freezeObservation claudePane
      (later.records[claudePane]? = some claudeRecord ∧
        SameEvidence snapshot.tracker (later.tracker claudePane)) ∨
      (later.applyEvent (.ok ()) (claudeEnvelope (.observationBatch snapshot.base
        snapshot.tracker.generation 6 .absent none none)) {} (.error "")).2 = later := by
  let _ := Sha256.constant
  let _ : ProjectionFrame := ⟨fun _ _ _ _ => 0⟩
  obtain ⟨runtime, hhydrate⟩ : ∃ runtime,
      hydrate ((∅ : PaneMap PaneState).insert claudePane claudeRecord) = .ok runtime := ⟨_, rfl⟩
  have hrecord : runtime.records[claudePane]? = some claudeRecord := by
    rw [(hydrate_ok hhydrate).1]
    simp
  have hfrozen : runtime.freezeObservation claudePane ∈
      runtime.freezeObservationDispatch [claudePane] :=
    List.mem_mergeSort.mpr (List.mem_map.mpr ⟨claudePane, List.mem_singleton_self _, rfl⟩)
  refine ⟨runtime, hhydrate, ?_⟩
  refine (frozen_observation hhydrate .nil hfrozen hrecord (Trace.nil.snoc rfl) ?_ rfl rfl).imp
    (fun h => ⟨h.1.trans hrecord, h.2⟩) fun h => (h (.ok ()) {} (.error "")).1
  intro e he
  cases List.mem_singleton.mp he
  exact ⟨nofun, nofun⟩

end CanonicalStateRuntime
end VdeTmux.Pane
