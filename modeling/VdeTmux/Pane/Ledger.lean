import Mathlib.Logic.Relation
import VdeTmux.Pane.Operations

/-!
# The ledger of all panes

What decides about events: the record and the tracker of every pane and the last unread order.
Every operation of the runtime is a sequence of ledger steps; everything else it changes is
projected from them.
-/

open Foundation Foundation.Text
namespace VdeTmux.Pane

theorem getElem?_insert {α : Type} (m : PaneMap α) (p q : PaneInstance) (a : α) :
    (m.insert p a)[q]? = if q = p then some a else m[q]? := by
  simp only [Std.ExtTreeMap.getElem?_insert, Std.LawfulEqCmp.compare_eq_iff_eq, @eq_comm _ p q]

theorem getElem?_erase {α : Type} (m : PaneMap α) (p q : PaneInstance) :
    (m.erase p)[q]? = if q = p then none else m[q]? := by
  simp only [Std.ExtTreeMap.getElem?_erase, Std.LawfulEqCmp.compare_eq_iff_eq, @eq_comm _ p q]

structure Ledger where
  cell : PaneInstance → Cell
  order : ℕ

def CanonicalStateRuntime.ledger (runtime : CanonicalStateRuntime) : Ledger :=
  ⟨runtime.cell, runtime.latestUnreadOrder⟩

namespace Ledger

def set (ledger : Ledger) (pane : PaneInstance) (cell : Cell) : Ledger :=
  { ledger with cell := Function.update ledger.cell pane cell }

@[simp] theorem set_cell_same (ledger : Ledger) (pane : PaneInstance) (cell : Cell) :
    (ledger.set pane cell).cell pane = cell := Function.update_self ..

theorem set_cell_of_ne {ledger : Ledger} {pane other : PaneInstance} {cell : Cell}
    (h : other ≠ pane) : (ledger.set pane cell).cell other = ledger.cell other :=
  Function.update_of_ne h ..

def rejectedTracker (tracker : CaptureTrackerSnapshot) (record : PaneState)
    (process : AgentProcessIdentity) : CaptureTrackerSnapshot :=
  { tracker with
    generation := tracker.generation + 1
    epoch := some (record.stateId, record.agentEpoch)
    codexBindingRejected := some ⟨record.stateId, record.agentEpoch, process⟩ }

/-- One change of the ledger. New records take an id that satisfies `fresh`. -/
inductive Step [Sha256] (fresh : StateId → Prop) (ledger : Ledger) : Ledger → Prop
  | tracked (input : Input) (r : Reduction) (order : input.latestUnreadOrder = ledger.order)
      (reduced : (ledger.cell input.envelope.paneInstance).reduce input = .ok r)
      (outcome : r.outcome ≠ .canonicalChanged) :
      Step fresh ledger (ledger.set input.envelope.paneInstance
        ((ledger.cell input.envelope.paneInstance).next input))
  | changed (input : Input) (r : Reduction) (candidate : PaneState)
      (order : input.latestUnreadOrder = ledger.order)
      (reduced : (ledger.cell input.envelope.paneInstance).reduce input = .ok r)
      (outcome : r.outcome = .canonicalChanged) (record : r.record = some candidate)
      (newId : ∀ stateId ∈ input.newStateId, fresh stateId) :
      Step fresh ledger { ledger.set input.envelope.paneInstance
          ((ledger.cell input.envelope.paneInstance).next input) with
        order := max ledger.order candidate.unread.latestOrder }
  | projected (pane : PaneInstance) (current candidate : PaneState)
      (projection : CurrentDurableRunProjection) (executionActive : Bool) (observedAt : ℤ)
      (existing : (ledger.cell pane).record = some current)
      (reconciled : current.reconcileCurrentRun projection executionActive observedAt
        ledger.order = .ok (candidate, true)) :
      Step fresh ledger { ledger.set pane ⟨some candidate, (ledger.cell pane).tracker⟩ with
        order := max ledger.order candidate.unread.latestOrder }
  | noted (pane : PaneInstance) (record : PaneState) (process : AgentProcessIdentity)
      (existing : (ledger.cell pane).record = some record) :
      Step fresh ledger (ledger.set pane
        ⟨some record, rejectedTracker (ledger.cell pane).tracker record process⟩)
  | removed (pane : PaneInstance) : Step fresh ledger (ledger.set pane {})

end Ledger

section
variable [Sha256]

theorem reduce_kept {current : Option PaneState} {envelope : PaneEventEnvelope}
    {context : ReductionContext} {r : Reduction} (h : reduce current envelope context = .ok r)
    (houtcome : r.outcome ≠ .canonicalChanged) : r.record = current := by
  obtain ⟨-, -, rfl | ⟨-, s, tracker, previous, -, hsettled⟩⟩ := reduce_eq_ok h
  · rfl
  · cases hsettled with
    | same record result => rw [result, record]
    | changed differs revision next valid s' unread result =>
      rw [result] at houtcome
      exact absurd rfl houtcome

theorem reduce_candidate {current : Option PaneState} {envelope : PaneEventEnvelope}
    {context : ReductionContext} {r : Reduction} (h : reduce current envelope context = .ok r)
    (houtcome : r.outcome = .canonicalChanged) : ∃ candidate, r.record = some candidate := by
  obtain ⟨-, -, rfl | ⟨-, s, tracker, previous, -, hsettled⟩⟩ := reduce_eq_ok h
  · cases houtcome
  · cases hsettled with
    | same record result => exact ⟨s, by rw [result]⟩
    | changed differs revision next valid s' unread result => exact ⟨s', by rw [result]⟩

end

namespace CanonicalStateRuntime

def core (runtime : CanonicalStateRuntime) :
    PaneMap PaneState × PaneMap CaptureTrackerSnapshot × ℕ × Bool :=
  (runtime.records, runtime.trackers, runtime.latestUnreadOrder, runtime.failStopped)

theorem ledger_of_core {runtime runtime' : CanonicalStateRuntime}
    (h : runtime'.core = runtime.core) : runtime'.ledger = runtime.ledger := by
  simp only [core, Prod.mk.injEq] at h
  obtain ⟨hrecords, htrackers, horder, -⟩ := h
  simp only [ledger, Ledger.mk.injEq]
  refine ⟨funext fun pane => ?_, horder⟩
  simp only [cell, tracker, hrecords, htrackers]

theorem bumpSnapshotRevision_eq_ok {runtime runtime' : CanonicalStateRuntime} :
    runtime.bumpSnapshotRevision = .ok runtime' ↔ runtime.snapshotRevision < u64Max ∧
      runtime' = { runtime with snapshotRevision := runtime.snapshotRevision + 1 } := by
  simp only [bumpSnapshotRevision, bind_pure_eq_ok, increment_eq_ok]
  constructor
  · rintro ⟨_, ⟨hlt, rfl⟩, rfl⟩
    exact ⟨hlt, rfl⟩
  · rintro ⟨hlt, rfl⟩
    exact ⟨_, ⟨hlt, rfl⟩, rfl⟩

@[simp] theorem preflightProjection_core [ProjectionFrame] (runtime : CanonicalStateRuntime)
    (responseLimit : ℕ) : (runtime.preflightProjection responseLimit).2.core = runtime.core := by
  simp only [preflightProjection, core]

theorem publishInPlace_core [Sha256] [ProjectionFrame] (runtime : CanonicalStateRuntime) :
    runtime.publishInPlace.2.core = runtime.core := by
  unfold publishInPlace
  split
  · rfl
  · rename_i bumped hbump
    obtain ⟨-, rfl⟩ := bumpSnapshotRevision_eq_ok.mp hbump
    split
    · rfl
    · exact preflightProjection_core _ _

theorem publish_core [Sha256] [ProjectionFrame] {draft published : CanonicalStateRuntime}
    (h : draft.publish = .ok published) : published.core = draft.core := by
  have hcore := publishInPlace_core draft
  unfold publish at h
  split at h
  · rename_i heq
    cases h
    rw [← hcore, heq]
  · cases h

theorem bumpSnapshotRevision_core {runtime runtime' : CanonicalStateRuntime}
    (h : runtime.bumpSnapshotRevision = .ok runtime') : runtime'.core = runtime.core := by
  obtain ⟨-, rfl⟩ := bumpSnapshotRevision_eq_ok.mp h
  rfl

theorem bumpIf_core {draft bumped : CanonicalStateRuntime} {bump : Bool}
    (h : draft.bumpIf bump = .ok bumped) : bumped.core = draft.core := by
  unfold bumpIf at h
  split_ifs at h
  · exact bumpSnapshotRevision_core h
  · cases h
    rfl

theorem settleProjection_core [Sha256] [ProjectionFrame] {draft settled : CanonicalStateRuntime}
    {bump : Bool} (h : draft.settleProjection bump = .ok settled) :
    settled.core = draft.core := by
  obtain ⟨bumped, hbump, h⟩ := bind_eq_ok.mp h
  obtain ⟨-, h⟩ := seq_eq_ok.mp h
  cases h
  rw [preflightProjection_core, bumpIf_core hbump]

theorem endOccurrence_core (runtime : CanonicalStateRuntime) (pane : PaneInstance)
    (previous current : Option PaneState) :
    (runtime.endOccurrence pane previous current).core = runtime.core := by
  unfold endOccurrence
  split_ifs <;> rfl

theorem pushTransition_core (runtime : CanonicalStateRuntime) (transition : CanonicalTransition) :
    (runtime.pushTransition transition).core = runtime.core := by
  simp only [pushTransition, core]

theorem announce_core (runtime : CanonicalStateRuntime) (pane : PaneInstance)
    (previous current : Option PaneState) :
    (runtime.announce pane previous current).core = runtime.core := by
  cases current with
  | none =>
    simp only [announce]
    split_ifs <;> rfl
  | some state =>
    simp only [announce]
    split_ifs <;> rfl

theorem enterTriage_core (runtime : CanonicalStateRuntime) (pane : PaneInstance)
    (current : Option PaneState) : (runtime.enterTriage pane current).core = runtime.core := by
  unfold enterTriage
  split_ifs <;> rfl

theorem deriveCandidateProjection_core (runtime : CanonicalStateRuntime) (pane : PaneInstance)
    (previous current : Option PaneState) (event : PaneEvent) (atEpoch : ℤ) :
    (runtime.deriveCandidateProjection pane previous current event atEpoch).core =
      runtime.core := by
  rw [deriveCandidateProjection, enterTriage_core, announce_core, pushTransition_core,
    endOccurrence_core]

theorem cell_ledger (runtime : CanonicalStateRuntime) (pane : PaneInstance) :
    runtime.ledger.cell pane = runtime.cell pane := rfl

theorem track_ledger (runtime : CanonicalStateRuntime) (pane : PaneInstance)
    (delta : Option CaptureTrackerDelta) :
    (runtime.track pane delta).ledger = runtime.ledger.set pane
      ⟨runtime.records[pane]?, (runtime.tracker pane).after delta⟩ := by
  cases delta with
  | none =>
    simp only [track, CaptureTrackerSnapshot.after, Ledger.set]
    exact congrArg₂ Ledger.mk (Function.update_eq_self pane runtime.cell).symm rfl
  | some delta =>
    simp only [track, ledger, Ledger.set, CaptureTrackerSnapshot.after, Ledger.mk.injEq, and_true]
    funext other
    by_cases h : other = pane
    · subst h
      simp [cell, tracker]
    · simp [cell, tracker, getElem?_insert, h]

theorem store_ledger (runtime : CanonicalStateRuntime) (pane : PaneInstance)
    (candidate : PaneState) (order : ℕ) :
    ({ runtime with
      latestUnreadOrder := order
      records := runtime.records.insert pane candidate } : CanonicalStateRuntime).ledger =
    { runtime.ledger.set pane ⟨some candidate, runtime.tracker pane⟩ with order := order } := by
  simp only [ledger, Ledger.set, Ledger.mk.injEq, and_true]
  funext other
  by_cases h : other = pane
  · subst h
    simp [cell, tracker]
  · simp [cell, tracker, getElem?_insert, h]

section
variable [Sha256] [ProjectionFrame]

theorem publishResult_snd {α : Type} (runtime : CanonicalStateRuntime)
    (report : CanonicalStateRuntime → α) :
    (runtime.publishResult report).2 = runtime.publishInPlace.2 := by
  unfold publishResult
  split
  · rename_i h
    rw [h]
  · rename_i h
    rw [h]

theorem applyTracked_ledger (runtime : CanonicalStateRuntime) (pane : PaneInstance)
    (outcome : ReductionOutcome) (delta : Option CaptureTrackerDelta) :
    (runtime.applyTracked pane outcome delta).2.ledger = (runtime.track pane delta).ledger := by
  unfold applyTracked
  dsimp only
  split_ifs
  · rw [publishResult_snd]
    exact ledger_of_core (publishInPlace_core _)
  · rfl

omit [Sha256] [ProjectionFrame] in
theorem admitOrder_eq_ok {latestUnreadOrder candidateOrder order : ℕ} :
    admitOrder latestUnreadOrder candidateOrder = .ok order ↔
      order = max latestUnreadOrder candidateOrder ∧ (latestUnreadOrder < candidateOrder →
        latestUnreadOrder < u64Max ∧ candidateOrder = latestUnreadOrder + 1) := by
  unfold admitOrder
  split_ifs with h
  · simp only [bind_eq_ok, increment_eq_ok, refuse_eq_ok, pure_eq_ok, h]
    constructor
    · rintro ⟨_, ⟨hlt, rfl⟩, _, hnext, rfl⟩
      exact ⟨(max_eq_right h.le).symm, fun _ => ⟨hlt, not_not.mp hnext⟩⟩
    · rintro ⟨rfl, hnext⟩
      obtain ⟨hlt, hnext⟩ := hnext trivial
      exact ⟨_, ⟨hlt, rfl⟩, (), not_not.mpr hnext, (max_eq_right h.le).symm⟩
  · simp only [Except.ok.injEq, max_eq_left (not_lt.mp h), h, false_implies, and_true]
    exact eq_comm

omit [Sha256] [ProjectionFrame] in
theorem storeCandidate_ledger (runtime : CanonicalStateRuntime) (pane : PaneInstance)
    (event : PaneEvent) (candidate : PaneState) (delta : Option CaptureTrackerDelta)
    (latestUnreadOrder : ℕ) :
    (runtime.storeCandidate pane event candidate delta latestUnreadOrder).ledger =
      { runtime.ledger.set pane ⟨some candidate, (runtime.tracker pane).after delta⟩ with
        order := latestUnreadOrder } := by
  rw [storeCandidate, ledger_of_core (deriveCandidateProjection_core ..), track_ledger,
    store_ledger]
  simp only [Ledger.set, Function.update_idem, getElem?_insert, if_true]
  rfl

theorem applyCandidate_ledger (runtime : CanonicalStateRuntime) (pane : PaneInstance)
    (event : PaneEvent) (candidate : PaneState) (delta : Option CaptureTrackerDelta) :
    (runtime.applyCandidate pane event candidate delta).2 = runtime ∨
      (runtime.applyCandidate pane event candidate delta).2.ledger =
        { runtime.ledger.set pane ⟨some candidate, (runtime.tracker pane).after delta⟩ with
          order := max runtime.latestUnreadOrder candidate.unread.latestOrder } := by
  unfold applyCandidate
  split
  · exact Or.inl rfl
  · rename_i order hadmitted
    obtain ⟨rfl, -⟩ := admitOrder_eq_ok.mp hadmitted
    refine Or.inr ?_
    rw [publishResult_snd, ledger_of_core (publishInPlace_core _), storeCandidate_ledger]

omit [Sha256] [ProjectionFrame] in
theorem generateStateId_fresh {runtime : CanonicalStateRuntime} {envelope : PaneEventEnvelope}
    {generated : Except String StateId} {newStateId : Option StateId} {fresh : StateId → Prop}
    (hfresh : ∀ stateId, generated = .ok stateId → fresh stateId)
    (h : runtime.generateStateId envelope generated = .ok newStateId) :
    ∀ stateId ∈ newStateId, fresh stateId := by
  unfold generateStateId at h
  split_ifs at h
  · cases generated with
    | error e => cases h
    | ok stateId =>
      cases h
      rintro _ ⟨⟩
      exact hfresh stateId rfl
  · cases h
    simp

theorem applyEventInMemory_ledger (runtime : CanonicalStateRuntime) (envelope : PaneEventEnvelope)
    (visibility : VisibilitySnapshot) (privateTaskPrompt : Option String)
    (generated : Except String StateId) {fresh : StateId → Prop}
    (hfresh : ∀ stateId, generated = .ok stateId → fresh stateId) :
    (runtime.applyEventInMemory envelope visibility privateTaskPrompt generated).2.ledger =
        runtime.ledger ∨
      Ledger.Step fresh runtime.ledger
        (runtime.applyEventInMemory envelope visibility privateTaskPrompt generated).2.ledger := by
  unfold applyEventInMemory
  split
  · exact Or.inl rfl
  · rename_i newStateId hgenerate
    generalize hinput : runtime.inputOf envelope visibility privateTaskPrompt newStateId = input
    have hpane : input.envelope = envelope := by
      rw [← hinput]
      rfl
    have horder : input.latestUnreadOrder = runtime.ledger.order := by
      rw [← hinput]
      rfl
    have hnewId : ∀ stateId ∈ input.newStateId, fresh stateId := by
      rw [← hinput]
      exact generateStateId_fresh hfresh hgenerate
    subst hpane
    split
    · exact Or.inl rfl
    · rename_i r hreduce
      have hnext : (runtime.ledger.cell input.envelope.paneInstance).next input =
          ⟨r.record, (runtime.tracker input.envelope.paneInstance).after r.trackerDelta⟩ := by
        simp only [Cell.next, cell_ledger, hreduce]
        rfl
      split
      · rename_i candidate houtcome hrecord
        rcases applyCandidate_ledger runtime input.envelope.paneInstance input.envelope.event
          candidate r.trackerDelta with hsame | hledger
        · exact Or.inl (by rw [hsame])
        · refine Or.inr ?_
          rw [hledger, ← hrecord, ← hnext]
          exact .changed input r candidate horder hreduce houtcome hrecord hnewId
      · rename_i houtcome
        have hkept : r.outcome ≠ .canonicalChanged := by
          intro hchanged
          obtain ⟨candidate, hcandidate⟩ := reduce_candidate hreduce hchanged
          exact houtcome candidate hchanged hcandidate
        have hrecord : r.record = runtime.records[input.envelope.paneInstance]? :=
          reduce_kept hreduce hkept
        refine Or.inr ?_
        rw [applyTracked_ledger, track_ledger, ← hrecord, ← hnext]
        exact .tracked input r horder hreduce hkept

abbrev LedgerSteps (fresh : StateId → Prop) : Ledger → Ledger → Prop :=
  Relation.ReflTransGen (Ledger.Step fresh)

omit [Sha256] [ProjectionFrame] in
theorem commit_snd {α : Type} (runtime : CanonicalStateRuntime)
    (result : Except StoreError (α × CanonicalStateRuntime)) :
    (runtime.commit result).2 = runtime ∨
      ∃ a draft, result = .ok (a, draft) ∧ (runtime.commit result).2 = draft := by
  cases result with
  | error e => exact Or.inl rfl
  | ok p => exact Or.inr ⟨p.1, p.2, rfl, rfl⟩

omit [ProjectionFrame] in
theorem steps_of_step {fresh : StateId → Prop} {ledger ledger' : Ledger}
    (h : ledger' = ledger ∨ Ledger.Step fresh ledger ledger') : LedgerSteps fresh ledger ledger' := by
  rcases h with rfl | hstep
  · exact .refl
  · exact .single hstep

theorem applyEvent_ledger (runtime : CanonicalStateRuntime) (saved : Except StoreError Unit)
    (envelope : PaneEventEnvelope) (visibility : VisibilitySnapshot)
    (privateTaskPrompt : Option String) (generated : Except String StateId)
    {fresh : StateId → Prop} (hfresh : ∀ stateId, generated = .ok stateId → fresh stateId) :
    (runtime.applyEventWithPrivateTaskPrompt saved envelope visibility privateTaskPrompt
        generated).2.ledger = runtime.ledger ∨
      Ledger.Step fresh runtime.ledger (runtime.applyEventWithPrivateTaskPrompt saved envelope
        visibility privateTaskPrompt generated).2.ledger := by
  unfold applyEventWithPrivateTaskPrompt
  rcases commit_snd runtime _ with hsame | ⟨_, draft, hresult, hdraft⟩
  · rw [hsame]
    exact Or.inl rfl
  · rw [hdraft]
    obtain ⟨-, hresult⟩ := seq_eq_ok.mp hresult
    obtain ⟨result, -, hresult⟩ := bind_eq_ok.mp hresult
    dsimp only at hresult
    have hdraft : draft =
        (runtime.applyEventInMemory envelope visibility privateTaskPrompt generated).2 := by
      split_ifs at hresult
      · obtain ⟨-, hresult⟩ := seq_eq_ok.mp hresult
        cases hresult
        rfl
      · cases hresult
        rfl
    rw [hdraft]
    exact applyEventInMemory_ledger runtime envelope visibility privateTaskPrompt generated hfresh

theorem readPane_steps {revisionBefore : ℕ} {draft draft' : ReadDraft}
    {envelope : PaneEventEnvelope} {fresh : StateId → Prop}
    (h : readPane revisionBefore draft envelope = .ok draft') :
    LedgerSteps fresh draft.working.ledger draft'.working.ledger := by
  have hnone : ∀ stateId, (.error "" : Except String StateId) = .ok stateId → fresh stateId := nofun
  have hsteps := steps_of_step (applyEventInMemory_ledger
    { draft.working with snapshotRevision := revisionBefore } envelope {} none (.error "") hnone)
  unfold readPane at h
  split_ifs at h
  split at h
  · rename_i result working hresult
    rw [hresult] at hsteps
    cases h
    exact hsteps
  · rename_i e working hresult
    rw [hresult] at hsteps
    split_ifs at h
    cases h
    exact hsteps

theorem readPanes_steps {revisionBefore : ℕ} {draft draft' : ReadDraft}
    {envelopes : List PaneEventEnvelope} {fresh : StateId → Prop}
    (h : readPanes revisionBefore draft envelopes = .ok draft') :
    LedgerSteps fresh draft.working.ledger draft'.working.ledger := by
  induction envelopes generalizing draft with
  | nil =>
    cases h
    exact .refl
  | cons envelope rest ih =>
    obtain ⟨next, hnext, hrest⟩ := bind_eq_ok.mp h
    exact (readPane_steps hnext).trans (ih hrest)

theorem readDraft_steps {runtime working : CanonicalStateRuntime}
    {envelopes : List PaneEventEnvelope} {result : PaneReadApplyResult} {fresh : StateId → Prop}
    (h : runtime.readDraft envelopes = .ok (result, working)) :
    LedgerSteps fresh runtime.ledger working.ledger := by
  obtain ⟨draft, hdraft, h⟩ := bind_eq_ok.mp h
  obtain ⟨settled, hsettled, h⟩ := bind_pure_eq_ok.mp h
  cases h
  rw [ledger_of_core (settleProjection_core (mapError_eq_ok.mp hsettled))]
  exact readPanes_steps hdraft

theorem applyPaneReads_steps (runtime : CanonicalStateRuntime) (saved : Except StoreError Unit)
    (envelopes : List PaneEventEnvelope) {fresh : StateId → Prop} :
    LedgerSteps fresh runtime.ledger (runtime.applyPaneReads saved envelopes).2.ledger := by
  unfold applyPaneReads
  split_ifs
  · exact .refl
  · split
    · exact .refl
    · rename_i result working hdraft
      rcases commit_snd runtime _ with hsame | ⟨_, draft, hresult, hcommit⟩
      · rw [hsame]
      · rw [hcommit]
        have hworking : draft = working := by
          split_ifs at hresult
          · obtain ⟨-, hresult⟩ := seq_eq_ok.mp hresult
            cases hresult
            rfl
          · cases hresult
            rfl
        rw [hworking]
        exact readDraft_steps hdraft

omit [Sha256] [ProjectionFrame] in
theorem erase_ledger (runtime : CanonicalStateRuntime) (pane : PaneInstance) :
    (runtime.forgetPane pane).ledger = runtime.ledger.set pane {} := by
  simp only [forgetPane, ledger, Ledger.set, Ledger.mk.injEq, and_true]
  funext other
  by_cases h : other = pane
  · subst h
    simp [cell, tracker]
  · simp [cell, tracker, getElem?_erase, h]

theorem removeAbsentPane_steps (runtime : CanonicalStateRuntime) (saved : Except StoreError Unit)
    (pane : PaneInstance) (expected : Option StoredStateDescriptor) {fresh : StateId → Prop} :
    LedgerSteps fresh runtime.ledger (runtime.removeAbsentPane saved pane expected).2.ledger := by
  unfold removeAbsentPane
  rcases commit_snd runtime _ with hsame | ⟨_, draft, hresult, hcommit⟩
  · rw [hsame]
  · rw [hcommit]
    obtain ⟨-, hresult⟩ := seq_eq_ok.mp hresult
    split_ifs at hresult
    · cases hresult
      exact .refl
    · obtain ⟨published, hpublish, hresult⟩ := bind_eq_ok.mp hresult
      obtain ⟨-, hresult⟩ := seq_eq_ok.mp hresult
      cases hresult
      rw [ledger_of_core (publish_core hpublish), erase_ledger]
      exact .single (.removed pane)

theorem projectCurrentRun_steps (runtime : CanonicalStateRuntime) (saved : Except StoreError Unit)
    (pane : PaneInstance) (projection : CurrentDurableRunProjection) (executionActive : Bool)
    (observedAt : ℤ) {fresh : StateId → Prop} :
    LedgerSteps fresh runtime.ledger (runtime.projectCurrentRun saved pane projection
      executionActive observedAt).2.ledger := by
  unfold projectCurrentRun
  rcases commit_snd runtime _ with hsame | ⟨_, draft, hresult, hcommit⟩
  · rw [hsame]
  · rw [hcommit]
    obtain ⟨-, hresult⟩ := seq_eq_ok.mp hresult
    split at hresult
    · cases hresult
      exact .refl
    · rename_i current hcurrent
      obtain ⟨⟨candidate, changed⟩, hreconcile, hresult⟩ := bind_eq_ok.mp hresult
      cases changed with
      | false =>
        cases hresult
        exact .refl
      | true =>
        obtain ⟨published, hpublish, hresult⟩ := bind_eq_ok.mp hresult
        obtain ⟨-, hresult⟩ := seq_eq_ok.mp hresult
        cases hresult
        rw [ledger_of_core (publish_core hpublish), store_ledger]
        exact .single (.projected pane current candidate projection executionActive observedAt
          hcurrent (mapError_eq_ok.mp hreconcile))

omit [Sha256] [ProjectionFrame] in
theorem noteCodexBindingRejected_steps [Sha256] (runtime : CanonicalStateRuntime)
    (pane : PaneInstance) (expected : StateVersion) (process : AgentProcessIdentity)
    {fresh : StateId → Prop} :
    LedgerSteps fresh runtime.ledger
      (runtime.noteCodexBindingRejected pane expected process).2.ledger := by
  unfold noteCodexBindingRejected
  split
  · exact .refl
  · rename_i record hrecord
    dsimp only
    split_ifs
    · exact .refl
    · rcases commit_snd runtime _ with hsame | ⟨_, draft, hresult, hcommit⟩
      · rw [hsame]
      · rw [hcommit]
        obtain ⟨generation, hgeneration, hresult⟩ := bind_pure_eq_ok.mp hresult
        obtain ⟨-, rfl⟩ := increment_eq_ok.mp hgeneration
        cases hresult
        have hexisting : runtime.records[pane]? = some record :=
          (Option.filter_eq_some_iff.mp hrecord).1
        have hledger := track_ledger runtime pane
          (some ⟨Ledger.rejectedTracker (runtime.tracker pane) record process⟩)
        rw [hexisting] at hledger
        exact .single (hledger ▸ .noted pane record process hexisting)

omit [Sha256] [ProjectionFrame] in
theorem advanceTriage_core (draft : CanonicalStateRuntime × Bool) (pane : PaneInstance) :
    (advanceTriage draft pane).1.core = draft.1.core := by
  unfold advanceTriage
  dsimp only
  split_ifs <;> rfl

omit [Sha256] [ProjectionFrame] in
theorem advanceFlash_core (draft : CanonicalStateRuntime × Bool) (pane : PaneInstance) :
    (advanceFlash draft pane).1.core = draft.1.core := by
  unfold advanceFlash
  dsimp only
  split_ifs <;> rfl

omit [Sha256] [ProjectionFrame] in
theorem foldl_core {advance : CanonicalStateRuntime × Bool → PaneInstance →
      CanonicalStateRuntime × Bool}
    (hadvance : ∀ draft pane, (advance draft pane).1.core = draft.1.core)
    (panes : List PaneInstance) (draft : CanonicalStateRuntime × Bool) :
    (panes.foldl advance draft).1.core = draft.1.core := by
  induction panes generalizing draft with
  | nil => rfl
  | cons pane rest ih => exact (ih _).trans (hadvance draft pane)

theorem advancePollProjection_core (runtime : CanonicalStateRuntime) :
    runtime.advancePollProjection.2.core = runtime.core := by
  unfold advancePollProjection
  dsimp only
  rcases commit_snd runtime _ with hsame | ⟨_, draft, hresult, hcommit⟩
  · rw [hsame]
  · rw [hcommit]
    obtain ⟨settled, hsettled, hresult⟩ := bind_pure_eq_ok.mp hresult
    cases hresult
    rw [settleProjection_core hsettled, foldl_core advanceFlash_core, foldl_core advanceTriage_core]

theorem addDiagnostic_core (runtime : CanonicalStateRuntime) (pane : PaneInstance)
    (message : String) : (runtime.addDiagnostic pane message).2.core = runtime.core := by
  unfold addDiagnostic
  rcases commit_snd runtime _ with hsame | ⟨_, draft, hresult, hcommit⟩
  · rw [hsame]
  · rw [hcommit]
    obtain ⟨published, hpublish, hresult⟩ := bind_pure_eq_ok.mp hresult
    cases hresult
    rw [publish_core hpublish]
    simp only [core]

theorem markProjectionChanged_core (runtime : CanonicalStateRuntime) :
    runtime.markProjectionChanged.2.core = runtime.core := by
  unfold markProjectionChanged
  rcases commit_snd runtime _ with hsame | ⟨_, draft, hresult, hcommit⟩
  · rw [hsame]
  · rw [hcommit]
    obtain ⟨published, hpublish, hresult⟩ := bind_pure_eq_ok.mp hresult
    cases hresult
    exact publish_core hpublish

theorem finishSequencedProjection_core (runtime : CanonicalStateRuntime)
    (diagnosticPane : Option PaneInstance) (messages : List String) (projectionChanged : Bool)
    (revisionBefore : ℕ) :
    (runtime.finishSequencedProjection diagnosticPane messages projectionChanged
      revisionBefore).2.core = runtime.core := by
  unfold finishSequencedProjection
  dsimp only
  rcases commit_snd runtime _ with hsame | ⟨_, draft, hresult, hcommit⟩
  · rw [hsame]
  · rw [hcommit]
    obtain ⟨bumped, hbump, hresult⟩ := bind_eq_ok.mp hresult
    obtain ⟨-, hresult⟩ := seq_eq_ok.mp hresult
    split_ifs at hresult
    · obtain ⟨again, hagain, hresult⟩ := bind_eq_ok.mp hresult
      cases hresult
      rw [preflightProjection_core, bumpSnapshotRevision_core hagain, preflightProjection_core,
        bumpIf_core hbump]
      simp only [core]
    · cases hresult
      rw [preflightProjection_core, bumpIf_core hbump]
      simp only [core]

theorem perform_steps (runtime : CanonicalStateRuntime) {operation : Operation}
    {fresh : StateId → Prop} (hresets : operation.resets = false)
    (hfresh : ∀ stateId, operation.generates stateId → fresh stateId) :
    LedgerSteps fresh runtime.ledger (runtime.perform operation).2.ledger := by
  cases operation with
  | applyEvent saved envelope visibility privateTaskPrompt generated =>
    exact steps_of_step (applyEvent_ledger runtime saved envelope visibility privateTaskPrompt
      generated hfresh)
  | applyPaneReads saved envelopes => exact applyPaneReads_steps runtime saved envelopes
  | projectCurrentRun saved pane projection executionActive observedAt =>
    exact projectCurrentRun_steps runtime saved pane projection executionActive observedAt
  | noteCodexBindingRejected pane expected process =>
    exact noteCodexBindingRejected_steps runtime pane expected process
  | removeAbsentPane saved pane expected =>
    exact removeAbsentPane_steps runtime saved pane expected
  | advancePollProjection =>
    have hledger := ledger_of_core (advancePollProjection_core runtime)
    exact hledger ▸ .refl
  | addDiagnostic pane message =>
    have hledger := ledger_of_core (addDiagnostic_core runtime pane message)
    exact hledger ▸ .refl
  | finishSequencedProjection diagnosticPane messages projectionChanged revisionBefore =>
    have hledger := ledger_of_core (finishSequencedProjection_core runtime diagnosticPane messages
      projectionChanged revisionBefore)
    exact hledger ▸ .refl
  | markProjectionChanged =>
    have hledger := ledger_of_core (markProjectionChanged_core runtime)
    exact hledger ▸ .refl
  | drainNotificationJobs => exact .refl
  | expireScreenEvidence now => cases hresets
  | restart => cases hresets

end

end CanonicalStateRuntime
end VdeTmux.Pane
