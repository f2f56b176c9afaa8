import VdeTmux.Pane.UnreadRuns

/-!
# The two errors about the order

The store checks that a new order is the next one and that no two records share one. Neither check
fails for a runtime that operations reach: an error that says so came from the save.
-/

open Foundation Foundation.Text
namespace VdeTmux.Pane

/-- What comes of the save of an operation that saves. -/
def Operation.saved : Operation → Except StoreError Unit
  | applyEvent saved _ _ _ _ | applyPaneReads saved _ | projectCurrentRun saved _ _ _ _
  | removeAbsentPane saved _ _ => saved
  | _ => .ok ()

def Excused (saved : Except StoreError Unit) (e : StoreError) : Prop :=
  OrderError e → saved = .error e

abbrev OrderFree {α : Type} (x : Except StoreError α) : Prop := ErrorsIn (fun e => ¬OrderError e) x

theorem OrderFree.excused {saved : Except StoreError Unit} {α : Type} {x : Except StoreError α}
    (h : OrderFree x) : ErrorsIn (Excused saved) x :=
  fun e he horder => absurd horder (h e he)

theorem errorsIn_saved (saved : Except StoreError Unit) : ErrorsIn (Excused saved) saved :=
  fun _ he _ => he

theorem errorsIn_map {ε α β : Type} {P : ε → Prop} {f : α → β} {x : Except ε α}
    (h : ErrorsIn P x) : ErrorsIn P (x.map f) := by
  cases x with
  | error e => exact fun _ he => by cases he; exact h e rfl
  | ok a => exact errorsIn_ok

theorem counterOverflow_ne_orderError (counter : String) : ¬OrderError (.counterOverflow counter) := by
  simp [OrderError]

theorem failStop_ne_orderError (message : String) : ¬OrderError (.failStop message) := by
  simp [OrderError]

theorem reduce_ne_orderError (error : ReduceError) : ¬OrderError (.reduce error) := by
  simp [OrderError]

theorem random_ne_orderError (message : String) : ¬OrderError (.random message) := by
  simp [OrderError]

theorem increment_orderFree {limit n : ℕ} (counter : String) :
    OrderFree (increment limit (.counterOverflow counter) n) :=
  errorsIn_ite (fun _ => errorsIn_ok) fun _ => errorsIn_error.mpr (counterOverflow_ne_orderError counter)

namespace CanonicalStateRuntime

theorem commit_errors {α : Type} {P : StoreError → Prop} {runtime : CanonicalStateRuntime}
    {result : Except StoreError (α × CanonicalStateRuntime)} (h : ErrorsIn P result) :
    ErrorsIn P (runtime.commit result).1 := by
  cases result with
  | error e => exact fun _ he => by cases he; exact h e rfl
  | ok p => exact errorsIn_ok

theorem bumpSnapshotRevision_orderFree (runtime : CanonicalStateRuntime) :
    OrderFree runtime.bumpSnapshotRevision :=
  (increment_orderFree _).bind fun _ _ => errorsIn_pure

theorem bumpIf_orderFree (runtime : CanonicalStateRuntime) (bump : Bool) :
    OrderFree (runtime.bumpIf bump) :=
  errorsIn_ite (fun _ => runtime.bumpSnapshotRevision_orderFree) fun _ => errorsIn_ok

section
variable [Sha256]

theorem validateProjection_of_distinct {runtime : CanonicalStateRuntime}
    (h : DistinctOrders runtime.records.toList) :
    OrderFree runtime.validateProjection := by
  refine (validateRecords_errors h fun _ _ _ _ => List.not_mem_nil).bind fun _ _ => ?_
  exact errorsIn_refuse fun _ => by decide

theorem validateProjection_orderFree {runtime : CanonicalStateRuntime} (h : runtime.ledger.Sound) :
    OrderFree runtime.validateProjection :=
  validateProjection_of_distinct (distinctOrders_of_sound h)

theorem hydrate_orderFree {records : PaneMap PaneState} (h : DistinctOrders records.toList) :
    OrderFree (hydrate records) :=
  (validateProjection_of_distinct h).bind fun _ _ => errorsIn_pure

end

section
variable [Sha256] [ProjectionFrame]

theorem publishInPlace_orderFree {runtime : CanonicalStateRuntime} (h : runtime.ledger.Sound) :
    OrderFree runtime.publishInPlace.1 := by
  unfold publishInPlace
  split
  · rename_i e he
    exact errorsIn_error.mpr (runtime.bumpSnapshotRevision_orderFree e he)
  · rename_i bumped hbumped
    have hsound : bumped.ledger.Sound :=
      ledger_of_core (bumpSnapshotRevision_core hbumped) ▸ h
    split
    · rename_i e he
      exact errorsIn_error.mpr (validateProjection_orderFree hsound e he)
    · exact errorsIn_ok

theorem publish_orderFree {draft : CanonicalStateRuntime} (h : draft.ledger.Sound) :
    OrderFree draft.publish := by
  have hpublish := publishInPlace_orderFree h
  unfold publish
  split
  · exact errorsIn_ok
  · rename_i e _ heq
    rw [heq] at hpublish
    exact errorsIn_error.mpr (hpublish e rfl)

theorem publishResult_orderFree {α : Type} {runtime : CanonicalStateRuntime}
    {report : CanonicalStateRuntime → α} (h : runtime.ledger.Sound) :
    OrderFree (runtime.publishResult report).1 := by
  have hpublish := publishInPlace_orderFree h
  unfold publishResult
  split
  · rename_i e _ heq
    rw [heq] at hpublish
    exact errorsIn_error.mpr (hpublish e rfl)
  · exact errorsIn_ok

theorem settleProjection_orderFree {draft : CanonicalStateRuntime} {bump : Bool}
    (h : draft.ledger.Sound) : OrderFree (draft.settleProjection bump) := by
  refine (draft.bumpIf_orderFree bump).bind fun bumped hbumped => ?_
  have hsound : bumped.ledger.Sound := ledger_of_core (bumpIf_core hbumped) ▸ h
  exact (validateProjection_orderFree hsound).bind fun _ _ => errorsIn_pure

omit [Sha256] [ProjectionFrame] in
theorem generateStateId_orderFree (runtime : CanonicalStateRuntime) (envelope : PaneEventEnvelope)
    (generated : Except String StateId) :
    OrderFree (runtime.generateStateId envelope generated) := by
  refine errorsIn_ite (fun _ => errorsIn_map ?_) fun _ => errorsIn_ok
  exact errorsIn_mapError random_ne_orderError

theorem applyTracked_orderFree {runtime : CanonicalStateRuntime} {pane : PaneInstance}
    {outcome : ReductionOutcome} {delta : Option CaptureTrackerDelta}
    (h : (runtime.applyTracked pane outcome delta).2.ledger.Sound) :
    OrderFree (runtime.applyTracked pane outcome delta).1 := by
  rw [applyTracked_ledger] at h
  unfold applyTracked
  dsimp only
  split_ifs
  · exact publishResult_orderFree h
  · exact errorsIn_ok

theorem applyCandidate_orderFree {runtime : CanonicalStateRuntime} {pane : PaneInstance}
    {event : PaneEvent} {candidate : PaneState} {delta : Option CaptureTrackerDelta}
    {order : ℕ}
    (hadmitted : admitOrder runtime.latestUnreadOrder candidate.unread.latestOrder = .ok order)
    (h : (runtime.applyCandidate pane event candidate delta).2.ledger.Sound) :
    OrderFree (runtime.applyCandidate pane event candidate delta).1 := by
  simp only [applyCandidate, hadmitted, publishResult_snd,
    ledger_of_core (publishInPlace_core _)] at h ⊢
  exact publishResult_orderFree h

theorem applyEventInMemory_sound {runtime : CanonicalStateRuntime} (h : runtime.ledger.Sound)
    (envelope : PaneEventEnvelope) (visibility : VisibilitySnapshot)
    (privateTaskPrompt : Option String) (generated : Except String StateId) :
    (runtime.applyEventInMemory envelope visibility privateTaskPrompt generated).2.ledger.Sound := by
  rcases applyEventInMemory_ledger runtime envelope visibility privateTaskPrompt generated
    (fun _ hid => hid) with hsame | hstep
  · exact hsame ▸ h
  · exact hstep.sound h

theorem applyEventInMemory_orderFree {runtime : CanonicalStateRuntime} (h : runtime.ledger.Sound)
    (envelope : PaneEventEnvelope) (visibility : VisibilitySnapshot)
    (privateTaskPrompt : Option String) (generated : Except String StateId) :
    OrderFree
      (runtime.applyEventInMemory envelope visibility privateTaskPrompt generated).1 := by
  have hsound := applyEventInMemory_sound h envelope visibility privateTaskPrompt generated
  revert hsound
  unfold applyEventInMemory
  split
  · rename_i e he
    exact fun _ => errorsIn_error.mpr (generateStateId_orderFree _ _ _ e he)
  · rename_i newStateId _
    split
    · exact fun _ => errorsIn_error.mpr (reduce_ne_orderError _)
    · rename_i r hreduce
      split
      · rename_i candidate houtcome hrecord
        have hreduced := reduce_reduced (fun s hs => (h.records _ s hs).2) hreduce houtcome hrecord
        have hadmitted := admitOrder_eq_ok.mpr ⟨rfl, h.admitted hreduced.issues⟩
        exact fun hsound => applyCandidate_orderFree hadmitted hsound
      · exact fun hsound => applyTracked_orderFree hsound

theorem applyEvent_excused {runtime : CanonicalStateRuntime} (h : runtime.ledger.Sound)
    (saved : Except StoreError Unit) (envelope : PaneEventEnvelope)
    (visibility : VisibilitySnapshot) (privateTaskPrompt : Option String)
    (generated : Except String StateId) :
    ErrorsIn (Excused saved) (runtime.applyEventWithPrivateTaskPrompt saved envelope visibility
      privateTaskPrompt generated).1 := by
  refine commit_errors ((errorsIn_refuse fun _ => ?_).bind fun _ _ => ?_)
  · exact fun horder => absurd horder (failStop_ne_orderError _)
  refine ErrorsIn.bind ?_ fun _ _ => ?_
  · exact (applyEventInMemory_orderFree h envelope visibility privateTaskPrompt generated).excused
  · refine errorsIn_ite (fun _ => ?_) fun _ => errorsIn_pure
    exact (errorsIn_saved saved).bind fun _ _ => errorsIn_pure

theorem readPane_errors {revisionBefore : ℕ} {draft : ReadDraft} {envelope : PaneEventEnvelope} :
    ErrorsIn (fun e => ¬OrderError e.1) (readPane revisionBefore draft envelope) := by
  unfold readPane
  refine errorsIn_ite (fun _ => errorsIn_error.mpr (reduce_ne_orderError _)) fun _ => ?_
  split
  · exact errorsIn_ok
  · rename_i e working _
    refine errorsIn_ite (fun hexit => errorsIn_error.mpr ?_) fun _ => errorsIn_ok
    rintro (rfl | rfl) <;> cases hexit

theorem readPanes_errors {revisionBefore : ℕ} {draft : ReadDraft}
    {envelopes : List PaneEventEnvelope} :
    ErrorsIn (fun e => ¬OrderError e.1) (readPanes revisionBefore draft envelopes) := by
  induction envelopes generalizing draft with
  | nil => exact errorsIn_ok
  | cons envelope rest ih => exact readPane_errors.bind fun _ _ => ih

theorem readDraft_errors {runtime : CanonicalStateRuntime} (h : runtime.ledger.Sound)
    (envelopes : List PaneEventEnvelope) :
    ErrorsIn (fun e => ¬OrderError e.1) (runtime.readDraft envelopes) := by
  refine readPanes_errors.bind fun draft hdraft => ErrorsIn.bind ?_ fun _ _ => errorsIn_pure
  have hsound : draft.working.ledger.Sound := (steps_advance h (readPanes_steps hdraft)).1
  intro e he
  obtain ⟨e', he', rfl⟩ := mapError_eq_error.mp he
  exact settleProjection_orderFree (by exact hsound) e' he'

theorem applyPaneReads_excused {runtime : CanonicalStateRuntime} (h : runtime.ledger.Sound)
    (saved : Except StoreError Unit) (envelopes : List PaneEventEnvelope) :
    ErrorsIn (Excused saved) (runtime.applyPaneReads saved envelopes).1 := by
  unfold applyPaneReads
  split_ifs
  · exact errorsIn_error.mpr fun horder => absurd horder (failStop_ne_orderError _)
  · split
    · rename_i e exit he
      exact errorsIn_error.mpr fun horder => absurd horder (readDraft_errors h envelopes _ he)
    · refine commit_errors (errorsIn_ite (fun _ => ?_) fun _ => errorsIn_pure)
      exact (errorsIn_saved saved).bind fun _ _ => errorsIn_pure

omit [Sha256] [ProjectionFrame] in
theorem failStopped_excused (runtime : CanonicalStateRuntime) (saved : Except StoreError Unit) :
    ErrorsIn (Excused saved) runtime.failStopped? :=
  errorsIn_refuse fun _ horder => absurd horder (failStop_ne_orderError _)

theorem projectCurrentRun_excused {runtime : CanonicalStateRuntime} (h : runtime.ledger.Sound)
    (saved : Except StoreError Unit) (pane : PaneInstance)
    (projection : CurrentDurableRunProjection) (executionActive : Bool) (observedAt : ℤ) :
    ErrorsIn (Excused saved)
      (runtime.projectCurrentRun saved pane projection executionActive observedAt).1 := by
  refine commit_errors ((runtime.failStopped_excused saved).bind fun _ _ => ?_)
  split
  · exact errorsIn_pure
  · rename_i current hcurrent
    refine ErrorsIn.bind ?_ fun reconciled hreconciled => ?_
    · intro e he horder
      obtain ⟨e', he', rfl⟩ := mapError_eq_error.mp he
      exact absurd horder (current.reconcileCurrentRun_plain _ _ _ _ e' he')
    · obtain ⟨candidate, changed⟩ := reconciled
      refine errorsIn_ite (fun _ => errorsIn_pure) fun hchanged => ?_
      have hreconciled := mapError_eq_ok.mp hreconciled
      rw [Bool.not_eq_false] at hchanged
      subst hchanged
      have hstep : Ledger.Step (fun _ => False) runtime.ledger _ :=
        .projected pane current candidate projection executionActive observedAt hcurrent hreconciled
      refine (publish_orderFree ?_).excused.bind fun _ _ => ?_
      · rw [store_ledger]
        exact hstep.sound h
      · exact (errorsIn_saved saved).bind fun _ _ => errorsIn_pure

theorem removeAbsentPane_excused {runtime : CanonicalStateRuntime} (h : runtime.ledger.Sound)
    (saved : Except StoreError Unit) (pane : PaneInstance)
    (expected : Option StoredStateDescriptor) :
    ErrorsIn (Excused saved) (runtime.removeAbsentPane saved pane expected).1 := by
  refine commit_errors ((runtime.failStopped_excused saved).bind fun _ _ => ?_)
  refine errorsIn_ite (fun _ => errorsIn_pure) fun _ => ?_
  have hstep : Ledger.Step (fun _ => False) runtime.ledger (runtime.ledger.set pane {}) :=
    .removed pane
  refine (publish_orderFree ?_).excused.bind fun _ _ => ?_
  · rw [erase_ledger]
    exact hstep.sound h
  · exact (errorsIn_saved saved).bind fun _ _ => errorsIn_pure

theorem advancePollProjection_orderFree {runtime : CanonicalStateRuntime}
    (h : runtime.ledger.Sound) : OrderFree runtime.advancePollProjection.1 := by
  refine commit_errors ((settleProjection_orderFree ?_).bind fun _ _ => errorsIn_pure)
  rw [ledger_of_core ((foldl_core advanceFlash_core _ _).trans (foldl_core advanceTriage_core _ _))]
  exact h

omit [Sha256] [ProjectionFrame] in
theorem noteCodexBindingRejected_orderFree (runtime : CanonicalStateRuntime) (pane : PaneInstance)
    (expected : StateVersion) (process : AgentProcessIdentity) :
    OrderFree (runtime.noteCodexBindingRejected pane expected process).1 := by
  unfold noteCodexBindingRejected
  split
  · exact errorsIn_ok
  · dsimp only
    split_ifs
    · exact errorsIn_ok
    · exact commit_errors ((increment_orderFree _).bind fun _ _ => errorsIn_pure)

omit [Sha256] [ProjectionFrame] in
theorem expireScreenEvidence_orderFree (runtime : CanonicalStateRuntime) (now : ℤ) :
    OrderFree (runtime.expireScreenEvidence now).1 := by
  unfold expireScreenEvidence
  dsimp only
  split_ifs
  · exact commit_errors (errorsIn_map (bumpSnapshotRevision_orderFree _))
  · exact errorsIn_ok

theorem finishSequencedProjection_orderFree {runtime : CanonicalStateRuntime}
    (h : runtime.ledger.Sound) (diagnosticPane : Option PaneInstance) (messages : List String)
    (projectionChanged : Bool) (revisionBefore : ℕ) :
    OrderFree (runtime.finishSequencedProjection diagnosticPane messages projectionChanged
      revisionBefore).1 := by
  refine commit_errors ((bumpIf_orderFree _ _).bind fun bumped hbumped => ?_)
  have hsound : bumped.ledger.Sound := ledger_of_core (bumpIf_core hbumped) ▸ h
  refine (validateProjection_orderFree hsound).bind fun _ _ => ?_
  refine errorsIn_ite (fun _ => ?_) fun _ => errorsIn_pure
  exact (bumpSnapshotRevision_orderFree _).bind fun _ _ => errorsIn_pure

theorem perform_excused {runtime : CanonicalStateRuntime} (h : runtime.ledger.Sound)
    (operation : Operation) : ErrorsIn (Excused operation.saved) (runtime.perform operation).1 := by
  cases operation with
  | applyEvent saved envelope visibility privateTaskPrompt generated =>
    exact errorsIn_map (applyEvent_excused h saved envelope visibility privateTaskPrompt generated)
  | applyPaneReads saved envelopes => exact errorsIn_map (applyPaneReads_excused h saved envelopes)
  | projectCurrentRun saved pane projection executionActive observedAt =>
    exact errorsIn_map
      (projectCurrentRun_excused h saved pane projection executionActive observedAt)
  | noteCodexBindingRejected pane expected process =>
    exact OrderFree.excused
      (errorsIn_map (runtime.noteCodexBindingRejected_orderFree pane expected process))
  | removeAbsentPane saved pane expected =>
    exact errorsIn_map (removeAbsentPane_excused h saved pane expected)
  | advancePollProjection =>
    exact OrderFree.excused (errorsIn_map (advancePollProjection_orderFree h))
  | expireScreenEvidence now => exact (runtime.expireScreenEvidence_orderFree now).excused
  | addDiagnostic pane message =>
    have hcore : ({ runtime with
      diagnostics := pushDiagnosticOf runtime.diagnostics pane message } :
        CanonicalStateRuntime).core = runtime.core := by simp only [core]
    refine OrderFree.excused (commit_errors (ErrorsIn.bind ?_ fun _ _ => errorsIn_pure))
    refine publish_orderFree ?_
    rw [ledger_of_core hcore]
    exact h
  | finishSequencedProjection diagnosticPane messages projectionChanged revisionBefore =>
    exact OrderFree.excused (errorsIn_map (finishSequencedProjection_orderFree h diagnosticPane
      messages projectionChanged revisionBefore))
  | markProjectionChanged =>
    refine OrderFree.excused (errorsIn_map (commit_errors ?_))
    exact (publish_orderFree h).bind fun _ _ => errorsIn_pure
  | drainNotificationJobs => exact errorsIn_ok
  | restart =>
    refine OrderFree.excused (commit_errors (errorsIn_map (hydrate_orderFree ?_)))
    exact distinctOrders_of_sound h

def latestOrder? (runtime : CanonicalStateRuntime) (pane : PaneInstance) : Option ℕ :=
  runtime.records[pane]?.bind PaneState.latestOrder?

/-- The pane got the order in one of the states, newest first, and has had a record since. -/
def IssuedIn (pane : PaneInstance) (order : ℕ) (states : List CanonicalStateRuntime) : Prop :=
  Tickets.Handed pane order (states.map (·.ledger.tickets))

omit [Sha256] [ProjectionFrame] in
theorem latestOrder?_eq_some {runtime : CanonicalStateRuntime} {pane : PaneInstance} {n : ℕ} :
    runtime.latestOrder? pane = some n ↔ runtime.ledger.tickets.Holds pane n := by
  rw [latestOrder?, holds_ledger]
  exact Option.bind_eq_some_iff

/-- However events, reads, durable runs, removals, projections and restarts are interleaved after
a hydration, the latest orders of the panes are distinct and at most the counter, a new order
passes every order issued to a record that is still there, and neither check of the order fails:
an error with one of their texts is the one the save ended with. -/
theorem unreadOrder_global {records : PaneMap PaneState}
    {hydrated runtime : CanonicalStateRuntime} {past : List (CanonicalStateRuntime × Operation)}
    (hhydrate : hydrate records = .ok hydrated) (hrun : Trace Step hydrated past runtime) :
    (∀ pane n, runtime.latestOrder? pane = some n → n ≤ runtime.latestUnreadOrder ∧
      ∀ other, runtime.latestOrder? other = some n → other = pane) ∧
    (∀ operation runtime', Step runtime operation runtime' → ∀ pane n',
      runtime'.latestOrder? pane = some n' → runtime.latestOrder? pane ≠ some n' →
      ∀ other n, IssuedIn other n (states past runtime) →
        (∃ record, runtime'.records[other]? = some record) → n < n') ∧
    ∀ operation e, OrderError e → (runtime.perform operation).1 = .error e →
      operation.saved = .error e := by
  obtain ⟨hsound, hchain⟩ := run_advances (hydrate_sound hhydrate) hrun
  refine ⟨fun pane n hn => ?_, ?_, fun operation e horder he => ?_⟩
  · have hholds := latestOrder?_eq_some.mp hn
    refine ⟨hsound.tickets.le_last pane n hholds, fun other hother => ?_⟩
    exact hsound.tickets.distinct other pane n (latestOrder?_eq_some.mp hother) hholds
  · rintro operation _ rfl pane n' hn' hnew other n hissued hthere
    obtain ⟨-, hadvances⟩ := perform_advances hsound operation
    exact hadvances.lt_of_handed hchain (latestOrder?_eq_some.mp hn')
      (fun hholds => hnew (latestOrder?_eq_some.mpr hholds)) hissued
      (Ledger.held_tickets_ne.mpr hthere)
  · exact perform_excused hsound operation e he horder

end

/-- A pane that completes a run before it was seen, and a restart. -/
theorem unreadOrder_global_restart :
    let _ := Sha256.constant
    let _ : ProjectionFrame := ⟨fun _ _ _ _ => 0⟩
    ((((({} : CanonicalStateRuntime).perform (.applyEvent (.ok ())
      (claudeEnvelope (.completeRun 5)) {} none (.ok ⟨"state"⟩))).2.perform .restart).2).perform
        (.applyEvent (.ok ()) (claudeEnvelope (.activityObserved 6)) {} none (.error ""))).1 ≠
      .error (.persistFailed "duplicate unread occurrence order") := by
  let _ := Sha256.constant
  let _ : ProjectionFrame := ⟨fun _ _ _ _ => 0⟩
  intro _ _ he
  have hempty : hydrate ∅ = .ok {} := rfl
  obtain ⟨-, -, herrors⟩ := unreadOrder_global hempty ((Trace.nil.snoc rfl).snoc rfl)
  cases herrors _ _ (Or.inr rfl) he

end CanonicalStateRuntime
end VdeTmux.Pane
