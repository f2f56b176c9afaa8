import VdeTmux.Pane.Reads

/-!
# What one read does

A read either leaves the runtime alone, or it stores the marked record and publishes. Whether the
publication goes through decides what the single operation and the element of a batch do with it:
the one gives its draft up, the other goes on with it.
-/

open Foundation
namespace VdeTmux.Pane

def readCandidate [Sha256] (current : Option PaneState) (envelope : PaneEventEnvelope) :
    Except ReduceError (Option PaneState) :=
  (reduce current envelope ⟨{}, {}, none, 0, none⟩).map fun r =>
    if r.outcome = .canonicalChanged then r.record else none

def PaneState.Unseen (record : PaneState) : Prop :=
  record.unread.readSeq ≠ record.unread.occurrenceSeq

theorem not_unseen_marked (record : PaneState) : ¬record.marked.Unseen := by
  intro h
  exact h rfl

theorem readAll_of_seen {unread : UnreadState} (h : unread.readSeq = unread.occurrenceSeq) :
    ({ unread with readSeq := unread.occurrenceSeq } : UnreadState) = unread := by
  rcases unread with ⟨occurrenceSeq, readSeq, latest⟩
  obtain rfl : readSeq = occurrenceSeq := h
  rfl

section
variable [Sha256]

theorem settle_read {current : Option PaneState} (event : PaneEvent)
    (hread : event.isMarkPaneRead = true) (s : PaneState) (context context' : ReductionContext) :
    settle current event context (.finish s context.tracker none) =
      settle current event context' (.finish s context'.tracker none) := by
  have hunread (state : PaneState) (c : ReductionContext) :
      applyUnreadTransition current event state c = .ok state := by
    rw [applyUnreadTransition, if_pos hread]
  unfold settle
  simp only [finishStateReduction, hunread]
  rfl

theorem reduce_read_context {current : Option PaneState} {envelope : PaneEventEnvelope}
    (hread : envelope.event.isMarkPaneRead = true) (context context' : ReductionContext) :
    reduce current envelope context = reduce current envelope context' := by
  have hsteps : (dispatch current envelope context >>= settle current envelope.event context) =
      (dispatch current envelope context' >>= settle current envelope.event context') := by
    cases hevent : envelope.event with
    | markPaneRead throughOrder =>
      unfold dispatch
      rw [hevent]
      cases current with
      | none => rfl
      | some existing => exact settle_read (.markPaneRead throughOrder) rfl _ context context'
    | _ => simp [hevent, PaneEvent.isMarkPaneRead] at hread
  unfold reduce
  rw [hsteps]

theorem reduce_read_cases {current : Option PaneState} {envelope : PaneEventEnvelope}
    {context : ReductionContext} {r : Reduction}
    (hread : envelope.event.isMarkPaneRead = true)
    (h : reduce current envelope context = .ok r) :
    r = .unchanged current ∨ ∃ record, current = some record ∧ record.Unseen ∧
      r = ⟨some record.marked, none, .canonicalChanged⟩ := by
  cases hevent : envelope.event with
  | markPaneRead throughOrder =>
    obtain ⟨-, -, rfl | ⟨-, s, tracker, previous, hdispatch, hsettled⟩⟩ := reduce_eq_ok h
    · exact .inl rfl
    · rw [dispatch, hevent] at hdispatch
      cases current with
      | none => cases hdispatch
      | some existing =>
        simp only [reduceInternalStateEvent] at hdispatch
        cases hsettled with
        | same record result =>
          cases hdispatch
          refine .inl ?_
          rw [result, ← record]
          rfl
        | changed differs revision next valid s' unread result =>
          split_ifs at hdispatch with hknown
          · cases hdispatch
            obtain ⟨-, rfl⟩ := increment_eq_ok.mp next
            rw [applyUnreadTransition, hevent] at unread
            cases unread
            refine .inr ⟨existing, rfl, ?_, result⟩
            intro hseen
            apply differs
            rw [readAll_of_seen hseen]
          · cases hdispatch
            exact absurd rfl differs
  | _ => simp [hevent, PaneEvent.isMarkPaneRead] at hread

theorem readCandidate_some {current : Option PaneState} {envelope : PaneEventEnvelope}
    {candidate : PaneState} (hread : envelope.event.isMarkPaneRead = true)
    (h : readCandidate current envelope = .ok (some candidate)) :
    ∃ record, current = some record ∧ record.Unseen ∧ candidate = record.marked := by
  cases hreduce : reduce current envelope ⟨{}, {}, none, 0, none⟩ with
  | error e =>
    rw [readCandidate, hreduce] at h
    cases h
  | ok r =>
    rw [readCandidate, hreduce] at h
    rcases reduce_read_cases hread hreduce with rfl | ⟨record, hrecord, hunseen, rfl⟩
    · cases h
    · cases h
      exact ⟨record, hrecord, hunseen, rfl⟩

theorem reduce_of_readCandidate {current : Option PaneState} {envelope : PaneEventEnvelope}
    (hread : envelope.event.isMarkPaneRead = true) (context : ReductionContext) :
    reduce current envelope context =
      (readCandidate current envelope).map fun candidate =>
        match candidate with
        | none => .unchanged current
        | some candidate => ⟨some candidate, none, .canonicalChanged⟩ := by
  rw [reduce_read_context hread context ⟨{}, {}, none, 0, none⟩]
  unfold readCandidate
  cases hreduce : reduce current envelope ⟨{}, {}, none, 0, none⟩ with
  | error e => rfl
  | ok r =>
    rcases reduce_read_cases hread hreduce with rfl | ⟨record, -, -, rfl⟩
    · rfl
    · rfl

end

inductive ReadEffect
  | skipped
  | stops (error : StoreError)
  | stores (stored : CanonicalStateRuntime)

def ReadEffect.refused (error : StoreError) : ReadEffect :=
  if error.requiresDaemonExit then .stops error else .skipped

namespace CanonicalStateRuntime
section
variable [Sha256]

def readEffect (runtime : CanonicalStateRuntime) (envelope : PaneEventEnvelope) : ReadEffect :=
  match readCandidate runtime.records[envelope.paneInstance]? envelope with
  | .error e => .refused (.reduce e)
  | .ok none => .skipped
  | .ok (some candidate) =>
    match admitOrder runtime.latestUnreadOrder candidate.unread.latestOrder with
    | .error e => .refused e
    | .ok order =>
      .stores (runtime.storeCandidate envelope.paneInstance envelope.event candidate none order)

def InBounds (runtime : CanonicalStateRuntime) : Prop := runtime.validateProjection = .ok ()

end

section
variable [Sha256] [ProjectionFrame]

inductive ReadResult (runtime : CanonicalStateRuntime) :
    ReadEffect → Except StoreError ApplyResult × CanonicalStateRuntime → Prop
  | noop (result : ApplyResult) (outcome : result.outcome = .noop) :
    ReadResult runtime .skipped (.ok result, runtime)
  | refused (error : StoreError) (stays : error.requiresDaemonExit = false) :
    ReadResult runtime .skipped (.error error, runtime)
  | stopped (error : StoreError) (exits : error.requiresDaemonExit = true) :
    ReadResult runtime (.stops error) (.error error, runtime)
  | published (stored : CanonicalStateRuntime) (result : ApplyResult)
    (room : runtime.snapshotRevision < u64Max) (bounds : stored.InBounds)
    (outcome : result.outcome = .canonicalChanged) :
    ReadResult runtime (.stores stored) (.ok result,
      (({ stored with snapshotRevision := runtime.snapshotRevision + 1 } :
        CanonicalStateRuntime).preflightProjection maxResponseFrameBytes).2)
  | unbounded (stored : CanonicalStateRuntime) (error : StoreError)
    (room : runtime.snapshotRevision < u64Max) (bounds : ¬stored.InBounds)
    (stays : error.requiresDaemonExit = false) :
    ReadResult runtime (.stores stored) (.error error,
      { stored with snapshotRevision := runtime.snapshotRevision + 1 })
  | exhausted (stored : CanonicalStateRuntime) (error : StoreError)
    (full : ¬runtime.snapshotRevision < u64Max) (exits : error.requiresDaemonExit = true) :
    ReadResult runtime (.stores stored) (.error error, stored)

theorem readResult_refused (runtime : CanonicalStateRuntime) (error : StoreError) :
    ReadResult runtime (.refused error) (.error error, runtime) := by
  unfold ReadEffect.refused
  split_ifs with hexit
  · exact .stopped error hexit
  · exact .refused error (by simpa using hexit)

omit [Sha256] [ProjectionFrame] in
theorem storeCandidate_snapshotRevision (runtime : CanonicalStateRuntime) (pane : PaneInstance)
    (event : PaneEvent) (candidate : PaneState) (order : ℕ) :
    (runtime.storeCandidate pane event candidate none order).snapshotRevision =
      runtime.snapshotRevision := by
  unfold storeCandidate deriveCandidateProjection enterTriage announce notifyBlocked
    pushTransition endOccurrence track
  dsimp only
  split_ifs <;> rfl

omit [ProjectionFrame] in
theorem validateRecords_stays {seen : List ℕ} {entries : List (PaneInstance × PaneState)}
    {e : StoreError} (h : validateRecords seen entries = .error e) :
    e.requiresDaemonExit = false := by
  induction entries generalizing seen with
  | nil => cases h
  | cons entry rest ih =>
    obtain ⟨pane, state⟩ := entry
    unfold validateRecords at h
    rcases bind_eq_error.mp h with hkey | ⟨_, -, h⟩
    · rw [← (refuse_eq_error.mp hkey).2]
      rfl
    · rcases bind_eq_error.mp h with hstate | ⟨_, -, h⟩
      · cases hvalid : state.validate with
        | error error =>
          rw [hvalid] at hstate
          cases hstate
          rfl
        | ok u =>
          rw [hvalid] at hstate
          cases hstate
      · split at h
        · exact ih h
        · rcases bind_eq_error.mp h with horder | ⟨_, -, h⟩
          · rw [← (refuse_eq_error.mp horder).2]
            rfl
          · exact ih h

omit [ProjectionFrame] in
theorem validateProjection_stays {runtime : CanonicalStateRuntime} {e : StoreError}
    (h : runtime.validateProjection = .error e) : e.requiresDaemonExit = false := by
  unfold validateProjection at h
  rcases bind_eq_error.mp h with hrecords | ⟨_, -, hbounds⟩
  · exact validateRecords_stays hrecords
  · rw [← (refuse_eq_error.mp hbounds).2]
    rfl

theorem readResult_stores {runtime stored : CanonicalStateRuntime}
    (hrevision : stored.snapshotRevision = runtime.snapshotRevision)
    {report : CanonicalStateRuntime → ApplyResult}
    (hreport : ∀ published, (report published).outcome = .canonicalChanged) :
    ReadResult runtime (.stores stored) (stored.publishResult report) := by
  unfold publishResult publishInPlace
  by_cases hroom : runtime.snapshotRevision < u64Max
  · have hbump : stored.bumpSnapshotRevision =
        .ok { stored with snapshotRevision := runtime.snapshotRevision + 1 } :=
      bumpSnapshotRevision_eq_ok.mpr ⟨hrevision ▸ hroom, by rw [hrevision]⟩
    rw [hbump]
    dsimp only
    have hsame : ({ stored with snapshotRevision := runtime.snapshotRevision + 1 } :
        CanonicalStateRuntime).validateProjection = stored.validateProjection := rfl
    rw [hsame]
    cases hbounds : stored.validateProjection with
    | error e =>
      refine .unbounded stored e hroom ?_ (validateProjection_stays hbounds)
      rw [InBounds, hbounds]
      exact nofun
    | ok u => exact .published stored _ hroom hbounds (hreport _)
  · have hfull : stored.bumpSnapshotRevision = .error (.counterOverflow "snapshot revision") := by
      unfold bumpSnapshotRevision
      rw [hrevision, increment_of_le (not_lt.mp hroom)]
      rfl
    rw [hfull]
    exact .exhausted stored _ hroom (Eq.refl true)

theorem applyEventInMemory_readResult (runtime : CanonicalStateRuntime)
    {envelope : PaneEventEnvelope} (hread : envelope.event.isMarkPaneRead = true)
    (visibility : VisibilitySnapshot) (generated : Except String StateId) :
    ReadResult runtime (runtime.readEffect envelope)
      (runtime.applyEventInMemory envelope visibility none generated) := by
  have hid : runtime.generateStateId envelope generated = .ok none := by
    cases hevent : envelope.event with
    | markPaneRead throughOrder =>
      unfold generateStateId eventCanCreateRecord
      rw [hevent, Bool.and_false]
      rfl
    | _ => simp [hevent, PaneEvent.isMarkPaneRead] at hread
  unfold applyEventInMemory readEffect
  rw [hid]
  dsimp only [Cell.reduce, inputOf, cell]
  rw [reduce_of_readCandidate hread]
  cases hcandidate : readCandidate runtime.records[envelope.paneInstance]? envelope with
  | error e => exact readResult_refused runtime _
  | ok candidate =>
    cases candidate with
    | none => exact .noop _ rfl
    | some candidate =>
      dsimp only [Except.map, applyCandidate]
      cases horder : admitOrder runtime.latestUnreadOrder candidate.unread.latestOrder with
      | error e => exact readResult_refused runtime _
      | ok order =>
        exact readResult_stores (storeCandidate_snapshotRevision ..) fun _ => rfl

end
end CanonicalStateRuntime
end VdeTmux.Pane
