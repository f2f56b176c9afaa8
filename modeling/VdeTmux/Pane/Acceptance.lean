import VdeTmux.Pane.Bookkeeping

/-!
# What the store answers to an event

The reducer decides about an event, and the store checks all records and everything kept beside
them before it takes the result over. Up to the limit of panes these checks never decide: the answer
is that of the reducer, of the revision counter and of the save.
-/

open Foundation Foundation.Text
namespace VdeTmux.Pane
namespace CanonicalStateRuntime

def showsOutside (runtime : CanonicalStateRuntime) (pane : PaneInstance) (r : Reduction) : Bool :=
  r.outcome = .canonicalChanged ||
    r.trackerDelta.any fun delta => publicIdentityChanged (runtime.tracker pane) delta.next

/-- The outcome of an event before the save, by its reduction and the counter of revisions. -/
def answerInMemory [Sha256] (runtime : CanonicalStateRuntime) (envelope : PaneEventEnvelope)
    (visibility : VisibilitySnapshot) (privateTaskPrompt : Option String)
    (generated : Except String StateId) : Except StoreError ReductionOutcome := do
  let newStateId ← runtime.generateStateId envelope generated
  let r ← ((runtime.cell envelope.paneInstance).reduce
    (runtime.inputOf envelope visibility privateTaskPrompt newStateId)).mapError .reduce
  refuse (runtime.showsOutside envelope.paneInstance r = true ∧ u64Max ≤ runtime.snapshotRevision)
    (.counterOverflow "snapshot revision")
  return r.outcome

/-- The answer to an event when no check of the store stands in its way. -/
def answer [Sha256] (runtime : CanonicalStateRuntime) (saved : Except StoreError Unit)
    (envelope : PaneEventEnvelope) (visibility : VisibilitySnapshot)
    (privateTaskPrompt : Option String) (generated : Except String StateId) :
    Except StoreError ReductionOutcome := do
  runtime.failStopped?
  let outcome ← runtime.answerInMemory envelope visibility privateTaskPrompt generated
  if outcome = .canonicalChanged then saved
  return outcome

structure Admissible [Sha256] (runtime : CanonicalStateRuntime) : Prop where
  sound : runtime.ledger.Sound
  tidy : runtime.Tidy
  size : runtime.records.size ≤ maxDiagnostics

section
variable [Sha256]

theorem validateRecords_of {seen : List ℕ} {entries : List (PaneInstance × PaneState)}
    (hentries : ∀ e ∈ entries, e.2.paneInstance = e.1 ∧ e.2.Valid ∧
      ∀ n ∈ e.2.latestOrder?, n ∉ seen)
    (hdistinct : DistinctOrders entries) : validateRecords seen entries = .ok () := by
  induction entries generalizing seen with
  | nil => rfl
  | cons e rest ih =>
    obtain ⟨pane, state⟩ := e
    obtain ⟨⟨hpane, hvalid, hfresh⟩, hrest⟩ := List.forall_mem_cons.mp hentries
    obtain ⟨hfirst, hdistinct⟩ := List.pairwise_cons.mp hdistinct
    have hpane : state.paneInstance = pane := hpane
    have hvalid : state.validate = .ok () := PaneState.validate_eq_ok.mpr hvalid
    unfold validateRecords
    refine seq_eq_ok.mpr ⟨by simp [hpane], seq_eq_ok.mpr ⟨mapError_eq_ok.mpr hvalid, ?_⟩⟩
    cases hlatest : state.unread.latest with
    | none => exact ih hrest hdistinct
    | some latest =>
      have hmem : latest.order ∈ state.latestOrder? := by
        rw [PaneState.latestOrder?, hlatest]
        rfl
      refine seq_eq_ok.mpr ⟨refuse_eq_ok.mpr (hfresh _ hmem), ih (fun e he => ?_) hdistinct⟩
      obtain ⟨hkeyed, hgood, hnew⟩ := hrest e he
      refine ⟨hkeyed, hgood, fun n hn hshared => ?_⟩
      rcases List.mem_cons.mp hshared with rfl | hold
      · exact hfirst e he _ hmem hn
      · exact hnew n hn hold

theorem Admissible.validateProjection {runtime : CanonicalStateRuntime} (h : runtime.Admissible) :
    runtime.validateProjection = .ok () := by
  refine seq_eq_ok.mpr ⟨validateRecords_of ?_ (distinctOrders_of_sound h.sound), ?_⟩
  · rintro ⟨pane, s⟩ hentry
    obtain ⟨hpane, hvalid⟩ := h.sound.records pane s (mem_toList.mp hentry)
    exact ⟨hpane, hvalid, fun _ _ => List.not_mem_nil⟩
  · have hbound {α : Type} {m : PaneMap α} (hm : ∀ pane ∈ m, pane ∈ runtime.records) :
        ¬maxDiagnostics < m.size := not_lt.mpr ((Maps.size_le_of_subset hm).trans h.size)
    refine refuse_eq_ok.mpr ?_
    simp only [not_or]
    exact ⟨not_lt.mpr h.tidy.transitions, not_lt.mpr h.tidy.diagnostics, not_lt.mpr h.tidy.jobs,
      hbound h.tidy.generations, hbound h.tidy.triage, hbound h.tidy.calm, hbound h.tidy.flash⟩

theorem Admissible.bump {runtime bumped : CanonicalStateRuntime} (h : runtime.Admissible)
    (hbump : runtime.bumpSnapshotRevision = .ok bumped) : bumped.Admissible := by
  have htidy := h.tidy.bump hbump
  obtain ⟨-, rfl⟩ := bumpSnapshotRevision_eq_ok.mp hbump
  exact ⟨h.sound, htidy, h.size⟩

variable [ProjectionFrame]

theorem Admissible.publishResult {α : Type} {runtime : CanonicalStateRuntime}
    (h : runtime.Admissible) (report : CanonicalStateRuntime → α) :
    (runtime.publishResult report).1 =
      if u64Max ≤ runtime.snapshotRevision then .error (.counterOverflow "snapshot revision")
      else .ok (report runtime.publishInPlace.2) := by
  split_ifs with hfull
  · have hbump : runtime.bumpSnapshotRevision = .error (.counterOverflow "snapshot revision") := by
      rw [CanonicalStateRuntime.bumpSnapshotRevision, increment, if_neg hfull.not_gt]
      rfl
    simp only [CanonicalStateRuntime.publishResult, publishInPlace, hbump]
  · have hbump := bumpSnapshotRevision_eq_ok.mpr ⟨not_le.mp hfull, rfl⟩
    simp only [CanonicalStateRuntime.publishResult, publishInPlace, hbump,
      (h.bump hbump).validateProjection]

def RoomFor (runtime : CanonicalStateRuntime) (pane : PaneInstance) : Prop :=
  runtime.records.size < maxDiagnostics ∨
    pane ∈ runtime.records ∧ runtime.records.size ≤ maxDiagnostics

omit [Sha256] [ProjectionFrame] in
theorem RoomFor.size {runtime : CanonicalStateRuntime} {pane : PaneInstance}
    (h : runtime.RoomFor pane) : runtime.records.size ≤ maxDiagnostics :=
  h.elim Nat.le_of_lt And.right

omit [Sha256] [ProjectionFrame] in
theorem storeCandidate_records (runtime : CanonicalStateRuntime) (pane : PaneInstance)
    (event : PaneEvent) (candidate : PaneState) (delta : Option CaptureTrackerDelta) (order : ℕ) :
    (runtime.storeCandidate pane event candidate delta order).records =
      runtime.records.insert pane candidate := by
  have hcore := congrArg Prod.fst (deriveCandidateProjection_core (({ runtime with
    latestUnreadOrder := order
    records := runtime.records.insert pane candidate } : CanonicalStateRuntime).track pane delta)
    pane runtime.records[pane]? (some candidate) event (transitionAtEpoch event candidate))
  refine hcore.trans ?_
  cases delta <;> rfl

omit [Sha256] [ProjectionFrame] in
theorem storeCandidate_revision (runtime : CanonicalStateRuntime) (pane : PaneInstance)
    (event : PaneEvent) (candidate : PaneState) (delta : Option CaptureTrackerDelta) (order : ℕ) :
    (runtime.storeCandidate pane event candidate delta order).snapshotRevision =
      runtime.snapshotRevision := by
  unfold storeCandidate deriveCandidateProjection enterTriage announce notifyBlocked
    pushTransition endOccurrence track
  dsimp only
  cases delta <;> dsimp only <;> split_ifs <;> rfl

omit [Sha256] [ProjectionFrame] in
theorem RoomFor.store {runtime : CanonicalStateRuntime} {pane : PaneInstance}
    (h : runtime.RoomFor pane) (candidate : PaneState) :
    (runtime.records.insert pane candidate).size ≤ maxDiagnostics := by
  rw [Std.ExtTreeMap.size_insert]
  split_ifs with hmem
  · exact h.size
  · rcases h with hless | ⟨hpane, -⟩
    · exact hless
    · exact absurd hpane hmem

theorem applyTracked_outcome {runtime : CanonicalStateRuntime} (h : runtime.Admissible)
    {pane : PaneInstance} {r : Reduction} (houtcome : r.outcome ≠ .canonicalChanged)
    (htracked : (runtime.track pane r.trackerDelta).ledger.Sound) :
    (runtime.applyTracked pane r.outcome r.trackerDelta).1.map (·.outcome) =
      if runtime.showsOutside pane r = true ∧ u64Max ≤ runtime.snapshotRevision then
        .error (.counterOverflow "snapshot revision")
      else .ok r.outcome := by
  have hadmissible : (runtime.track pane r.trackerDelta).Admissible := by
    refine ⟨htracked, h.tidy.track _ _, ?_⟩
    cases r.trackerDelta with
    | none => exact h.size
    | some delta => exact h.size
  have hrevision : (runtime.track pane r.trackerDelta).snapshotRevision =
      runtime.snapshotRevision := by
    cases r.trackerDelta <;> rfl
  have hshows : runtime.showsOutside pane r = r.trackerDelta.any fun delta =>
      publicIdentityChanged (runtime.tracker pane) delta.next := by
    simp only [showsOutside, houtcome, decide_false, Bool.false_or]
  unfold applyTracked
  dsimp only
  rw [hshows]
  split_ifs with hpublic hfull hfull
  · rw [hadmissible.publishResult, hrevision, if_pos hfull.2]
    rfl
  · rw [hadmissible.publishResult, hrevision, if_neg fun hle => hfull ⟨hpublic, hle⟩]
    rfl
  · exact absurd hfull.1 hpublic
  · rfl

theorem applyCandidate_outcome {runtime : CanonicalStateRuntime} (h : runtime.Admissible)
    {pane : PaneInstance} (hroom : runtime.RoomFor pane) {event : PaneEvent}
    {candidate : PaneState} {delta : Option CaptureTrackerDelta} {order : ℕ}
    (hadmitted : admitOrder runtime.latestUnreadOrder candidate.unread.latestOrder = .ok order)
    (hstored : (runtime.storeCandidate pane event candidate delta order).ledger.Sound) :
    (runtime.applyCandidate pane event candidate delta).1.map (·.outcome) =
      if u64Max ≤ runtime.snapshotRevision then .error (.counterOverflow "snapshot revision")
      else .ok .canonicalChanged := by
  have hadmissible : (runtime.storeCandidate pane event candidate delta order).Admissible := by
    refine ⟨hstored, h.tidy.storeCandidate _ _ _ _ _, ?_⟩
    rw [storeCandidate_records]
    exact hroom.store candidate
  have hrevision : (runtime.storeCandidate pane event candidate delta order).snapshotRevision =
      runtime.snapshotRevision := storeCandidate_revision ..
  simp only [applyCandidate, hadmitted, hadmissible.publishResult, hrevision]
  split_ifs <;> rfl

theorem applyEventInMemory_outcome {runtime : CanonicalStateRuntime} (h : runtime.Admissible)
    {envelope : PaneEventEnvelope} (hroom : runtime.RoomFor envelope.paneInstance)
    {visibility : VisibilitySnapshot} {privateTaskPrompt : Option String}
    {generated : Except String StateId} {newStateId : Option StateId} {r : Reduction}
    (hgenerate : runtime.generateStateId envelope generated = .ok newStateId)
    (hreduce : (runtime.cell envelope.paneInstance).reduce
      (runtime.inputOf envelope visibility privateTaskPrompt newStateId) = .ok r) :
    (runtime.applyEventInMemory envelope visibility privateTaskPrompt generated).1.map
        (·.outcome) =
      if runtime.showsOutside envelope.paneInstance r = true ∧
          u64Max ≤ runtime.snapshotRevision then
        .error (.counterOverflow "snapshot revision")
      else .ok r.outcome := by
  have hsound := applyEventInMemory_sound h.sound envelope visibility privateTaskPrompt generated
  by_cases houtcome : r.outcome = .canonicalChanged
  · obtain ⟨candidate, hrecord⟩ := reduce_candidate hreduce houtcome
    have hreduced := reduce_reduced (fun s hs => (h.sound.records _ s hs).2) hreduce houtcome hrecord
    have hadmitted : admitOrder runtime.latestUnreadOrder candidate.unread.latestOrder =
        .ok (max runtime.latestUnreadOrder candidate.unread.latestOrder) :=
      admitOrder_eq_ok.mpr ⟨rfl, h.sound.admitted hreduced.issues⟩
    have hshows : runtime.showsOutside envelope.paneInstance r = true := by
      simp [showsOutside, houtcome]
    simp only [applyEventInMemory, hgenerate, hreduce, houtcome, hrecord, hshows, true_and]
      at hsound ⊢
    refine applyCandidate_outcome h hroom hadmitted ?_
    simp only [applyCandidate, hadmitted, publishResult_snd,
      ledger_of_core (publishInPlace_core _)] at hsound
    exact hsound
  · have htracked : runtime.applyEventInMemory envelope visibility privateTaskPrompt generated =
        runtime.applyTracked envelope.paneInstance r.outcome r.trackerDelta := by
      simp only [applyEventInMemory, hgenerate, hreduce]
      split
      · rename_i hchanged _
        exact absurd hchanged houtcome
      · rfl
    rw [htracked, applyTracked_ledger] at hsound
    rw [htracked]
    exact applyTracked_outcome h houtcome hsound

theorem applyEventInMemory_answer {runtime : CanonicalStateRuntime} (h : runtime.Admissible)
    {envelope : PaneEventEnvelope} (hroom : runtime.RoomFor envelope.paneInstance)
    (visibility : VisibilitySnapshot) (privateTaskPrompt : Option String)
    (generated : Except String StateId) :
    (runtime.applyEventInMemory envelope visibility privateTaskPrompt generated).1.map
        (·.outcome) =
      runtime.answerInMemory envelope visibility privateTaskPrompt generated := by
  unfold answerInMemory
  cases hgenerate : runtime.generateStateId envelope generated with
  | error e =>
    simp only [applyEventInMemory, hgenerate]
    rfl
  | ok newStateId =>
    dsimp only [bind, Except.bind]
    cases hreduce : (runtime.cell envelope.paneInstance).reduce
        (runtime.inputOf envelope visibility privateTaskPrompt newStateId) with
    | error e =>
      simp only [applyEventInMemory, hgenerate, hreduce]
      rfl
    | ok r =>
      rw [applyEventInMemory_outcome h hroom hgenerate hreduce]
      dsimp only [Except.mapError, refuse]
      split_ifs <;> rfl

omit [Sha256] [ProjectionFrame] in
theorem map_commit {α β : Type} {runtime : CanonicalStateRuntime} {f : α → β}
    {result : Except StoreError (α × CanonicalStateRuntime)} :
    (runtime.commit result).1.map f = result.map fun p => f p.1 := by
  cases result <;> rfl

/-- However operations are interleaved after a hydration, an event of a pane there is room for is
answered by its reduction, the counter of revisions and the save alone: the checks that the store
runs over all records and everything kept beside them refuse nothing. -/
theorem applyEvent_answer {records : PaneMap PaneState} {hydrated runtime : CanonicalStateRuntime}
    {past : List (CanonicalStateRuntime × Operation)} (hhydrate : hydrate records = .ok hydrated)
    (hrun : Trace Step hydrated past runtime) (saved : Except StoreError Unit)
    (envelope : PaneEventEnvelope) (visibility : VisibilitySnapshot)
    (privateTaskPrompt : Option String) (generated : Except String StateId)
    (hroom : runtime.RoomFor envelope.paneInstance) :
    (runtime.applyEventWithPrivateTaskPrompt saved envelope visibility privateTaskPrompt
        generated).1.map (·.outcome) =
      runtime.answer saved envelope visibility privateTaskPrompt generated := by
  have hadmissible : runtime.Admissible :=
    ⟨(run_advances (hydrate_sound hhydrate) hrun).1, run_tidy (hydrate_tidy hhydrate) hrun,
      hroom.size⟩
  unfold applyEventWithPrivateTaskPrompt answer
  rw [map_commit, ← applyEventInMemory_answer hadmissible hroom]
  dsimp only [failStopped?, bind, Except.bind]
  cases refuse (runtime.failStopped = true) (StoreError.failStop "daemon is fail-stopped") with
  | error e => rfl
  | ok _ =>
    dsimp only
    cases (runtime.applyEventInMemory envelope visibility privateTaskPrompt generated).1 with
    | error e => rfl
    | ok result =>
      dsimp only [Except.map]
      split_ifs
      · cases saved <;> rfl
      · rfl

end

def oneRecord : CanonicalStateRuntime where
  records := (∅ : PaneMap PaneState).insert claudePane claudeRecord
  trackers := (∅ : PaneMap CaptureTrackerSnapshot).insert claudePane (hydratedTracker claudeRecord)

def oneRun : CanonicalStateRuntime :=
  (@perform .constant ⟨fun _ _ _ _ => 0⟩ oneRecord
    (.applyEvent (.ok ()) (claudeEnvelope (.beginRun 5 none)) {} none (.error ""))).2

/-- The completion of a run whose save fails: the answer is the error of the save. -/
theorem applyEvent_answer_saved :
    let _ := Sha256.constant
    let _ : ProjectionFrame := ⟨fun _ _ _ _ => 0⟩
    (oneRun.applyEventWithPrivateTaskPrompt (.error .stateTooLarge)
      (claudeEnvelope (.completeRun 7)) {} none (.error "")).1.map (·.outcome) =
        oneRun.answer (.error .stateTooLarge) (claudeEnvelope (.completeRun 7)) {} none (.error "") ∧
    oneRun.answer (.error .stateTooLarge) (claudeEnvelope (.completeRun 7)) {} none (.error "") =
      .error .stateTooLarge := by
  let _ := Sha256.constant
  let _ : ProjectionFrame := ⟨fun _ _ _ _ => 0⟩
  intro _ _
  have hhydrate : hydrate ((∅ : PaneMap PaneState).insert claudePane claudeRecord) =
      .ok oneRecord := rfl
  have hrun : Trace Step oneRecord _ oneRun := Trace.nil.snoc rfl
  refine ⟨applyEvent_answer hhydrate hrun _ _ _ _ _ (Or.inl (by decide +kernel)), by decide +kernel⟩

end CanonicalStateRuntime
end VdeTmux.Pane
