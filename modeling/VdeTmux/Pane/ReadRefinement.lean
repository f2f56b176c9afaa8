import VdeTmux.Pane.ReadBatch

/-!
# Batches against single reads

The reads of a list applied one after the other, and when a batch of them ends with the same
records and trackers.
-/

open Foundation
namespace VdeTmux.Pane
namespace CanonicalStateRuntime
section
variable [Sha256] [ProjectionFrame]

def readOnce (runtime : CanonicalStateRuntime) (visibility : VisibilitySnapshot)
    (generated : Except String StateId) (envelope : PaneEventEnvelope) : CanonicalStateRuntime :=
  (runtime.applyEvent (.ok ()) envelope visibility generated).2

def readSingly (runtime : CanonicalStateRuntime) (visibility : VisibilitySnapshot)
    (generated : Except String StateId) : List PaneEventEnvelope → CanonicalStateRuntime
  | [] => runtime
  | envelope :: rest =>
    (runtime.readOnce visibility generated envelope).readSingly visibility generated rest

def changedReads (runtime : CanonicalStateRuntime) (visibility : VisibilitySnapshot)
    (generated : Except String StateId) : List PaneEventEnvelope → ℕ
  | [] => 0
  | envelope :: rest =>
    let next := runtime.readOnce visibility generated envelope
    next.changedReads visibility generated rest +
      if next.records[envelope.paneInstance]? = runtime.records[envelope.paneInstance]? then 0
      else 1

def published (stored : CanonicalStateRuntime) (revision : ℕ) : CanonicalStateRuntime :=
  (({ stored with snapshotRevision := revision } :
    CanonicalStateRuntime).preflightProjection maxResponseFrameBytes).2

/-- The read stores something that can be published. -/
def Accepts (runtime : CanonicalStateRuntime) (envelope : PaneEventEnvelope) : Prop :=
  ∃ stored, runtime.readEffect envelope = .stores stored ∧
    runtime.snapshotRevision < u64Max ∧ stored.InBounds

theorem readOnce_eq {runtime : CanonicalStateRuntime} (hopen : runtime.failStopped = false)
    (visibility : VisibilitySnapshot) (generated : Except String StateId)
    (envelope : PaneEventEnvelope) :
    runtime.readOnce visibility generated envelope =
      match runtime.applyEventInMemory envelope visibility none generated with
      | (.ok _, draft) => draft
      | (.error _, _) => runtime := by
  have hrefuse (e : StoreError) : refuse (runtime.failStopped = true) e = .ok () :=
    if_neg (by simp [hopen])
  unfold readOnce applyEvent applyEventWithPrivateTaskPrompt
  rw [hrefuse]
  generalize runtime.applyEventInMemory envelope visibility none generated = ended
  obtain ⟨result, draft⟩ := ended
  cases result with
  | error e => rfl
  | ok result =>
    by_cases hchanged : result.outcome = .canonicalChanged
    · simp only [commit, bind, Except.bind, hchanged, if_true]
      rfl
    · simp only [commit, bind, Except.bind, hchanged, if_false]
      rfl

theorem readOnce_cases {runtime : CanonicalStateRuntime} (hopen : runtime.failStopped = false)
    (visibility : VisibilitySnapshot) (generated : Except String StateId)
    {envelope : PaneEventEnvelope} (hread : envelope.event.isMarkPaneRead = true) :
    (¬runtime.Accepts envelope ∧ runtime.readOnce visibility generated envelope = runtime) ∨
      ∃ stored, runtime.readEffect envelope = .stores stored ∧
        runtime.snapshotRevision < u64Max ∧ stored.InBounds ∧
        runtime.readOnce visibility generated envelope =
          stored.published (runtime.snapshotRevision + 1) := by
  have hresult := applyEventInMemory_readResult runtime hread visibility generated
  rw [readOnce_eq hopen]
  unfold Accepts
  generalize runtime.applyEventInMemory envelope visibility none generated = ended at hresult ⊢
  generalize runtime.readEffect envelope = effect at hresult ⊢
  cases hresult with
  | noop result outcome => exact .inl ⟨by simp, rfl⟩
  | refused error stays => exact .inl ⟨by simp, rfl⟩
  | stopped error exits => exact .inl ⟨by simp, rfl⟩
  | published stored result room bounds outcome => exact .inr ⟨stored, rfl, room, bounds, rfl⟩
  | unbounded stored error room bounds stays =>
    refine .inl ⟨?_, rfl⟩
    rintro ⟨_, ⟨⟩, -, hin⟩
    exact bounds hin
  | exhausted stored error full exits =>
    refine .inl ⟨?_, rfl⟩
    rintro ⟨_, -, hroom, -⟩
    exact full hroom

omit [Sha256] in
theorem published_core (stored : CanonicalStateRuntime) (revision : ℕ) :
    (stored.published revision).core = stored.core :=
  preflightProjection_core _ _

omit [Sha256] in
theorem published_snapshotRevision (stored : CanonicalStateRuntime) (revision : ℕ) :
    (stored.published revision).snapshotRevision = revision := rfl

structure OneRead (runtime next : CanonicalStateRuntime) (envelope : PaneEventEnvelope)
    (changed : ℕ) : Prop where
  marks : ∃ panes, panes.length = changed ∧ ∀ {records others}, Marks next.records others records →
    Marks runtime.records (panes ++ others) records
  trackers : next.trackers = runtime.trackers
  failStopped : next.failStopped = runtime.failStopped
  revision : next.snapshotRevision = runtime.snapshotRevision + changed
  room : changed = 0 ∨ next.snapshotRevision ≤ u64Max
  count : (if next.records[envelope.paneInstance]? = runtime.records[envelope.paneInstance]? then 0
    else 1) = changed

omit [Sha256] [ProjectionFrame] in
theorem oneRead_refused (runtime : CanonicalStateRuntime) (envelope : PaneEventEnvelope) :
    OneRead runtime runtime envelope 0 :=
  ⟨⟨[], rfl, fun h => h⟩, rfl, rfl, rfl, .inl rfl, if_pos rfl⟩

theorem oneRead_published {runtime stored : CanonicalStateRuntime} {envelope : PaneEventEnvelope}
    (hread : envelope.event.isMarkPaneRead = true)
    (heffect : runtime.readEffect envelope = .stores stored)
    (hroom : runtime.snapshotRevision < u64Max) :
    OneRead runtime (stored.published (runtime.snapshotRevision + 1)) envelope 1 := by
  obtain ⟨⟨record, hrecord, hunseen, hrecords⟩, htrackers, hfail⟩ :=
    readEffect_stores hread heffect
  have hcore := published_core stored (runtime.snapshotRevision + 1)
  have hpublished : (stored.published (runtime.snapshotRevision + 1)).records =
      runtime.records.insert envelope.paneInstance record.marked :=
    (congrArg Prod.fst hcore).trans hrecords
  refine ⟨⟨[envelope.paneInstance], rfl, ?_⟩, ?_, ?_, rfl, .inr hroom, ?_⟩
  · intro records others hrest
    exact .snoc hrecord hunseen hpublished hrest
  · exact (congrArg (fun core => core.2.1) hcore).trans htrackers
  · exact (congrArg (fun core => core.2.2.2) hcore).trans hfail
  · rw [hpublished, getElem?_insert, if_pos rfl, hrecord, if_neg]
    intro hsame
    exact record.marked_ne (Option.some.inj hsame)

theorem oneRead_readOnce {runtime : CanonicalStateRuntime} (hopen : runtime.failStopped = false)
    (visibility : VisibilitySnapshot) (generated : Except String StateId)
    {envelope : PaneEventEnvelope} (hread : envelope.event.isMarkPaneRead = true) :
    ∃ changed, OneRead runtime (runtime.readOnce visibility generated envelope) envelope changed ∧
      (runtime.Accepts envelope ↔ changed = 1) ∧
      (changed = 0 → runtime.readOnce visibility generated envelope = runtime) := by
  rcases readOnce_cases hopen visibility generated hread with
    ⟨hrefused, hsame⟩ | ⟨stored, heffect, hroom, hbounds, hnext⟩
  · refine ⟨0, ?_, ?_, fun _ => hsame⟩
    · rw [hsame]
      exact oneRead_refused runtime envelope
    · simp [hrefused]
  · refine ⟨1, ?_, ?_, nofun⟩
    · rw [hnext]
      exact oneRead_published hread heffect hroom
    · simp only [iff_true]
      exact ⟨stored, heffect, hroom, hbounds⟩

/-- The reads one by one mark as many panes as they change records. -/
structure SingleRun (runtime next : CanonicalStateRuntime) (changed : ℕ) : Prop where
  marks : ∃ panes, panes.length = changed ∧ Marks runtime.records panes next.records
  trackers : next.trackers = runtime.trackers
  revision : next.snapshotRevision = runtime.snapshotRevision + changed
  room : changed = 0 ∨ next.snapshotRevision ≤ u64Max

variable (visibility : VisibilitySnapshot) (generated : Except String StateId)

theorem readSingly_run {runtime : CanonicalStateRuntime} (hopen : runtime.failStopped = false)
    {envelopes : List PaneEventEnvelope}
    (hreads : ∀ envelope ∈ envelopes, envelope.event.isMarkPaneRead = true) :
    SingleRun runtime (runtime.readSingly visibility generated envelopes)
      (runtime.changedReads visibility generated envelopes) := by
  induction envelopes generalizing runtime with
  | nil => exact ⟨⟨[], rfl, .nil _⟩, rfl, rfl, .inl rfl⟩
  | cons envelope rest ih =>
    obtain ⟨hread, hreads⟩ := List.forall_mem_cons.mp hreads
    obtain ⟨changed, hone, -, -⟩ := oneRead_readOnce hopen visibility generated hread
    have hrun := ih (hone.failStopped.trans hopen) hreads
    simp only [readSingly, changedReads, hone.count]
    refine ⟨?_, hrun.trackers.trans hone.trackers, ?_, ?_⟩
    · obtain ⟨panes, hlength, hmarks⟩ := hone.marks
      obtain ⟨others, hothers, hrest⟩ := hrun.marks
      refine ⟨panes ++ others, ?_, hmarks hrest⟩
      rw [List.length_append, hlength, hothers, Nat.add_comm]
    · rw [hrun.revision, hone.revision]
      omega
    · have hfirst := hone.room
      have hrest := hrun.room
      have hrevision := hrun.revision
      omega

theorem readSingly_none {runtime : CanonicalStateRuntime} (hopen : runtime.failStopped = false)
    {envelopes : List PaneEventEnvelope}
    (hreads : ∀ envelope ∈ envelopes, envelope.event.isMarkPaneRead = true) :
    runtime.changedReads visibility generated envelopes = 0 ↔
      ∀ envelope ∈ envelopes, ¬runtime.Accepts envelope := by
  induction envelopes with
  | nil => simp [changedReads]
  | cons envelope rest ih =>
    obtain ⟨hread, hreads⟩ := List.forall_mem_cons.mp hreads
    obtain ⟨changed, hone, haccepts, hsame⟩ := oneRead_readOnce hopen visibility generated hread
    simp only [changedReads, hone.count, List.forall_mem_cons, haccepts, Nat.add_eq_zero_iff]
    constructor
    · rintro ⟨hrest, hnone⟩
      rw [hsame hnone] at hrest
      exact ⟨by omega, (ih hreads).mp hrest⟩
    · rintro ⟨hnone, hrest⟩
      have hzero : changed = 0 := by
        rcases hone.room with hzero | -
        · exact hzero
        · by_contra hpos
          have hcount := hone.count
          split_ifs at hcount <;> omega
      rw [hsame hzero]
      exact ⟨(ih hreads).mpr hrest, hzero⟩

theorem readSingly_of_failStopped {runtime : CanonicalStateRuntime}
    (hstopped : runtime.failStopped = true) (envelopes : List PaneEventEnvelope) :
    runtime.readSingly visibility generated envelopes = runtime ∧
      runtime.changedReads visibility generated envelopes = 0 := by
  have hsame (envelope : PaneEventEnvelope) :
      runtime.readOnce visibility generated envelope = runtime := by
    unfold readOnce applyEvent applyEventWithPrivateTaskPrompt
    rw [hstopped]
    rfl
  induction envelopes with
  | nil => exact ⟨rfl, rfl⟩
  | cons envelope rest ih =>
    simp only [readSingly, changedReads, hsame, if_true]
    exact ih

theorem readSingly_fits {runtime single : CanonicalStateRuntime} (halike : runtime.Alike single)
    (hopen : single.failStopped = false) {envelopes : List PaneEventEnvelope}
    (hreads : ∀ envelope ∈ envelopes, envelope.event.isMarkPaneRead = true)
    (hfit : runtime.ReadsFit envelopes)
    (hroom : runtime.storedReads envelopes ≤ u64Max - single.snapshotRevision) :
    (runtime.storeReads envelopes).Alike (single.readSingly visibility generated envelopes) ∧
      single.changedReads visibility generated envelopes = runtime.storedReads envelopes := by
  induction envelopes generalizing runtime single with
  | nil => exact ⟨halike, rfl⟩
  | cons envelope rest ih =>
    obtain ⟨hread, hreads⟩ := List.forall_mem_cons.mp hreads
    obtain ⟨changed, hone, haccepts, hsame⟩ := oneRead_readOnce hopen visibility generated hread
    have heffect := halike.readEffect hread
    unfold ReadsFit at hfit
    unfold storedReads at hroom
    unfold storeReads storedReads
    simp only [readSingly, changedReads, hone.count]
    rcases readOnce_cases hopen visibility generated hread with
      ⟨hrefused, hkeeps⟩ | ⟨other, hother, hspace, hbounds, hnext⟩
    · have hzero : changed = 0 := by
        have hcount := hone.count
        rw [hkeeps, if_pos rfl] at hcount
        exact hcount.symm
      generalize heff : runtime.readEffect envelope = effect at heffect hfit hroom
      generalize hoth : single.readEffect envelope = effect' at heffect
      rw [hkeeps, hzero]
      cases heffect with
      | skipped => exact ih halike hopen hreads hfit hroom
      | stops error => exact absurd hfit id
      | stores alike =>
        exfalso
        apply hrefused
        refine ⟨_, hoth, ?_, alike.inBounds.mpr hfit.1⟩
        dsimp only at hroom
        omega
    · generalize heff : runtime.readEffect envelope = effect at heffect hfit hroom
      rw [hother] at heffect
      have hone' : changed = 1 := haccepts.mp ⟨other, hother, hspace, hbounds⟩
      cases heffect with
      | @stores stored _ alike =>
        have hpublished : stored.Alike (other.published (single.snapshotRevision + 1)) :=
          alike_published alike hfit.1 _
        have hfail := hone.failStopped.trans hopen
        rw [hnext] at hfail ⊢
        have hrest : stored.storedReads rest ≤
            u64Max - (other.published (single.snapshotRevision + 1)).snapshotRevision := by
          rw [published_snapshotRevision]
          dsimp only at hroom
          omega
        obtain ⟨hend, hcount⟩ := ih hpublished hfail hreads hfit.2 hrest
        refine ⟨hend, ?_⟩
        rw [hcount, hone']

theorem settleProjection_cases (draft : CanonicalStateRuntime) {bump : Bool}
    (hroom : bump = true → draft.snapshotRevision < u64Max) :
    (¬draft.InBounds ∧ ∃ e, draft.settleProjection bump = .error e) ∨
      (draft.InBounds ∧ ∃ settled, draft.settleProjection bump = .ok settled ∧
        settled.core = draft.core ∧ settled.snapshotRevision ≤ draft.snapshotRevision + 1) := by
  have hbump : ∃ revision, draft.bumpIf bump = .ok { draft with snapshotRevision := revision } ∧
      revision ≤ draft.snapshotRevision + 1 := by
    unfold bumpIf
    cases bump with
    | false => exact ⟨draft.snapshotRevision, rfl, Nat.le_succ _⟩
    | true =>
      exact ⟨_, bumpSnapshotRevision_eq_ok.mpr ⟨hroom rfl, rfl⟩, le_rfl⟩
  obtain ⟨revision, hbump, hrevision⟩ := hbump
  unfold settleProjection
  rw [hbump]
  have hsame : ({ draft with snapshotRevision := revision } :
    CanonicalStateRuntime).validateProjection = draft.validateProjection := rfl
  dsimp only [bind, Except.bind]
  rw [hsame]
  unfold InBounds
  cases draft.validateProjection with
  | error e => exact .inl ⟨nofun, e, rfl⟩
  | ok u => exact .inr ⟨rfl, _, rfl, preflightProjection_core _ _, hrevision⟩

inductive BatchEnd (runtime : CanonicalStateRuntime) (envelopes : List PaneEventEnvelope) :
    Except StoreError PaneReadApplyResult × CanonicalStateRuntime → Prop
  | failed (error : StoreError)
    (reason : runtime.ReadsStop runtime.snapshotRevision envelopes ∨
      ¬(runtime.storeReads envelopes).InBounds) :
    BatchEnd runtime envelopes (.error error, { runtime with failStopped := true })
  | saved (result : PaneReadApplyResult) (next : CanonicalStateRuntime)
    (goesOn : ¬runtime.ReadsStop runtime.snapshotRevision envelopes)
    (bounds : (runtime.storeReads envelopes).InBounds)
    (core : next.core = (runtime.storeReads envelopes).core)
    (revision : next.snapshotRevision ≤ runtime.snapshotRevision + 1)
    (fits : result.committed = runtime.storedReads envelopes ↔ runtime.ReadsFit envelopes) :
    BatchEnd runtime envelopes (.ok result, next)

theorem applyPaneReads_end {runtime : CanonicalStateRuntime} (hopen : runtime.failStopped = false)
    {envelopes : List PaneEventEnvelope}
    (hreads : ∀ envelope ∈ envelopes, envelope.event.isMarkPaneRead = true) :
    BatchEnd runtime envelopes (runtime.applyPaneReads (.ok ()) envelopes) := by
  unfold applyPaneReads readDraft
  rw [hopen]
  cases hbatch : readPanes runtime.snapshotRevision ⟨runtime, 0, false⟩ envelopes with
  | error error =>
    obtain ⟨hexit, hstop⟩ := readPanes_error (Alike.refl runtime) hreads hbatch
    obtain ⟨error, exit⟩ := error
    obtain rfl : exit = true := hexit
    exact .failed error (.inl hstop)
  | ok draft =>
    have hrun := readPanes_ok (Alike.refl runtime) hreads hbatch
    have hreset : (runtime.storeReads envelopes).Alike
        { draft.working with snapshotRevision := runtime.snapshotRevision } :=
      hrun.alike.withMeta Iff.rfl
    have hroom : draft.projectionChanged = true → runtime.snapshotRevision < u64Max :=
      fun hchanged => (hrun.changed hchanged).resolve_left Bool.false_ne_true
    rcases settleProjection_cases
        { draft.working with snapshotRevision := runtime.snapshotRevision } hroom with
      ⟨hout, e, hsettle⟩ | ⟨hin, settled, hsettle, hcore, hrevision⟩
    · simp only [bind, Except.bind, hsettle]
      exact .failed e (.inr (mt hreset.inBounds.mpr hout))
    · simp only [bind, Except.bind, hsettle, Except.mapError, pure, Except.pure, ite_self, commit,
        Bool.false_eq_true, if_false]
      refine .saved _ settled hrun.goesOn (hreset.inBounds.mp hin) ?_ hrevision ?_
      · exact hcore.trans hreset.core
      · have hall := hrun.all
        have hfits := hrun.fits
        dsimp only at hall hfits ⊢
        rw [Nat.zero_add] at hall hfits
        exact ⟨hfits, hall⟩

/-- The batch ends with the records and trackers of the single reads, reports how many of them
changed their record, raises the snapshot revision by one at most, and an error leaves everything
as it was. -/
structure RefinesReads (runtime : CanonicalStateRuntime) (visibility : VisibilitySnapshot)
    (generated : Except String StateId) (envelopes : List PaneEventEnvelope) : Prop where
  records : (runtime.applyPaneReads (.ok ()) envelopes).2.records =
    (runtime.readSingly visibility generated envelopes).records
  trackers : (runtime.applyPaneReads (.ok ()) envelopes).2.trackers =
    (runtime.readSingly visibility generated envelopes).trackers
  committed : ∀ result, (runtime.applyPaneReads (.ok ()) envelopes).1 = .ok result →
    result.committed = runtime.changedReads visibility generated envelopes
  revision : (runtime.applyPaneReads (.ok ()) envelopes).2.snapshotRevision ≤
    runtime.snapshotRevision + 1
  failed : ∀ error, (runtime.applyPaneReads (.ok ()) envelopes).1 = .error error →
    (runtime.applyPaneReads (.ok ()) envelopes).2.records = runtime.records ∧
      (runtime.applyPaneReads (.ok ()) envelopes).2.trackers = runtime.trackers ∧
      (runtime.applyPaneReads (.ok ()) envelopes).2.snapshotRevision = runtime.snapshotRevision

/-- Every read goes through: nothing overflows, the projection stays in its bounds, and the
snapshot revision has room for each of them on its own. -/
def ReadsPass (runtime : CanonicalStateRuntime) (envelopes : List PaneEventEnvelope) : Prop :=
  runtime.ReadsFit envelopes ∧
    runtime.storedReads envelopes ≤ u64Max - runtime.snapshotRevision

/-- Nothing goes through: no read on its own, and not all of them together. -/
def NothingPasses (runtime : CanonicalStateRuntime) (envelopes : List PaneEventEnvelope) : Prop :=
  (∀ envelope ∈ envelopes, ¬runtime.Accepts envelope) ∧
    (runtime.ReadsStop runtime.snapshotRevision envelopes ∨
      ¬(runtime.storeReads envelopes).InBounds)

theorem readSingly_unchanged {runtime : CanonicalStateRuntime}
    (hopen : runtime.failStopped = false) {envelopes : List PaneEventEnvelope}
    (hreads : ∀ envelope ∈ envelopes, envelope.event.isMarkPaneRead = true)
    (hnone : runtime.changedReads visibility generated envelopes = 0) :
    (runtime.readSingly visibility generated envelopes).records = runtime.records := by
  obtain ⟨panes, hlength, hmarks⟩ :=
    (readSingly_run visibility generated hopen hreads).marks
  rw [hnone, List.length_eq_zero_iff] at hlength
  subst hlength
  exact hmarks.eq_of_nil

theorem refinesReads_of_failStopped {runtime : CanonicalStateRuntime}
    (hstopped : runtime.failStopped = true) (envelopes : List PaneEventEnvelope) :
    runtime.RefinesReads visibility generated envelopes := by
  obtain ⟨hsame, -⟩ := readSingly_of_failStopped visibility generated hstopped envelopes
  have hbatch : runtime.applyPaneReads (.ok ()) envelopes =
      (.error (.failStop "daemon is fail-stopped"), runtime) := by
    unfold applyPaneReads
    rw [hstopped]
    rfl
  refine ⟨?_, ?_, ?_, ?_, ?_⟩
  all_goals rw [hbatch]
  · rw [hsame]
  · rw [hsame]
  · intro result hok
    cases hok
  · exact Nat.le_succ _
  · exact fun _ _ => ⟨rfl, rfl, rfl⟩

theorem refinesReads_failed {runtime : CanonicalStateRuntime} {error : StoreError}
    (hopen : runtime.failStopped = false) {envelopes : List PaneEventEnvelope}
    (hreads : ∀ envelope ∈ envelopes, envelope.event.isMarkPaneRead = true)
    (hbatch : runtime.applyPaneReads (.ok ()) envelopes =
      (.error error, { runtime with failStopped := true })) :
    runtime.RefinesReads visibility generated envelopes ↔
      runtime.changedReads visibility generated envelopes = 0 := by
  have hrun := readSingly_run visibility generated hopen hreads
  constructor
  · intro h
    have hrecords := h.records
    rw [hbatch] at hrecords
    obtain ⟨panes, hlength, hmarks⟩ := hrun.marks
    rw [← hlength, hmarks.length_eq (.nil _) hrecords.symm]
    rfl
  · intro hnone
    refine ⟨?_, ?_, ?_, ?_, ?_⟩
    all_goals rw [hbatch]
    · exact (readSingly_unchanged visibility generated hopen hreads hnone).symm
    · exact hrun.trackers.symm
    · intro result hok
      cases hok
    · exact Nat.le_succ _
    · exact fun _ _ => ⟨rfl, rfl, rfl⟩

theorem refinesReads_saved {runtime next : CanonicalStateRuntime} {result : PaneReadApplyResult}
    (hopen : runtime.failStopped = false) {envelopes : List PaneEventEnvelope}
    (hreads : ∀ envelope ∈ envelopes, envelope.event.isMarkPaneRead = true)
    (hbatch : runtime.applyPaneReads (.ok ()) envelopes = (.ok result, next))
    (hcore : next.core = (runtime.storeReads envelopes).core)
    (hrevision : next.snapshotRevision ≤ runtime.snapshotRevision + 1)
    (hfits : result.committed = runtime.storedReads envelopes ↔ runtime.ReadsFit envelopes) :
    runtime.RefinesReads visibility generated envelopes ↔ runtime.ReadsPass envelopes := by
  have hrun := readSingly_run visibility generated hopen hreads
  obtain ⟨⟨stored, hmarks, hstored⟩, -⟩ := storeReads_marks runtime hreads
  have hrecords := congrArg Prod.fst hcore
  constructor
  · intro h
    have hsame := h.records
    have hcount := h.committed result
    rw [hbatch] at hsame hcount
    obtain ⟨panes, hpanes, hsingle⟩ := hrun.marks
    -- both ways mark the same panes, so the batch counted every read that it stored
    have hlength := hmarks.length_eq hsingle (hrecords.symm.trans hsame)
    have hall : result.committed = runtime.storedReads envelopes := by
      rw [hcount rfl, ← hpanes, ← hlength, hstored]
    refine ⟨hfits.mp hall, ?_⟩
    have hroom := hrun.room
    have hraised := hrun.revision
    omega
  · rintro ⟨hfit, hroom⟩
    obtain ⟨halike, hcount⟩ := readSingly_fits visibility generated (Alike.refl runtime) hopen
      hreads hfit hroom
    refine ⟨?_, ?_, ?_, ?_, ?_⟩
    all_goals rw [hbatch]
    · exact hrecords.trans (congrArg Prod.fst halike.core).symm
    · exact (congrArg (fun core => core.2.1) hcore).trans
        (congrArg (fun core => core.2.1) halike.core).symm
    · intro result' hok
      cases hok
      rw [hcount]
      exact hfits.mpr hfit
    · exact hrevision
    · intro error herror
      cases herror

/-- A batch of reads refines the single reads exactly when the daemon has stopped, when every read
passes, or when nothing passes either way. -/
theorem refinesReads_iff {runtime : CanonicalStateRuntime} {envelopes : List PaneEventEnvelope}
    (hreads : ∀ envelope ∈ envelopes, envelope.event.isMarkPaneRead = true) :
    runtime.RefinesReads visibility generated envelopes ↔
      runtime.failStopped = true ∨ runtime.ReadsPass envelopes ∨
        runtime.NothingPasses envelopes := by
  cases hopen : runtime.failStopped with
  | true => simp only [true_or, refinesReads_of_failStopped visibility generated hopen]
  | false =>
    simp only [Bool.false_eq_true, false_or]
    have hend := applyPaneReads_end hopen hreads
    generalize hbatch : runtime.applyPaneReads (.ok ()) envelopes = ended at hend
    cases hend with
    | failed error reason =>
      rw [refinesReads_failed visibility generated hopen hreads hbatch]
      have hnone := readSingly_none visibility generated hopen hreads
      constructor
      · intro hzero
        exact .inr ⟨hnone.mp hzero, reason⟩
      · rintro (⟨hfit, hroom⟩ | ⟨hrefused, -⟩)
        · obtain ⟨-, hcount⟩ := readSingly_fits visibility generated (Alike.refl runtime) hopen
            hreads hfit hroom
          rw [hcount]
          rcases reason with hstop | hout
          · obtain ⟨hstores, hfull⟩ := hfit.stop hstop
            omega
          · exact hfit.inBounds.resolve_right hout
        · exact hnone.mpr hrefused
    | saved result next goesOn bounds core revision fits =>
      rw [refinesReads_saved visibility generated hopen hreads hbatch core revision fits]
      refine ⟨.inl, ?_⟩
      rintro (hpass | ⟨-, hstop | hout⟩)
      · exact hpass
      · exact absurd hstop goesOn
      · exact absurd bounds hout

end
end CanonicalStateRuntime

def flashing : ℕ → PaneMap ℕ
  | 0 => ∅
  | n + 1 => (flashing n).insert ⟨"%9", n⟩ 2

theorem mem_flashing {n : ℕ} {pane : PaneInstance} :
    pane ∈ flashing n ↔ ∃ pid < n, pane = ⟨"%9", pid⟩ := by
  induction n with
  | zero => simp [flashing]
  | succ n ih =>
    rw [flashing, Std.ExtTreeMap.mem_insert, Std.LawfulEqCmp.compare_eq_iff_eq, ih]
    constructor
    · rintro (rfl | ⟨pid, hpid, rfl⟩)
      · exact ⟨n, Nat.lt_succ_self n, rfl⟩
      · exact ⟨pid, Nat.lt_succ_of_lt hpid, rfl⟩
    · rintro ⟨pid, hpid, rfl⟩
      rcases Nat.lt_succ_iff_lt_or_eq.mp hpid with hlt | rfl
      · exact .inr ⟨pid, hlt, rfl⟩
      · exact .inl rfl

theorem size_flashing (n : ℕ) : (flashing n).size = n := by
  induction n with
  | zero => rfl
  | succ n ih =>
    have hnew : (⟨"%9", n⟩ : PaneInstance) ∉ flashing n := by
      intro hmem
      obtain ⟨pid, hpid, heq⟩ := mem_flashing.mp hmem
      cases heq
      omega
    rw [flashing, Std.ExtTreeMap.size_insert, if_neg (by simpa using hnew), ih]

def noticedRecord : PaneState :=
  { claudeRecord with
    lifecycle := .running
    runSeq := 1
    startedAt := some 1
    unread := { occurrenceSeq := 1, latest := some ⟨1, 1, .waiting, 2⟩ } }

def donePane : PaneInstance := ⟨"%2", 8⟩

def doneRecord : PaneState :=
  { claudeRecord with
    stateId := ⟨"other"⟩
    paneInstance := donePane
    runSeq := 1
    completedSeq := 1
    startedAt := some 1
    completedAt := some 3
    unread := { occurrenceSeq := 1, latest := some ⟨1, 2, .completed, 3⟩ } }

def flashRuntime (n : ℕ) : CanonicalStateRuntime :=
  { records := (∅ : PaneMap PaneState).insert claudePane noticedRecord |>.insert donePane doneRecord
    flash := flashing n
    latestUnreadOrder := 2 }

def readOf (pane : PaneInstance) : PaneEventEnvelope :=
  { claudeEnvelope (.markPaneRead 2) with paneInstance := pane }

def readBoth : List PaneEventEnvelope := [readOf claudePane, readOf donePane]

def firstStored (n : ℕ) : CanonicalStateRuntime :=
  (flashRuntime n).storeCandidate claudePane (.markPaneRead 2) noticedRecord.marked none 2

def secondStored (n : ℕ) : CanonicalStateRuntime :=
  (firstStored n).storeCandidate donePane (.markPaneRead 2) doneRecord.marked none 2

namespace CanonicalStateRuntime
variable (n : ℕ)

theorem readEffect_of_candidate [Sha256] {runtime : CanonicalStateRuntime}
    {envelope : PaneEventEnvelope} {record candidate : PaneState} {order : ℕ}
    (hrecord : runtime.records[envelope.paneInstance]? = some record)
    (hcandidate : readCandidate (some record) envelope = .ok (some candidate))
    (horder : admitOrder runtime.latestUnreadOrder candidate.unread.latestOrder = .ok order) :
    runtime.readEffect envelope =
      .stores (runtime.storeCandidate envelope.paneInstance envelope.event candidate none order) := by
  unfold readEffect
  rw [hrecord, hcandidate]
  dsimp only
  rw [horder]

theorem storeCandidate_marked {runtime : CanonicalStateRuntime} {pane : PaneInstance}
    {record : PaneState} (hrecord : runtime.records[pane]? = some record)
    (hcalm : resolveBadge record.marked ≠ .blocked) (event : PaneEvent) (order : ℕ) :
    runtime.storeCandidate pane event record.marked none order =
      { runtime with
        latestUnreadOrder := order
        records := runtime.records.insert pane record.marked
        notificationGenerations := runtime.notificationGenerations.erase pane
        transitions := keepLast maxDiagnostics (runtime.transitions ++
          [canonicalTransition pane (some record) (some record.marked) event
            (transitionAtEpoch event record.marked)])
        flash := if resolveBadge record = resolveBadge record.marked then runtime.flash
          else runtime.flash.insert pane 2 } := by
  unfold storeCandidate deriveCandidateProjection
  rw [hrecord]
  simp only [announce_marked]
  have hbadge : recordBadge (some record.marked) ≠ some .blocked := by
    simpa [recordBadge] using hcalm
  unfold enterTriage pushTransition endOccurrence track
  simp only [hbadge, ne_eq, not_false_eq_true, true_or, if_true, if_false]
  split_ifs
  · dsimp only
  · dsimp only

theorem flashRuntime_first : (flashRuntime n).records[claudePane]? = some noticedRecord := by
  simp only [flashRuntime, getElem?_insert]
  decide

theorem firstStored_eq : firstStored n =
    { flashRuntime n with
      latestUnreadOrder := 2
      records := (flashRuntime n).records.insert claudePane noticedRecord.marked
      notificationGenerations := (flashRuntime n).notificationGenerations.erase claudePane
      transitions := keepLast maxDiagnostics ((flashRuntime n).transitions ++
        [canonicalTransition claudePane (some noticedRecord) (some noticedRecord.marked)
          (.markPaneRead 2) (transitionAtEpoch (.markPaneRead 2) noticedRecord.marked)])
      flash := (flashRuntime n).flash } := by
  unfold firstStored
  rw [storeCandidate_marked (flashRuntime_first n) (by decide), if_pos (by decide)]

theorem firstStored_records : (firstStored n).records =
    (flashRuntime n).records.insert claudePane noticedRecord.marked := by
  rw [firstStored_eq]

theorem firstStored_done : (firstStored n).records[donePane]? = some doneRecord := by
  rw [firstStored_records]
  simp only [flashRuntime, getElem?_insert]
  decide

theorem first_effect :
    @readEffect .constant (flashRuntime n) (readOf claudePane) = .stores (firstStored n) :=
  @readEffect_of_candidate .constant _ _ noticedRecord _ _ (flashRuntime_first n) rfl rfl

theorem second_effect :
    @readEffect .constant (firstStored n) (readOf donePane) = .stores (secondStored n) :=
  @readEffect_of_candidate .constant _ _ doneRecord _ _ (firstStored_done n) rfl rfl

theorem unknown_effect : @readEffect .constant (firstStored n) (readOf ⟨"%7", 1⟩) = .skipped := by
  have hnone : (firstStored n).records[(readOf ⟨"%7", 1⟩).paneInstance]? = none := by
    rw [firstStored_records]
    simp only [flashRuntime, getElem?_insert]
    decide
  unfold readEffect
  rw [hnone]
  rfl

theorem firstStored_inBounds {n : ℕ} (hn : n ≤ 256) : @InBounds .constant (firstStored n) := by
  have hrecords : @validateRecords .constant []
      ((flashRuntime n).records.insert claudePane noticedRecord.marked).toList = .ok () := rfl
  unfold InBounds validateProjection
  rw [firstStored_eq]
  simp only [seq_eq_ok, refuse_eq_ok, flashRuntime, size_flashing]
  refine ⟨hrecords, ?_⟩
  simpa [keepLast, maxDiagnostics] using hn

theorem secondStored_eq : secondStored n =
    { firstStored n with
      latestUnreadOrder := 2
      records := (firstStored n).records.insert donePane doneRecord.marked
      notificationGenerations := (firstStored n).notificationGenerations.erase donePane
      transitions := keepLast maxDiagnostics ((firstStored n).transitions ++
        [canonicalTransition donePane (some doneRecord) (some doneRecord.marked)
          (.markPaneRead 2) (transitionAtEpoch (.markPaneRead 2) doneRecord.marked)])
      flash := (firstStored n).flash.insert donePane 2 } := by
  unfold secondStored
  rw [storeCandidate_marked (firstStored_done n) (by decide), if_neg (by decide)]

theorem secondStored_flash : (secondStored n).flash.size = n + 1 := by
  have hnew : donePane ∉ flashing n := by
    intro hmem
    obtain ⟨pid, -, heq⟩ := mem_flashing.mp hmem
    exact absurd (congrArg PaneInstance.paneId heq) (by simp [donePane])
  rw [secondStored_eq, firstStored_eq]
  simp only [flashRuntime]
  rw [Std.ExtTreeMap.size_insert, if_neg (by simpa using hnew), size_flashing]

theorem secondStored_inBounds {n : ℕ} (hn : n < 256) : @InBounds .constant (secondStored n) := by
  have hrecords : @validateRecords .constant [] (((flashRuntime n).records.insert claudePane
      noticedRecord.marked).insert donePane doneRecord.marked).toList = .ok () := rfl
  unfold InBounds validateProjection
  simp only [seq_eq_ok, refuse_eq_ok, secondStored_flash]
  rw [secondStored_eq, firstStored_eq]
  refine ⟨hrecords, ?_⟩
  simp [keepLast, flashRuntime, maxDiagnostics, maxNotificationJobs]
  omega

end CanonicalStateRuntime

/-- Of three reads the one of an unknown pane is refused, the others are stored. -/
theorem three_reads_refine :
    @CanonicalStateRuntime.RefinesReads .constant ⟨fun _ _ _ _ => 0⟩ (flashRuntime 3) {} (.error "")
      [readOf claudePane, readOf ⟨"%7", 1⟩, readOf donePane] ∧
    @CanonicalStateRuntime.storedReads .constant (flashRuntime 3)
      [readOf claudePane, readOf ⟨"%7", 1⟩, readOf donePane] = 2 := by
  let _ : Sha256 := .constant
  let _ : ProjectionFrame := ⟨fun _ _ _ _ => 0⟩
  have hstored : (flashRuntime 3).storedReads
      [readOf claudePane, readOf ⟨"%7", 1⟩, readOf donePane] = 2 := by
    simp only [CanonicalStateRuntime.storedReads]
    rw [CanonicalStateRuntime.first_effect]
    dsimp only
    rw [CanonicalStateRuntime.unknown_effect]
    dsimp only
    rw [CanonicalStateRuntime.second_effect]
  refine ⟨(CanonicalStateRuntime.refinesReads_iff {} (.error "") (by decide)).mpr
    (.inr (.inl ⟨?_, ?_⟩)), hstored⟩
  · simp only [CanonicalStateRuntime.ReadsFit]
    rw [CanonicalStateRuntime.first_effect]
    dsimp only
    rw [CanonicalStateRuntime.unknown_effect]
    dsimp only
    rw [CanonicalStateRuntime.second_effect]
    exact ⟨CanonicalStateRuntime.firstStored_inBounds (by decide),
      CanonicalStateRuntime.secondStored_inBounds (by decide), trivial⟩
  · rw [hstored]
    decide

/-- With a full flash table the read of the running pane alone is accepted. The batch stores the
second read too, finds the table one entry too long and ends the daemon without either. -/
theorem batch_stops_at_full_flash :
    ¬ ∀ (runtime : CanonicalStateRuntime) (visibility : VisibilitySnapshot)
      (generated : Except String StateId) (envelopes : List PaneEventEnvelope),
      (∀ envelope ∈ envelopes, envelope.event.isMarkPaneRead = true) →
      letI := Sha256.constant
      letI : ProjectionFrame := ⟨fun _ _ _ _ => 0⟩
      runtime.RefinesReads visibility generated envelopes := by
  intro hclaim
  let _ : Sha256 := .constant
  let _ : ProjectionFrame := ⟨fun _ _ _ _ => 0⟩
  have hreads : ∀ envelope ∈ readBoth, envelope.event.isMarkPaneRead = true := by decide
  have hrefines := hclaim (flashRuntime 256) {} (.error "") readBoth hreads
  have hstores : (flashRuntime 256).storeReads readBoth = secondStored 256 := by
    simp only [readBoth, CanonicalStateRuntime.storeReads]
    rw [CanonicalStateRuntime.first_effect]
    dsimp only
    rw [CanonicalStateRuntime.second_effect]
  have hopen : (flashRuntime 256).failStopped = false := rfl
  have hout : ¬((flashRuntime 256).storeReads readBoth).InBounds := by
    rw [hstores]
    intro hin
    unfold CanonicalStateRuntime.InBounds CanonicalStateRuntime.validateProjection at hin
    simp only [seq_eq_ok, refuse_eq_ok, CanonicalStateRuntime.secondStored_flash] at hin
    exact hin.2 (by simp [maxDiagnostics])
  have hend := CanonicalStateRuntime.applyPaneReads_end hopen hreads
  generalize hbatch : (flashRuntime 256).applyPaneReads (.ok ()) readBoth = ended at hend
  cases hend with
  | failed error reason =>
    have hnone := (CanonicalStateRuntime.refinesReads_failed {} (.error "") hopen hreads
      hbatch).mp hrefines
    refine (CanonicalStateRuntime.readSingly_none {} (.error "") hopen hreads).mp hnone _
      List.mem_cons_self ?_
    exact ⟨firstStored 256, CanonicalStateRuntime.first_effect 256, by decide,
      CanonicalStateRuntime.firstStored_inBounds (by decide)⟩
  | saved result next goesOn bounds core revision fits => exact hout bounds

end VdeTmux.Pane
