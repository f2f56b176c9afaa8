import VdeTmux.Pane.ReadEffects

/-!
# Reads one by one and in a batch

A batch of reads works on one copy of the runtime that keeps what a failed element stored, and
ends the daemon when its last check fails. One by one, a failed read leaves nothing behind. The two
agree exactly when no element fails after it stored, or when nothing is accepted either way.
-/

open Foundation
namespace VdeTmux.Pane

inductive Marks : PaneMap PaneState → List PaneInstance → PaneMap PaneState → Prop
  | nil (records : PaneMap PaneState) : Marks records [] records
  | cons {records records' : PaneMap PaneState} {panes : List PaneInstance} (pane : PaneInstance)
    (record : PaneState) (existing : records[pane]? = some record) (unseen : record.Unseen)
    (rest : Marks (records.insert pane record.marked) panes records') :
    Marks records (pane :: panes) records'

theorem Marks.seen {records records' : PaneMap PaneState} {panes : List PaneInstance}
    (h : Marks records panes records') {pane : PaneInstance} {record : PaneState}
    (hrecord : records[pane]? = some record) (hseen : ¬record.Unseen) :
    pane ∉ panes ∧ records'[pane]? = some record := by
  induction h with
  | nil records => exact ⟨List.not_mem_nil, hrecord⟩
  | cons other first existing unseen rest ih =>
    have hne : pane ≠ other := by
      rintro rfl
      rw [hrecord] at existing
      cases existing
      exact hseen unseen
    obtain ⟨hnot, hlast⟩ := ih (by rw [getElem?_insert, if_neg hne, hrecord])
    refine ⟨?_, hlast⟩
    simp only [List.mem_cons, not_or]
    exact ⟨hne, hnot⟩

theorem PaneState.marked_ne (record : PaneState) : record.marked ≠ record := by
  intro h
  have hrevision := congrArg PaneState.revision h
  simp only [PaneState.marked] at hrevision
  omega

theorem Marks.nodup {records records' : PaneMap PaneState} {panes : List PaneInstance}
    (h : Marks records panes records') :
    panes.Nodup ∧ ∀ pane, pane ∈ panes ↔ records'[pane]? ≠ records[pane]? := by
  induction h with
  | nil records => simp
  | @cons records records' panes pane record existing unseen rest ih =>
    have hinserted : (records.insert pane record.marked)[pane]? = some record.marked := by
      rw [getElem?_insert, if_pos rfl]
    obtain ⟨hnot, hlast⟩ := rest.seen hinserted (not_unseen_marked record)
    refine ⟨List.nodup_cons.mpr ⟨hnot, ih.1⟩, ?_⟩
    intro other
    by_cases hother : other = pane
    · subst hother
      simp only [List.mem_cons, true_or, true_iff, hlast, existing, ne_eq, Option.some.injEq]
      exact record.marked_ne
    · rw [List.mem_cons, ih.2 other, getElem?_insert, if_neg hother]
      simp only [hother, false_or]

theorem Marks.length_eq {records left right : PaneMap PaneState} {panes others : List PaneInstance}
    (h : Marks records panes left) (h' : Marks records others right) (hsame : left = right) :
    panes.length = others.length := by
  subst hsame
  have hperm : panes.Perm others := by
    refine (List.perm_ext_iff_of_nodup h.nodup.1 h'.nodup.1).mpr fun pane => ?_
    rw [h.nodup.2, h'.nodup.2]
  exact hperm.length_eq

theorem Marks.snoc {records middle records' : PaneMap PaneState} {panes : List PaneInstance}
    {pane : PaneInstance} {record : PaneState} (hrecord : records[pane]? = some record)
    (hunseen : record.Unseen) (hmiddle : middle = records.insert pane record.marked)
    (h : Marks middle panes records') : Marks records (pane :: panes) records' :=
  .cons pane record hrecord hunseen (hmiddle ▸ h)

theorem Marks.eq_of_nil {records records' : PaneMap PaneState} (h : Marks records [] records') :
    records' = records := by
  cases h
  rfl

namespace CanonicalStateRuntime

def withMeta (runtime : CanonicalStateRuntime) (snapshotRevision : ℕ)
    (diagnostics : List PaneStateDiagnostic) (snapshotFrameTooLarge : Bool) :
    CanonicalStateRuntime :=
  { runtime with
    snapshotRevision := snapshotRevision
    diagnostics := diagnostics
    snapshotFrameTooLarge := snapshotFrameTooLarge }

/-- The same up to the revision, the frame flag and diagnostics that are in bounds together. -/
def Alike (runtime other : CanonicalStateRuntime) : Prop :=
  ∃ revision diagnostics tooLarge, other = runtime.withMeta revision diagnostics tooLarge ∧
    (diagnostics.length ≤ maxDiagnostics ↔ runtime.diagnostics.length ≤ maxDiagnostics)

theorem Alike.refl (runtime : CanonicalStateRuntime) : runtime.Alike runtime :=
  ⟨_, _, _, rfl, Iff.rfl⟩

theorem Alike.withMeta {runtime other : CanonicalStateRuntime} (h : runtime.Alike other)
    {revision : ℕ} {diagnostics : List PaneStateDiagnostic} {tooLarge : Bool}
    (hbounds : diagnostics.length ≤ maxDiagnostics ↔ other.diagnostics.length ≤ maxDiagnostics) :
    runtime.Alike (other.withMeta revision diagnostics tooLarge) := by
  obtain ⟨_, _, _, rfl, hsame⟩ := h
  exact ⟨revision, diagnostics, tooLarge, rfl, hbounds.trans hsame⟩

theorem Alike.core {runtime other : CanonicalStateRuntime} (h : runtime.Alike other) :
    other.core = runtime.core := by
  obtain ⟨_, _, _, rfl, -⟩ := h
  rfl

theorem announce_marked (runtime : CanonicalStateRuntime) (pane : PaneInstance)
    (record : PaneState) :
    runtime.announce pane (some record) (some record.marked) =
      if resolveBadge record = resolveBadge record.marked then runtime
      else { runtime with flash := runtime.flash.insert pane 2 } := by
  unfold announce
  simp only [recordBadge, Option.map_some, Option.some.injEq]
  split_ifs with hsame hblocked
  · rfl
  · exfalso
    apply hsame
    unfold resolveBadge at hblocked ⊢
    unfold PaneState.marked at hblocked ⊢
    dsimp only at hblocked ⊢
    cases hlifecycle : record.lifecycle with
    | idle =>
      rw [hlifecycle] at hblocked
      dsimp only at hblocked
      split_ifs at hblocked
    | running => rfl
    | waiting reason => rfl
    | error reason => rfl
  · rfl

theorem storeCandidate_withMeta {runtime : CanonicalStateRuntime} {pane : PaneInstance}
    {record : PaneState} (hrecord : runtime.records[pane]? = some record) (event : PaneEvent)
    (order revision : ℕ) (diagnostics : List PaneStateDiagnostic) (tooLarge : Bool) :
    (runtime.withMeta revision diagnostics tooLarge).storeCandidate pane event record.marked none
        order =
      (runtime.storeCandidate pane event record.marked none order).withMeta revision diagnostics
        tooLarge ∧
    (runtime.storeCandidate pane event record.marked none order).diagnostics =
      runtime.diagnostics := by
  have hrecord' : (runtime.withMeta revision diagnostics tooLarge).records[pane]? = some record :=
    hrecord
  unfold storeCandidate deriveCandidateProjection
  rw [hrecord, hrecord']
  simp only [announce_marked]
  unfold enterTriage pushTransition endOccurrence track withMeta
  dsimp only
  split_ifs <;> dsimp only <;> exact ⟨rfl, rfl⟩

section
variable [Sha256]

theorem inBounds_withMeta {runtime : CanonicalStateRuntime} {revision : ℕ}
    {diagnostics : List PaneStateDiagnostic} {tooLarge : Bool}
    (h : diagnostics.length ≤ maxDiagnostics ↔ runtime.diagnostics.length ≤ maxDiagnostics) :
    (runtime.withMeta revision diagnostics tooLarge).InBounds ↔ runtime.InBounds := by
  unfold InBounds validateProjection withMeta
  simp only [seq_eq_ok, refuse_eq_ok, not_or, not_lt, h]

theorem InBounds.diagnostics {runtime : CanonicalStateRuntime} (h : runtime.InBounds) :
    runtime.diagnostics.length ≤ maxDiagnostics := by
  unfold InBounds validateProjection at h
  simp only [seq_eq_ok, refuse_eq_ok, not_or, not_lt] at h
  exact h.2.2.1

theorem Alike.inBounds {runtime other : CanonicalStateRuntime} (h : runtime.Alike other) :
    other.InBounds ↔ runtime.InBounds := by
  obtain ⟨_, _, _, rfl, hsame⟩ := h
  exact inBounds_withMeta hsame

inductive EffectAlike : ReadEffect → ReadEffect → Prop
  | skipped : EffectAlike .skipped .skipped
  | stops (error : StoreError) : EffectAlike (.stops error) (.stops error)
  | stores {stored other : CanonicalStateRuntime} (alike : stored.Alike other) :
    EffectAlike (.stores stored) (.stores other)

omit [Sha256] in
theorem effectAlike_refused (error : StoreError) :
    EffectAlike (.refused error) (.refused error) := by
  unfold ReadEffect.refused
  split_ifs
  · exact .stops error
  · exact .skipped

theorem Alike.readEffect {runtime other : CanonicalStateRuntime} (h : runtime.Alike other)
    {envelope : PaneEventEnvelope} (hread : envelope.event.isMarkPaneRead = true) :
    EffectAlike (runtime.readEffect envelope) (other.readEffect envelope) := by
  obtain ⟨revision, diagnostics, tooLarge, rfl, hsame⟩ := h
  unfold CanonicalStateRuntime.readEffect
  dsimp only [CanonicalStateRuntime.withMeta]
  cases hcandidate : readCandidate runtime.records[envelope.paneInstance]? envelope with
  | error e => exact effectAlike_refused _
  | ok candidate =>
    cases candidate with
    | none => exact .skipped
    | some candidate =>
      obtain ⟨record, hrecord, -, rfl⟩ := readCandidate_some hread hcandidate
      dsimp only
      cases horder : admitOrder runtime.latestUnreadOrder record.marked.unread.latestOrder with
      | error e => exact effectAlike_refused _
      | ok order =>
        obtain ⟨hstored, hdiagnostics⟩ := storeCandidate_withMeta hrecord envelope.event order
          revision diagnostics tooLarge
        refine .stores ⟨revision, diagnostics, tooLarge, hstored, ?_⟩
        rw [hdiagnostics]
        exact hsame

theorem readEffect_stores {runtime stored : CanonicalStateRuntime} {envelope : PaneEventEnvelope}
    (hread : envelope.event.isMarkPaneRead = true)
    (h : runtime.readEffect envelope = .stores stored) :
    (∃ record, runtime.records[envelope.paneInstance]? = some record ∧ record.Unseen ∧
      stored.records = runtime.records.insert envelope.paneInstance record.marked) ∧
    stored.trackers = runtime.trackers ∧ stored.failStopped = runtime.failStopped := by
  unfold CanonicalStateRuntime.readEffect at h
  split at h
  · unfold ReadEffect.refused at h
    split_ifs at h
  · cases h
  · rename_i candidate hcandidate
    obtain ⟨record, hrecord, hunseen, rfl⟩ := readCandidate_some hread hcandidate
    split at h
    · unfold ReadEffect.refused at h
      split_ifs at h
    · cases h
      unfold storeCandidate
      refine ⟨⟨record, hrecord, hunseen, ?_⟩, ?_, ?_⟩
      · exact congrArg Prod.fst (deriveCandidateProjection_core ..)
      · exact congrArg (fun core => core.2.1) (deriveCandidateProjection_core ..)
      · exact congrArg (fun core => core.2.2.2) (deriveCandidateProjection_core ..)

def storeReads (runtime : CanonicalStateRuntime) :
    List PaneEventEnvelope → CanonicalStateRuntime
  | [] => runtime
  | envelope :: rest =>
    match runtime.readEffect envelope with
    | .stores stored => stored.storeReads rest
    | _ => runtime.storeReads rest

def storedReads (runtime : CanonicalStateRuntime) : List PaneEventEnvelope → ℕ
  | [] => 0
  | envelope :: rest =>
    match runtime.readEffect envelope with
    | .stores stored => stored.storedReads rest + 1
    | _ => runtime.storedReads rest

/-- No read overflows a counter, and each one that stores leaves the projection in its bounds. -/
def ReadsFit (runtime : CanonicalStateRuntime) : List PaneEventEnvelope → Prop
  | [] => True
  | envelope :: rest =>
    match runtime.readEffect envelope with
    | .skipped => runtime.ReadsFit rest
    | .stops _ => False
    | .stores stored => stored.InBounds ∧ stored.ReadsFit rest

def ReadsStop (snapshotRevision : ℕ) (runtime : CanonicalStateRuntime) :
    List PaneEventEnvelope → Prop
  | [] => False
  | envelope :: rest =>
    match runtime.readEffect envelope with
    | .skipped => runtime.ReadsStop snapshotRevision rest
    | .stops _ => True
    | .stores stored =>
      ¬snapshotRevision < u64Max ∨ stored.ReadsStop snapshotRevision rest

theorem storeReads_marks (runtime : CanonicalStateRuntime) {envelopes : List PaneEventEnvelope}
    (hreads : ∀ envelope ∈ envelopes, envelope.event.isMarkPaneRead = true) :
    (∃ panes, Marks runtime.records panes (runtime.storeReads envelopes).records ∧
      panes.length = runtime.storedReads envelopes) ∧
    (runtime.storeReads envelopes).trackers = runtime.trackers := by
  induction envelopes generalizing runtime with
  | nil => exact ⟨⟨[], .nil _, rfl⟩, rfl⟩
  | cons envelope rest ih =>
    obtain ⟨hread, hreads⟩ := List.forall_mem_cons.mp hreads
    unfold storeReads storedReads
    cases heffect : runtime.readEffect envelope with
    | skipped => exact ih runtime hreads
    | stops error => exact ih runtime hreads
    | stores stored =>
      obtain ⟨⟨record, hrecord, hunseen, hrecords⟩, htrackers, -⟩ :=
        readEffect_stores hread heffect
      obtain ⟨⟨panes, hmarks, hlength⟩, hrest⟩ := ih stored hreads
      refine ⟨⟨envelope.paneInstance :: panes, .snoc hrecord hunseen hrecords hmarks, ?_⟩,
        hrest.trans htrackers⟩
      rw [List.length_cons, hlength]

theorem storeReads_of_none {runtime : CanonicalStateRuntime} {envelopes : List PaneEventEnvelope}
    (h : runtime.storedReads envelopes = 0) : runtime.storeReads envelopes = runtime := by
  induction envelopes with
  | nil => rfl
  | cons envelope rest ih =>
    unfold storedReads at h
    unfold storeReads
    cases heffect : runtime.readEffect envelope with
    | skipped =>
      rw [heffect] at h
      exact ih h
    | stops error =>
      rw [heffect] at h
      exact ih h
    | stores stored =>
      rw [heffect] at h
      cases h

theorem ReadsFit.inBounds {runtime : CanonicalStateRuntime} {envelopes : List PaneEventEnvelope}
    (h : runtime.ReadsFit envelopes) :
    runtime.storedReads envelopes = 0 ∨ (runtime.storeReads envelopes).InBounds := by
  induction envelopes generalizing runtime with
  | nil => exact .inl rfl
  | cons envelope rest ih =>
    unfold ReadsFit at h
    unfold storedReads storeReads
    cases heffect : runtime.readEffect envelope with
    | skipped =>
      rw [heffect] at h
      exact ih h
    | stops error =>
      rw [heffect] at h
      exact absurd h id
    | stores stored =>
      rw [heffect] at h
      dsimp only
      right
      rcases ih h.2 with hnone | hbounds
      · rw [storeReads_of_none hnone]
        exact h.1
      · exact hbounds

theorem ReadsFit.stop {runtime : CanonicalStateRuntime} {envelopes : List PaneEventEnvelope}
    {revision : ℕ} (h : runtime.ReadsFit envelopes) (hstop : runtime.ReadsStop revision envelopes) :
    0 < runtime.storedReads envelopes ∧ ¬revision < u64Max := by
  induction envelopes generalizing runtime with
  | nil => exact absurd hstop id
  | cons envelope rest ih =>
    unfold ReadsFit at h
    unfold ReadsStop at hstop
    unfold storedReads
    cases heffect : runtime.readEffect envelope with
    | skipped =>
      rw [heffect] at h hstop
      exact ih h hstop
    | stops error =>
      rw [heffect] at h
      exact absurd h id
    | stores stored =>
      rw [heffect] at h hstop
      refine ⟨Nat.succ_pos _, ?_⟩
      rcases hstop with hfull | hstop
      · exact hfull
      · exact (ih h.2 hstop).2

end

section
variable [Sha256] [ProjectionFrame]

theorem alike_published {stored other : CanonicalStateRuntime} (h : stored.Alike other)
    (hbounds : stored.InBounds) (revision : ℕ) :
    stored.Alike (({ other with snapshotRevision := revision } :
      CanonicalStateRuntime).preflightProjection maxResponseFrameBytes).2 := by
  unfold preflightProjection
  refine h.withMeta ?_
  have hother := (h.inBounds.mpr hbounds).diagnostics
  simp only [hother, iff_true, keepLast, List.length_drop]
  omega

inductive BatchStep (revisionBefore : ℕ) (runtime : CanonicalStateRuntime) (draft : ReadDraft) :
    ReadEffect → Except (StoreError × Bool) ReadDraft → Prop
  | skipped (working : CanonicalStateRuntime) (alike : runtime.Alike working) :
    BatchStep revisionBefore runtime draft .skipped (.ok { draft with working := working })
  | stopped (error : StoreError) :
    BatchStep revisionBefore runtime draft (.stops error) (.error (error, true))
  | exhausted (stored : CanonicalStateRuntime) (error : StoreError)
    (full : ¬revisionBefore < u64Max) :
    BatchStep revisionBefore runtime draft (.stores stored) (.error (error, true))
  | published (stored working : CanonicalStateRuntime) (room : revisionBefore < u64Max)
    (bounds : stored.InBounds) (alike : stored.Alike working) :
    BatchStep revisionBefore runtime draft (.stores stored)
      (.ok ⟨working, draft.committed + 1, true⟩)
  | kept (stored working : CanonicalStateRuntime) (room : revisionBefore < u64Max)
    (bounds : ¬stored.InBounds) (alike : stored.Alike working) :
    BatchStep revisionBefore runtime draft (.stores stored)
      (.ok { draft with working := working })

theorem readPane_step (revisionBefore : ℕ) {runtime : CanonicalStateRuntime} {draft : ReadDraft}
    (h : runtime.Alike draft.working) {envelope : PaneEventEnvelope}
    (hread : envelope.event.isMarkPaneRead = true) :
    BatchStep revisionBefore runtime draft (runtime.readEffect envelope)
      (readPane revisionBefore draft envelope) := by
  have hreset : runtime.Alike { draft.working with snapshotRevision := revisionBefore } :=
    h.withMeta Iff.rfl
  have heffect := hreset.readEffect hread
  have hresult := applyEventInMemory_readResult
    { draft.working with snapshotRevision := revisionBefore } hread {} (.error "")
  unfold readPane
  rw [if_neg (by simp [hread])]
  generalize runtime.readEffect envelope = effect at heffect ⊢
  generalize ({ draft.working with snapshotRevision := revisionBefore } :
    CanonicalStateRuntime).readEffect envelope = effect' at heffect hresult
  generalize ({ draft.working with snapshotRevision := revisionBefore } :
    CanonicalStateRuntime).applyEventInMemory envelope {} none (.error "") = ended at hresult ⊢
  cases hresult with
  | noop result outcome =>
    cases heffect
    simp only [outcome, reduceCtorEq, if_false, ne_eq, not_true_eq_false, decide_false,
      Bool.or_false]
    exact .skipped _ hreset
  | refused error stays =>
    cases heffect
    simp only [stays, Bool.false_eq_true, if_false]
    exact .skipped _ hreset
  | stopped error exits =>
    cases heffect
    simp only [exits, if_true]
    exact .stopped error
  | published other result room bounds outcome =>
    cases heffect with
    | stores alike =>
      have hbounds := alike.inBounds.mp bounds
      simp only [outcome, if_true, ne_eq, reduceCtorEq, not_false_eq_true, decide_true,
        Bool.or_true]
      exact .published _ _ room hbounds (alike_published alike hbounds _)
  | unbounded other error room bounds stays =>
    cases heffect with
    | stores alike =>
      simp only [stays, Bool.false_eq_true, if_false]
      exact .kept _ _ room (mt alike.inBounds.mpr bounds) (alike.withMeta Iff.rfl)
  | exhausted other error full exits =>
    cases heffect with
    | stores alike =>
      simp only [exits, if_true]
      exact .exhausted _ error full

/-- What the elements of a batch leave when none of them ends the daemon. -/
structure BatchRun (revisionBefore : ℕ) (runtime : CanonicalStateRuntime) (draft : ReadDraft)
    (envelopes : List PaneEventEnvelope) (draft' : ReadDraft) : Prop where
  goesOn : ¬runtime.ReadsStop revisionBefore envelopes
  alike : (runtime.storeReads envelopes).Alike draft'.working
  committed : draft'.committed ≤ draft.committed + runtime.storedReads envelopes
  fits : draft'.committed = draft.committed + runtime.storedReads envelopes →
    runtime.ReadsFit envelopes
  all : runtime.ReadsFit envelopes →
    draft'.committed = draft.committed + runtime.storedReads envelopes
  changed : draft'.projectionChanged = true →
    draft.projectionChanged = true ∨ revisionBefore < u64Max

theorem readPanes_ok {revisionBefore : ℕ} {runtime : CanonicalStateRuntime}
    {draft draft' : ReadDraft} (halike : runtime.Alike draft.working)
    {envelopes : List PaneEventEnvelope}
    (hreads : ∀ envelope ∈ envelopes, envelope.event.isMarkPaneRead = true)
    (h : readPanes revisionBefore draft envelopes = .ok draft') :
    BatchRun revisionBefore runtime draft envelopes draft' := by
  induction envelopes generalizing runtime draft with
  | nil =>
    cases h
    exact ⟨id, halike, le_rfl, fun _ => trivial, fun _ => rfl, .inl⟩
  | cons envelope rest ih =>
    obtain ⟨hread, hreads⟩ := List.forall_mem_cons.mp hreads
    obtain ⟨next, hnext, hrest⟩ := bind_eq_ok.mp h
    have hstep := readPane_step revisionBefore halike hread
    rw [hnext] at hstep
    generalize heffect : runtime.readEffect envelope = effect at hstep
    cases hstep with
    | skipped working alike =>
      have hrun := ih alike hreads hrest
      refine ⟨?_, ?_, ?_, ?_, ?_, hrun.changed⟩
      all_goals simp only [ReadsStop, storeReads, storedReads, ReadsFit, heffect]
      · exact hrun.goesOn
      · exact hrun.alike
      · exact hrun.committed
      · exact hrun.fits
      · exact hrun.all
    | published stored working room bounds alike =>
      have hrun := ih alike hreads hrest
      have hcommitted := hrun.committed
      refine ⟨?_, ?_, ?_, ?_, ?_, fun _ => .inr room⟩
      all_goals simp only [ReadsStop, storeReads, storedReads, ReadsFit, heffect]
      · rintro (hfull | hstop)
        · exact hfull room
        · exact hrun.goesOn hstop
      · exact hrun.alike
      · dsimp only at hcommitted
        omega
      · intro hall
        refine ⟨bounds, hrun.fits ?_⟩
        dsimp only
        omega
      · rintro ⟨-, hfit⟩
        have hall := hrun.all hfit
        dsimp only at hall
        omega
    | kept stored working room bounds alike =>
      have hrun := ih alike hreads hrest
      have hcommitted := hrun.committed
      refine ⟨?_, ?_, ?_, ?_, ?_, hrun.changed⟩
      all_goals simp only [ReadsStop, storeReads, storedReads, ReadsFit, heffect]
      · rintro (hfull | hstop)
        · exact hfull room
        · exact hrun.goesOn hstop
      · exact hrun.alike
      · dsimp only at hcommitted
        omega
      · intro hall
        dsimp only at hcommitted
        omega
      · rintro ⟨hin, -⟩
        exact absurd hin bounds

theorem readPanes_error {revisionBefore : ℕ} {runtime : CanonicalStateRuntime}
    {draft : ReadDraft} (halike : runtime.Alike draft.working)
    {envelopes : List PaneEventEnvelope}
    (hreads : ∀ envelope ∈ envelopes, envelope.event.isMarkPaneRead = true)
    {error : StoreError × Bool}
    (h : readPanes revisionBefore draft envelopes = .error error) :
    error.2 = true ∧ runtime.ReadsStop revisionBefore envelopes := by
  induction envelopes generalizing runtime draft with
  | nil => cases h
  | cons envelope rest ih =>
    obtain ⟨hread, hreads⟩ := List.forall_mem_cons.mp hreads
    have hstep := readPane_step revisionBefore halike hread
    unfold ReadsStop
    generalize runtime.readEffect envelope = effect at hstep ⊢
    rcases bind_eq_error.mp h with hnext | ⟨next, hnext, hrest⟩
    · rw [hnext] at hstep
      cases hstep with
      | stopped error => exact ⟨rfl, trivial⟩
      | exhausted stored error full => exact ⟨rfl, .inl full⟩
    · rw [hnext] at hstep
      cases hstep with
      | skipped working alike => exact ih alike hreads hrest
      | published stored working room bounds alike =>
        obtain ⟨hexit, hstop⟩ := ih alike hreads hrest
        exact ⟨hexit, .inr hstop⟩
      | kept stored working room bounds alike =>
        obtain ⟨hexit, hstop⟩ := ih alike hreads hrest
        exact ⟨hexit, .inr hstop⟩

end
end CanonicalStateRuntime
end VdeTmux.Pane
