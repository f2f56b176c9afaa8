import VdeTmux.Pane.Ledger

/-!
# Reads

A read marks the unread occurrence of its own pane, when that occurrence is one of those that were
known, and changes no other record.
-/

open Foundation
namespace VdeTmux.Pane

def PaneState.marked (record : PaneState) : PaneState :=
  { record with
    unread := { record.unread with readSeq := record.unread.occurrenceSeq }
    revision := record.revision + 1 }

def Read (throughOrder : ℕ) (before after : Option PaneState) : Prop :=
  ∃ record latest, before = some record ∧ record.unread.latest = some latest ∧
    latest.order ≤ throughOrder ∧ after = some record.marked

def OnlyRead (panes : List PaneInstance) (throughOrder : ℕ) (records records' : PaneMap PaneState) :
    Prop :=
  ∀ pane, records'[pane]? = records[pane]? ∨
    pane ∈ panes ∧ Read throughOrder records[pane]? records'[pane]?

section
variable {panes : List PaneInstance} {throughOrder : ℕ} {records records' : PaneMap PaneState}

theorem OnlyRead.refl : OnlyRead panes throughOrder records records := fun _ => Or.inl rfl

theorem OnlyRead.cons {pane : PaneInstance} {records₁ : PaneMap PaneState} (hnew : pane ∉ panes)
    (hfirst : OnlyRead [pane] throughOrder records records₁)
    (hrest : OnlyRead panes throughOrder records₁ records') :
    OnlyRead (pane :: panes) throughOrder records records' := by
  intro other
  rcases hfirst other with hsame | ⟨hpane, hread⟩
  · rcases hrest other with hsame' | ⟨hin, hread'⟩
    · exact Or.inl (hsame'.trans hsame)
    · exact Or.inr ⟨List.mem_cons_of_mem _ hin, hsame ▸ hread'⟩
  · have hother : other = pane := List.mem_singleton.mp hpane
    rcases hrest other with hsame' | ⟨hin, -⟩
    · exact Or.inr ⟨hother ▸ List.mem_cons_self, hsame' ▸ hread⟩
    · exact absurd (hother ▸ hin) hnew

end

section
variable [Sha256]

theorem reduce_read {current : Option PaneState} {envelope : PaneEventEnvelope}
    {context : ReductionContext} {r : Reduction} {throughOrder : ℕ}
    (hevent : envelope.event = .markPaneRead throughOrder)
    (h : reduce current envelope context = .ok r) :
    r.record = current ∨ Read throughOrder current r.record := by
  obtain ⟨-, -, rfl | ⟨-, s, tracker, previous, hdispatch, hsettled⟩⟩ := reduce_eq_ok h
  · exact Or.inl rfl
  · cases hsettled with
    | same record result => exact Or.inl (by rw [result, record])
    | changed differs revision next valid s' unread result =>
      rw [dispatch, hevent] at hdispatch
      cases current with
      | none => cases hdispatch
      | some existing =>
        simp only [reduceInternalStateEvent] at hdispatch
        split_ifs at hdispatch with hknown
        · obtain ⟨latest, hlatest, horder⟩ := hknown
          cases hdispatch
          obtain ⟨-, rfl⟩ := increment_eq_ok.mp next
          rw [applyUnreadTransition, hevent] at unread
          cases unread
          exact Or.inr ⟨existing, latest, rfl, hlatest, horder, by rw [result]; rfl⟩
        · cases hdispatch
          exact absurd rfl differs

end

namespace CanonicalStateRuntime

theorem records_of_core {runtime runtime' : CanonicalStateRuntime}
    (h : runtime'.core = runtime.core) : runtime'.records = runtime.records :=
  congrArg Prod.fst h

theorem commit_error {α : Type} {runtime : CanonicalStateRuntime}
    {result : Except StoreError (α × CanonicalStateRuntime)} {error : StoreError}
    (h : (runtime.commit result).1 = .error error) : (runtime.commit result).2 = runtime := by
  cases result with
  | error e => rfl
  | ok p => cases h

section
variable [Sha256] [ProjectionFrame]

theorem publish_records {runtime published : CanonicalStateRuntime}
    (h : runtime.publish = .ok published) : published.records = runtime.records :=
  records_of_core (publish_core h)

theorem applyTracked_records (runtime : CanonicalStateRuntime) (pane : PaneInstance)
    (outcome : ReductionOutcome) (delta : Option CaptureTrackerDelta) :
    (runtime.applyTracked pane outcome delta).2.records = runtime.records := by
  have htrack : (runtime.track pane delta).records = runtime.records := by
    cases delta <;> rfl
  unfold applyTracked
  dsimp only
  split_ifs
  · rw [publishResult_snd, records_of_core (publishInPlace_core _), htrack]
  · exact htrack

theorem applyCandidate_records (runtime : CanonicalStateRuntime) (pane : PaneInstance)
    (event : PaneEvent) (candidate : PaneState) (delta : Option CaptureTrackerDelta) :
    (runtime.applyCandidate pane event candidate delta).2.records = runtime.records ∨
      (runtime.applyCandidate pane event candidate delta).2.records =
        runtime.records.insert pane candidate := by
  unfold applyCandidate
  split
  · exact Or.inl rfl
  · refine Or.inr ?_
    have htrack : ({ runtime with
        records := runtime.records.insert pane candidate } : CanonicalStateRuntime).records =
        runtime.records.insert pane candidate := rfl
    rw [publishResult_snd, records_of_core (publishInPlace_core _), storeCandidate,
      records_of_core (deriveCandidateProjection_core ..)]
    cases delta <;> rfl

theorem applyEventInMemory_read {runtime : CanonicalStateRuntime} {envelope : PaneEventEnvelope}
    {visibility : VisibilitySnapshot} {privateTaskPrompt : Option String}
    {generated : Except String StateId} {throughOrder : ℕ}
    (hevent : envelope.event = .markPaneRead throughOrder) :
    OnlyRead [envelope.paneInstance] throughOrder runtime.records
      (runtime.applyEventInMemory envelope visibility privateTaskPrompt generated).2.records := by
  unfold applyEventInMemory
  split
  · exact .refl
  · split
    · exact .refl
    · rename_i r hreduce
      split
      · rename_i candidate houtcome hrecord
        rcases applyCandidate_records runtime envelope.paneInstance envelope.event candidate
          r.trackerDelta with hsame | hstored
        · rw [hsame]
          exact .refl
        · rw [hstored]
          intro pane
          rw [getElem?_insert]
          split_ifs with hpane
          · subst hpane
            rw [← hrecord]
            exact (reduce_read hevent hreduce).imp id fun hread => ⟨List.mem_singleton_self _, hread⟩
          · exact Or.inl rfl
      · rw [applyTracked_records]
        exact .refl

theorem readPane_read {revisionBefore throughOrder : ℕ} {draft draft' : ReadDraft}
    {envelope : PaneEventEnvelope} (hevent : envelope.event = .markPaneRead throughOrder)
    (h : readPane revisionBefore draft envelope = .ok draft') :
    OnlyRead [envelope.paneInstance] throughOrder draft.working.records
      draft'.working.records := by
  have hread := @applyEventInMemory_read _ _
    { draft.working with snapshotRevision := revisionBefore } envelope {} none (.error "")
    throughOrder hevent
  unfold readPane at h
  split_ifs at h
  split at h
  · rename_i result working hresult
    rw [hresult] at hread
    cases h
    exact hread
  · rename_i e working hresult
    rw [hresult] at hread
    split_ifs at h
    cases h
    exact hread

theorem readPanes_read {revisionBefore throughOrder : ℕ} {draft draft' : ReadDraft}
    {envelopes : List PaneEventEnvelope}
    (hevents : ∀ envelope ∈ envelopes, envelope.event = .markPaneRead throughOrder)
    (hdistinct : (envelopes.map (·.paneInstance)).Nodup)
    (h : readPanes revisionBefore draft envelopes = .ok draft') :
    OnlyRead (envelopes.map (·.paneInstance)) throughOrder draft.working.records
      draft'.working.records := by
  induction envelopes generalizing draft with
  | nil =>
    cases h
    exact .refl
  | cons envelope rest ih =>
    obtain ⟨hevent, hevents⟩ := List.forall_mem_cons.mp hevents
    obtain ⟨hnew, hdistinct⟩ := List.nodup_cons.mp hdistinct
    obtain ⟨next, hnext, hrest⟩ := bind_eq_ok.mp h
    exact .cons hnew (readPane_read hevent hnext) (ih hevents hdistinct hrest)

/-- Reads that succeed mark panes among their own; reads that fail mark none. -/
theorem applyPaneReads_read (runtime : CanonicalStateRuntime) (saved : Except StoreError Unit)
    {envelopes : List PaneEventEnvelope} {throughOrder : ℕ}
    (hevents : ∀ envelope ∈ envelopes, envelope.event = .markPaneRead throughOrder)
    (hdistinct : (envelopes.map (·.paneInstance)).Nodup) :
    OnlyRead (envelopes.map (·.paneInstance)) throughOrder runtime.records
        (runtime.applyPaneReads saved envelopes).2.records ∧
      ∀ error, (runtime.applyPaneReads saved envelopes).1 = .error error →
        (runtime.applyPaneReads saved envelopes).2.records = runtime.records := by
  unfold applyPaneReads
  split_ifs
  · exact ⟨.refl, fun _ _ => rfl⟩
  · split
    · exact ⟨.refl, fun _ _ => rfl⟩
    · rename_i result working hdraft
      obtain ⟨draft, hreads, hdraft⟩ := bind_eq_ok.mp hdraft
      obtain ⟨settled, hsettled, hdraft⟩ := bind_pure_eq_ok.mp hdraft
      cases hdraft
      have hsame := records_of_core (settleProjection_core (mapError_eq_ok.mp hsettled))
      have hread : OnlyRead (envelopes.map (·.paneInstance)) throughOrder runtime.records
          working.records := by
        rw [hsame]
        exact readPanes_read hevents hdistinct hreads
      dsimp only
      split_ifs
      · cases saved with
        | error e => exact ⟨.refl, fun _ _ => rfl⟩
        | ok _ => exact ⟨hread, nofun⟩
      · exact ⟨hread, nofun⟩

end

end CanonicalStateRuntime
end VdeTmux.Pane
