import VdeTmux.AgentState.RunCollection

/-!
# Retention

In every store that came from an opening by saves that could count again what a failed write left
and by collections that could unlink what they chose, a collection that succeeds takes what is too
old, what exceeds the limits of the panes and then the oldest, until there is room for the reserve.
-/

open Foundation Foundation.Eviction VdeTmux.Pane
namespace VdeTmux.AgentState

/-- The stores of a daemon whose failed writes could be counted and whose collections could unlink
the files they chose. -/
inductive Reachable : AgentStateStore → Prop
  | opened {dir : RunsDir} {unread : Option StoreError} {store : AgentStateStore}
      (h : openStore dir unread = .ok store) : Reachable store
  | saved {store : AgentStateStore} (before : Reachable store) (record : RunRecord)
      (encoded : Encoded) (write : Write) (h : write.recounted) :
      Reachable (saveRun store record encoded write).1
  | collected {store : AgentStateStore} (before : Reachable store) (now : ℤ)
      (protectedRunIds : List String) (reserve : RunRetentionReserve)
      (incomingPane : Option PaneInstance) (io : CollectionIo) (h : io.removal.unlinksAll) :
      Reachable (collectRunRetention store now protectedRunIds reserve incomingPane io).1

theorem Reachable.accounted {store : AgentStateStore} (h : Reachable store) : Accounted store := by
  induction h with
  | opened hopen => exact openStore_accounted hopen
  | saved before record encoded write hwrite ih => exact saveRun_accounted ih record encoded hwrite
  | collected before now protectedRunIds reserve incomingPane io hremoval ih =>
    exact collect_accounted ih hremoval

def paneQueue (runs : List RunFile) (protectedRunIds : List String) (pane : PaneInstance) :
    List RunFile :=
  sortBy byCreation
    (runs.filter fun run => Removable protectedRunIds run ∧ run.record.paneInstance = pane)

/-- What a collection has to do with the runs of a directory. -/
structure Collected (before after : RunsDir) (removed : List String) (now : ℤ)
    (protectedRunIds : List String) (reserve : RunRetentionReserve)
    (incomingPane : Option PaneInstance) : Prop where
  kept : after.files = before.files.filter fun run => run.runId ∉ removed
  stored : ∀ id ∈ removed, ∃ run ∈ before.files, run.runId = id
  removable : ∀ run ∈ before.files, run.runId ∈ removed → Removable protectedRunIds run
  room : Fits reserve after.files
  recent : ∀ run ∈ after.files, Removable protectedRunIds run → Recent now run
  perPane : ∀ pane, (after.files.countP fun run =>
    Removable protectedRunIds run ∧ run.record.paneInstance = pane) ≤
      paneLimit before.files protectedRunIds incomingPane pane
  oldestOfPane : ∀ pane, ((paneQueue before.files protectedRunIds pane).filter fun run =>
    run.runId ∈ removed) <+: paneQueue before.files protectedRunIds pane
  needed : ∀ run ∈ before.files, run.runId ∈ removed →
    Ruled before.files now protectedRunIds incomingPane run ∨
      ¬Fits reserve (sparing before.files now protectedRunIds incomingPane run) ∧
        ∀ other ∈ before.files, Removable protectedRunIds other → Older other run →
          other.runId ∈ removed

section Going
variable {runs : List RunFile} {now : ℤ} {protectedRunIds : List String}
  {reserve : RunRetentionReserve} {incomingPane : Option PaneInstance}

theorem Ruled.removable {run : RunFile} (h : Ruled runs now protectedRunIds incomingPane run) :
    Removable protectedRunIds run := h.1

theorem Goes.removable {run : RunFile}
    (h : Goes runs now protectedRunIds reserve incomingPane run) :
    Removable protectedRunIds run :=
  h.elim Ruled.removable And.left

theorem paneQueue_older (hids : (runs.map RunFile.runId).Nodup) (pane : PaneInstance) :
    (paneQueue runs protectedRunIds pane).Pairwise Older :=
  sortBy_older (nodup_filter_runId hids _)

theorem Ruled.of_older {a b : RunFile} (ha : Removable protectedRunIds a)
    (hpane : a.record.paneInstance = b.record.paneInstance) (hab : Older a b)
    (h : Ruled runs now protectedRunIds incomingPane b) :
    Ruled runs now protectedRunIds incomingPane a := by
  refine ⟨ha, ?_⟩
  have htime : a.record.createdAt ≤ b.record.createdAt := by
    rcases hab with hlt | ⟨heq, -⟩
    · exact hlt.le
    · exact heq.le
  rcases h.2 with hold | hlimit
  · exact Or.inl fun hrecent => hold (le_trans hrecent htime)
  · refine Or.inr (hpane ▸ hlimit.trans (List.countP_mono_left fun other _ hother => ?_))
    rw [decide_eq_true_eq] at hother ⊢
    exact ⟨hother.1, hother.2.1, hother.2.2.1, hab.trans hother.2.2.2⟩

theorem sparing_sublist {a b : RunFile} (hab : Older a b) :
    (sparing runs now protectedRunIds incomingPane b).Sublist
      (sparing runs now protectedRunIds incomingPane a) :=
  List.monotone_filter_right _ fun other hother => by
    rw [decide_eq_true_eq] at hother ⊢
    exact fun h => hother (h.imp_right fun hold => ⟨hold.1, hold.2.trans hab⟩)

theorem Fits.of_sublist {l l' : List RunFile} (h : l.Sublist l') (hfits : Fits reserve l') :
    Fits reserve l :=
  ⟨(Nat.add_le_add_right h.length_le _).trans hfits.1,
    (Nat.add_le_add_right (List.Sublist.sum_le_sum (h.map _) fun _ _ => Nat.zero_le _) _).trans
      hfits.2⟩

theorem Goes.of_older {a b : RunFile} (ha : Removable protectedRunIds a) (hab : Older a b)
    (h : ¬Fits reserve (sparing runs now protectedRunIds incomingPane b)) :
    Goes runs now protectedRunIds reserve incomingPane a :=
  Or.inr ⟨ha, fun hfits => h (hfits.of_sublist (sparing_sublist hab))⟩

theorem count_kept_le (hids : (runs.map RunFile.runId).Nodup) {kept : List RunFile}
    (hkept : kept.Sublist runs)
    (hrules : ∀ run ∈ kept, ¬Ruled runs now protectedRunIds incomingPane run)
    (pane : PaneInstance) :
    (kept.countP fun run => Removable protectedRunIds run ∧ run.record.paneInstance = pane) ≤
      paneLimit runs protectedRunIds incomingPane pane := by
  have hqueue : (paneQueue kept protectedRunIds pane).Pairwise Older :=
    paneQueue_older (hids.sublist (hkept.map _)) pane
  have hlength : (paneQueue kept protectedRunIds pane).length = kept.countP fun run =>
      Removable protectedRunIds run ∧ run.record.paneInstance = pane := by
    rw [paneQueue, (sortBy_perm _).length_eq, List.countP_eq_length_filter]
  have hmem : ∀ run, run ∈ paneQueue kept protectedRunIds pane ↔ run ∈ kept ∧
      Removable protectedRunIds run ∧ run.record.paneInstance = pane := fun run => by
    rw [paneQueue, mem_sortBy, List.mem_filter, decide_eq_true_eq]
  rw [← hlength]
  cases hoverall : paneQueue kept protectedRunIds pane with
  | nil => exact Nat.zero_le _
  | cons oldest newer =>
    rw [hoverall] at hqueue hmem
    obtain ⟨hnewer, -⟩ := List.pairwise_cons.mp hqueue
    obtain ⟨hin, hremovable, hpane⟩ := (hmem oldest).mp List.mem_cons_self
    have hnot := hrules oldest hin
    simp only [Ruled, hremovable, true_and, not_or, not_not, not_le, hpane] at hnot
    -- the newer ones of the pane are all recent, and fewer than the limit
    have hcount : newer.length ≤ runs.countP fun other => Removable protectedRunIds other ∧
        Recent now other ∧ other.record.paneInstance = pane ∧ Older oldest other := by
      have hsubperm : newer.Subperm (runs.filter fun other => Removable protectedRunIds other ∧
          Recent now other ∧ other.record.paneInstance = pane ∧ Older oldest other) := by
        refine (List.subperm_of_subset ?_ ?_)
        · exact (hqueue.imp fun h => by rintro rfl; exact older_irrefl _ h).of_cons
        · intro other hother
          obtain ⟨hin', hremovable', hpane'⟩ := (hmem other).mp (List.mem_cons_of_mem _ hother)
          have hnot' := hrules other hin'
          simp only [Ruled, hremovable', true_and, not_or, not_not] at hnot'
          refine List.mem_filter.mpr ⟨hkept.subset hin', ?_⟩
          rw [decide_eq_true_eq]
          exact ⟨hremovable', hnot'.1, hpane', hnewer other hother⟩
      rw [List.countP_eq_length_filter]
      exact hsubperm.length_le
    rw [List.length_cons]
    omega

end Going

theorem collected_of_goes {dir : RunsDir} {ids : Finset String} {now : ℤ}
    {protectedRunIds : List String} {reserve : RunRetentionReserve}
    {incomingPane : Option PaneInstance} (hstored : ∀ id ∈ ids, ∃ run ∈ dir.files, run.runId = id)
    (hfits : Fits reserve (keptRuns dir.files ids))
    (hgoes : ∀ run ∈ dir.files, run.runId ∈ ids ↔
      Goes dir.files now protectedRunIds reserve incomingPane run) :
    Collected dir (dir.removeFiles (ids.sort (· ≤ ·))) (ids.sort (· ≤ ·)) now protectedRunIds
      reserve incomingPane := by
  have hin : ∀ run ∈ dir.files, run.runId ∈ ids.sort (· ≤ ·) ↔
      Goes dir.files now protectedRunIds reserve incomingPane run := fun run hrun => by
    rw [Finset.mem_sort, hgoes run hrun]
  have hkept : ∀ run ∈ (dir.removeFiles (ids.sort (· ≤ ·))).files, run ∈ dir.files ∧
      ¬Ruled dir.files now protectedRunIds incomingPane run := fun run hrun => by
    obtain ⟨hfile, hstay⟩ := List.mem_filter.mp hrun
    rw [decide_eq_true_eq, hin run hfile] at hstay
    exact ⟨hfile, fun hruled => hstay (Or.inl hruled)⟩
  refine ⟨rfl, fun id hid => hstored id ((Finset.mem_sort _).mp hid),
    fun run hrun hgo => ((hin run hrun).mp hgo).removable, ?_, fun run hrun hremovable => ?_,
    count_kept_le dir.nodup List.filter_sublist fun run hrun => (hkept run hrun).2,
    fun pane => filter_prefix (paneQueue_older dir.nodup pane) ?_, fun run hrun hgo => ?_⟩
  · rw [removeFiles_files]
    exact hfits
  · by_contra hold
    exact (hkept run hrun).2 ⟨hremovable, Or.inl hold⟩
  · intro a ha b hb hab hgo
    rw [paneQueue, mem_sortBy, List.mem_filter, decide_eq_true_eq] at ha hb
    rw [decide_eq_true_eq, hin b hb.1] at hgo
    rw [decide_eq_true_eq, hin a ha.1]
    rcases hgo with hruled | ⟨-, hfull⟩
    · exact Or.inl (hruled.of_older ha.2.1 (ha.2.2.trans hb.2.2.symm) hab)
    · exact Goes.of_older ha.2.1 hab hfull
  · rcases (hin run hrun).mp hgo with hruled | ⟨-, hfull⟩
    · exact Or.inl hruled
    · exact Or.inr ⟨hfull, fun other hother hremovable hold =>
        (hin other hother).mpr (Goes.of_older hremovable hold hfull)⟩

/-- What a collection does in a store the daemon can come to, and that one that finds no room
does nothing. -/
theorem retention_collects {store : AgentStateStore} (hreach : Reachable store)
    {protectedRunIds : List String} (hids : protectedRunIds.Nodup) (now : ℤ)
    (reserve : RunRetentionReserve) (incomingPane : Option PaneInstance) (io : CollectionIo) :
    store.runCapacity = store.runsDir.usage ∧
      (∀ after cleanup, collectRunRetention store now protectedRunIds reserve incomingPane io =
          (after, .ok cleanup) →
        Collected store.runsDir after.runsDir cleanup.removedRunIds now protectedRunIds reserve
          incomingPane ∧ after.runCapacity = after.runsDir.usage) ∧
      ∀ after message, collectRunRetention store now protectedRunIds reserve incomingPane io =
        (after, .error (.capacity message)) → after = store := by
  have hstore := hreach.accounted
  refine ⟨hstore.capacity, fun after cleanup h => ?_, fun after message h => collect_capacity h⟩
  rcases collect_cases store now protectedRunIds reserve incomingPane io with
    ⟨error, heq⟩ | ⟨removeIds, protect, hnow, hrecords, hbytes, hprotect, hchoice, heq⟩
  · rw [heq] at h
    cases (Prod.mk.inj h).2
  · obtain ⟨hstored, hfits, hgoes⟩ :=
      retentionIds_stored hstore hnow hrecords hbytes hprotect hchoice
    have htaken : protectedRunIds.take (runStoreMaxRecords + 1) = protectedRunIds :=
      take_of_insertProtected hids hprotect
    rw [htaken] at hgoes
    rw [heq] at h
    obtain ⟨rfl, houtcome⟩ := Prod.mk.inj h
    obtain ⟨hok, rfl⟩ : (removeRunsAtomically store (removeIds.sort (· ≤ ·)) io.removal).2 = .ok () ∧
        (⟨removeIds.sort (· ≤ ·)⟩ : RetentionCleanup) = cleanup := by
      cases hout : (removeRunsAtomically store (removeIds.sort (· ≤ ·)) io.removal).2 with
      | error error =>
        rw [hout] at houtcome
        cases houtcome
      | ok done =>
        rw [hout] at houtcome
        exact ⟨rfl, Except.ok.inj houtcome⟩
    rcases removeRunsAtomically_cases hstore (unlinksAll_of_ok hstore hstored hok) hstored with
      ⟨error, hunread⟩ | ⟨hdir, haccounted⟩
    · rw [hunread] at hok
      cases hok
    · refine ⟨?_, haccounted.capacity⟩
      rw [hdir]
      exact collected_of_goes hstored hfits hgoes

def endedRun : RunFile :=
  ⟨⟨"44444444444444444444444444444444", ⟨"%1", 7⟩, .ended, .completed, 0⟩, 900⟩

def endedDir : RunsDir := ⟨[endedRun], List.pairwise_singleton _ _⟩

def endedStore : AgentStateStore := ⟨endedDir, ⟨1, 900⟩⟩

theorem endedStore_reachable : Reachable endedStore :=
  .opened (show openStore endedDir none = .ok endedStore from rfl)

theorem removable_ended : removableRuns ∅ [endedRun] = [endedRun] := by
  simp [removableRuns, sortBy, isRemovable, endedRun, RunRecord.executionActive]

theorem excess_ended (expired : Finset String) :
    excessIds ∅ none [endedRun] [endedRun] expired = ∅ := by
  have hlimit : ∀ pane, retainedLimit ∅ none [endedRun] pane = 64 := fun _ => rfl
  have hlength : ∀ pane, (paneRuns expired [endedRun] pane).length ≤ 1 := fun pane => by
    rw [paneRuns, (sortBy_perm _).length_eq]
    exact List.length_filter_le _ _
  have hexcess : ∀ pane, (paneRuns expired [endedRun] pane).length - 64 = 0 := fun pane => by
    have := hlength pane
    omega
  exact Finset.subset_empty.mp
    (Finset.biUnion_subset.mpr fun pane _ => by simp [hlimit, hexcess])

theorem collect_ended {now : ℤ} {ids : Finset String} {removal : Removal} (hnow : 0 ≤ now)
    (hids : retentionIds 900 [endedRun] now ∅ ⟨0, 0⟩ none = .ok ids) :
    collectRunRetention endedStore now [] ⟨0, 0⟩ none { removal := removal } =
      ((removeRunsAtomically endedStore (ids.sort (· ≤ ·)) removal).1,
        (removeRunsAtomically endedStore (ids.sort (· ≤ ·)) removal).2.map fun _ =>
          ⟨ids.sort (· ≤ ·)⟩) := by
  have hrequest : ¬(now < 0 ∨ runStoreMaxRecords < (⟨0, 0⟩ : RunRetentionReserve).records ∨
      runStoreMaxBytes < (⟨0, 0⟩ : RunRetentionReserve).bytes) := by
    simp only [Nat.not_lt_zero, or_false]
    omega
  have hprotect : insertProtected (([] : List String).take (runStoreMaxRecords + 1)) ∅ =
      .ok ∅ := rfl
  have hruns : listRuns endedStore.runsDir none = .ok [endedRun] := rfl
  have hbytes : endedStore.runCapacity.bytes = 900 := rfl
  simp only [collectRunRetention, if_neg hrequest, hprotect, hruns, hbytes, hids]

theorem collect_at_cutoff :
    collectRunRetention endedStore 2592000 [] ⟨0, 0⟩ none {} = (endedStore, .ok ⟨[]⟩) := by
  have hids : retentionIds 900 [endedRun] 2592000 ∅ ⟨0, 0⟩ none = .ok ∅ := by
    have hexpired : expiredIds 2592000 [endedRun] = ∅ := by decide
    simp only [retentionIds, removable_ended, hexpired, excess_ended]
    rfl
  rw [collect_ended (by decide) hids, Finset.sort_empty]
  rfl

theorem collect_after_cutoff (removal : Removal) :
    collectRunRetention endedStore 2592001 [] ⟨0, 0⟩ none { removal := removal } =
      ((removeRunsAtomically endedStore [endedRun.runId] removal).1,
        (removeRunsAtomically endedStore [endedRun.runId] removal).2.map fun _ =>
          ⟨[endedRun.runId]⟩) := by
  have hids : retentionIds 900 [endedRun] 2592001 ∅ ⟨0, 0⟩ none = .ok {endedRun.runId} := by
    have hexpired : expiredIds 2592001 [endedRun] = {endedRun.runId} := by decide
    simp only [retentionIds, removable_ended, hexpired, excess_ended]
    rfl
  rw [collect_ended (by decide) hids, Finset.sort_singleton]

/-- After a collection a run can be left that is not newer than the cutoff. The counts can be those
of before when an unlinking failed, or when a save failed and so did the count after it. -/
theorem retention_leaves_cutoff :
    (collectRunRetention endedStore 2592000 [] ⟨0, 0⟩ none {} = (endedStore, .ok ⟨[]⟩) ∧
      ∃ run ∈ endedStore.runsDir.files, Removable [] run ∧
        ¬2592000 - runRetentionSeconds < run.record.createdAt) ∧
      (∃ io, (collectRunRetention endedStore 2592001 [] ⟨0, 0⟩ none io).1.runCapacity ≠
        (collectRunRetention endedStore 2592001 [] ⟨0, 0⟩ none io).1.runsDir.usage) ∧
      ∃ write, (saveRun endedStore endedRun.record (.bytes 800) write).1.runCapacity ≠
        (saveRun endedStore endedRun.record (.bytes 800) write).1.runsDir.usage := by
  refine ⟨⟨collect_at_cutoff, endedRun, List.mem_singleton_self _, by decide, by decide⟩,
    ⟨{ removal := .stopped [endedRun.runId] "sync" }, ?_⟩,
    .failed true "sync" (some (.io "scan state directory")), by decide⟩
  rw [collect_after_cutoff]
  decide

theorem retention_collects_ended :
    endedStore.runCapacity = endedStore.runsDir.usage ∧
      Collected endedDir ⟨[], List.Pairwise.nil⟩ [endedRun.runId] 2592001 [] ⟨0, 0⟩ none := by
  obtain ⟨hcapacity, hcollected, -⟩ := retention_collects endedStore_reachable List.nodup_nil
    2592001 ⟨0, 0⟩ none {}
  exact ⟨hcapacity, (hcollected _ _ (collect_after_cutoff .done)).1⟩

end VdeTmux.AgentState
