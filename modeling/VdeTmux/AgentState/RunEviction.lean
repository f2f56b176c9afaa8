import VdeTmux.AgentState.RunRetention
import VdeTmux.Foundation.Eviction

/-!
# Emptying the store

The loop over the queue keeps right counts of what is retained, so that it is the eviction from
the front, and its result is told run by run.
-/

open Foundation Foundation.Eviction VdeTmux.Pane
namespace VdeTmux.AgentState

section Loop
variable {runs : List RunFile} (hids : (runs.map RunFile.runId).Nodup)

def keptRuns (runs : List RunFile) (ids : Finset String) : List RunFile :=
  runs.filter fun run => run.runId ∉ ids

def keptBytes (runs : List RunFile) (ids : Finset String) : ℕ :=
  ((keptRuns runs ids).map RunFile.size).sum

theorem keptRuns_sublist {ids ids' : Finset String} (h : ids ⊆ ids') :
    (keptRuns runs ids').Sublist (keptRuns runs ids) :=
  List.monotone_filter_right _ fun run hrun => by
    rw [decide_eq_true_eq] at hrun ⊢
    exact fun hmem => hrun (h hmem)

include hids in
theorem keptRuns_perm {ids : Finset String} {run : RunFile} (hrun : run ∈ runs)
    (hnew : run.runId ∉ ids) :
    (keptRuns runs ids).Perm (run :: keptRuns runs (insert run.runId ids)) := by
  have hkept : run ∈ keptRuns runs ids := List.mem_filter.mpr ⟨hrun, by simpa using hnew⟩
  have hnodup : (keptRuns runs ids).Nodup := (List.Nodup.of_map _ hids).filter _
  have herase : keptRuns runs (insert run.runId ids) = (keptRuns runs ids).erase run := by
    rw [hnodup.erase_eq_filter, keptRuns, keptRuns, List.filter_filter]
    refine List.filter_congr fun other hother => ?_
    have hiff : other.runId = run.runId ↔ other = run :=
      ⟨eq_of_runId hids hother hrun, fun h => h ▸ rfl⟩
    simp [Finset.mem_insert, hiff, bne, beq_eq_decide]
  rw [herase]
  exact List.perm_cons_erase hkept

include hids in
theorem length_keptRuns_insert {ids : Finset String} {run : RunFile} (hrun : run ∈ runs)
    (hnew : run.runId ∉ ids) :
    (keptRuns runs (insert run.runId ids)).length = (keptRuns runs ids).length - 1 := by
  rw [(keptRuns_perm hids hrun hnew).length_eq]
  rfl

include hids in
theorem keptBytes_insert {ids : Finset String} {run : RunFile} (hrun : run ∈ runs)
    (hnew : run.runId ∉ ids) :
    keptBytes runs (insert run.runId ids) = keptBytes runs ids - run.size := by
  rw [keptBytes, keptBytes, ((keptRuns_perm hids hrun hnew).map _).sum_eq, List.map_cons,
    List.sum_cons, Nat.add_sub_cancel_left]

def Evicting.Counted (runs : List RunFile) (e : Evicting) : Prop :=
  e.retainedRecords = (keptRuns runs e.removeIds).length ∧
    e.retainedBytes = keptBytes runs e.removeIds

def meets (runs : List RunFile) (targetRecords targetBytes : ℕ) (ids : Finset String) : Bool :=
  (keptRuns runs ids).length ≤ targetRecords && keptBytes runs ids ≤ targetBytes

theorem meets_mono {targetRecords targetBytes : ℕ} {ids ids' : Finset String} (h : ids ⊆ ids')
    (hmeets : meets runs targetRecords targetBytes ids = true) :
    meets runs targetRecords targetBytes ids' = true := by
  simp only [meets, Bool.and_eq_true, decide_eq_true_eq] at hmeets ⊢
  have hsub : (keptRuns runs ids').Sublist (keptRuns runs ids) := keptRuns_sublist h
  exact ⟨hsub.length_le.trans hmeets.1,
    (List.Sublist.sum_le_sum (hsub.map _) fun _ _ => Nat.zero_le _).trans hmeets.2⟩

theorem Evicting.Counted.enough {e : Evicting} (h : e.Counted runs) (targetRecords targetBytes : ℕ) :
    e.enough targetRecords targetBytes = meets runs targetRecords targetBytes e.removeIds := by
  rw [Evicting.enough, meets, h.1, h.2]

include hids in
theorem evictLoop_eq (targetRecords targetBytes : ℕ) {queue : List RunFile}
    (hqueue : ∀ run ∈ queue, run ∈ runs) {e : Evicting} (he : e.Counted runs) :
    (evictLoop targetRecords targetBytes queue e).removeIds =
        evict (meets runs targetRecords targetBytes) RunFile.runId queue e.removeIds ∧
      (evictLoop targetRecords targetBytes queue e).Counted runs := by
  induction queue generalizing e with
  | nil => exact ⟨rfl, he⟩
  | cons run queue ih =>
    obtain ⟨hrun, hqueue⟩ := List.forall_mem_cons.mp hqueue
    simp only [evictLoop, evict, he.enough]
    split_ifs with hmeets hmem
    · exact ⟨rfl, he⟩
    · rw [Finset.insert_eq_of_mem hmem]
      exact ih hqueue he
    · refine ih hqueue ⟨?_, ?_⟩
      · rw [length_keptRuns_insert hids hrun hmem, he.1]
      · rw [keptBytes_insert hids hrun hmem, he.2]

theorem foldl_sub (ids : Finset String) (bytes : ℕ) (l : List RunFile) :
    l.foldl (fun bytes run => if run.runId ∈ ids then bytes - run.size else bytes) bytes =
      bytes - ((l.filter fun run => run.runId ∈ ids).map RunFile.size).sum := by
  induction l generalizing bytes with
  | nil => rfl
  | cons run l ih =>
    rw [List.foldl_cons, ih]
    by_cases hmem : run.runId ∈ ids
    · rw [if_pos hmem, List.filter_cons_of_pos (by simpa using hmem), List.map_cons, List.sum_cons,
        Nat.sub_sub]
    · rw [if_neg hmem, List.filter_cons_of_neg (by simpa using hmem)]

theorem perm_removed_kept (runs : List RunFile) (ids : Finset String) :
    runs.Perm ((runs.filter fun run => run.runId ∈ ids) ++ keptRuns runs ids) := by
  have := (List.filter_append_perm (fun run : RunFile => decide (run.runId ∈ ids)) runs).symm
  simpa [keptRuns] using this

include hids in
theorem length_removed {ids : Finset String} (h : ∀ id ∈ ids, ∃ run ∈ runs, run.runId = id) :
    (runs.filter fun run => run.runId ∈ ids).length = ids.card := by
  have hset : ((runs.filter fun run => run.runId ∈ ids).map RunFile.runId).toFinset = ids := by
    ext id
    simp only [List.mem_toFinset, List.mem_map, List.mem_filter, decide_eq_true_eq]
    constructor
    · rintro ⟨run, ⟨-, hmem⟩, rfl⟩
      exact hmem
    · intro hid
      obtain ⟨run, hrun, rfl⟩ := h id hid
      exact ⟨run, ⟨hrun, hid⟩, rfl⟩
  have hcard := List.toFinset_card_of_nodup (nodup_filter_runId hids fun run => run.runId ∈ ids)
  rw [hset, List.length_map] at hcard
  exact hcard.symm

include hids in
theorem startEvicting_counted {ids : Finset String}
    (h : ∀ id ∈ ids, ∃ run ∈ runs, run.runId = id) :
    (startEvicting (runs.map RunFile.size).sum runs ids).Counted runs := by
  have hperm := perm_removed_kept runs ids
  refine ⟨?_, ?_⟩
  · rw [startEvicting, ← length_removed hids h, hperm.length_eq, List.length_append]
    exact Nat.add_sub_cancel_left _ _
  · rw [startEvicting, foldl_sub, (hperm.map RunFile.size).sum_eq, List.map_append, List.sum_append]
    exact Nat.add_sub_cancel_left _ _

end Loop

section Collect
variable {runs : List RunFile} {now : ℤ} {protectedRunIds : List String}
  {reserve : RunRetentionReserve} {incomingPane : Option PaneInstance}

theorem mem_of_mem_ruledIds {id : String}
    (h : id ∈ ruledIds runs now protectedRunIds incomingPane) :
    ∃ run ∈ removableRuns protectedRunIds.toFinset runs, run.runId = id := by
  rw [ruledIds, Finset.mem_union] at h
  rcases h with h | h
  · rw [expiredIds, List.mem_toFinset] at h
    obtain ⟨run, hrun, rfl⟩ := List.mem_map.mp h
    exact ⟨run, List.mem_of_mem_filter hrun, rfl⟩
  · simp only [excessIds, Finset.mem_biUnion] at h
    obtain ⟨pane, -, hmem⟩ := h
    rw [List.mem_toFinset] at hmem
    obtain ⟨run, hrun, rfl⟩ := List.mem_map.mp hmem
    have hpane := List.mem_of_mem_take hrun
    rw [paneRuns, mem_sortBy] at hpane
    exact ⟨run, List.mem_of_mem_filter hpane, rfl⟩

variable (hids : (runs.map RunFile.runId).Nodup)

theorem meets_iff (hrecords : reserve.records ≤ runStoreMaxRecords)
    (hbytes : reserve.bytes ≤ runStoreMaxBytes) (ids : Finset String) :
    meets runs (runStoreMaxRecords - reserve.records) (runStoreMaxBytes - reserve.bytes) ids = true
      ↔ Fits reserve (keptRuns runs ids) := by
  rw [meets, Bool.and_eq_true, decide_eq_true_eq, decide_eq_true_eq, Fits, keptBytes]
  omega

include hids

theorem keptRuns_sparing (hnow : 0 ≤ now) {run : RunFile} :
    keptRuns runs (ruledIds runs now protectedRunIds incomingPane ∪
      (((removableRuns protectedRunIds.toFinset runs).filter fun other => Older other run).map
        RunFile.runId).toFinset) = sparing runs now protectedRunIds incomingPane run := by
  refine List.filter_congr fun other hother => decide_eq_decide.mpr (not_congr ?_)
  rw [Finset.mem_union, mem_ruledIds hids hnow hother, mem_ids_iff hids (fun r h =>
    (mem_removableRuns.mp (List.mem_of_mem_filter h)).1) hother, List.mem_filter,
    mem_removableRuns, decide_eq_true_eq]
  simp only [hother, true_and]

omit hids in
theorem exists_of_mem_ruledIds {id : String}
    (h : id ∈ ruledIds runs now protectedRunIds incomingPane) : ∃ run ∈ runs, run.runId = id :=
  (mem_of_mem_ruledIds h).imp fun _ hrun => ⟨(mem_removableRuns.mp hrun.1).1, hrun.2⟩

def evicted (runs : List RunFile) (now : ℤ) (protectedRunIds : List String)
    (reserve : RunRetentionReserve) (incomingPane : Option PaneInstance) : Evicting :=
  evictLoop (runStoreMaxRecords - reserve.records) (runStoreMaxBytes - reserve.bytes)
    (removableRuns protectedRunIds.toFinset runs) (startEvicting (runs.map RunFile.size).sum runs
      (ruledIds runs now protectedRunIds incomingPane))

theorem evicted_spec :
    (evicted runs now protectedRunIds reserve incomingPane).removeIds =
        evict (meets runs (runStoreMaxRecords - reserve.records) (runStoreMaxBytes - reserve.bytes))
          RunFile.runId (removableRuns protectedRunIds.toFinset runs)
          (ruledIds runs now protectedRunIds incomingPane) ∧
      (evicted runs now protectedRunIds reserve incomingPane).Counted runs :=
  evictLoop_eq hids _ _ (fun _ hrun => (mem_removableRuns.mp hrun).1)
    (startEvicting_counted hids fun _ => exists_of_mem_ruledIds)

omit hids in
theorem retentionIds_eq :
    retentionIds (runs.map RunFile.size).sum runs now protectedRunIds.toFinset reserve
        incomingPane =
      if (evicted runs now protectedRunIds reserve incomingPane).enough
          (runStoreMaxRecords - reserve.records) (runStoreMaxBytes - reserve.bytes) then
        .ok (evicted runs now protectedRunIds reserve incomingPane).removeIds
      else
        .error (.capacity "run store cannot satisfy retention reserve without protected records") :=
  rfl

theorem retentionIds_spec {ids : Finset String} (hnow : 0 ≤ now)
    (hrecords : reserve.records ≤ runStoreMaxRecords) (hbytes : reserve.bytes ≤ runStoreMaxBytes)
    (h : retentionIds (runs.map RunFile.size).sum runs now protectedRunIds.toFinset reserve
      incomingPane = .ok ids) :
    (∀ id ∈ ids, ∃ run ∈ runs, run.runId = id) ∧ Fits reserve (keptRuns runs ids) ∧
      ∀ run ∈ runs, run.runId ∈ ids ↔
        Goes runs now protectedRunIds reserve incomingPane run := by
  obtain ⟨hevict, hcounted⟩ : _ ∧ (evicted runs now protectedRunIds reserve
    incomingPane).Counted runs := evicted_spec hids
  rw [retentionIds_eq] at h
  split_ifs at h with henough
  obtain rfl := Except.ok.inj h
  rw [hcounted.enough, meets_iff hrecords hbytes] at henough
  rw [hevict] at henough ⊢
  refine ⟨fun id hid => ?_, henough, fun run hrun => ?_⟩
  · rcases mem_of_mem_evict _ _ hid with hmem | ⟨run, hrun, rfl⟩
    · exact exists_of_mem_ruledIds hmem
    · exact ⟨run, (mem_removableRuns.mp hrun).1, rfl⟩
  · by_cases hmem : run.runId ∈ ruledIds runs now protectedRunIds incomingPane
    · exact iff_of_true (subset_evict _ _ _ _ hmem)
        (Or.inl ((mem_ruledIds hids hnow hrun).mp hmem))
    · have hnot := mt (mem_ruledIds hids hnow hrun).mpr hmem
      rw [Goes, or_iff_right hnot]
      by_cases hremovable : Removable protectedRunIds run
      · have hin := mem_removableRuns.mpr ⟨hrun, hremovable⟩
        refine Iff.trans (mem_evict_iff meets_mono older_irrefl older_asymm
          (removableRuns_older hids) (nodup_removableRuns hids) hin hmem) ?_
        rw [← Bool.not_eq_true, meets_iff hrecords hbytes, keptRuns_sparing hids hnow]
        simp only [hremovable, true_and]
      · refine iff_of_false (fun hid => ?_) fun h => hremovable h.1
        rcases mem_of_mem_evict _ _ hid with hgone | ⟨other, hother, hother'⟩
        · exact hmem hgone
        · obtain rfl := eq_of_runId hids (mem_removableRuns.mp hother).1 hrun hother'
          exact hremovable (mem_removableRuns.mp hother).2

end Collect

end VdeTmux.AgentState
