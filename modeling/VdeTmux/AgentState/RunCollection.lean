import VdeTmux.AgentState.RunEviction

/-!
# Collecting old runs

The counts of the store are those of its directory from the opening on, through saves and through
collections that could unlink the files they chose; and a collection removes what it has to.
-/

open Foundation Foundation.Eviction VdeTmux.Pane
namespace VdeTmux.AgentState

/-- The counts are those of the directory, which the opening could count. -/
structure Accounted (store : AgentStateStore) : Prop where
  capacity : store.runCapacity = store.runsDir.usage
  records : store.runsDir.files.length ≤ runStoreMaxRecords
  bytes : store.runsDir.bytes ≤ u64Max

theorem accounted_of {dir : RunsDir} {capacity : RegionCapacity}
    (hrecords : dir.files.length = capacity.records) (hbytes : dir.bytes = capacity.bytes)
    (hlimit : capacity.records ≤ runStoreMaxRecords) (hmax : capacity.bytes ≤ u64Max) :
    Accounted ⟨dir, capacity⟩ where
  capacity := by rw [RunsDir.usage, hrecords, hbytes]
  records := hrecords.trans_le hlimit
  bytes := hbytes.trans_le hmax

theorem regionCapacity_ok {dir : RunsDir} {unread : Option StoreError} {capacity : RegionCapacity}
    (h : regionCapacity dir unread = .ok capacity) : Accounted ⟨dir, capacity⟩ := by
  cases unread with
  | some error => cases h
  | none =>
    rw [regionCapacity] at h
    split_ifs at h with hrecords hbytes
    exact ⟨(Except.ok.inj h).symm, Nat.le_of_not_lt hrecords, Nat.le_of_not_lt hbytes⟩

theorem openStore_accounted {dir : RunsDir} {unread : Option StoreError} {store : AgentStateStore}
    (h : openStore dir unread = .ok store) : Accounted store := by
  rw [openStore] at h
  cases hcapacity : regionCapacity dir unread with
  | error error =>
    rw [hcapacity] at h
    cases h
  | ok capacity =>
    rw [hcapacity] at h
    obtain rfl := Except.ok.inj h
    exact regionCapacity_ok hcapacity

theorem existingFileSize_of_mem {dir : RunsDir} {file : RunFile} (h : file ∈ dir.files) :
    dir.existingFileSize file.runId = some file.size := by
  rw [RunsDir.existingFileSize]
  cases hfind : dir.files.find? (fun other => other.runId = file.runId) with
  | none => exact absurd (List.find?_eq_none.mp hfind file h) (by simp)
  | some other =>
    have hid : other.runId = file.runId := by simpa using List.find?_some hfind
    obtain rfl := eq_of_runId dir.nodup (List.mem_of_find?_eq_some hfind) h hid
    rfl

theorem existingFileSize_eq_none {dir : RunsDir} {id : String} :
    dir.existingFileSize id = none ↔ ∀ file ∈ dir.files, file.runId ≠ id := by
  simp [RunsDir.existingFileSize]

theorem writeFile_perm (dir : RunsDir) (file : RunFile) :
    (dir.writeFile file).files.Perm (file :: keptRuns dir.files {file.runId}) := by
  have hsplit := List.filter_append_perm (fun other : RunFile => decide (other.runId < file.runId))
    (keptRuns dir.files {file.runId})
  have hbefore : (keptRuns dir.files {file.runId}).filter (fun other => other.runId < file.runId) =
      dir.files.filter fun other => other.runId < file.runId := by
    rw [keptRuns, List.filter_filter]
    refine List.filter_congr fun other _ => ?_
    rw [← Bool.decide_and, decide_eq_decide, Finset.mem_singleton]
    exact ⟨fun h => h.1, fun h => ⟨h, ne_of_lt h⟩⟩
  have hafter : (keptRuns dir.files {file.runId}).filter
      (fun other => !decide (other.runId < file.runId)) =
        dir.files.filter fun other => file.runId < other.runId := by
    rw [keptRuns, List.filter_filter]
    refine List.filter_congr fun other _ => ?_
    rw [← decide_not, ← Bool.decide_and, decide_eq_decide, Finset.mem_singleton]
    exact ⟨fun h => lt_of_le_of_ne (not_lt.mp h.1) (Ne.symm h.2),
      fun h => ⟨not_lt.mpr h.le, ne_of_gt h⟩⟩
  rw [hbefore, hafter] at hsplit
  exact List.perm_middle.trans (hsplit.cons file)

theorem keptRuns_empty (runs : List RunFile) : keptRuns runs ∅ = runs := by
  simp [keptRuns]

theorem nextRegionCapacity_ok {dir : RunsDir} {record : RunRecord} {size : ℕ}
    {next : RegionCapacity}
    (h : nextRegionCapacity dir.usage (dir.existingFileSize record.runId) size = .ok next) :
    Accounted ⟨dir.writeFile ⟨record, size⟩, next⟩ := by
  have hperm := writeFile_perm dir ⟨record, size⟩
  have hlength : (dir.writeFile ⟨record, size⟩).files.length =
      (keptRuns dir.files {record.runId}).length + 1 := hperm.length_eq
  have hbytes : (dir.writeFile ⟨record, size⟩).bytes = size + keptBytes dir.files {record.runId} := by
    rw [RunsDir.bytes, (hperm.map RunFile.size).sum_eq, List.map_cons, List.sum_cons]
    rfl
  have hmax : runStoreMaxBytes < u64Max := by decide
  cases hsize : dir.existingFileSize record.runId with
  | none =>
    have hkept : keptRuns dir.files {record.runId} = dir.files :=
      List.filter_eq_self.mpr fun file hfile => by
        simpa using existingFileSize_eq_none.mp hsize file hfile
    have htotal : keptBytes dir.files {record.runId} = dir.bytes := by
      rw [keptBytes, hkept]
      rfl
    rw [hkept] at hlength
    rw [htotal] at hbytes
    simp only [nextRegionCapacity, hsize, RunsDir.usage, Option.isNone_none, if_true,
      Option.getD_none] at h
    split_ifs at h with hfull
    obtain rfl := Except.ok.inj h
    rw [not_or, not_lt, not_lt] at hfull
    refine accounted_of hlength (hbytes.trans ?_) hfull.1 (min_le_right _ _)
    dsimp only
    omega
  | some old =>
    obtain ⟨file, hfile, hid, rfl⟩ : ∃ file ∈ dir.files, file.runId = record.runId ∧
        file.size = old := by
      rw [RunsDir.existingFileSize, Option.map_eq_some_iff] at hsize
      obtain ⟨file, hfind, hold⟩ := hsize
      exact ⟨file, List.mem_of_find?_eq_some hfind, by simpa using List.find?_some hfind, hold⟩
    have hkept := keptRuns_perm dir.nodup hfile (Finset.notMem_empty _)
    rw [keptRuns_empty, hid, insert_empty_eq] at hkept
    have hcount := hkept.length_eq
    have htotal : dir.bytes = file.size + keptBytes dir.files {record.runId} := by
      rw [RunsDir.bytes, (hkept.map RunFile.size).sum_eq, List.map_cons, List.sum_cons]
      rfl
    rw [List.length_cons] at hcount
    simp only [nextRegionCapacity, hsize, RunsDir.usage, Option.isNone_some, Option.getD_some,
      Bool.false_eq_true, if_false] at h
    split_ifs at h with hfull
    obtain rfl := Except.ok.inj h
    rw [not_or, not_lt, not_lt] at hfull
    refine accounted_of (hlength.trans ?_) (hbytes.trans ?_) hfull.1 (min_le_right _ _)
    · exact hcount.symm
    · dsimp only
      omega

/-- When a failed write put its file in place, the directory could be counted again. -/
def Write.recounted : Write → Prop
  | .failed true _ (some _) => False
  | _ => True

theorem recount_accounted {dir : RunsDir} {capacity : RegionCapacity}
    (h : Accounted ⟨dir, capacity⟩) (unread : Option StoreError) (message : String) :
    Accounted (match regionCapacity dir unread with
      | .error error => ((⟨dir, capacity⟩, .error error) : AgentStateStore × Except StoreError Unit)
      | .ok recounted => (⟨dir, recounted⟩, .error (.io message))).1 := by
  cases hcapacity : regionCapacity dir unread with
  | error error => exact h
  | ok recounted => exact regionCapacity_ok hcapacity

theorem saveRun_accounted {store : AgentStateStore} (h : Accounted store) (record : RunRecord)
    (encoded : Encoded) {write : Write} (hwrite : write.recounted) :
    Accounted (saveRun store record encoded write).1 := by
  cases encoded with
  | refused error => exact h
  | unchanged => exact h
  | bytes size =>
    simp only [saveRun, h.capacity]
    cases hnext : nextRegionCapacity store.runsDir.usage
        (store.runsDir.existingFileSize record.runId) size with
    | error error => exact h
    | ok next =>
      have hwritten := nextRegionCapacity_ok hnext
      cases write with
      | done => exact hwritten
      | failed replaced message unread =>
        cases replaced with
        | false =>
          have hkept : Accounted ⟨store.runsDir, store.runsDir.usage⟩ := h.capacity ▸ h
          exact recount_accounted hkept unread message
        | true =>
          cases unread with
          | some error => exact hwrite.elim
          | none =>
            have hcapacity : regionCapacity (store.runsDir.writeFile ⟨record, size⟩) none =
                .ok (store.runsDir.writeFile ⟨record, size⟩).usage := by
              rw [regionCapacity, if_neg (not_lt.mpr hwritten.records),
                if_neg (not_lt.mpr hwritten.bytes)]
            simpa only [hcapacity, if_true] using regionCapacity_ok hcapacity

section Remove
variable {dir : RunsDir} {ids : Finset String}

theorem removeFiles_files (dir : RunsDir) (ids : Finset String) :
    (dir.removeFiles (ids.sort (· ≤ ·))).files = keptRuns dir.files ids :=
  List.filter_congr fun _ _ => decide_eq_decide.mpr (not_congr (Finset.mem_sort _))

theorem existingFileSizes_perm (h : ∀ id ∈ ids, ∃ run ∈ dir.files, run.runId = id) :
    ((ids.sort (· ≤ ·)).filterMap dir.existingFileSize).Perm
      ((dir.files.filter fun run => run.runId ∈ ids).map RunFile.size) := by
  have hperm : (ids.sort (· ≤ ·)).Perm
      ((dir.files.filter fun run => run.runId ∈ ids).map RunFile.runId) := by
    refine (List.perm_ext_iff_of_nodup (Finset.sort_nodup _ _)
      (nodup_filter_runId dir.nodup _)).mpr fun id => ?_
    simp only [Finset.mem_sort, List.mem_map, List.mem_filter, decide_eq_true_eq]
    constructor
    · intro hid
      obtain ⟨run, hrun, rfl⟩ := h id hid
      exact ⟨run, ⟨hrun, hid⟩, rfl⟩
    · rintro ⟨run, ⟨-, hid⟩, rfl⟩
      exact hid
  refine (hperm.filterMap _).trans (List.Perm.of_eq ?_)
  rw [List.filterMap_map, ← List.filterMap_eq_map]
  exact List.filterMap_congr fun run hrun => existingFileSize_of_mem (List.mem_of_mem_filter hrun)

theorem bytes_eq_add (dir : RunsDir) (ids : Finset String) :
    dir.bytes = ((dir.files.filter fun run => run.runId ∈ ids).map RunFile.size).sum +
      keptBytes dir.files ids := by
  rw [RunsDir.bytes, ((perm_removed_kept dir.files ids).map RunFile.size).sum_eq, List.map_append,
    List.sum_append]
  rfl

theorem length_eq_add (dir : RunsDir) (ids : Finset String) :
    dir.files.length = (dir.files.filter fun run => run.runId ∈ ids).length +
      (keptRuns dir.files ids).length := by
  rw [(perm_removed_kept dir.files ids).length_eq, List.length_append]

theorem remove_accounted {store : AgentStateStore} (hstore : Accounted store)
    (h : ∀ id ∈ ids, ∃ run ∈ store.runsDir.files, run.runId = id) :
    Accounted ⟨store.runsDir.removeFiles (ids.sort (· ≤ ·)),
      ⟨store.runCapacity.records -
          ((ids.sort (· ≤ ·)).filterMap store.runsDir.existingFileSize).length,
        store.runCapacity.bytes -
          ((ids.sort (· ≤ ·)).filterMap store.runsDir.existingFileSize).sum⟩⟩ := by
  have hperm := existingFileSizes_perm h
  have hlength := length_eq_add store.runsDir ids
  have hbytes := bytes_eq_add store.runsDir ids
  have hrecords := hstore.records
  have hmax := hstore.bytes
  rw [hperm.length_eq, hperm.sum_eq, List.length_map, hstore.capacity]
  refine accounted_of ?_ ?_ ?_ ?_
  · rw [removeFiles_files]
    dsimp only [RunsDir.usage]
    omega
  · rw [RunsDir.bytes, removeFiles_files]
    change keptBytes store.runsDir.files ids = store.runsDir.bytes - _
    omega
  · dsimp only [RunsDir.usage]
    omega
  · dsimp only [RunsDir.usage]
    omega

theorem sizes_le {store : AgentStateStore} (hstore : Accounted store)
    (h : ∀ id ∈ ids, ∃ run ∈ store.runsDir.files, run.runId = id) :
    ((ids.sort (· ≤ ·)).filterMap store.runsDir.existingFileSize).sum ≤ u64Max := by
  have hbytes := bytes_eq_add store.runsDir ids
  have hmax := hstore.bytes
  rw [(existingFileSizes_perm h).sum_eq]
  omega

end Remove

theorem insertProtected_ok {ids : List String} {protect protect' : Finset String}
    (h : insertProtected ids protect = .ok protect') (hcard : protect.card ≤ runStoreMaxRecords) :
    protect' = protect ∪ ids.toFinset ∧ protect'.card ≤ runStoreMaxRecords := by
  induction ids generalizing protect with
  | nil =>
    obtain rfl := Except.ok.inj h
    exact ⟨by simp, hcard⟩
  | cons id ids ih =>
    simp only [insertProtected] at h
    split_ifs at h with hmany
    obtain ⟨rfl, hcard'⟩ := ih h (Nat.le_of_not_lt hmany)
    exact ⟨by rw [List.toFinset_cons, Finset.union_insert, Finset.insert_union], hcard'⟩

theorem take_of_insertProtected {ids : List String} {protect : Finset String} (hids : ids.Nodup)
    (h : insertProtected (ids.take (runStoreMaxRecords + 1)) ∅ = .ok protect) :
    ids.take (runStoreMaxRecords + 1) = ids := by
  obtain ⟨rfl, hcard⟩ := insertProtected_ok h (Nat.zero_le _)
  rw [Finset.empty_union, List.toFinset_card_of_nodup (hids.sublist (List.take_sublist _ _)),
    List.length_take] at hcard
  exact List.take_of_length_le (by omega)

section Retention
variable {store after : AgentStateStore} {now : ℤ} {protectedRunIds : List String}
  {reserve : RunRetentionReserve} {incomingPane : Option PaneInstance} {io : CollectionIo}
  {removal : Removal} {cleanup : RetentionCleanup}

theorem listRuns_ok {dir : RunsDir} {unread : Option StoreError} {runs : List RunFile}
    (h : listRuns dir unread = .ok runs) : runs = dir.files := by
  cases unread with
  | some error => cases h
  | none =>
    rw [listRuns] at h
    split_ifs at h
    exact (Except.ok.inj h).symm

theorem collect_cases (store : AgentStateStore) (now : ℤ) (protectedRunIds : List String)
    (reserve : RunRetentionReserve) (incomingPane : Option PaneInstance) (io : CollectionIo) :
    (∃ error, collectRunRetention store now protectedRunIds reserve incomingPane io =
        (store, .error error)) ∨
      ∃ removeIds protect, 0 ≤ now ∧ reserve.records ≤ runStoreMaxRecords ∧
        reserve.bytes ≤ runStoreMaxBytes ∧
        insertProtected (protectedRunIds.take (runStoreMaxRecords + 1)) ∅ = .ok protect ∧
        retentionIds store.runCapacity.bytes store.runsDir.files now protect reserve
          incomingPane = .ok removeIds ∧
        collectRunRetention store now protectedRunIds reserve incomingPane io =
          ((removeRunsAtomically store (removeIds.sort (· ≤ ·)) io.removal).1,
            (removeRunsAtomically store (removeIds.sort (· ≤ ·)) io.removal).2.map fun _ =>
              ⟨removeIds.sort (· ≤ ·)⟩) := by
  simp only [collectRunRetention]
  split_ifs with hinvalid
  · exact Or.inl ⟨_, rfl⟩
  rw [not_or, not_or, not_lt, not_lt, not_lt] at hinvalid
  cases hprotect : insertProtected (protectedRunIds.take (runStoreMaxRecords + 1)) ∅ with
  | error error => exact Or.inl ⟨error, rfl⟩
  | ok protect =>
    dsimp only
    cases hlist : listRuns store.runsDir io.unlisted with
    | error error => exact Or.inl ⟨error, rfl⟩
    | ok runs =>
      obtain rfl := listRuns_ok hlist
      dsimp only
      cases io.unsized with
      | some error => exact Or.inl ⟨error, rfl⟩
      | none =>
        dsimp only
        cases hchoice : retentionIds store.runCapacity.bytes store.runsDir.files now protect reserve
            incomingPane with
        | error error => exact Or.inl ⟨error, rfl⟩
        | ok removeIds =>
          exact Or.inr ⟨removeIds, protect, hinvalid.1, hinvalid.2.1, hinvalid.2.2, rfl, hchoice,
            rfl⟩

theorem remove_capacity {ids : List String} {message : String}
    (h : (removeRunsAtomically store ids removal).2 = .error (.capacity message)) :
    (removeRunsAtomically store ids removal).1 = store := by
  simp only [removeRunsAtomically] at h ⊢
  split_ifs at h ⊢
  · rfl
  · cases removal with
    | unread error => rfl
    | done => cases h
    | stopped unlinked message => cases h
    | artifactsFailed message => cases h

theorem collect_capacity {message : String}
    (h : collectRunRetention store now protectedRunIds reserve incomingPane io =
      (after, .error (.capacity message))) : after = store := by
  rcases collect_cases store now protectedRunIds reserve incomingPane io with
    ⟨error, heq⟩ | ⟨removeIds, protect, -, -, -, -, -, heq⟩
  · rw [heq] at h
    exact (Prod.mk.inj h).1.symm
  · rw [heq] at h
    obtain ⟨rfl, hsecond⟩ := Prod.mk.inj h
    cases houtcome : (removeRunsAtomically store (removeIds.sort (· ≤ ·)) io.removal).2 with
    | error error =>
      rw [houtcome] at hsecond
      obtain rfl := Except.error.inj hsecond
      exact remove_capacity houtcome
    | ok done =>
      rw [houtcome] at hsecond
      cases hsecond

def Removal.unlinksAll : Removal → Prop
  | .stopped _ _ => False
  | _ => True

/-- What a choice of stored runs comes to when its removal was not stopped: all of them went, or
none, for one that could not be read. -/
theorem removeRunsAtomically_cases (hstore : Accounted store) (hremoval : removal.unlinksAll)
    {ids : Finset String} (h : ∀ id ∈ ids, ∃ run ∈ store.runsDir.files, run.runId = id) :
    (∃ error, removeRunsAtomically store (ids.sort (· ≤ ·)) removal = (store, .error error)) ∨
      (removeRunsAtomically store (ids.sort (· ≤ ·)) removal).1.runsDir =
          store.runsDir.removeFiles (ids.sort (· ≤ ·)) ∧
        Accounted (removeRunsAtomically store (ids.sort (· ≤ ·)) removal).1 := by
  have hremoved := remove_accounted hstore h
  rw [removeRunsAtomically]
  dsimp only
  rw [if_neg (not_lt.mpr (sizes_le hstore h))]
  cases removal with
  | unread error => exact Or.inl ⟨error, rfl⟩
  | done => exact Or.inr ⟨rfl, hremoved⟩
  | stopped unlinked message => exact hremoval.elim
  | artifactsFailed message => exact Or.inr ⟨rfl, hremoved⟩

theorem unlinksAll_of_ok (hstore : Accounted store) {ids : Finset String}
    (h : ∀ id ∈ ids, ∃ run ∈ store.runsDir.files, run.runId = id)
    (hok : (removeRunsAtomically store (ids.sort (· ≤ ·)) removal).2 = .ok ()) :
    removal.unlinksAll := by
  cases removal with
  | stopped unlinked message =>
    rw [removeRunsAtomically] at hok
    dsimp only at hok
    rw [if_neg (not_lt.mpr (sizes_le hstore h))] at hok
    cases hok
  | unread error => trivial
  | done => trivial
  | artifactsFailed message => trivial

theorem retentionIds_stored {protect : Finset String} {removeIds : Finset String}
    (hstore : Accounted store) (hnow : 0 ≤ now) (hrecords : reserve.records ≤ runStoreMaxRecords)
    (hbytes : reserve.bytes ≤ runStoreMaxBytes)
    (hprotect : insertProtected (protectedRunIds.take (runStoreMaxRecords + 1)) ∅ = .ok protect)
    (h : retentionIds store.runCapacity.bytes store.runsDir.files now protect reserve
      incomingPane = .ok removeIds) :
    (∀ id ∈ removeIds, ∃ run ∈ store.runsDir.files, run.runId = id) ∧
      Fits reserve (keptRuns store.runsDir.files removeIds) ∧
        ∀ run ∈ store.runsDir.files, run.runId ∈ removeIds ↔
          Goes store.runsDir.files now (protectedRunIds.take (runStoreMaxRecords + 1)) reserve
            incomingPane run := by
  obtain ⟨rfl, -⟩ := insertProtected_ok hprotect (Nat.zero_le _)
  rw [Finset.empty_union, hstore.capacity] at h
  exact retentionIds_spec store.runsDir.nodup hnow hrecords hbytes h

theorem collect_accounted (hstore : Accounted store) (hremoval : io.removal.unlinksAll) :
    Accounted (collectRunRetention store now protectedRunIds reserve incomingPane io).1 := by
  rcases collect_cases store now protectedRunIds reserve incomingPane io with
    ⟨error, heq⟩ | ⟨removeIds, protect, hnow, hrecords, hbytes, hprotect, hchoice, heq⟩
  · rw [heq]
    exact hstore
  · rw [heq]
    have hstored := retentionIds_stored hstore hnow hrecords hbytes hprotect hchoice
    rcases removeRunsAtomically_cases hstore hremoval hstored.1 with ⟨error, hunread⟩ | hremoved
    · rw [hunread]
      exact hstore
    · exact hremoved.2

end Retention

end VdeTmux.AgentState
