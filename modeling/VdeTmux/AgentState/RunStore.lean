import Mathlib.Data.Finset.Sort
import Mathlib.Data.Finset.Union
import Mathlib.Data.String.Basic
import VdeTmux.Foundation.Sorting
import VdeTmux.Pane.Runtime

/-!
# The store of runs

Runs are files of one directory, and the store keeps count of them and of their bytes, so that a
save need not read the directory again. What the checks of a record and the encoder say of a save,
and what the file system does, is given from outside.
-/

open Foundation VdeTmux.Pane
namespace VdeTmux.AgentState

def runStoreMaxRecords : ℕ := 2048

def runStoreMaxBytes : ℕ := 96 * 1024 * 1024

def runRetentionPerPane : ℕ := 64

def runRetentionSeconds : ℤ := 30 * 24 * 60 * 60

def u64Max : ℕ := 2 ^ 64 - 1

def i64Min : ℤ := -2 ^ 63

inductive StoreError
  | io (message : String)
  | corrupt (message : String)
  | invalid (message : String)
  | capacity (message : String)
  | conflict (message : String)
deriving DecidableEq

inductive ExecutionPhase
  | running
  | waiting
  | error
  | ended
deriving DecidableEq

inductive SemanticOutcome
  | unresolved
  | completed
deriving DecidableEq

structure RunRecord where
  runId : String
  paneInstance : PaneInstance
  executionPhase : ExecutionPhase
  semanticOutcome : SemanticOutcome
  createdAt : ℤ
deriving DecidableEq

def RunRecord.executionActive (run : RunRecord) : Bool :=
  run.semanticOutcome = .unresolved && run.executionPhase ≠ .ended

/-- The file of a run, which is named by the id, and its length. -/
structure RunFile where
  record : RunRecord
  size : ℕ
deriving DecidableEq

abbrev RunFile.runId (file : RunFile) : String := file.record.runId

/-- The directory lists the files by their names, and no two share one. -/
structure RunsDir where
  files : List RunFile
  sorted : (files.map RunFile.runId).Pairwise (· < ·)

structure RegionCapacity where
  records : ℕ
  bytes : ℕ
deriving DecidableEq

structure AgentStateStore where
  runsDir : RunsDir
  runCapacity : RegionCapacity

def RunsDir.bytes (dir : RunsDir) : ℕ := (dir.files.map RunFile.size).sum

def RunsDir.usage (dir : RunsDir) : RegionCapacity := ⟨dir.files.length, dir.bytes⟩

theorem RunsDir.nodup (dir : RunsDir) : (dir.files.map RunFile.runId).Nodup :=
  dir.sorted.imp fun h => ne_of_lt h

def RunsDir.keep (dir : RunsDir) (p : RunFile → Bool) : RunsDir where
  files := dir.files.filter p
  sorted := dir.sorted.sublist (List.filter_sublist.map _)

def RunsDir.removeFiles (dir : RunsDir) (ids : List String) : RunsDir :=
  dir.keep fun file => file.runId ∉ ids

def RunsDir.existingFileSize (dir : RunsDir) (id : String) : Option ℕ :=
  (dir.files.find? fun file => file.runId = id).map RunFile.size

def RunsDir.writeFile (dir : RunsDir) (file : RunFile) : RunsDir where
  files := dir.files.filter (fun other => other.runId < file.runId) ++
    file :: dir.files.filter (fun other => file.runId < other.runId)
  sorted := by
    rw [List.map_append, List.map_cons]
    refine List.pairwise_append.mpr ⟨dir.sorted.sublist (List.filter_sublist.map _),
      List.pairwise_cons.mpr ⟨?_, dir.sorted.sublist (List.filter_sublist.map _)⟩, ?_⟩
    · intro id hid
      obtain ⟨other, hother, rfl⟩ := List.mem_map.mp hid
      simpa using (List.mem_filter.mp hother).2
    · intro id hid id' hid'
      obtain ⟨other, hother, rfl⟩ := List.mem_map.mp hid
      have hlt : other.runId < file.runId := by simpa using (List.mem_filter.mp hother).2
      rcases List.mem_cons.mp hid' with rfl | hid'
      · exact hlt
      · obtain ⟨later, hlater, rfl⟩ := List.mem_map.mp hid'
        exact hlt.trans (by simpa using (List.mem_filter.mp hlater).2)

/-- `unread` is the error of the directory or of an entry that cannot be read, if there is one. -/
def regionCapacity (dir : RunsDir) (unread : Option StoreError) :
    Except StoreError RegionCapacity :=
  match unread with
  | some error => .error error
  | none =>
    if runStoreMaxRecords < dir.files.length then
      .error (.capacity "run store exceeds its record limit")
    else if u64Max < dir.bytes then .error (.corrupt "run store byte accounting overflow")
    else .ok dir.usage

def listRuns (dir : RunsDir) (unread : Option StoreError) : Except StoreError (List RunFile) :=
  match unread with
  | some error => .error error
  | none =>
    if runStoreMaxRecords < dir.files.length then
      .error (.capacity "run store exceeds its record limit")
    else .ok dir.files

def openStore (dir : RunsDir) (unread : Option StoreError) : Except StoreError AgentStateStore :=
  (regionCapacity dir unread).map fun capacity => ⟨dir, capacity⟩

def nextRegionCapacity (current : RegionCapacity) (replacedSize : Option ℕ) (newSize : ℕ) :
    Except StoreError RegionCapacity :=
  let nextRecords := current.records + if replacedSize.isNone then 1 else 0
  let nextBytes := min (current.bytes - replacedSize.getD 0 + newSize) u64Max
  if runStoreMaxRecords < nextRecords ∨ runStoreMaxBytes < nextBytes then
    .error (.capacity "run store is full")
  else .ok ⟨nextRecords, nextBytes⟩

/-- What the checks of a record, the comparison with the stored one, the look at its file and the
encoder come to. -/
inductive Encoded
  | refused (error : StoreError)
  | unchanged
  | bytes (size : ℕ)

/-- A write that failed may have put the file in its place before, and the directory that is read
after it may fail to be read, too. -/
inductive Write
  | done
  | failed (replaced : Bool) (message : String) (unread : Option StoreError)

def saveRun (store : AgentStateStore) (record : RunRecord) (encoded : Encoded) (write : Write) :
    AgentStateStore × Except StoreError Unit :=
  match encoded with
  | .refused error => (store, .error error)
  | .unchanged => (store, .ok ())
  | .bytes size =>
    match nextRegionCapacity store.runCapacity (store.runsDir.existingFileSize record.runId)
      size with
    | .error error => (store, .error error)
    | .ok nextCapacity =>
      match write with
      | .done => (⟨store.runsDir.writeFile ⟨record, size⟩, nextCapacity⟩, .ok ())
      | .failed replaced message unread =>
        let dir := if replaced then store.runsDir.writeFile ⟨record, size⟩ else store.runsDir
        match regionCapacity dir unread with
        | .error error => (⟨dir, store.runCapacity⟩, .error error)
        | .ok capacity => (⟨dir, capacity⟩, .error (.io message))

structure RunRetentionReserve where
  records : ℕ
  bytes : ℕ
deriving DecidableEq

structure RetentionCleanup where
  removedRunIds : List String
deriving DecidableEq

/-- A run to remove cannot be read; or of the files to remove all go, or some before an error; or
the artifacts fail after them. -/
inductive Removal
  | unread (error : StoreError)
  | done
  | stopped (unlinked : List String) (message : String)
  | artifactsFailed (message : String)

/-- What the file system does to a collection: it may fail to list the runs, or to say how large
one is, before anything is chosen. -/
structure CollectionIo where
  unlisted : Option StoreError := none
  unsized : Option StoreError := none
  removal : Removal := .done

def insertProtected : List String → Finset String → Except StoreError (Finset String)
  | [], protect => .ok protect
  | id :: ids, protect =>
    let protect' := insert id protect
    if runStoreMaxRecords < protect'.card then
      .error (.capacity "run retention protection set exceeds limit")
    else insertProtected ids protect'

def byCreation : RunFile → RunFile → Ordering :=
  compareLex (compareOn (·.record.createdAt)) (compareOn RunFile.runId)

def isRemovable (protect : Finset String) (run : RunFile) : Bool :=
  !run.record.executionActive && run.runId ∉ protect

def removableRuns (protect : Finset String) (runs : List RunFile) : List RunFile :=
  sortBy byCreation (runs.filter (isRemovable protect))

def retentionCutoff (now : ℤ) : ℤ := max (now - runRetentionSeconds) i64Min

def expiredIds (now : ℤ) (removable : List RunFile) : Finset String :=
  ((removable.filter fun run => run.record.createdAt < retentionCutoff now).map
    RunFile.runId).toFinset

def paneRuns (expired : Finset String) (removable : List RunFile) (pane : PaneInstance) :
    List RunFile :=
  sortBy byCreation
    (removable.filter fun run => run.runId ∉ expired ∧ run.record.paneInstance = pane)

def protectedCurrentBecomesHistorical (protect : Finset String) (incomingPane : Option PaneInstance)
    (runs : List RunFile) (pane : PaneInstance) : Bool :=
  incomingPane = some pane &&
    runs.any fun run => run.record.paneInstance = pane && run.runId ∈ protect

def retainedLimit (protect : Finset String) (incomingPane : Option PaneInstance)
    (runs : List RunFile) (pane : PaneInstance) : ℕ :=
  runRetentionPerPane -
    if protectedCurrentBecomesHistorical protect incomingPane runs pane then 1 else 0

def excessIds (protect : Finset String) (incomingPane : Option PaneInstance)
    (runs removable : List RunFile) (expired : Finset String) : Finset String :=
  ((removable.filter fun run => run.runId ∉ expired).map (·.record.paneInstance)).toFinset.biUnion
    fun pane =>
      let retained := paneRuns expired removable pane
      let excess := retained.length - retainedLimit protect incomingPane runs pane
      ((retained.take excess).map RunFile.runId).toFinset

/-- What is retained while ids are removed in turn until both targets are met. -/
structure Evicting where
  removeIds : Finset String
  retainedRecords : ℕ
  retainedBytes : ℕ

def Evicting.enough (targetRecords targetBytes : ℕ) (e : Evicting) : Bool :=
  e.retainedRecords ≤ targetRecords && e.retainedBytes ≤ targetBytes

def evictLoop (targetRecords targetBytes : ℕ) : List RunFile → Evicting → Evicting
  | [], e => e
  | run :: removable, e =>
    if e.enough targetRecords targetBytes then e
    else if run.runId ∈ e.removeIds then evictLoop targetRecords targetBytes removable e
    else
      evictLoop targetRecords targetBytes removable
        ⟨insert run.runId e.removeIds, e.retainedRecords - 1, e.retainedBytes - run.size⟩

def startEvicting (currentBytes : ℕ) (runs : List RunFile) (removeIds : Finset String) : Evicting :=
  ⟨removeIds, runs.length - removeIds.card,
    runs.foldl (fun bytes run => if run.runId ∈ removeIds then bytes - run.size else bytes)
      currentBytes⟩

def removeRunsAtomically (store : AgentStateStore) (ids : List String) (removal : Removal) :
    AgentStateStore × Except StoreError Unit :=
  let sizes := ids.filterMap store.runsDir.existingFileSize
  if u64Max < sizes.sum then
    (store, .error (.corrupt "run removal byte accounting overflow"))
  else
    let removed : AgentStateStore :=
      ⟨store.runsDir.removeFiles ids,
        ⟨store.runCapacity.records - sizes.length, store.runCapacity.bytes - sizes.sum⟩⟩
    match removal with
    | .unread error => (store, .error error)
    | .stopped unlinked message =>
      (⟨store.runsDir.removeFiles (ids.filter (· ∈ unlinked)), store.runCapacity⟩,
        .error (.io message))
    | .artifactsFailed message => (removed, .error (.io message))
    | .done => (removed, .ok ())

def retentionIds (currentBytes : ℕ) (runs : List RunFile) (now : ℤ) (protect : Finset String)
    (reserve : RunRetentionReserve) (incomingPane : Option PaneInstance) :
    Except StoreError (Finset String) :=
  let removable := removableRuns protect runs
  let expired := expiredIds now removable
  let removeIds := expired ∪ excessIds protect incomingPane runs removable expired
  let targetRecords := runStoreMaxRecords - reserve.records
  let targetBytes := runStoreMaxBytes - reserve.bytes
  let evicted := evictLoop targetRecords targetBytes removable
    (startEvicting currentBytes runs removeIds)
  if evicted.enough targetRecords targetBytes then .ok evicted.removeIds
  else
    .error (.capacity "run store cannot satisfy retention reserve without protected records")

def collectRunRetention (store : AgentStateStore) (now : ℤ) (protectedRunIds : List String)
    (reserve : RunRetentionReserve) (incomingPane : Option PaneInstance) (io : CollectionIo) :
    AgentStateStore × Except StoreError RetentionCleanup :=
  if now < 0 ∨ runStoreMaxRecords < reserve.records ∨ runStoreMaxBytes < reserve.bytes then
    (store, .error (.invalid "invalid run retention request"))
  else
    match insertProtected (protectedRunIds.take (runStoreMaxRecords + 1)) ∅ with
    | .error error => (store, .error error)
    | .ok protect =>
      match listRuns store.runsDir io.unlisted with
      | .error error => (store, .error error)
      | .ok runs =>
        match io.unsized with
        | some error => (store, .error error)
        | none =>
          match retentionIds store.runCapacity.bytes runs now protect reserve incomingPane with
          | .error error => (store, .error error)
          | .ok removeIds =>
            let removedRunIds := removeIds.sort (· ≤ ·)
            let (after, outcome) := removeRunsAtomically store removedRunIds io.removal
            (after, outcome.map fun _ => ⟨removedRunIds⟩)

end VdeTmux.AgentState
