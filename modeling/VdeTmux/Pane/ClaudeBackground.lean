import VdeTmux.Foundation.Lists
import VdeTmux.Pane.Model

/-!
# Result receipts of Claude background tasks

The tasks a parent shell waits for, the faults of that wait and the cron snapshot. A pending
task or any fault blocks the completion of the run that owns it.
-/

open Foundation Foundation.Text
namespace VdeTmux.Pane

def maxBackgroundTasks : ℕ := 256
def overflowReason : String := "await_tracking_overflow"
def agentEndedReason : String := "await_agent_ended"

def validBackgroundId (id : String) : Bool :=
  !isBlank id && trim id = id && byteLen id ≤ identifierMaxBytes && !hasControl id

inductive RegistryPresence
  | present
  | absent
  | unknown
deriving DecidableEq

inductive BackgroundReceipt
  | pending
  | delivered
  | cancelled
deriving DecidableEq

structure BackgroundWaitTask where
  taskId : String
  toolUseId : String
  ownerRunSeq : ℕ
  command : String
  registeredAt : ℤ
  receipt : BackgroundReceipt
  notificationStatus : Option String
  lastRegistryPresence : RegistryPresence
  lastCheckedAt : Option ℤ
deriving DecidableEq

structure BackgroundWaitFault where
  reason : String
  key : String
  reported : Bool
deriving DecidableEq

structure ClaudeBackgroundState where
  tasks : List BackgroundWaitTask := []
  faults : List BackgroundWaitFault := []
  paused : Bool := false
  pausedAt : Option ℤ := none
deriving DecidableEq

inductive ClaudeToolResult
  | registered (taskId toolUseId command : String)
  | launchUnconfirmed (toolUseId : String)
  | taskStopped (taskId command : String)
deriving DecidableEq

structure ClaudeTaskNotification where
  taskId : String
  toolUseId : String
  status : Option String
deriving DecidableEq

structure ClaudeRegistryEntry where
  id : String
  taskType : String
deriving DecidableEq

structure ClaudeCron where
  id : String
  schedule : String
  recurring : Bool
deriving DecidableEq

structure ClaudeCronSnapshot where
  entries : List ClaudeCron := []
  observedAt : Option ℤ := none
deriving DecidableEq

def ClaudeCronSnapshot.validate (snapshot : ClaudeCronSnapshot) : Except ModelError Unit :=
  refuse (maxBackgroundTasks < snapshot.entries.length ∨
      (∃ at' ∈ snapshot.observedAt, at' < 0) ∨
      (snapshot.entries ≠ [] ∧ snapshot.observedAt = none) ∨
      ∃ entry ∈ snapshot.entries, validBackgroundId entry.id = false ∨ entry.schedule = "" ∨
        identifierMaxBytes < byteLen entry.schedule ∨ hasControl entry.schedule = true)
    ⟨"invalid cron snapshot"⟩

theorem ClaudeCronSnapshot.validate_default :
    ({} : ClaudeCronSnapshot).validate = .ok () := by
  simp [ClaudeCronSnapshot.validate]

def BackgroundReceipt.agrees : BackgroundReceipt → Option String → Bool
  | .pending, status => status.isNone
  | .delivered, status => status.isSome
  | .cancelled, _ => true

structure BackgroundWaitTask.WellFormed (task : BackgroundWaitTask) (runSeq : ℕ) : Prop where
  taskId : validBackgroundId task.taskId = true
  toolUseId : validBackgroundId task.toolUseId = true
  owner : task.ownerRunSeq = runSeq
  command : task.command ≠ ""
  commandBound : byteLen task.command ≤ bodyMaxBytes
  registeredAt : 0 ≤ task.registeredAt
  lastCheckedAt : ∀ at' ∈ task.lastCheckedAt, 0 ≤ at'
  status : ∀ status ∈ task.notificationStatus, validBackgroundId status = true
  receipt : task.receipt.agrees task.notificationStatus = true

instance (task : BackgroundWaitTask) (runSeq : ℕ) : Decidable (task.WellFormed runSeq) :=
  decidable_of_iff
    (validBackgroundId task.taskId = true ∧ validBackgroundId task.toolUseId = true ∧
      task.ownerRunSeq = runSeq ∧ task.command ≠ "" ∧ byteLen task.command ≤ bodyMaxBytes ∧
      0 ≤ task.registeredAt ∧ (∀ at' ∈ task.lastCheckedAt, 0 ≤ at') ∧
      (∀ status ∈ task.notificationStatus, validBackgroundId status = true) ∧
      task.receipt.agrees task.notificationStatus = true)
    ⟨fun ⟨h1, h2, h3, h4, h5, h6, h7, h8, h9⟩ => ⟨h1, h2, h3, h4, h5, h6, h7, h8, h9⟩,
      fun ⟨h1, h2, h3, h4, h5, h6, h7, h8, h9⟩ => ⟨h1, h2, h3, h4, h5, h6, h7, h8, h9⟩⟩

def BackgroundWaitTask.cancel (task : BackgroundWaitTask) : BackgroundWaitTask :=
  { task with receipt := .cancelled }

/-- The receipt of a result. A cancelled task stays cancelled. -/
def BackgroundWaitTask.deliver (task : BackgroundWaitTask) (status : Option String) :
    BackgroundWaitTask :=
  { task with
    receipt := match task.receipt with
      | .cancelled => .cancelled
      | _ => .delivered
    notificationStatus := status }

def validateBackgroundTasks (runSeq : ℕ) (ids toolIds : List String) :
    List BackgroundWaitTask → Except ModelError Unit
  | [] => .ok ()
  | task :: rest => do
    refuse (¬task.WellFormed runSeq ∨ task.taskId ∈ ids ∨ task.toolUseId ∈ toolIds)
      ⟨"invalid background wait task"⟩
    validateBackgroundTasks runSeq (task.taskId :: ids) (task.toolUseId :: toolIds) rest

theorem BackgroundWaitTask.WellFormed.cancel {task : BackgroundWaitTask} {runSeq : ℕ}
    (h : task.WellFormed runSeq) : task.cancel.WellFormed runSeq :=
  { h with receipt := rfl }

theorem BackgroundWaitTask.WellFormed.deliver {task : BackgroundWaitTask} {runSeq : ℕ}
    {status : Option String} (h : task.WellFormed runSeq)
    (hstatus : status.any validBackgroundId = true) : (task.deliver status).WellFormed runSeq := by
  cases status with
  | none => simp at hstatus
  | some status =>
    refine { h with status := ?_, receipt := ?_ }
    · simpa [BackgroundWaitTask.deliver] using hstatus
    · cases hr : task.receipt <;> simp [BackgroundWaitTask.deliver, hr, BackgroundReceipt.agrees]

namespace ClaudeBackgroundState

def pendingCount (background : ClaudeBackgroundState) : ℕ :=
  background.tasks.countP fun task => task.receipt = .pending

def blocksCompletion (background : ClaudeBackgroundState) : Bool :=
  0 < background.pendingCount || !background.faults.isEmpty

def activity (background : ClaudeBackgroundState) : ClaudeBackgroundState :=
  { background with paused := false, pausedAt := none }

/-- Record a fault once. At the limit one sticky overflow fault takes the last place. -/
def fault (background : ClaudeBackgroundState) (reason key : String) : ClaudeBackgroundState :=
  if background.faults.any fun fault => fault.reason = reason && fault.key = key then background
  else if maxBackgroundTasks ≤ background.faults.length then
    if background.faults.any fun fault => fault.reason = overflowReason then background
    else
      { background with
        faults := background.faults.set (maxBackgroundTasks - 1)
          ⟨overflowReason, "overflow", false⟩ }
  else { background with faults := background.faults ++ [⟨reason, key, false⟩] }

def clearTaskFaults (background : ClaudeBackgroundState) (key : String) : ClaudeBackgroundState :=
  { background with
    faults := background.faults.filter fun fault =>
      fault.key ≠ key || fault.reason = overflowReason }

def validate (background : ClaudeBackgroundState) (runSeq : ℕ) : Except ModelError Unit := do
  refuse (maxBackgroundTasks < background.tasks.length ∨
      maxBackgroundTasks < background.faults.length) ⟨"background wait limit exceeded"⟩
  validateBackgroundTasks runSeq [] [] background.tasks
  refuse (∃ fault ∈ background.faults,
      validBackgroundId fault.reason = false ∨ validBackgroundId fault.key = false)
    ⟨"invalid background wait fault"⟩
  refuse (background.paused ≠ background.pausedAt.isSome ∨ ∃ at' ∈ background.pausedAt, at' < 0)
    ⟨"invalid background wait pause"⟩

def register (background : ClaudeBackgroundState) (task : BackgroundWaitTask) :
    ClaudeBackgroundState :=
  { background with tasks := background.tasks ++ [task] }

def confirmLaunch (background : ClaudeBackgroundState) (toolUseId : String) :
    ClaudeBackgroundState :=
  { background with
    faults := background.faults.filter fun fault =>
      fault.reason ≠ "await_launch_unconfirmed" || fault.key ≠ toolUseId }

def cancel (background : ClaudeBackgroundState) (taskId command : String) :
    ClaudeBackgroundState :=
  if background.tasks.any fun task => task.taskId = taskId && task.command = command then
    ({ background with
      tasks := updateFirst (fun task => task.taskId = taskId && task.command = command)
        BackgroundWaitTask.cancel background.tasks
      }).clearTaskFaults taskId
  else background

def observeNotification (background : ClaudeBackgroundState)
    (notification : ClaudeTaskNotification) : ClaudeBackgroundState :=
  let matching := fun task : BackgroundWaitTask =>
    task.taskId = notification.taskId && task.toolUseId = notification.toolUseId
  match background.tasks.find? matching with
  | none => background
  | some task =>
    if notification.status.any validBackgroundId then
      ({ background with
        tasks := updateFirst matching (·.deliver notification.status) background.tasks
        }).clearTaskFaults notification.taskId
    else if task.receipt = .pending then
      background.fault "await_notification_invalid" notification.taskId
    else background

def checkRegistry (background : ClaudeBackgroundState)
    (registry : Option (List ClaudeRegistryEntry)) (observedAt : ℤ) : ClaudeBackgroundState :=
  { background with
    tasks := background.tasks.map fun task =>
      if task.receipt ≠ .pending then task
      else
        { task with
          lastRegistryPresence :=
            match registry with
            | none => .unknown
            | some entries =>
              if entries.any fun entry => entry.id = task.taskId && entry.taskType = "shell" then
                .present
              else .absent
          lastCheckedAt := some observedAt } }

/-- The fault a blocked stop shows: the first that was not reported, else the first. -/
def shownFault (background : ClaudeBackgroundState) : Option BackgroundWaitFault :=
  (background.faults.find? fun fault => !fault.reported).or background.faults.head?

def pause (background : ClaudeBackgroundState) (observedAt : ℤ) : ClaudeBackgroundState :=
  { background with paused := true, pausedAt := some (background.pausedAt.getD observedAt) }

theorem validateBackgroundTasks_eq_ok {runSeq : ℕ} {ids toolIds : List String}
    {tasks : List BackgroundWaitTask} {u : Unit} :
    validateBackgroundTasks runSeq ids toolIds tasks = .ok u ↔
      (∀ task ∈ tasks, task.WellFormed runSeq) ∧
      ((tasks.map (·.taskId)).Nodup ∧ ∀ task ∈ tasks, task.taskId ∉ ids) ∧
      (tasks.map (·.toolUseId)).Nodup ∧ ∀ task ∈ tasks, task.toolUseId ∉ toolIds := by
  induction tasks generalizing ids toolIds with
  | nil => simp [validateBackgroundTasks]
  | cons task rest ih =>
    simp only [validateBackgroundTasks, bind_eq_ok, refuse_eq_ok, ih, List.forall_mem_cons,
      List.map_cons, List.nodup_cons, List.mem_map, not_or, not_exists, not_and, not_not]
    simp only [List.mem_cons, not_or]
    constructor
    · rintro ⟨_, ⟨htask, hid, htool⟩, hwell, ⟨hids, hidsOut⟩, htools, htoolsOut⟩
      exact ⟨⟨htask, hwell⟩,
        ⟨⟨fun t ht => (hidsOut t ht).1, hids⟩, hid, fun t ht => (hidsOut t ht).2⟩,
        ⟨fun t ht => (htoolsOut t ht).1, htools⟩, htool, fun t ht => (htoolsOut t ht).2⟩
    · rintro ⟨⟨htask, hwell⟩, ⟨⟨hidNew, hids⟩, hid, hidsOut⟩, ⟨htoolNew, htools⟩, htool,
        htoolsOut⟩
      exact ⟨(), ⟨htask, hid, htool⟩, hwell, ⟨hids, fun t ht => ⟨hidNew t ht, hidsOut t ht⟩⟩,
        htools, fun t ht => ⟨htoolNew t ht, htoolsOut t ht⟩⟩

structure Valid (background : ClaudeBackgroundState) (runSeq : ℕ) : Prop where
  tasksBound : background.tasks.length ≤ maxBackgroundTasks
  faultsBound : background.faults.length ≤ maxBackgroundTasks
  tasks : ∀ task ∈ background.tasks, task.WellFormed runSeq
  taskIds : (background.tasks.map (·.taskId)).Nodup
  toolUseIds : (background.tasks.map (·.toolUseId)).Nodup
  faults : ∀ fault ∈ background.faults,
    validBackgroundId fault.reason = true ∧ validBackgroundId fault.key = true
  pausedAt : background.paused = background.pausedAt.isSome
  pausedAtNonneg : ∀ at' ∈ background.pausedAt, 0 ≤ at'

theorem validate_eq_ok {background : ClaudeBackgroundState} {runSeq : ℕ} {u : Unit} :
    background.validate runSeq = .ok u ↔ background.Valid runSeq := by
  simp only [validate, bind_eq_ok, refuse_eq_ok, validateBackgroundTasks_eq_ok, not_or, not_lt,
    not_exists, not_and, Bool.not_eq_false, ne_eq, not_not]
  constructor
  · rintro ⟨_, ⟨hcount, hfaultCount⟩, _, ⟨htasks, ⟨hids, -⟩, htools, -⟩, _, hfaults, hpause, hat⟩
    exact ⟨hcount, hfaultCount, htasks, hids, htools, hfaults, hpause,
      fun at' hmem => by have hnot := hat at' hmem; omega⟩
  · intro h
    exact ⟨(), ⟨h.tasksBound, h.faultsBound⟩, (), ⟨h.tasks, ⟨h.taskIds, by simp⟩, h.toolUseIds,
      by simp⟩, (), h.faults, h.pausedAt,
      fun at' hmem => by have hnonneg := h.pausedAtNonneg at' hmem; omega⟩

theorem Valid.default (runSeq : ℕ) : Valid {} runSeq :=
  ⟨by simp, by simp, by simp, by simp, by simp, by simp, rfl, by simp⟩

theorem Valid.of_no_tasks {background : ClaudeBackgroundState} {runSeq : ℕ}
    (h : background.Valid runSeq) (hnil : background.tasks = []) (runSeq' : ℕ) :
    background.Valid runSeq' :=
  { h with tasks := by simp [hnil] }

theorem Valid.activity {background : ClaudeBackgroundState} {runSeq : ℕ}
    (h : background.Valid runSeq) : background.activity.Valid runSeq :=
  { h with
    pausedAt := rfl
    pausedAtNonneg := by simp [ClaudeBackgroundState.activity] }

theorem Valid.pause {background : ClaudeBackgroundState} {runSeq : ℕ} {observedAt : ℤ}
    (h : background.Valid runSeq) (hat : 0 ≤ observedAt) :
    (background.pause observedAt).Valid runSeq := by
  refine { h with pausedAt := rfl, pausedAtNonneg := ?_ }
  intro at' hmem
  simp only [ClaudeBackgroundState.pause, Option.mem_def, Option.some.injEq] at hmem
  subst hmem
  cases hp : background.pausedAt with
  | none => simpa using hat
  | some at' => exact h.pausedAtNonneg at' hp

theorem Valid.filterFaults {background : ClaudeBackgroundState} {runSeq : ℕ}
    (h : background.Valid runSeq) (keep : BackgroundWaitFault → Bool) :
    Valid { background with faults := background.faults.filter keep } runSeq :=
  { h with
    faultsBound := (List.length_filter_le _ _).trans h.faultsBound
    faults := fun fault hfault => h.faults fault (List.mem_of_mem_filter hfault) }

theorem Valid.clearTaskFaults {background : ClaudeBackgroundState} {runSeq : ℕ}
    (h : background.Valid runSeq) (key : String) :
    (background.clearTaskFaults key).Valid runSeq :=
  h.filterFaults _

theorem Valid.confirmLaunch {background : ClaudeBackgroundState} {runSeq : ℕ}
    (h : background.Valid runSeq) (toolUseId : String) :
    (background.confirmLaunch toolUseId).Valid runSeq :=
  h.filterFaults _

theorem overflowReason_valid : validBackgroundId overflowReason = true := by decide

theorem notificationInvalid_valid :
    validBackgroundId "await_notification_invalid" = true := by decide

theorem Valid.fault {background : ClaudeBackgroundState} {runSeq : ℕ} {reason key : String}
    (h : background.Valid runSeq) (hreason : validBackgroundId reason = true)
    (hkey : validBackgroundId key = true) : (background.fault reason key).Valid runSeq := by
  unfold ClaudeBackgroundState.fault
  split_ifs with hseen hfull hsticky
  · exact h
  · exact h
  · refine { h with faultsBound := by simpa using h.faultsBound, faults := ?_ }
    intro fault hfault
    rcases List.mem_or_eq_of_mem_set hfault with hfault | rfl
    · exact h.faults fault hfault
    · exact ⟨overflowReason_valid, by decide⟩
  · refine { h with faultsBound := ?_, faults := ?_ }
    · simp only [List.length_append, List.length_singleton]
      omega
    · intro fault hfault
      rcases List.mem_append.mp hfault with hfault | hfault
      · exact h.faults fault hfault
      · rw [List.mem_singleton.mp hfault]
        exact ⟨hreason, hkey⟩

theorem Valid.updateTasks {background : ClaudeBackgroundState} {runSeq : ℕ}
    (h : background.Valid runSeq) {tasks : List BackgroundWaitTask}
    (hids : tasks.map (·.taskId) = background.tasks.map (·.taskId))
    (htools : tasks.map (·.toolUseId) = background.tasks.map (·.toolUseId))
    (hwell : ∀ task ∈ tasks, task.WellFormed runSeq) :
    Valid { background with tasks := tasks } runSeq :=
  { h with
    tasksBound := by
      have hlen := congrArg List.length hids
      simp only [List.length_map] at hlen
      exact hlen ▸ h.tasksBound
    tasks := hwell
    taskIds := hids ▸ h.taskIds
    toolUseIds := htools ▸ h.toolUseIds }

theorem Valid.register {background : ClaudeBackgroundState} {runSeq : ℕ}
    (h : background.Valid runSeq) {task : BackgroundWaitTask}
    (hwell : task.WellFormed runSeq)
    (hid : ∀ other ∈ background.tasks, other.taskId ≠ task.taskId)
    (htool : ∀ other ∈ background.tasks, other.toolUseId ≠ task.toolUseId)
    (hroom : background.tasks.length < maxBackgroundTasks) :
    (background.register task).Valid runSeq :=
  { h with
    tasksBound := by
      simp only [ClaudeBackgroundState.register, List.length_append, List.length_singleton]
      omega
    tasks := by
      intro other hother
      rcases List.mem_append.mp hother with hother | hother
      · exact h.tasks other hother
      · rw [List.mem_singleton.mp hother]
        exact hwell
    taskIds := nodup_map_append_singleton h.taskIds hid
    toolUseIds := nodup_map_append_singleton h.toolUseIds htool }

theorem Valid.cancel {background : ClaudeBackgroundState} {runSeq : ℕ}
    (h : background.Valid runSeq) (taskId command : String) :
    (background.cancel taskId command).Valid runSeq := by
  unfold ClaudeBackgroundState.cancel
  split_ifs
  · refine (h.updateTasks ?_ ?_ ?_).clearTaskFaults taskId
    · exact map_updateFirst (by intro; rfl) _
    · exact map_updateFirst (by intro; rfl) _
    · intro task htask
      rcases mem_updateFirst htask with htask | ⟨old, hold, -, rfl⟩
      · exact h.tasks task htask
      · exact (h.tasks old hold).cancel
  · exact h

theorem Valid.observeNotification {background : ClaudeBackgroundState} {runSeq : ℕ}
    (h : background.Valid runSeq) (notification : ClaudeTaskNotification) :
    (background.observeNotification notification).Valid runSeq := by
  unfold ClaudeBackgroundState.observeNotification
  dsimp only
  split
  · exact h
  · rename_i task hfind
    split_ifs with hstatus hpending
    · refine (h.updateTasks ?_ ?_ ?_).clearTaskFaults _
      · exact map_updateFirst (by intro; rfl) _
      · exact map_updateFirst (by intro; rfl) _
      · intro task htask
        rcases mem_updateFirst htask with htask | ⟨old, hold, -, rfl⟩
        · exact h.tasks task htask
        · exact (h.tasks old hold).deliver hstatus
    · refine h.fault notificationInvalid_valid ?_
      have hmem := List.mem_of_find?_eq_some hfind
      have hkey := List.find?_some hfind
      simp only [Bool.and_eq_true, decide_eq_true_eq] at hkey
      rw [← hkey.1]
      exact (h.tasks task hmem).taskId
    · exact h

theorem Valid.checkRegistry {background : ClaudeBackgroundState} {runSeq : ℕ}
    (h : background.Valid runSeq) (registry : Option (List ClaudeRegistryEntry)) {observedAt : ℤ}
    (hat : 0 ≤ observedAt) : (background.checkRegistry registry observedAt).Valid runSeq := by
  refine h.updateTasks ?_ ?_ ?_
  · rw [List.map_map]
    refine List.map_congr_left fun task _ => ?_
    simp only [Function.comp_apply]
    split_ifs <;> rfl
  · rw [List.map_map]
    refine List.map_congr_left fun task _ => ?_
    simp only [Function.comp_apply]
    split_ifs <;> rfl
  · intro task htask
    obtain ⟨old, hold, rfl⟩ := List.mem_map.mp htask
    split_ifs
    · exact h.tasks old hold
    · exact { h.tasks old hold with lastCheckedAt := by simpa using hat }

theorem blocksCompletion_eq_false {background : ClaudeBackgroundState} :
    background.blocksCompletion = false ↔
      (∀ task ∈ background.tasks, task.receipt ≠ .pending) ∧ background.faults = [] := by
  simp [blocksCompletion, pendingCount]

@[simp] theorem blocksCompletion_default : ({} : ClaudeBackgroundState).blocksCompletion = false :=
  rfl

theorem blocksCompletion_congr {b b' : ClaudeBackgroundState} (htasks : b'.tasks = b.tasks)
    (hfaults : b'.faults = b.faults) : b'.blocksCompletion = b.blocksCompletion := by
  simp [blocksCompletion, pendingCount, htasks, hfaults]

@[simp] theorem checkRegistry_faults {background : ClaudeBackgroundState}
    {registry : Option (List ClaudeRegistryEntry)} {observedAt : ℤ} :
    (background.checkRegistry registry observedAt).faults = background.faults := rfl

@[simp] theorem checkRegistry_tasks_eq_nil {background : ClaudeBackgroundState}
    {registry : Option (List ClaudeRegistryEntry)} {observedAt : ℤ} :
    (background.checkRegistry registry observedAt).tasks = [] ↔ background.tasks = [] := by
  simp [checkRegistry]

theorem checkRegistry_blocksCompletion {background : ClaudeBackgroundState}
    {registry : Option (List ClaudeRegistryEntry)} {observedAt : ℤ} :
    (background.checkRegistry registry observedAt).blocksCompletion =
      background.blocksCompletion := by
  have hcount : (background.checkRegistry registry observedAt).pendingCount =
      background.pendingCount := by
    simp only [pendingCount, checkRegistry, List.countP_map]
    refine List.countP_congr fun task _ => ?_
    simp only [Function.comp_apply]
    split_ifs <;> simp
  simp [blocksCompletion, hcount]

def overflowKeys (background : ClaudeBackgroundState) : List String :=
  (background.faults.filter fun fault => fault.reason = overflowReason).map (·.key)

theorem mem_overflowKeys {background : ClaudeBackgroundState} {key : String} :
    key ∈ background.overflowKeys ↔
      ∃ fault ∈ background.faults, fault.reason = overflowReason ∧ fault.key = key := by
  simp [overflowKeys, and_assoc]

theorem overflowKeys_subset {b b' : ClaudeBackgroundState}
    (h : ∀ fault ∈ b.faults, fault.reason = overflowReason → fault ∈ b'.faults) :
    b.overflowKeys ⊆ b'.overflowKeys := by
  intro key hkey
  obtain ⟨fault, hfault, hreason, rfl⟩ := mem_overflowKeys.mp hkey
  exact mem_overflowKeys.mpr ⟨fault, h fault hfault hreason, hreason, rfl⟩

theorem overflowKeys_fault (background : ClaudeBackgroundState) (reason key : String) :
    background.overflowKeys ⊆ (background.fault reason key).overflowKeys := by
  refine overflowKeys_subset fun fault hfault hreason => ?_
  unfold ClaudeBackgroundState.fault
  split_ifs with hseen hfull hsticky
  · exact hfault
  · exact hfault
  · exact absurd (List.any_eq_true.mpr ⟨fault, hfault, by simpa using hreason⟩) hsticky
  · exact List.mem_append_left _ hfault

theorem overflowKeys_clearTaskFaults (background : ClaudeBackgroundState) (key : String) :
    background.overflowKeys ⊆ (background.clearTaskFaults key).overflowKeys := by
  refine overflowKeys_subset fun fault hfault hreason => ?_
  exact List.mem_filter.mpr ⟨hfault, by simp [hreason]⟩

theorem overflowKeys_confirmLaunch (background : ClaudeBackgroundState) (toolUseId : String) :
    background.overflowKeys ⊆ (background.confirmLaunch toolUseId).overflowKeys := by
  refine overflowKeys_subset fun fault hfault hreason => ?_
  have hne : overflowReason ≠ "await_launch_unconfirmed" := by decide
  exact List.mem_filter.mpr ⟨hfault, by simp [hreason, hne]⟩

theorem overflowKeys_cancel (background : ClaudeBackgroundState) (taskId command : String) :
    background.overflowKeys ⊆ (background.cancel taskId command).overflowKeys := by
  unfold cancel
  split_ifs
  · exact overflowKeys_clearTaskFaults _ _
  · exact List.Subset.refl _

theorem overflowKeys_observeNotification (background : ClaudeBackgroundState)
    (notification : ClaudeTaskNotification) :
    background.overflowKeys ⊆ (background.observeNotification notification).overflowKeys := by
  unfold observeNotification
  dsimp only
  split
  · exact List.Subset.refl _
  · split_ifs
    · exact overflowKeys_clearTaskFaults _ _
    · exact overflowKeys_fault _ _ _
    · exact List.Subset.refl _

theorem foldl_observeNotification {motive : ClaudeBackgroundState → Prop}
    (hstep : ∀ b notification, motive b → motive (b.observeNotification notification))
    (notifications : List ClaudeTaskNotification) {background : ClaudeBackgroundState}
    (h : motive background) : motive (notifications.foldl observeNotification background) := by
  induction notifications generalizing background with
  | nil => exact h
  | cons notification rest ih => exact ih (hstep background notification h)

end ClaudeBackgroundState
end VdeTmux.Pane
