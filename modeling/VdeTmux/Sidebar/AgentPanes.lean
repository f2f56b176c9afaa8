import VdeTmux.Category.Model
import VdeTmux.Daemon.Topology
import VdeTmux.Pane.Runtime
import VdeTmux.QuestionNotice.Sidecar
import VdeTmux.Sidebar.Preferences

/-!
# The panes of the sidebar

What the sidebar shows of a pane: the agent pane that a presentation gives, its badge, filter and
order, and its chat row with the detail rows under it.
-/

open Foundation Foundation.Text VdeTmux.Pane VdeTmux.Category VdeTmux.Daemon VdeTmux.QuestionNotice
namespace VdeTmux.Sidebar

inductive RollupLevel
  | error
  | permission
  | waiting
  | limited
  | running
  | background
  | unknown
  | idle
deriving DecidableEq

def RollupLevel.order : List RollupLevel :=
  [.error, .permission, .waiting, .limited, .running, .background, .unknown, .idle]

def badgeOrder : List BadgeState := [.blocked, .limited, .working, .done, .unknown, .idle]

inductive TrackingHealth
  | healthy
  | degraded
deriving DecidableEq

structure QuestionNoticeSummary where
  unacknowledged : Bool
  ownerRef : Option String
  latestOrder : ℕ
  acknowledgedOrder : ℕ
  lastIssuedAt : Option ℤ
  trackingHealth : TrackingHealth
  reason : Option NoticeReason
deriving DecidableEq

def QuestionNoticeSummary.degraded (notice : QuestionNoticeSummary) : Bool :=
  notice.trackingHealth = .degraded

def debugNoticeReason : NoticeReason → String
  | .invalidPayload => "InvalidPayload"
  | .originUnverified => "OriginUnverified"
  | .ancestorNotInPane => "AncestorNotInPane"
  | .ownerUnverified => "OwnerUnverified"
  | .capacityExceeded => "CapacityExceeded"
  | .persistencePending => "PersistencePending"
  | .invalidSidecar => "InvalidSidecar"
  | .questionAckDirectoryFsyncFailed => "QuestionAckDirectoryFsyncFailed"

structure GitBadge where
  branch : String
  ahead : ℕ
  behind : ℕ
  insertions : ℕ
  deletions : ℕ
deriving DecidableEq

structure WorktreeInfo where
  name : String
  path : String
  branch : Option String
deriving DecidableEq

inductive SidebarRowKind
  | zone
  | category
  | repo
  | chat
  | detail
deriving DecidableEq

structure RowMeta where
  awaitingResult : Bool := false
  snapshotAt : Option ℤ := none
  questionNotice : Option QuestionNoticeSummary := none
  questionCount : ℕ := 0
  questionDegradedCount : ℕ := 0
  agent : Option String := none
  prompt : Option String := none
  taskSummary : Option String := none
  taskSummaryLoading : Bool := false
  responsePreview : Option String := none
  waitReason : Option String := none
  elapsedSecs : Option ℤ := none
  completedAgeSecs : Option ℤ := none
  tasksDone : Option ℕ := none
  tasksTotal : Option ℕ := none
  subagentCount : Option ℕ := none
  attentionCount : Option ℕ := none
  origin : Option String := none
  flash : Option Bool := none
  isUnread : Bool := false
  pinned : Bool := false
  latestUnreadOrder : Option ℕ := none
  latestUnreadReason : Option UnreadReason := none
deriving DecidableEq

structure SidebarRow where
  id : String
  kind : SidebarRowKind
  depth : ℕ
  label : String
  chatCount : ℕ
  rollup : RollupLevel
  badgeState : Option BadgeState
  expanded : Bool
  paneId : Option String
  git : Option GitBadge
  active : Bool
  rowMeta : Option RowMeta
deriving DecidableEq

structure ResolvedPane where
  canonical : PaneState
  badge : BadgeState

structure PanePresentation where
  paneInstance : PaneInstance
  sessionLinks : List SessionLinkPresentation
  currentPath : String
  questionNotice : Option QuestionNoticeSummary
  resolved : Option ResolvedPane

structure RowBuildContext where
  git : Std.ExtTreeMap String GitBadge := ∅
  worktrees : Std.ExtTreeMap String WorktreeInfo := ∅
  triage : Std.ExtTreeSet PaneInstance := ∅
  flash : Std.ExtTreeSet PaneInstance := ∅
  taskSummaryLoading : Std.ExtTreeSet PaneInstance := ∅
  activeSessions : Std.ExtTreeSet String := ∅
  activeCategories : Std.ExtTreeSet String := ∅
  categoryState : CategoryState := {}
  categories : EffectiveCategoryModel := {}
  repoIdentities : Std.ExtTreeMap String RepoIdentity := ∅
  recentActivity : PaneMap ℤ := ∅
  now : ℤ := 0

structure SidebarState where
  categoryScope : CategoryScope := .current
  presentationMode : PresentationMode := .tree
  filter : StatusFilter := .all
  collapsed : Std.ExtTreeSet String := ∅
  currentCategory : Option String := none

def SidebarState.isExpandedWithDefault (state : SidebarState) (id : String) (defaultOpen : Bool) :
    Bool :=
  xor defaultOpen (state.collapsed.contains id)

def SidebarState.isExpanded (state : SidebarState) (id : String) : Bool :=
  state.isExpandedWithDefault id true

/-- The times of a run and its counts are kept as numbers, where the code prints and parses them. -/
structure AgentPane where
  questionNotice : Option QuestionNoticeSummary
  paneInstance : PaneInstance
  repo : String
  repoKey : RepoKey
  category : String
  agent : String
  prompt : String
  latestResponse : String
  taskSummary : String
  taskSummaryLoading : Bool
  waitReason : String
  startedAt : Option ℤ
  completedAt : Option ℤ
  lastActivityAt : Option ℤ
  tasks : TaskProgress
  taskItems : List TaskItemState
  subagents : List SubagentState
  worktreeActivity : Option WorktreeActivity
  backgroundProcess : Option BackgroundProcessState
  claudeBackground : ClaudeBackgroundState
  claudeCrons : ClaudeCronSnapshot
  listeningPorts : List ℕ
  worktree : Option WorktreeInfo
  git : Option GitBadge
  rollup : RollupLevel
  badgeState : BadgeState
  repoPath : String
  flash : Bool
  active : Bool
  isUnread : Bool
  pinned : Bool
  latestUnreadOrder : Option ℕ
  latestUnreadReason : Option UnreadReason
deriving DecidableEq

def sanitizeDetailLabel (raw : String) : String :=
  let spaced := raw.toList.map fun c => if isControl c then ' ' else c
  String.intercalate " " (((spaced.splitOnP isWhitespace).filter (· ≠ [])).map String.ofList)

def nonEmpty (raw : String) : Option String := if isBlank raw then none else some (trim raw)

def displayAgentName (agent : String) : String :=
  match trim agent with
  | "codex" | "Codex" => "Codex"
  | "claude" | "Claude" => "Claude"
  | other => other

def repoLabelFromValues (path sessionName : String) : String :=
  let segments := (path.toList.splitOnP (· = '/')).filter (· ≠ [])
  let repo := sanitizeDetailLabel ((segments.getLast?.map String.ofList).getD sessionName)
  if repo.isEmpty then "repo" else repo

def rollupAndReason (resolved : ResolvedPane) : RollupLevel × String :=
  match resolved.badge with
  | .working => (.running, "")
  | .limited => (.limited, usageLimitWaitReason)
  | .unknown => (.unknown, "")
  | .idle | .done => (.idle, "")
  | .blocked =>
    match resolved.canonical.lifecycle with
    | .waiting .permissionPrompt => (.permission, "permission_prompt")
    | .waiting (.other reason) => (.waiting, reason)
    | .error reason => (.error, reason.getD "")
    | _ => (.waiting, "screen_modal")

def canonicalLastActivityAt (canonical : PaneState) : Option ℤ :=
  [canonical.startedAt, canonical.completedAt, canonical.unread.latest.map (·.occurredAt),
    canonical.latestResponse.map (·.observedAt),
    canonical.taskContext.summary.map (·.generatedAt),
    canonical.worktreeActivity.map (·.observedAt),
    canonical.backgroundProcess.map (·.observedAt)].reduceOption.max?

def currentSummary [Sha256] (context : TaskContextState) : Option TaskSummaryState :=
  context.contextFingerprint.bind fun fingerprint =>
    context.summary.filter fun summary => summary.contextFingerprint = fingerprint

namespace RowBuildContext
variable (ctx : RowBuildContext)

def repoKey (path : String) : RepoKey :=
  (ctx.repoIdentities[path]?.map (·.key)).getD s!"path:{path}"

def category (key : RepoKey) : String :=
  (ctx.categories.placements[key]?.map (·.category)).getD uncategorized

end RowBuildContext

def AgentPane.of [Sha256] (order : SidebarPreferences) (ctx : RowBuildContext)
    (pane : PanePresentation) (resolved : ResolvedPane) : AgentPane :=
  let canonical := resolved.canonical
  let sessionName := (pane.sessionLinks.head?.map (·.sessionName)).getD "repo"
  let repoKey := ctx.repoKey pane.currentPath
  { questionNotice := pane.questionNotice
    paneInstance := pane.paneInstance
    repo := (ctx.repoIdentities[pane.currentPath]?.map (·.displayName)).getD
      (repoLabelFromValues pane.currentPath sessionName)
    repoKey := repoKey
    category := ctx.category repoKey
    agent := canonical.agent.value
    prompt := (canonical.prompt.map (·.text)).getD ""
    latestResponse := (canonical.latestResponse.map (·.text)).getD ""
    taskSummary := (((currentSummary canonical.taskContext).filter fun summary =>
      summary.outcome = .generated).bind (·.text)).getD ""
    taskSummaryLoading := ctx.taskSummaryLoading.contains pane.paneInstance
    waitReason := (rollupAndReason resolved).2
    startedAt := canonical.startedAt
    completedAt := canonical.completedAt
    lastActivityAt := [canonicalLastActivityAt canonical,
      ctx.recentActivity[pane.paneInstance]?].reduceOption.max?
    tasks := canonical.tasks.progress
    taskItems := canonical.tasks.items
    subagents := canonical.subagents
    worktreeActivity := canonical.worktreeActivity
    backgroundProcess := canonical.backgroundProcess
    claudeBackground := canonical.claudeBackground
    claudeCrons := canonical.claudeCrons
    listeningPorts := canonical.listeningPorts
    worktree := ctx.worktrees[pane.currentPath]?
    git := ctx.git[pane.currentPath]?
    rollup := (rollupAndReason resolved).1
    badgeState := resolved.badge
    repoPath := pane.currentPath
    flash := ctx.flash.contains pane.paneInstance
    active := pane.sessionLinks.any fun link => ctx.activeSessions.contains link.sessionId
    isUnread := canonical.unread.isUnread
    pinned := order.pinnedPanes.contains pane.paneInstance
    latestUnreadOrder := canonical.unread.latestUnread.map (·.order)
    latestUnreadReason := canonical.unread.latestUnread.map (·.reason) }

def badgeNeedsUserInput (badge : BadgeState) : Bool := badge = .blocked

namespace AgentPane
variable (pane : AgentPane)

def question : Bool := pane.questionNotice.any (·.unacknowledged)

def matchesAttentionFilter : Bool := badgeNeedsUserInput pane.badgeState || pane.question

def matchesFilter : StatusFilter → Bool
  | .all => true
  | .attentionOnly => pane.matchesAttentionFilter
  | .limitedOnly => pane.badgeState = .limited
  | .workingOnly => pane.badgeState = .working
  | .doneOnly => pane.badgeState = .done
  | .idleOnly => pane.badgeState = .idle

def chatSortBucket : ℕ := badgeOrder.idxOf pane.badgeState

def manualPosition (order : SidebarPreferences) : ℕ :=
  order.manualChatOrder.idxOf pane.paneInstance.paneId

end AgentPane

structure BadgeCounts where
  needsAction : ℕ := 0
  total : ℕ := 0
  blocked : ℕ := 0
  limited : ℕ := 0
  working : ℕ := 0
  done : ℕ := 0
  unknown : ℕ := 0
  idle : ℕ := 0
deriving DecidableEq

def BadgeCounts.push (counts : BadgeCounts) (pane : AgentPane) : BadgeCounts :=
  let counts := { counts with
    total := counts.total + 1
    needsAction := counts.needsAction + pane.matchesAttentionFilter.toNat }
  match pane.badgeState with
  | .blocked => { counts with blocked := counts.blocked + 1 }
  | .limited => { counts with limited := counts.limited + 1 }
  | .working => { counts with working := counts.working + 1 }
  | .done => { counts with done := counts.done + 1 }
  | .unknown => { counts with unknown := counts.unknown + 1 }
  | .idle => { counts with idle := counts.idle + 1 }

def badgeCountsFromAgentPanes (panes : List AgentPane) : BadgeCounts :=
  panes.foldl BadgeCounts.push {}

def rollup (panes : List AgentPane) : RollupLevel :=
  (RollupLevel.order.find? fun level => panes.any fun pane => pane.rollup = level).getD .idle

def badgeRollup (panes : List AgentPane) : Option BadgeState :=
  badgeOrder.find? fun badge => panes.any fun pane => pane.badgeState = badge

def compareTimes (left right : Option ℤ) : Ordering := compare right left

def compareAgentPanes (order : SidebarPreferences) (left right : AgentPane) : Ordering :=
  (compare right.pinned left.pinned).then <|
    (if left.pinned && right.pinned then
      compare (left.manualPosition order) (right.manualPosition order)
    else .eq).then <|
    (compare left.chatSortBucket right.chatSortBucket).then <|
    (compareTimes left.lastActivityAt right.lastActivityAt).then <|
    (compare (left.manualPosition order) (right.manualPosition order)).then <|
    compare left.paneInstance.paneId right.paneInstance.paneId

def orderAgentPanes (panes : List AgentPane) (order : SidebarPreferences) : List AgentPane :=
  sortBy (compareAgentPanes order) panes

def taskStatusKey : TaskItemStatus → String
  | .completed => "completed"
  | .inProgress => "in_progress"
  | .pending => "pending"

def taskStatusIcon : TaskItemStatus → String
  | .completed => "✓"
  | .inProgress => "●"
  | .pending => "○"

inductive Detail
  | questionNotice
  | questionHealth
  | summaryLoading
  | summary
  | signal
  | awaitingResult
  | awaitingRegistry
  | cron
  | background
  | response
  | worktreeActivity
  | origin
  | task (index : ℕ) (status : TaskItemStatus)
  | subagent (index : ℕ)
deriving DecidableEq

def Detail.suffix : Detail → String
  | questionNotice => "question-notice"
  | questionHealth => "question-health"
  | summaryLoading => "summary-loading"
  | summary => "summary"
  | signal => "signal"
  | awaitingResult => "awaiting-result"
  | awaitingRegistry => "awaiting-registry"
  | cron => "cron"
  | background => "background"
  | response => "response"
  | worktreeActivity => "worktree-activity"
  | origin => "origin"
  | task index status => s!"task::{index}::{taskStatusKey status}"
  | subagent index => s!"subagent::{index}"

def detailRowId (pane : PaneInstance) (detail : Detail) : String :=
  s!"detail::{pane.paneId}::{pane.panePid}::{detail.suffix}"

def i64Max : ℕ := 2 ^ 63 - 1

def parseTasks (tasks : TaskProgress) : Option (ℕ × ℕ) :=
  if tasks.done ≤ i64Max ∧ tasks.total ≤ i64Max then some (tasks.done, tasks.total) else none

def taskProgressLabel (done total : ℕ) : Option String :=
  if 0 < total then some s!"☑ {done}/{total}" else none

def treeConnector (index lastIndex : ℕ) : String := if index = lastIndex then "└" else "├"

def subagentIdSuffix (agentId : String) : String :=
  let head := String.ofList (agentId.toList.take 4)
  if head.isEmpty then "" else s!" #{head}"

def taskDetailLabel (index lastIndex : ℕ) (item : TaskItemState) : String :=
  s!"{treeConnector index lastIndex} {taskStatusIcon item.status} {sanitizeDetailLabel item.step}"

def subagentDetailLabel (index lastIndex : ℕ) (subagent : SubagentState) : String :=
  let label := sanitizeDetailLabel (subagent.displayName.getD subagent.agentType)
  s!"{treeConnector index lastIndex} Agent - {label}{subagentIdSuffix subagent.agentId}"

def isAwaitingResult (background : ClaudeBackgroundState) : Bool :=
  background.paused && 0 < background.pendingCount

def maxSignalPorts : ℕ := 3

def signalPorts (ports : List ℕ) : String :=
  let shown := (ports.take maxSignalPorts).map fun port => s!":{port}"
  String.intercalate " " (if maxSignalPorts < ports.length then
    shown ++ [s!"+{ports.length - maxSignalPorts}"] else shown)

def counted (sign : String) (n : ℕ) : List String := if 0 < n then [s!"{sign}{n}"] else []

namespace AgentPane
variable (pane : AgentPane)

def shownGit (includeRepoGit : Bool) : Option GitBadge :=
  pane.git.filter fun _ => includeRepoGit || pane.worktree.isSome

def shownBranch (includeRepoGit : Bool) : Option String :=
  ((pane.worktree.bind (·.branch)).or
    ((if includeRepoGit then pane.git.map (·.branch) else none).or
      (pane.worktree.map (·.name)))).filter fun branch => !isBlank branch

def agentSignalLabel (includeRepoGit : Bool) : Option String :=
  let marker := if pane.worktree.isSome then "+ " else ""
  let branch := (pane.shownBranch includeRepoGit).toList.map fun branch =>
    s!"{marker}{sanitizeDetailLabel branch}"
  let git := (pane.shownGit includeRepoGit).elim [] fun git =>
    counted "↑ " git.ahead ++ counted "↓ " git.behind ++ counted "+" git.insertions ++
      counted "-" git.deletions
  let progress := (parseTasks pane.tasks).getD (0, 0)
  let parts := branch ++ git ++ (taskProgressLabel progress.1 progress.2).toList ++
    if pane.listeningPorts = [] then [] else [signalPorts pane.listeningPorts]
  if parts = [] then none else some (String.intercalate "  " parts)

def detailRow (depth : ℕ) (detail : Detail) (label : String) : SidebarRow where
  id := detailRowId pane.paneInstance detail
  kind := .detail
  depth := depth
  label := label
  chatCount := 0
  rollup := pane.rollup
  badgeState := some pane.badgeState
  expanded := true
  paneId := some pane.paneInstance.paneId
  git := none
  active := pane.active
  rowMeta := none

def noticeRows (depth : ℕ) : List SidebarRow :=
  pane.questionNotice.elim [] fun notice =>
    (if notice.unacknowledged then
      [pane.detailRow depth .questionNotice
        "? Codexからの質問通知があります。確認できた回答は自動反映されます。Qで通知を確認済みにできます。"]
    else []) ++
    notice.reason.toList.map fun reason =>
      pane.detailRow depth .questionHealth
        s!"! question notice tracking: {debugNoticeReason reason}"

def summaryRows (depth : ℕ) : List SidebarRow :=
  if pane.taskSummaryLoading then [pane.detailRow depth .summaryLoading ""]
  else (nonEmpty pane.taskSummary).toList.map fun summary => pane.detailRow depth .summary summary

def signalRows (depth : ℕ) (includeRepoGit : Bool) : List SidebarRow :=
  (pane.agentSignalLabel includeRepoGit).toList.map fun signal =>
    { pane.detailRow depth .signal signal with
      git := pane.shownGit includeRepoGit
      rowMeta := (parseTasks pane.tasks).map fun tasks =>
        { tasksDone := some tasks.1, tasksTotal := some tasks.2 } }

def pendingTasks : List BackgroundWaitTask :=
  pane.claudeBackground.tasks.filter fun task => task.receipt = .pending

def pendingWith (presence : RegistryPresence) : ℕ :=
  pane.pendingTasks.countP fun task => task.lastRegistryPresence = presence

def registryLabel : String :=
  let absent := pane.pendingWith .absent
  let present := pane.pendingWith .present
  let unknown := pane.pendingWith .unknown
  s!"なし{absent} あり{present} 不明{unknown}"

def awaitingRows (depth : ℕ) : List SidebarRow :=
  if isAwaitingResult pane.claudeBackground && pane.badgeState = .working then
    [pane.detailRow depth .awaitingResult s!"結果待ち {pane.claudeBackground.pendingCount}",
      { pane.detailRow depth .awaitingRegistry pane.registryLabel with
        rowMeta := some
          { snapshotAt := (pane.pendingTasks.filterMap (·.lastCheckedAt)).max? } }]
  else []

def cronRows (depth : ℕ) : List SidebarRow :=
  if pane.claudeCrons.entries ≠ [] ∧
      ¬(pane.badgeState = .working ∧ pane.claudeBackground.paused = false) then
    [{ pane.detailRow depth .cron s!"◷ {pane.claudeCrons.entries.length} 予約確認" with
      rowMeta := some { snapshotAt := pane.claudeCrons.observedAt } }]
  else []

def backgroundRows (depth : ℕ) : List SidebarRow :=
  (pane.backgroundProcess.filter fun process =>
    !pane.claudeBackground.tasks.any fun task => task.command = process.command).toList.map
    fun process =>
      pane.detailRow depth .background s!"◎ $ {sanitizeDetailLabel process.command}"

def responseRows (depth : ℕ) : List SidebarRow :=
  (nonEmpty pane.latestResponse).toList.map fun response =>
    pane.detailRow depth .response s!"▷ {sanitizeDetailLabel response}"

def worktreeRows (depth : ℕ) : List SidebarRow :=
  (pane.worktreeActivity.filter fun activity =>
    !pane.worktree.any fun worktree => worktree.path = activity.path).toList.map fun activity =>
      pane.detailRow depth .worktreeActivity s!"vw exec {sanitizeDetailLabel activity.name}"

def taskRows (depth : ℕ) : List SidebarRow :=
  pane.taskItems.mapIdx fun index item =>
    pane.detailRow depth (.task index item.status)
      (taskDetailLabel index (pane.taskItems.length - 1) item)

def subagentRows (depth : ℕ) : List SidebarRow :=
  pane.subagents.mapIdx fun index subagent =>
    pane.detailRow depth (.subagent index)
      (subagentDetailLabel index (pane.subagents.length - 1) subagent)

def chatDetailRows (depth : ℕ) (includeRepoGit : Bool) : List SidebarRow :=
  pane.noticeRows depth ++ pane.summaryRows depth ++ pane.signalRows depth includeRepoGit ++
    pane.awaitingRows depth ++ pane.cronRows depth ++ pane.backgroundRows depth ++
    pane.responseRows depth ++ pane.worktreeRows depth ++ pane.taskRows depth ++
    pane.subagentRows depth

def expandedChatLabel : String := displayAgentName pane.agent

def chatLabel : String :=
  let base := s!"{displayAgentName pane.agent} ({pane.paneInstance.paneId})"
  match (parseTasks pane.tasks).filter fun tasks => 0 < tasks.2 with
  | some (done, total) => s!"{base} {done}/{total}"
  | none => base

def origin : String := s!"{pane.category}/{pane.repo}"

def chatMeta (now : ℤ) : RowMeta where
  awaitingResult := pane.badgeState = .working && isAwaitingResult pane.claudeBackground
  questionNotice := pane.questionNotice
  questionCount := pane.question.toNat
  questionDegradedCount := (pane.questionNotice.any (·.degraded)).toNat
  agent := some (displayAgentName pane.agent)
  prompt := nonEmpty pane.prompt
  taskSummary := nonEmpty pane.taskSummary
  taskSummaryLoading := pane.taskSummaryLoading
  responsePreview := (nonEmpty pane.latestResponse).map sanitizeDetailLabel
  waitReason := nonEmpty pane.waitReason
  elapsedSecs := pane.startedAt.map fun startedAt => max (now - startedAt) 0
  completedAgeSecs := pane.completedAt.map fun completedAt => max (now - completedAt) 0
  tasksDone := (parseTasks pane.tasks).map Prod.fst
  tasksTotal := (parseTasks pane.tasks).map Prod.snd
  subagentCount := some pane.subagents.length
  flash := if pane.flash then some true else none
  isUnread := pane.isUnread
  pinned := pane.pinned
  latestUnreadOrder := pane.latestUnreadOrder
  latestUnreadReason := pane.latestUnreadReason

def chatExpanded (state : SidebarState) : Bool :=
  state.isExpandedWithDefault (chatRowId pane.paneInstance) false

def chatRow (state : SidebarState) (depth : ℕ) (label : String) (now : ℤ)
    (origin : Option String) : SidebarRow where
  id := chatRowId pane.paneInstance
  kind := .chat
  depth := depth
  label := label
  chatCount := 1
  rollup := pane.rollup
  badgeState := some pane.badgeState
  expanded := pane.chatExpanded state
  paneId := some pane.paneInstance.paneId
  git := none
  active := pane.active
  rowMeta := some { pane.chatMeta now with origin := origin }

def chatRows (state : SidebarState) (depth : ℕ) (now : ℤ) (showOrigin includeRepoGit : Bool) :
    List SidebarRow :=
  let label := if pane.chatExpanded state then pane.expandedChatLabel else pane.chatLabel
  pane.chatRow state depth (if showOrigin then s!"{label} · {pane.origin}" else label) now
      (if showOrigin then some pane.origin else none) ::
    if pane.chatExpanded state then pane.chatDetailRows (depth + 1) includeRepoGit else []

def triageChatRows (state : SidebarState) (now : ℤ) : List SidebarRow :=
  pane.chatRow state 1
      (if pane.chatExpanded state then pane.expandedChatLabel
        else s!"{displayAgentName pane.agent} · {pane.repo}") now (some pane.origin) ::
    if pane.chatExpanded state then
      pane.detailRow 2 .origin s!"origin: {pane.origin}" :: pane.chatDetailRows 2 true
    else []

def priorityChatRows (state : SidebarState) (now : ℤ) : List SidebarRow :=
  pane.chatRow state 1 s!"{pane.expandedChatLabel} · {pane.origin}" now (some pane.origin) ::
    if pane.chatExpanded state then pane.chatDetailRows 2 true else []

end AgentPane

end VdeTmux.Sidebar
