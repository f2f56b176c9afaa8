import VdeTmux.Sidebar.AgentPanes

/-!
# The rows of the sidebar

How the agent panes become rows: grouped by category and repository, ordered, split into the triage
zone and the rest, and shown as a tree, as a flat list or by priority.
-/

open Foundation Foundation.Text VdeTmux.Pane VdeTmux.Category
namespace VdeTmux.Sidebar

abbrev Groups := Std.ExtTreeMap (String × String) (List AgentPane) Maps.lex
abbrev GroupMetas := Std.ExtTreeMap (String × String) RowMeta Maps.lex
abbrev RepoGroups := Std.ExtTreeMap String (List AgentPane)

def groupMeta (panes : List AgentPane) : RowMeta where
  questionCount := panes.countP AgentPane.question
  questionDegradedCount := panes.countP fun pane => pane.questionNotice.any (·.degraded)
  attentionCount := some (panes.countP AgentPane.matchesAttentionFilter)
  pinned := panes.any (·.pinned)

def hasPin (panes : List AgentPane) : Bool := panes.any (·.pinned)

def containerRow (id : String) (kind : SidebarRowKind) (depth : ℕ) (label : String)
    (panes : List AgentPane) : SidebarRow where
  id := id
  kind := kind
  depth := depth
  label := label
  chatCount := panes.length
  rollup := rollup panes
  badgeState := badgeRollup panes
  expanded := true
  paneId := none
  git := none
  active := false
  rowMeta := some (groupMeta panes)

def triageZoneId : String := "zone::triage"

def triageZoneRows (panes : List AgentPane) (state : SidebarState) (now : ℤ) : List SidebarRow :=
  if panes = [] then []
  else
    containerRow triageZoneId .zone 0 "TRIAGE" panes ::
      panes.flatMap fun pane => pane.triageChatRows state now

def groupedPanes (groups : Groups) : List AgentPane := groups.toList.flatMap Prod.snd

def flatRows (groups : Groups) (state : SidebarState) (order : SidebarPreferences) (now : ℤ)
    (showOrigin : Bool) : List SidebarRow :=
  (orderAgentPanes (groupedPanes groups) order).flatMap fun pane =>
    pane.chatRows state 0 now showOrigin true

structure PrioritySection where
  key : String
  label : String
  badge : Option BadgeState
deriving DecidableEq

def prioritySections : List PrioritySection :=
  [⟨"pinned", "PINNED", none⟩, ⟨"needs-input", "NEEDS INPUT", some .blocked⟩,
    ⟨"questions", "QUESTIONS", none⟩, ⟨"limited", "LIMITED", some .limited⟩,
    ⟨"unread-done", "UNREAD DONE", some .done⟩, ⟨"running", "RUNNING", some .working⟩,
    ⟨"unknown", "UNKNOWN", some .unknown⟩, ⟨"idle", "IDLE", some .idle⟩]

def PrioritySection.takes (s : PrioritySection) (pane : AgentPane) : Bool :=
  if s.key = "questions" then pane.question && pane.badgeState ≠ .blocked
  else some pane.badgeState = s.badge && (s.badge = some .blocked || !pane.question)

def PrioritySection.panes (s : PrioritySection) (pinned panes : List AgentPane) :
    List AgentPane :=
  if s.key = "pinned" then pinned else panes.filter s.takes

def PrioritySection.rows (s : PrioritySection) (panes : List AgentPane) (state : SidebarState)
    (now : ℤ) : List SidebarRow :=
  if panes = [] then []
  else
    { containerRow s!"zone::priority::{s.key}" .zone 0 s.label panes with badgeState := s.badge } ::
      panes.flatMap fun pane => pane.priorityChatRows state now

def priorityRows (groups : Groups) (state : SidebarState) (order : SidebarPreferences)
    (now : ℤ) : List SidebarRow :=
  let panes := orderAgentPanes (groupedPanes groups) order
  let pinned := panes.filter (·.pinned)
  let panes := panes.filter (!·.pinned)
  prioritySections.flatMap fun s => s.rows (s.panes pinned panes) state now

def categoryId (category : String) : String := s!"category::{category}"

def repoId (category : String) (repo : RepoKey) : String := s!"repo::{category}::{repo}"

def storedCategory (category : String) : Option CategoryName :=
  if category = uncategorized then some uncategorized
  else (CategoryName.parse category).toOption

def repoPosition (categoryState : CategoryState) (panes : List AgentPane) : Option ℕ :=
  panes.head?.bind fun first =>
    (storedCategory first.category).bind fun category =>
      categoryState.repoOrder[category]?.bind (List.idxOf? first.repoKey)

def compareLast : Option ℕ → Option ℕ → Ordering
  | some left, some right => compare left right
  | some _, none => .lt
  | none, some _ => .gt
  | none, none => .eq

def compareFirst : Option AgentPane → Option AgentPane → Ordering
  | some left, some right =>
    (compare left.category right.category).then (compare left.repo right.repo)
  | some _, none => .gt
  | none, some _ => .lt
  | none, none => .eq

def compareRepoGroups (categoryState : CategoryState) (left right : List AgentPane) : Ordering :=
  (compare (hasPin right) (hasPin left)).then <|
    (compareLast (repoPosition categoryState left) (repoPosition categoryState right)).then <|
    compareFirst left.head? right.head?

def orderRepoGroups (groups : List (List AgentPane)) (categoryState : CategoryState) :
    List (List AgentPane) :=
  sortBy (compareRepoGroups categoryState) groups

section RepoRows
variable (state : SidebarState) (ctx : RowBuildContext) (depth : ℕ) (metas : GroupMetas)

def repoRow (first : AgentPane) (panes : List AgentPane) : SidebarRow :=
  let id := repoId first.category first.repoKey
  { containerRow id .repo depth first.repo panes with
    expanded := state.isExpanded id
    git := ctx.git[first.repoPath]?
    active := panes.any (·.active)
    rowMeta := some
      { metas[(first.category, first.repo)]?.getD (groupMeta panes) with pinned := hasPin panes } }

def repoGroupRows (panes : List AgentPane) : List SidebarRow :=
  match panes.head? with
  | none => []
  | some first =>
    repoRow state ctx depth metas first panes ::
      if state.isExpanded (repoId first.category first.repoKey) then
        panes.flatMap fun pane => pane.chatRows state (depth + 1) ctx.now false false
      else []

def repoRowsFromKeyedMap (repos : Groups) : List SidebarRow :=
  (orderRepoGroups (repos.toList.map Prod.snd) ctx.categoryState).flatMap
    (repoGroupRows state ctx depth metas)

def repoRowsFromMap (repos : RepoGroups) : List SidebarRow :=
  repoRowsFromKeyedMap state ctx depth metas
    (.ofList (repos.toList.map fun entry =>
      (((entry.2.head?.map (·.category)).getD uncategorized, entry.1), entry.2)) Maps.lex)

end RepoRows

abbrev Chunk := String × List SidebarRow

def pushChunk (chunks : List Chunk) (row : SidebarRow) : List Chunk :=
  if row.kind = .repo then chunks ++ [(row.id, [row])]
  else
    match chunks.getLast? with
    | some last => chunks.dropLast ++ [(last.1, last.2 ++ [row])]
    | none => chunks

def chunksOf (rows : List SidebarRow) : List Chunk := rows.foldl pushChunk []

def chunkPinned (chunk : Chunk) : Bool :=
  (chunk.2.head?.bind (·.rowMeta)).any (·.pinned)

section CategoryRows
variable (state : SidebarState) (ctx : RowBuildContext)

def emptyRepoRow (category : String) (repo : RepoKey) (placement : EffectiveRepoPlacement) :
    SidebarRow :=
  let label := sanitizeDetailLabel placement.repo.displayName
  { containerRow (repoId category repo) .repo 1 (if label.isEmpty then "repo" else label) [] with
    expanded := state.isExpanded (repoId category repo)
    rowMeta := some { attentionCount := some 0 } }

/-- The chunks in the stored order of their repositories, one of a single row for each repository
without a chunk, and then the chunks that are left. -/
def mergeChunks (category : String) : List RepoKey → List Chunk → List Chunk
  | [], chunks => chunks
  | repo :: repos, chunks =>
    match chunks.find? fun chunk => chunk.1 = repoId category repo with
    | some chunk =>
      chunk :: mergeChunks category repos
        (chunks.eraseP fun chunk => chunk.1 = repoId category repo)
    | none =>
      ((ctx.categories.placements[repo]?).toList.map fun placement =>
        (repoId category repo, [emptyRepoRow state category repo placement])) ++
        mergeChunks category repos chunks

def mergedChunks (category : String) (name : CategoryName) (rows : List SidebarRow) : List Chunk :=
  let chunks := chunksOf rows
  chunks.filter chunkPinned ++
    mergeChunks state ctx category (ctx.categories.orderedRepos ctx.categoryState name)
      (chunks.filter (!chunkPinned ·))

def mergeCategoryRepositoryRows (category : String) (rows : List SidebarRow) : List SidebarRow :=
  if state.filter ≠ .all then rows
  else
    match ctx.categories.category category with
    | none => rows
    | some found => (mergedChunks state ctx category found.name rows).flatMap Prod.snd

def groupsByCategory (groups : Groups) : Std.ExtTreeMap String RepoGroups :=
  groups.toList.foldl (fun byCategory entry =>
    byCategory.insert entry.1.1 ((byCategory[entry.1.1]?.getD ∅).insert entry.1.2 entry.2)) ∅

def shownCategories (groups : Groups) : Std.ExtTreeMap String RepoGroups :=
  if state.filter = .all then
    ctx.categories.categories.foldl (fun byCategory category =>
      byCategory.insertIfNew category.name ∅) (groupsByCategory groups)
  else groupsByCategory groups

def repoPanes (repos : RepoGroups) : List AgentPane := repos.toList.flatMap Prod.snd

def compareCategories (left right : String × RepoGroups) : Ordering :=
  let position := fun name => (ctx.categories.categories.map (·.name)).idxOf name
  (compare (hasPin (repoPanes right.2)) (hasPin (repoPanes left.2))).then
    (compare (position left.1) (position right.1))

def categoryRow (metas : GroupMetas) (category : String) (repos : RepoGroups) : SidebarRow :=
  let panes := repoPanes repos
  { containerRow (categoryId category) .category 0 category panes with
    expanded := state.isExpanded (categoryId category)
    active := ctx.activeCategories.contains category || panes.any (·.active)
    rowMeta := some
      { attentionCount := some (repos.keys.filterMap fun repo =>
          metas[(category, repo)]?.bind (·.attentionCount)).sum
        pinned := hasPin panes } }

def categoryGroupRows (metas : GroupMetas) (entry : String × RepoGroups) : List SidebarRow :=
  categoryRow state ctx metas entry.1 entry.2 ::
    if state.isExpanded (categoryId entry.1) then
      mergeCategoryRepositoryRows state ctx entry.1 (repoRowsFromMap state ctx 1 metas entry.2)
    else []

def categoryRows (groups : Groups) (metas : GroupMetas) : List SidebarRow :=
  (sortBy (compareCategories ctx) (shownCategories state ctx groups).toList).flatMap
    (categoryGroupRows state ctx metas)

end CategoryRows

def groupPanes (panes : List AgentPane) : Groups :=
  panes.foldl (fun groups pane => groups.insert (pane.category, pane.repoKey)
    (groups[(pane.category, pane.repoKey)]?.getD [] ++ [pane])) ∅

def agentPanes [Sha256] (panes : List PanePresentation) (order : SidebarPreferences)
    (ctx : RowBuildContext) : List AgentPane :=
  panes.filterMap fun pane => pane.resolved.map (AgentPane.of order ctx pane)

def inTriage (ctx : RowBuildContext) (pane : AgentPane) : Bool :=
  ctx.triage.contains pane.paneInstance && !pane.pinned

def keepPanes (p : AgentPane → Bool) (groups : Groups) : Groups :=
  groups.map fun _ panes => panes.filter p

def dropEmpty (groups : Groups) : Groups := groups.filter fun _ panes => panes ≠ []

def scopedGroups (groups : Groups) (state : SidebarState) (order : SidebarPreferences) : Groups :=
  (if state.categoryScope = .current then
    groups.filter fun key _ => state.currentCategory = some key.1
  else groups).map fun _ panes => orderAgentPanes panes order

def fleetRows (groups : Groups) (state : SidebarState) (order : SidebarPreferences)
    (ctx : RowBuildContext) (metas : GroupMetas) : List SidebarRow :=
  match state.presentationMode with
  | .flat => flatRows groups state order ctx.now (state.categoryScope = .all)
  | _ =>
    if state.categoryScope = .current then repoRowsFromKeyedMap state ctx 0 metas groups
    else categoryRows state ctx groups metas

def buildRowsFromGroups (groups : Groups) (state : SidebarState) (order : SidebarPreferences)
    (ctx : RowBuildContext) : List SidebarRow × BadgeCounts :=
  let groups := scopedGroups groups state order
  let counts := badgeCountsFromAgentPanes (groupedPanes groups)
  if state.presentationMode = .priority then
    (priorityRows (dropEmpty (keepPanes (·.matchesFilter state.filter) groups)) state order ctx.now,
      counts)
  else
    let metas := groups.map fun _ panes => groupMeta panes
    let triagePanes := (orderAgentPanes ((groupedPanes groups).filter (inTriage ctx)) order).filter
      (·.matchesFilter state.filter)
    let fleet := dropEmpty (keepPanes (·.matchesFilter state.filter)
      (keepPanes (!inTriage ctx ·) groups))
    (triageZoneRows triagePanes state ctx.now ++ fleetRows fleet state order ctx metas, counts)

def buildRowsFromPresentations [Sha256] (panes : List PanePresentation) (state : SidebarState)
    (order : SidebarPreferences) (ctx : RowBuildContext) : List SidebarRow × BadgeCounts :=
  buildRowsFromGroups (groupPanes (agentPanes panes order ctx)) state order ctx

end VdeTmux.Sidebar
