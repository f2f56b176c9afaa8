import VdeTmux.Category.Model
import VdeTmux.Daemon.PollProjection
import VdeTmux.Daemon.SessionBadge
import VdeTmux.Daemon.Topology

/-!
# The status snapshot

What the status line shows of the panes: counts of badge states over everything, and by session,
window and category.
-/

open Foundation VdeTmux.Pane VdeTmux.Category
namespace VdeTmux.Daemon

/-- What the status line reads of a pane; `resolved` is the badge of its resolved state. -/
structure PanePresentation where
  paneInstance : PaneInstance
  sessionLinks : List SessionLinkPresentation
  windowId : String
  windowName : String
  currentCommand : String
  active : Bool
  resolved : Option BadgeState

structure AttentionEntry where
  paneInstance : PaneInstance
  sessionName : String
  badge : BadgeState
  reason : Option String
  elapsedSeconds : ℤ
deriving DecidableEq

structure ResolvedSnapshot where
  snapshotRevision : ℕ
  panes : List PanePresentation
  repoIdentities : Std.ExtTreeMap String RepoIdentity
  placements : Std.ExtTreeMap RepoKey EffectiveRepoPlacement
  attention : List AttentionEntry

inductive StatusContext
  | global
  | session (sessionId : String)
deriving DecidableEq

structure SessionStatusPresentation where
  sessionId : String
  sessionName : String
  category : Option String
  attached : Option Bool
  createdAt : Option ℤ
  active : Bool
  counts : BadgeStateCounts
deriving DecidableEq

structure WindowStatusPresentation where
  windowId : String
  windowName : String
  paneCount : ℕ
  sessionIds : List String
  windowIndex : Option ℤ
  active : Bool
  last : Bool
  bell : Option Bool
  activity : Option Bool
  silence : Option Bool
  currentCommand : Option String
  counts : BadgeStateCounts
deriving DecidableEq

structure CategoryStatusPresentation where
  category : String
  sessionIds : List String
  active : Bool
  counts : BadgeStateCounts
deriving DecidableEq

structure StatusSnapshot where
  snapshotRevision : ℕ
  context : StatusContext
  summary : BadgeStateCounts
  sessionZoneWidth : Option ℕ
  sessions : List SessionStatusPresentation
  windows : List WindowStatusPresentation
  categories : List CategoryStatusPresentation
  attention : List AttentionEntry

/-- The part of the configuration the snapshot depends on. The width of a list of sessions is that
of its rendering. -/
structure StatusConfig where
  fixedWidth : Bool := false
  sessionsDisplayWidth : List SessionStatusPresentation → ℕ
  order : Std.ExtTreeMap String ℤ := ∅

structure WindowStatusAggregate where
  windowName : String
  links : Std.ExtTreeMap String SessionLinkPresentation
  currentCommand : Option String

structure StatusAggregate where
  paneBadges : PaneMap BadgeState := ∅
  sessionNames : Std.ExtTreeMap String String := ∅
  sessionPanes : Std.ExtTreeMap String (Std.ExtTreeSet PaneInstance) := ∅
  windowPanes : Std.ExtTreeMap String (Std.ExtTreeSet PaneInstance) := ∅
  windows : Std.ExtTreeMap String WindowStatusAggregate := ∅

def addPane (m : Std.ExtTreeMap String (Std.ExtTreeSet PaneInstance)) (key : String)
    (pane : PaneInstance) : Std.ExtTreeMap String (Std.ExtTreeSet PaneInstance) :=
  m.insert key ((m[key]?.getD ∅).insert pane)

def WindowStatusAggregate.command (window : WindowStatusAggregate) (pane : PanePresentation) :
    WindowStatusAggregate :=
  if pane.active = true ∨ window.currentCommand = none then
    { window with currentCommand := some pane.currentCommand }
  else window

def WindowStatusAggregate.link (window : WindowStatusAggregate) (link : SessionLinkPresentation) :
    WindowStatusAggregate :=
  { window with links := window.links.insertIfNew link.sessionId link }

def StatusAggregate.pane (a : StatusAggregate) (pane : PanePresentation) : StatusAggregate where
  paneBadges := pane.resolved.elim a.paneBadges (a.paneBadges.insertIfNew pane.paneInstance)
  sessionNames := pane.sessionLinks.foldl
    (fun names link => names.insertIfNew link.sessionId link.sessionName) a.sessionNames
  sessionPanes := pane.sessionLinks.foldl
    (fun panes link => addPane panes link.sessionId pane.paneInstance) a.sessionPanes
  windowPanes := addPane a.windowPanes pane.windowId pane.paneInstance
  windows := a.windows.insert pane.windowId
    (pane.sessionLinks.foldl WindowStatusAggregate.link
      ((a.windows[pane.windowId]?.getD ⟨pane.windowName, ∅, none⟩).command pane))

/-- Sessions without panes are known from their metadata. -/
def StatusAggregate.session (a : StatusAggregate)
    (session : String × SessionProjectionMetadata) : StatusAggregate :=
  { a with
    sessionNames := a.sessionNames.insertIfNew session.1 session.2.sessionName
    sessionPanes := a.sessionPanes.insertIfNew session.1 ∅ }

def statusAggregate (resolved : ResolvedSnapshot) (metadata : StatusProjectionMetadata) :
    StatusAggregate :=
  metadata.sessions.toList.foldl StatusAggregate.session
    (resolved.panes.foldl StatusAggregate.pane {})

def effectiveCategory (resolved : ResolvedSnapshot) (metadata : StatusProjectionMetadata)
    (sessionId : String) : String :=
  let projectPath := (metadata.sessions[sessionId]?.map (·.projectPath)).getD ""
  let placement := resolved.repoIdentities[projectPath]?.bind fun identity =>
    resolved.placements[identity.key]?
  (placement.map (·.category)).getD uncategorized

def StatusContext.sessionId? : StatusContext → Option String
  | global => none
  | session sessionId => some sessionId

namespace StatusAggregate

def countsFor (a : StatusAggregate) (panes : Option (Std.ExtTreeSet PaneInstance)) :
    BadgeStateCounts :=
  .fromStates ((panes.getD ∅).toList.filterMap fun pane => a.paneBadges[pane]?)

def sessionPresentation (a : StatusAggregate) (metadata : StatusProjectionMetadata)
    (categories : Std.ExtTreeMap String String) (activeSession : Option String)
    (session : String × String) : SessionStatusPresentation where
  sessionId := session.1
  sessionName := session.2
  category := some (categories[session.1]?.getD "")
  attached := metadata.sessions[session.1]?.bind (·.attached)
  createdAt := metadata.sessions[session.1]?.bind (·.createdAt)
  active := activeSession = some session.1
  counts := a.countsFor a.sessionPanes[session.1]?

def compareSessions : SessionStatusPresentation → SessionStatusPresentation → Ordering :=
  compareLex (compareOn (·.sessionName)) (compareOn (·.sessionId))

def selectedLinks (activeSession : Option String) (window : WindowStatusAggregate) :
    List SessionLinkPresentation :=
  match activeSession with
  | some sessionId => window.links[sessionId]?.toList
  | none => Maps.values window.links

def windowPresentation (a : StatusAggregate) (metadata : StatusProjectionMetadata)
    (activeSession : Option String) (entry : String × WindowStatusAggregate) :
    Option WindowStatusPresentation :=
  let links := selectedLinks activeSession entry.2
  if activeSession.isSome = true ∧ links = [] then none
  else
    some
      { windowId := entry.1
        windowName := entry.2.windowName
        paneCount := (a.windowPanes[entry.1]?.map (·.size)).getD 0
        sessionIds := links.map (·.sessionId)
        windowIndex := (links.head?.map (·.windowIndex)).filter fun index =>
          links.all fun link => link.windowIndex = index
        active := links.any (·.windowActive)
        last := links.any (·.windowLast)
        bell := metadata.windows[entry.1]?.bind (·.bell)
        activity := metadata.windows[entry.1]?.bind (·.activity)
        silence := metadata.windows[entry.1]?.bind (·.silence)
        currentCommand := entry.2.currentCommand
        counts := a.countsFor a.windowPanes[entry.1]? }

def i64Max : ℤ := 2 ^ 63 - 1

def compareWindows : WindowStatusPresentation → WindowStatusPresentation → Ordering :=
  compareLex (compareOn fun w => w.windowIndex.getD i64Max) (compareOn (·.windowId))

def categoryPresentation (a : StatusAggregate) (categories : Std.ExtTreeMap String String)
    (activeCategory : Option String) (category : String) : CategoryStatusPresentation :=
  let sessionIds := categories.keys.filter fun sessionId =>
    (categories[sessionId]?.getD "") = category
  { category := category
    sessionIds := sessionIds
    active := activeCategory = some category
    counts := a.countsFor (some (sessionIds.foldl
      (fun panes sessionId => panes ∪ (a.sessionPanes[sessionId]?.getD ∅)) ∅)) }

/-- Categories of no name come last, then the configured position and the name count. -/
def compareCategories (config : StatusConfig) :
    CategoryStatusPresentation → CategoryStatusPresentation → Ordering :=
  compareLex (compareOn fun c => c.category.isEmpty)
    (compareLex (compareOn fun c => config.order[c.category]?.getD i64Max)
      (compareOn (·.category)))

end StatusAggregate

def sessionsByCategory (sessions : List SessionStatusPresentation) :
    Std.ExtTreeMap String (List SessionStatusPresentation) :=
  sessions.foldl (fun groups session =>
    groups.insert (session.category.getD "")
      ((groups[session.category.getD ""]?.getD []) ++ [session])) ∅

def buildStatusSnapshot (resolved : ResolvedSnapshot) (context : StatusContext)
    (metadata : StatusProjectionMetadata) (config : StatusConfig) : StatusSnapshot :=
  let a := statusAggregate resolved metadata
  let categories := a.sessionNames.map fun sessionId _ =>
    effectiveCategory resolved metadata sessionId
  let activeSession := context.sessionId?
  let activeCategory := activeSession.map fun sessionId => categories[sessionId]?.getD ""
  let allSessions := sortBy StatusAggregate.compareSessions
    (a.sessionNames.toList.map (a.sessionPresentation metadata categories activeSession))
  let groups := sessionsByCategory allSessions
  { snapshotRevision := resolved.snapshotRevision
    context := context
    summary := .fromStates (Maps.values a.paneBadges)
    sessionZoneWidth := activeCategory.bind fun _ =>
      if config.fixedWidth = true then
        some (((Maps.values groups).map config.sessionsDisplayWidth).max?.getD 0)
      else none
    sessions := activeCategory.elim allSessions fun category => groups[category]?.getD []
    windows := sortBy StatusAggregate.compareWindows
      (a.windows.toList.filterMap (a.windowPresentation metadata activeSession))
    categories := sortBy (StatusAggregate.compareCategories config)
      ((Std.ExtTreeSet.ofList (Maps.values categories)).toList.map
        (a.categoryPresentation categories activeCategory))
    attention := resolved.attention }

end VdeTmux.Daemon
