import VdeTmux.Foundation.Outcome
import VdeTmux.Foundation.Text
import VdeTmux.AgentState.Retention
import VdeTmux.AgentState.RunCollection
import VdeTmux.AgentState.RunEviction
import VdeTmux.AgentState.RunRetention
import VdeTmux.AgentState.RunStore
import VdeTmux.Session.Returning
import VdeTmux.Session.Memory
import VdeTmux.Session.Navigation
import VdeTmux.Foundation.Strides
import VdeTmux.Foundation.Tickets
import VdeTmux.Foundation.Traversal
import VdeTmux.Foundation.Matching
import VdeTmux.Daemon.GuardedCommands
import VdeTmux.Daemon.ProcessTable
import VdeTmux.Daemon.ProcessReach
import VdeTmux.Daemon.ProcessPorts
import VdeTmux.Daemon.ProcessDetected
import VdeTmux.Daemon.ProcessObserved
import VdeTmux.Foundation.CommandLine
import VdeTmux.Foundation.Choosing
import VdeTmux.Foundation.Tiling
import VdeTmux.Foundation.Crossing
import VdeTmux.PaneSwitch.Target
import VdeTmux.PaneSwitch.Screen
import VdeTmux.PaneSwitch.Choice
import VdeTmux.PaneSwitch.Switching
import VdeTmux.Foundation.Digest
import VdeTmux.Pane.Model
import VdeTmux.Pane.TaskContext
import VdeTmux.Pane.TaskContextRuns
import VdeTmux.Foundation.Lists
import VdeTmux.Pane.ClaudeBackground
import VdeTmux.Pane.Record
import VdeTmux.Pane.Event
import VdeTmux.Pane.Reducer
import VdeTmux.Pane.Steps
import VdeTmux.Pane.EventSteps
import VdeTmux.Pane.ObservationSteps
import VdeTmux.Pane.Reduction
import VdeTmux.Pane.Reconcile
import VdeTmux.Pane.Monotone
import VdeTmux.Pane.CommandString
import VdeTmux.Foundation.Trace
import VdeTmux.Pane.Run
import VdeTmux.Pane.ReceiptGate
import VdeTmux.Pane.Handover
import VdeTmux.Pane.Refusals
import VdeTmux.Pane.Validity
import VdeTmux.Pane.Minting
import VdeTmux.Daemon.UnreadVisibility
import VdeTmux.Pane.Integrity
import VdeTmux.Pane.Absence
import VdeTmux.Pane.Runtime
import VdeTmux.Pane.Operations
import VdeTmux.Pane.Ledger
import VdeTmux.Pane.OrderChecks
import VdeTmux.Pane.UnreadErrors
import VdeTmux.Pane.UnreadOrder
import VdeTmux.Pane.UnreadRuns
import VdeTmux.Foundation.Maps
import VdeTmux.Foundation.Writer
import VdeTmux.Foundation.Json
import VdeTmux.QuestionNotice.Journal
import VdeTmux.QuestionNotice.LossEvidence
import VdeTmux.QuestionNotice.Resolver
import VdeTmux.QuestionNotice.Candidates
import VdeTmux.QuestionNotice.Resolution
import VdeTmux.QuestionNotice.Sidecar
import VdeTmux.QuestionNotice.Notices
import VdeTmux.QuestionNotice.Reload
import VdeTmux.QuestionNotice.Validity
import VdeTmux.QuestionNotice.Steps
import VdeTmux.QuestionNotice.SidecarText
import VdeTmux.QuestionNotice.Durability
import VdeTmux.QuestionNotice.ReplyBinding
import VdeTmux.QuestionNotice.Replies
import VdeTmux.Foundation.Sorting
import VdeTmux.Category.Model
import VdeTmux.Category.Effective
import VdeTmux.Category.Edits
import VdeTmux.Category.Moves
import VdeTmux.Foundation.Interaction
import VdeTmux.Foundation.Lines
import VdeTmux.Foundation.Buffered
import VdeTmux.Daemon.Framing
import VdeTmux.Daemon.FrameExchange
import VdeTmux.SessionManager.KillServer
import VdeTmux.SessionManager.CleanKill
import VdeTmux.Sidebar.Intents
import VdeTmux.Daemon.Leases
import VdeTmux.Daemon.Consistency
import VdeTmux.Daemon.StatusPush
import VdeTmux.Daemon.PushRuns
import VdeTmux.Sidebar.Tiling
import VdeTmux.Daemon.Router
import VdeTmux.Daemon.Sequencer
import VdeTmux.Daemon.SequencerSteps
import VdeTmux.Daemon.MutationOrder
import VdeTmux.Daemon.DeferredResponses
import VdeTmux.Daemon.Waiters
import VdeTmux.Daemon.AcceptedOnce
import VdeTmux.Conversation.Codex
import VdeTmux.Conversation.CodexSteps
import VdeTmux.Foundation.Occurrences
import VdeTmux.Conversation.CodexFinish
import VdeTmux.Conversation.CodexHistory
import VdeTmux.Conversation.CodexCompaction
import VdeTmux.Conversation.CodexEntries
import VdeTmux.Conversation.CodexResult
import VdeTmux.Foundation.Glob
import VdeTmux.Category.PathRules
import VdeTmux.QuestionNotice.Wakeups
import VdeTmux.Sidebar.LayoutCodec
import VdeTmux.Foundation.Records
import VdeTmux.Capacity.Terminal
import VdeTmux.Capacity.Tail
import VdeTmux.Daemon.SessionBadge
import VdeTmux.Daemon.StatusSnapshot
import VdeTmux.Daemon.StatusCounts
import VdeTmux.Foundation.Outline
import VdeTmux.Sidebar.AgentPanes
import VdeTmux.Sidebar.Tree
import VdeTmux.Sidebar.RowIds
import VdeTmux.Sidebar.TreeRows
import VdeTmux.Sidebar.TreeOutline
import VdeTmux.Sidebar.TreeRepositories
import VdeTmux.Sidebar.TreeCategories
import VdeTmux.Sidebar.TreePanes
import VdeTmux.Sidebar.EveryPane
import VdeTmux.Sidebar.RepositoryRows
import VdeTmux.Sidebar.RepositorySections
import VdeTmux.Sidebar.RepositoryCounts
import VdeTmux.Sidebar.RepositoryOrder
import VdeTmux.Sidebar.RepositoryAgreement
import VdeTmux.Pane.ReadBatch
import VdeTmux.Pane.ReadRefinement
import VdeTmux.Foundation.Cutting
import VdeTmux.Capture.Combined
import VdeTmux.Foundation.Growing
import VdeTmux.Statusline.WindowMapBlock
import VdeTmux.Pane.FrozenDispatch
import VdeTmux.Pane.Bookkeeping
import VdeTmux.Pane.Acceptance
import VdeTmux.Pane.BlockedNotices
import VdeTmux.Pane.NoticeRuns
import VdeTmux.Capacity.ChainOrigins
