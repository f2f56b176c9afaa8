import VdeTmux.Foundation.Trace
import VdeTmux.Daemon.Waiters

/-!
# Accepted once, applied once, answered once

What holds in every state the sequencer reaches.
-/

open Foundation VdeTmux.Pane
namespace VdeTmux.Daemon

namespace ProductionV2Coordinator
variable {s s' : ProductionV2Coordinator}

structure Reached (s : ProductionV2Coordinator) : Prop where
  phases : Phases s
  order : Order s
  room : Room s
  effects : Effects s
  waiting : Waiting s
  truthful : Truthful s
  stopping : Stopping s

theorem Reached.move (h : Reached s) (hmove : Move s s') : Reached s' where
  phases := h.phases.move hmove
  order := h.order.move h.phases hmove
  room := h.room.move h.phases hmove
  effects := h.effects.move h.phases h.order hmove
  waiting := h.waiting.move hmove
  truthful := h.truthful.move h.effects hmove
  stopping := h.stopping.move h.phases h.order h.effects hmove

/-- The coordinator of a daemon that has just started. -/
def initial (daemonInstanceId : DaemonInstanceId) (serverIdentity : String) :
    ProductionV2Coordinator where
  router := { daemonInstanceId := daemonInstanceId, serverIdentity := serverIdentity }

theorem reached_initial (daemonInstanceId : DaemonInstanceId) (serverIdentity : String) :
    Reached (initial daemonInstanceId serverIdentity) where
  phases := by constructor <;> simp [initial]
  order := by constructor <;> simp [initial, line, Progress.pending]
  room := by constructor <;> simp [initial, ProductionQueue.load]
  effects := by constructor <;> simp [initial, awaited, Progress.unanswered]
  waiting := by constructor <;> simp [initial, told]
  truthful := by simp [Truthful, initial]
  stopping := by constructor <;> simp [initial]

/-- An operation that cannot run now changes nothing. -/
def after (s : ProductionV2Coordinator) (op : SequencerOp) : ProductionV2Coordinator :=
  (s.perform op).getD s

theorem Reached.after (h : Reached s) (op : SequencerOp) : Reached (s.after op) := by
  unfold ProductionV2Coordinator.after
  cases hop : s.perform op with
  | none => exact h
  | some s' =>
    refine perform_kept (I := Reached) (fun _ _ h hmove => h.move hmove) (fun t ht happlier => ?_)
      h hop
    exact ht.phases.phase.not.mp happlier

theorem mem_awaited {acceptedSeq : ℕ} : acceptedSeq ∈ s.awaited ↔
    ∃ m ∈ s.progress.unanswered ++ s.batch ++ s.router.bootstrapFifo ++ s.queue.items,
      ∃ completion, finishedEffect m.mutation = some completion ∧
        completion.originalAcceptedSeq = acceptedSeq := by
  simp only [awaited, List.mem_filterMap, Option.map_eq_some_iff]

/-- Every accepted mutation is applied once, in order, and whoever waits for one is told once. -/
structure AcceptedOnce (s : ProductionV2Coordinator) : Prop where
  /-- Numbers are given out one after the other. -/
  numbered : s.seen.accepted.map V2SequencedMutation.acceptedSeq =
    List.range' 1 s.seen.accepted.length
  /-- Mutations are applied in the order they were accepted in, each at most once. -/
  inOrder : s.seen.applied.Sublist s.seen.accepted
  increasing : (s.seen.applied.map V2SequencedMutation.acceptedSeq).Pairwise (· < ·)
  /-- Until the daemon stops each of them is applied, being applied or waiting. -/
  kept : s.shutdown = false → s.applier ≠ .failed →
    s.seen.applied ++ s.progress.pending ++ s.batch ++ s.router.bootstrapFifo ++ s.queue.items =
      s.seen.accepted
  /-- Each is found to be answered with one response, and each waiter is told one thing. -/
  oneResponse : (s.seen.responses.map Prod.fst).Nodup
  oneAnswer : (s.seen.answers.map Prod.fst).Nodup
  mayHear : ∀ answer ∈ s.seen.answers, MayHear s answer
  everyone : ∀ acceptedSeq ∈ s.seen.registered,
    acceptedSeq ∈ s.waiters ∨ acceptedSeq ∈ s.seen.answers.map Prod.fst
  /-- Until the daemon stops a waiter is left only for a mutation that is not done. -/
  waits : s.shutdown = false → s.applier ≠ .failed → ∀ acceptedSeq ∈ s.waiters,
    acceptedSeq ∈ s.deferredResponses ∨ ∃ m ∈ s.unfinished, m.acceptedSeq = acceptedSeq
  deferred : s.shutdown = false → s.applier ≠ .failed → s.forwarderFailed = false →
    ∀ acceptedSeq ∈ s.deferredResponses, acceptedSeq ∈ s.sidebarJobs ∨
      ∃ m ∈ s.progress.unanswered ++ s.batch ++ s.router.bootstrapFifo ++ s.queue.items,
        ∃ completion, finishedEffect m.mutation = some completion ∧
          completion.originalAcceptedSeq = acceptedSeq
  /-- Afterwards only for the request that is being applied. -/
  last : ∀ kind, s.stop = some (kind, .finished) → s.applier ≠ .failed →
    ∀ acceptedSeq ∈ s.waiters, ∃ m ∈ s.progress.working, m.acceptedSeq = acceptedSeq
  fifo : s.router.bootstrapFifo.length ≤ v2BootstrapFifoCapacity
  queue : s.queue.items.length + s.queue.inFlight.toNat ≤ v2MutationQueueCapacity

theorem Reached.acceptedOnce (h : Reached s) : AcceptedOnce s := by
  have hinOrder : s.seen.applied.Sublist s.seen.accepted := by
    refine List.Sublist.trans ?_ h.order.inOrder
    simp only [line, List.append_assoc]
    exact List.sublist_append_left _ _
  have hincreasing : (s.seen.accepted.map V2SequencedMutation.acceptedSeq).Pairwise (· < ·) := by
    rw [h.order.numbered]
    exact List.pairwise_lt_range'
  refine ⟨h.order.numbered, hinOrder, hincreasing.sublist (hinOrder.map _), h.order.kept,
    h.effects.oneResponse, h.waiting.oneAnswer, h.truthful, h.waiting.everyone, h.stopping.waits,
    fun hs ha hf acceptedSeq hseq => ?_, fun kind hs ha acceptedSeq hseq => ?_, h.room.fifo,
    h.room.queue⟩
  · exact (List.mem_append.mp (h.effects.tracked hs ha hf acceptedSeq hseq)).imp id mem_awaited.mp
  · obtain ⟨m, hm, heq, -⟩ := h.stopping.last kind hs ha acceptedSeq hseq
    exact ⟨m, hm, heq⟩

def Step (s : ProductionV2Coordinator) (op : SequencerOp) (s' : ProductionV2Coordinator) : Prop :=
  s.after op = s'

theorem accepted_once {daemonInstanceId : DaemonInstanceId} {serverIdentity : String}
    {past : List (ProductionV2Coordinator × SequencerOp)}
    (hrun : Trace Step (initial daemonInstanceId serverIdentity) past s) : AcceptedOnce s := by
  refine (hrun.invariant (reached_initial daemonInstanceId serverIdentity) ?_).acceptedOnce
  rintro t op t' ht rfl
  exact ht.after op

end ProductionV2Coordinator

namespace Sequenced
open ProductionV2Coordinator

def started : ProductionV2Coordinator :=
  initial ⟨"daemon"⟩ "server"

def early : List SequencerOp :=
  [.enqueueInternal .refreshTopology, .enqueueInternal .reconcileViews, .beginHydration,
    .takeBootstrapFifo]

def afterEarly : List (ProductionV2Coordinator × SequencerOp) × ProductionV2Coordinator :=
  replay after started [] early

theorem early_run : Trace Step started afterEarly.1 afterEarly.2 := replay_trace early .nil

def serving : List SequencerOp :=
  [.beginHydration, .takeBootstrapFifo, .endBatch, .takeBootstrapFifo, .popMutation,
    .returnResponse (.outcome "topology"), .completeMutation, .popMutation,
    .returnResponse (.outcome "views"), .completeMutation, .endBatch, .enterServing]

def afterServed : List (ProductionV2Coordinator × SequencerOp) × ProductionV2Coordinator :=
  replay after started [] (serving ++
    [.enqueueInternalAndWait (.targetedPaneRefresh "%1"),
      .enqueueInternalAndWait (.targetedPaneRefresh "%2"), .popMutation,
      .returnResponse (.outcome "pane"), .completeMutation])

theorem accepted_once_served :
    afterServed.2.seen.applied.map V2SequencedMutation.acceptedSeq = [1, 2, 3] ∧
      afterServed.2.seen.answers = [(3, .outcome "pane")] ∧ 4 ∈ afterServed.2.waiters ∧
      AcceptedOnce afterServed.2 := by
  refine ⟨?_, ?_, ?_, accepted_once (replay_trace _ .nil)⟩
  all_goals decide

/-- A query waits for a refresh of its pane for two seconds, and the refresh takes longer. -/
def late : List SequencerOp :=
  serving ++ [.enqueueInternalAndWait (.targetedPaneRefresh "%1"), .popMutation, .giveUp 3,
    .returnResponse (.outcome "pane"), .completeMutation]

def afterLate : List (ProductionV2Coordinator × SequencerOp) × ProductionV2Coordinator :=
  replay after started [] late

theorem late_run : Trace Step started afterLate.1 afterLate.2 := replay_trace late .nil

/-- Mutations between the queues and waiters that were not told the outcome, with no stop begun. -/
theorem between_and_untold :
    (Trace Step started afterEarly.1 afterEarly.2 ∧ afterEarly.2.shutdown = false ∧
      ∃ m ∈ afterEarly.2.seen.accepted, m ∉ afterEarly.2.seen.applied ∧
        m ∉ afterEarly.2.router.bootstrapFifo ∧ m ∉ afterEarly.2.queue.items) ∧
    Trace Step started afterLate.1 afterLate.2 ∧ afterLate.2.shutdown = false ∧
      (3, RouterMessage.outcome "pane") ∈ afterLate.2.seen.responses ∧
      3 ∈ afterLate.2.seen.registered ∧ 3 ∉ afterLate.2.waiters ∧
      afterLate.2.seen.answers = [(3, responseUnavailable)] := by
  refine ⟨⟨early_run, rfl, ⟨2, .internal .reconcileViews⟩, ?_, ?_, ?_, ?_⟩, late_run, rfl, ?_, ?_, ?_,
    rfl⟩
  all_goals decide

end Sequenced

end VdeTmux.Daemon
