import VdeTmux.Daemon.Router

/-!
# The sequencer

The coordinator between the router and the one thread that applies mutations: the bootstrap loop
until the daemon serves, the mutation worker from then on. Each operation is one section of some
thread under the router, queue or waiter lock, or a step of the applying thread between two of them.
What a mutation does to the canonical state is left out; `Seen` only records.
-/

open Foundation VdeTmux.Pane
namespace VdeTmux.Daemon

def v2MutationQueueCapacity : ℕ := 1024

structure ProductionQueue where
  items : List V2SequencedMutation := []
  inFlight : Bool := false
deriving DecidableEq

/-- The room taken in the queue, with the mutation being applied. -/
def ProductionQueue.load (q : ProductionQueue) : ℕ :=
  q.items.length + q.inFlight.toNat

inductive BootstrapPoint
  | take
  | apply
  | after
deriving DecidableEq

/-- The thread that applies mutations; `failed` is a bootstrap that ended with an error. -/
inductive Applier
  | bootstrap (point : BootstrapPoint) (initialReconciliationQueued : Bool)
  | worker
  | failed
deriving DecidableEq

inductive Progress
  | idle
  | applying (m : V2SequencedMutation)
  | effectFinished (m : V2SequencedMutation)
  | returned (m : V2SequencedMutation) (response : RouterMessage)
  | completed (m : V2SequencedMutation)
deriving DecidableEq

inductive StopKind
  | failStop (message : String)
  | shutdown (currentAcceptedSeq : Option ℕ)
deriving DecidableEq

/-- The mutation being applied that is not applied yet. -/
def Progress.pending : Progress → List V2SequencedMutation
  | .applying m | .effectFinished m => [m]
  | .idle | .returned _ _ | .completed _ => []

def Progress.unanswered : Progress → List V2SequencedMutation
  | .applying m => [m]
  | .idle | .effectFinished _ | .returned _ _ | .completed _ => []

def Progress.working : Progress → List V2SequencedMutation
  | .applying m | .effectFinished m | .returned m _ => [m]
  | .idle | .completed _ => []

/-- The sections of `fail_stop` and `begin_shutdown` that are done. -/
inductive StopStage
  | flagged
  | fatalMarked
  | queueCleared
  | finished
deriving DecidableEq

/-- What has happened so far: which mutations were accepted and applied, who waits, what each
mutation was found to be answered with and what the waiting threads were told. -/
structure Seen where
  accepted : List V2SequencedMutation := []
  applied : List V2SequencedMutation := []
  registered : List ℕ := []
  responses : List (ℕ × RouterMessage) := []
  answers : List (ℕ × RouterMessage) := []
deriving DecidableEq

structure ProductionV2Coordinator where
  router : V2Router
  queue : ProductionQueue := {}
  waiters : List ℕ := []
  deferredResponses : List ℕ := []
  shutdown : Bool := false
  /-- Waiters of `enqueue_internal_and_wait`, and those of them that waited for two seconds. -/
  impatient : List ℕ := []
  timedOut : List ℕ := []
  /-- Commands given to the sidebar worker that are not reported back. -/
  sidebarJobs : List ℕ := []
  forwarderFailed : Bool := false
  applier : Applier := .bootstrap .take false
  batch : List V2SequencedMutation := []
  progress : Progress := .idle
  stop : Option (StopKind × StopStage) := none
  seen : Seen := {}
deriving DecidableEq

namespace ProductionV2Coordinator

def shuttingDown (eventId : Option EventId) : RouterMessage :=
  .error .notReady "daemon is shutting down" eventId

def queueFull (eventId : Option EventId) : RouterMessage :=
  .error .queueFull "sequenced mutation queue is full" eventId

def withRouter (s : ProductionV2Coordinator) (router : V2Router) (mutation : V2AcceptedMutation) :
    ProductionV2Coordinator :=
  { s with
    router := router
    seen := { s.seen with
      accepted :=
        if router.nextAcceptedSeq = s.router.nextAcceptedSeq then s.seen.accepted
        else s.seen.accepted ++ [⟨s.router.nextAcceptedSeq, mutation⟩] } }

def register (s : ProductionV2Coordinator) (acceptedSeq : ℕ) : ProductionV2Coordinator :=
  { s with
    waiters := s.waiters ++ [acceptedSeq]
    seen := { s.seen with registered := s.seen.registered ++ [acceptedSeq] } }

def enqueueWithoutWaiterLocked (s : ProductionV2Coordinator) (sequenced : V2SequencedMutation) :
    ProductionV2Coordinator :=
  { s with queue := { s.queue with items := s.queue.items ++ [sequenced] } }

def enqueueLocked (s : ProductionV2Coordinator) (sequenced : V2SequencedMutation) :
    ProductionV2Coordinator :=
  (s.register sequenced.acceptedSeq).enqueueWithoutWaiterLocked sequenced

inductive Reply
  | respond (message : RouterMessage)
  | failStop (message : RouterMessage)
  | query (message : ClientMessage)
  | wait (acceptedSeq : ℕ)
deriving DecidableEq

def routeExternal (s : ProductionV2Coordinator) (connection : V2ConnectionState)
    (message : ClientMessage) : Reply × V2ConnectionState × ProductionV2Coordinator :=
  if s.shutdown then (.respond (shuttingDown message.eventId), connection, s)
  else if s.router.phase = .serving ∧ message.isMutation = true ∧
      v2MutationQueueCapacity ≤ s.queue.load then
    (.respond (queueFull message.eventId), connection, s)
  else
    let (route, connection, router) := s.router.route connection message
    let routed := s.withRouter router (.external message)
    match route with
    | .response response => (.respond response, connection, routed)
    | .fatal response => (.failStop response, connection, routed)
    | .query query => (.query query, connection, routed)
    | .mutation sequenced =>
      match message.isView, message.eventId with
      | true, some eventId => (.respond (.viewQueued eventId sequenced.acceptedSeq), connection,
          routed.enqueueWithoutWaiterLocked sequenced)
      | _, _ => (.wait sequenced.acceptedSeq, connection, routed.enqueueLocked sequenced)
    | .queued acceptedSeq => (.wait acceptedSeq, connection, routed.register acceptedSeq)
    | .droppedInternal =>
      (.respond (.error .queueFull "internal mutation was dropped" none), connection, routed)

def enqueueInternalAndWait (s : ProductionV2Coordinator) (mutation : V2InternalMutation) :
    Reply × ProductionV2Coordinator :=
  if s.shutdown then (.respond (shuttingDown none), s)
  else if v2MutationQueueCapacity ≤ s.queue.load then (.respond (queueFull none), s)
  else
    let (route, router) := s.router.acceptInternal mutation
    let routed := s.withRouter router (.internal mutation)
    match route with
    | .mutation sequenced =>
      let waiting := routed.enqueueLocked sequenced
      (.wait sequenced.acceptedSeq,
        { waiting with impatient := waiting.impatient ++ [sequenced.acceptedSeq] })
    | .fatal response => (.failStop response, routed)
    | .response response => (.respond response, routed)
    | .droppedInternal | .queued _ =>
      (.respond (.error .queueFull "internal mutation was not accepted" none), routed)
    | .query query => (.query query, routed)

def enqueueInternal (s : ProductionV2Coordinator) (mutation : V2InternalMutation) :
    Bool × ProductionV2Coordinator :=
  if s.shutdown then (false, s)
  else if v2MutationQueueCapacity ≤ s.queue.load then (false, s)
  else
    let (route, router) := s.router.acceptInternal mutation
    let routed := s.withRouter router (.internal mutation)
    match route with
    | .mutation sequenced => (true, routed.enqueueWithoutWaiterLocked sequenced)
    | .queued _ => (true, routed)
    | _ => (false, routed)

/-- Send one message to each of some waiters; who has stopped waiting does not get it. -/
def send (s : ProductionV2Coordinator) (acceptedSeqs : List ℕ) (message : RouterMessage) :
    ProductionV2Coordinator :=
  { s with
    seen := { s.seen with
      answers := s.seen.answers ++
        (acceptedSeqs.filter (· ∉ s.timedOut)).map fun acceptedSeq => (acceptedSeq, message) } }

def complete (s : ProductionV2Coordinator) (acceptedSeq : ℕ) (response : RouterMessage) :
    ProductionV2Coordinator :=
  if acceptedSeq ∈ s.waiters then
    let sent := { s with waiters := s.waiters.filter (· ≠ acceptedSeq) }.send [acceptedSeq] response
    if acceptedSeq ∈ s.timedOut then
      (sent.enqueueInternal (.diagnosticProjection
        s!"mutation_response_disconnected: accepted_seq={acceptedSeq}")).2
    else sent
  else s

def responseUnavailable : RouterMessage :=
  .error .internalError "internal mutation response unavailable: timed out waiting on channel" none

def stopMessage : StopKind → RouterMessage
  | .failStop message => .error .internalError s!"daemon fail-stopped: {message}" none
  | .shutdown _ => shuttingDown none

def drainWaiters (s : ProductionV2Coordinator) (kind : StopKind) : ProductionV2Coordinator :=
  match kind with
  | .failStop _ => { s with waiters := [] }.send s.waiters (stopMessage kind)
  | .shutdown current =>
    { s with waiters := s.waiters.filter fun acceptedSeq => some acceptedSeq = current }.send
      (s.waiters.filter fun acceptedSeq => some acceptedSeq ≠ current) (stopMessage kind)

inductive SequencerOp
  | routeExternal (connection : V2ConnectionState) (message : ClientMessage)
  | enqueueInternal (mutation : V2InternalMutation)
  | enqueueInternalAndWait (mutation : V2InternalMutation)
  | giveUp (acceptedSeq : ℕ)
  | forwardCompletion (completion : SidebarEffectCompletion)
  | beginHydration
  | takeBootstrapFifo
  | endBatch
  | enterServing
  | popMutation
  | deferResponse
  | finishEffect
  | returnResponse (response : RouterMessage)
  | failBootstrap
  | completeMutation
  | releaseQueue
  | beginStop (kind : StopKind)
  | advanceStop
deriving DecidableEq

def producible : V2InternalMutation → Bool
  | .sidebarEffectCompleted _ => false
  | _ => true

def isShutdownRequest : V2AcceptedMutation → Bool
  | .external message => message.kind = some .shutdown
  | _ => false

def isSidebarCommand : V2AcceptedMutation → Bool
  | .external message => message.kind = some .sidebarCommand
  | _ => false

def finishedEffect : V2AcceptedMutation → Option SidebarEffectCompletion
  | .internal (.sidebarEffectCompleted completion) => some completion
  | _ => none

def popMutation (s : ProductionV2Coordinator) : Option ProductionV2Coordinator :=
  match s.applier, s.progress with
  | .bootstrap .apply _, .idle =>
    match s.batch with
    | [] => none
    | m :: batch => some { s with batch := batch, progress := .applying m }
  | .worker, .idle =>
    match s.queue.items with
    | [] => none
    | m :: items =>
      if s.shutdown then none
      else some { s with queue := ⟨items, true⟩, progress := .applying m }
  | _, _ => none

/-- Give the job of a sidebar command to its worker; the command is answered when that is done. -/
def deferResponse (s : ProductionV2Coordinator) : Option ProductionV2Coordinator :=
  match s.progress with
  | .applying m =>
    if isSidebarCommand m.mutation ∧ m.acceptedSeq ∉ s.deferredResponses then
      some { s with
        deferredResponses := s.deferredResponses ++ [m.acceptedSeq]
        sidebarJobs := s.sidebarJobs ++ [m.acceptedSeq] }
    else none
  | _ => none

def reported (s : ProductionV2Coordinator) (acceptedSeq : ℕ) : ProductionV2Coordinator :=
  { s with sidebarJobs := s.sidebarJobs.filter (· ≠ acceptedSeq) }

def forwardCompletion (s : ProductionV2Coordinator) (completion : SidebarEffectCompletion) :
    ProductionV2Coordinator :=
  let (entered, s') := (s.reported completion.originalAcceptedSeq).enqueueInternal
    (.sidebarEffectCompleted completion)
  { s' with forwarderFailed := s'.forwarderFailed || !entered }

def finishEffect (s : ProductionV2Coordinator) : Option ProductionV2Coordinator :=
  match s.progress with
  | .applying m =>
    (finishedEffect m.mutation).map fun completion =>
      { s with
        deferredResponses := s.deferredResponses.filter (· ≠ completion.originalAcceptedSeq)
        progress := .effectFinished m
        seen := { s.seen with
          responses := s.seen.responses ++
            [(completion.originalAcceptedSeq, completion.originalResponse)] }
        }.complete completion.originalAcceptedSeq completion.originalResponse
  | _ => none

def returnable (s : ProductionV2Coordinator) (m : V2SequencedMutation) : Bool :=
  s.stop.all fun (kind, stage) => kind ≠ .shutdown (some m.acceptedSeq) || stage == .finished

/-- The coordinator once a mutation is applied. -/
def applied (s : ProductionV2Coordinator) (m : V2SequencedMutation) (response : RouterMessage) :
    ProductionV2Coordinator :=
  { s with
    progress := .returned m response
    seen := { s.seen with
      applied := s.seen.applied ++ [m]
      responses :=
        if m.acceptedSeq ∈ s.deferredResponses then s.seen.responses
        else s.seen.responses ++ [(m.acceptedSeq, response)] } }

def returnResponse (s : ProductionV2Coordinator) (response : RouterMessage) :
    Option ProductionV2Coordinator :=
  match s.progress with
  | .applying m =>
    if (finishedEffect m.mutation).isNone ∧ s.returnable m then some (s.applied m response) else none
  | .effectFinished m => some (s.applied m response)
  | _ => none

def settled (s : ProductionV2Coordinator) (m : V2SequencedMutation) : ProductionV2Coordinator :=
  { s with progress := if s.applier = .worker then .completed m else .idle }

def completeMutation (s : ProductionV2Coordinator) : Option ProductionV2Coordinator :=
  match s.progress with
  | .returned m response =>
    let done : ProductionV2Coordinator :=
      if m.acceptedSeq ∈ s.deferredResponses then s else s.complete m.acceptedSeq response
    some (done.settled m)
  | _ => none

def bootstrapFailed (s : ProductionV2Coordinator) : ProductionV2Coordinator :=
  { s with applier := .failed, batch := [], progress := .idle }

def failBootstrap (s : ProductionV2Coordinator) : Option ProductionV2Coordinator :=
  match s.applier, s.progress with
  | .bootstrap _ _, .idle | .bootstrap _ _, .returned _ _ => some s.bootstrapFailed
  | _, _ => none

def takeBootstrapFifo (s : ProductionV2Coordinator) : Option ProductionV2Coordinator :=
  match s.applier with
  | .bootstrap .take queued =>
    if s.router.phase = .hydrating then
      let (batch, router) := s.router.takeBootstrapFifo
      some { s with router := router, batch := batch, applier := .bootstrap .apply queued }
    else none
  | _ => none

/-- `accept_internal` of the bootstrap loop itself, and whether it left the router alive. -/
def acceptDuringBootstrap (s : ProductionV2Coordinator) (mutation : V2InternalMutation) :
    Bool × ProductionV2Coordinator :=
  let (route, router) := s.router.acceptInternal mutation
  (!(route matches .fatal _), s.withRouter router (.internal mutation))

/-- After the batch: queue the first reconciliation and go round again, or go on to serving. -/
def endBatch (s : ProductionV2Coordinator) : Option ProductionV2Coordinator :=
  match s.applier, s.progress, s.batch with
  | .bootstrap .apply false, .idle, [] =>
    let (alive, s) := s.acceptDuringBootstrap .refreshTopology
    if alive then
      let (alive, s) := s.acceptDuringBootstrap .reconcileViews
      some (if alive then { s with applier := .bootstrap .take true } else s.bootstrapFailed)
    else some s.bootstrapFailed
  | .bootstrap .apply true, .idle, [] => some { s with applier := .bootstrap .after true }
  | _, _, _ => none

def enterServing (s : ProductionV2Coordinator) : Option ProductionV2Coordinator :=
  match s.applier with
  | .bootstrap .after queued =>
    match s.router.enterServingIfBootstrapEmpty with
    | (true, router) => some { s with router := router, applier := .worker }
    | (false, router) => some { s with router := router, applier := .bootstrap .take queued }
  | _ => none

def stoppable (s : ProductionV2Coordinator) : StopKind → Bool
  | .shutdown (some acceptedSeq) =>
    match s.progress with
    | .applying m => isShutdownRequest m.mutation && m.acceptedSeq == acceptedSeq
    | _ => false
  | _ => true

def advanceStop (s : ProductionV2Coordinator) : Option ProductionV2Coordinator :=
  s.stop.bind fun (kind, stage) =>
    match stage with
    | .flagged => some { s with
        router := s.router.markFatal, stop := some (kind, .fatalMarked) }
    | .fatalMarked => some { s with
        queue := { s.queue with items := [] }, stop := some (kind, .queueCleared) }
    | .queueCleared => some { s.drainWaiters kind with stop := some (kind, .finished) }
    | .finished => none

def perform (s : ProductionV2Coordinator) : SequencerOp → Option ProductionV2Coordinator
  | .routeExternal connection message => some (s.routeExternal connection message).2.2
  | .enqueueInternal mutation =>
    if producible mutation then some (s.enqueueInternal mutation).2 else none
  | .enqueueInternalAndWait mutation =>
    if producible mutation then some (s.enqueueInternalAndWait mutation).2 else none
  | .giveUp acceptedSeq =>
    if acceptedSeq ∈ s.impatient ∧ acceptedSeq ∉ s.timedOut ∧
        acceptedSeq ∉ s.seen.answers.map Prod.fst then
      some { s with
        timedOut := s.timedOut ++ [acceptedSeq]
        seen := { s.seen with
          answers := s.seen.answers ++ [(acceptedSeq, responseUnavailable)] } }
    else none
  | .forwardCompletion completion =>
    if completion.originalAcceptedSeq ∈ s.sidebarJobs then some (s.forwardCompletion completion)
    else none
  | .beginHydration =>
    match s.router.beginHydration with
    | .ok router => some { s with router := router }
    | .error _ => none
  | .takeBootstrapFifo => s.takeBootstrapFifo
  | .endBatch => s.endBatch
  | .enterServing => s.enterServing
  | .popMutation => s.popMutation
  | .deferResponse => s.deferResponse
  | .finishEffect => s.finishEffect
  | .returnResponse response => s.returnResponse response
  | .failBootstrap => s.failBootstrap
  | .completeMutation => s.completeMutation
  | .releaseQueue =>
    match s.progress with
    | .completed _ => some { s with queue := { s.queue with inFlight := false }, progress := .idle }
    | _ => none
  | .beginStop kind =>
    if s.stop.isNone ∧ s.stoppable kind then
      some { s with shutdown := true, stop := some (kind, .flagged) }
    else none
  | .advanceStop => s.advanceStop

end ProductionV2Coordinator

end VdeTmux.Daemon
