import VdeTmux.Daemon.Sequencer

/-!
# What the sequencer can do

Every way of accepting a mutation changes the coordinator in one of three ways. Every operation is
a few small moves, and what is kept by each move is kept by a run.
-/

open Foundation VdeTmux.Pane
namespace VdeTmux.Daemon

/-! ## Accepting -/

namespace V2Router
variable {r r' : V2Router} {route : V2Route} {mutation : V2AcceptedMutation}

def allocated (r : V2Router) : V2Router :=
  { r with nextAcceptedSeq := r.nextAcceptedSeq + 1 }

/-- The router once a mutation waits in the bootstrap FIFO. -/
def held (r : V2Router) (mutation : V2AcceptedMutation) : V2Router :=
  { r.allocated with bootstrapFifo := r.bootstrapFifo ++ [⟨r.nextAcceptedSeq, mutation⟩] }

inductive Admits (r : V2Router) (mutation : V2AcceptedMutation) : V2Route → V2Router → Prop
  | responded (message : RouterMessage) : Admits r mutation (.response message) r
  | asked (message : ClientMessage) : Admits r mutation (.query message) r
  | dropped : Admits r mutation .droppedInternal r
  | stopped (message : RouterMessage) (fatal : Bool) :
    Admits r mutation (.fatal message) { r with fatal := fatal }
  | sequenced (hphase : r.phase = .serving) :
    Admits r mutation (.mutation ⟨r.nextAcceptedSeq, mutation⟩) r.allocated
  | queued (hphase : r.phase ≠ .serving)
    (hroom : r.bootstrapFifo.length < v2BootstrapFifoCapacity) :
    Admits r mutation (.queued r.nextAcceptedSeq) (r.held mutation)
  | viewQueued (message : RouterMessage) (hphase : r.phase ≠ .serving)
    (hroom : r.bootstrapFifo.length < v2BootstrapFifoCapacity) :
    Admits r mutation (.response message) (r.held mutation)

theorem Admits.refl (hfatal : route matches .fatal _) : Admits r mutation route r := by
  cases route with
  | fatal message => exact .stopped message r.fatal
  | _ => cases hfatal

theorem allocate_cases (r : V2Router) :
    r.allocateAcceptedSeq = (some r.nextAcceptedSeq, r.allocated) ∨
      r.allocateAcceptedSeq = (none, { r with fatal := true }) := by
  unfold allocateAcceptedSeq
  split_ifs
  · exact Or.inl rfl
  · exact Or.inr rfl

theorem enqueue_admits (r : V2Router) (message : ClientMessage) :
    Admits r (.external message) (r.enqueue message).1 (r.enqueue message).2 := by
  unfold enqueue
  split_ifs with hfull
  · exact .responded _
  · rcases r.allocate_cases with halloc | halloc
    · rw [halloc]
      by_cases hphase : r.allocated.phase = .serving
      · dsimp only
        rw [if_pos hphase]
        exact .sequenced hphase
      · have hroom : r.bootstrapFifo.length < v2BootstrapFifoCapacity :=
          not_le.mp fun h => hfull ⟨hphase, h⟩
        dsimp only
        rw [if_neg hphase]
        split
        · exact .viewQueued _ hphase hroom
        · exact .queued hphase hroom
    · rw [halloc]
      exact .stopped _ true

theorem dispatch_admits (r : V2Router) (message : ClientMessage) :
    Admits r (.external message) (r.dispatch message).1 (r.dispatch message).2 := by
  unfold dispatch
  cases message.validateV2Origin with
  | error refusal => exact .responded _
  | ok =>
    dsimp only
    split_ifs
    · exact .responded _
    · exact .asked _
    · exact .responded _
    · exact enqueue_admits r message

theorem isMutation_of_dispatch {message : ClientMessage} {sequenced : V2SequencedMutation}
    (h : (r.dispatch message).1 = .mutation sequenced) : message.isMutation = true := by
  by_contra hnot
  have hmutation : message.isMutation = false := Bool.eq_false_iff.mpr hnot
  revert h
  unfold dispatch
  cases message.validateV2Origin with
  | error refusal => exact nofun
  | ok =>
    dsimp only
    rw [if_pos hmutation]
    split_ifs
    all_goals exact nofun

theorem route_admits (r : V2Router) (connection : V2ConnectionState) (message : ClientMessage) :
    Admits r (.external message) (r.route connection message).1
      (r.route connection message).2.2 := by
  unfold route
  split_ifs
  · exact .refl rfl
  · cases message with
    | hello proto =>
      dsimp only
      split_ifs
      · exact .responded _
      · exact .responded _
    | query | mutation => exact .responded _
  · exact .responded _
  · exact .responded _
  · exact .responded _
  · exact dispatch_admits r message

theorem isMutation_of_route {connection : V2ConnectionState} {message : ClientMessage}
    {sequenced : V2SequencedMutation}
    (h : (r.route connection message).1 = .mutation sequenced) : message.isMutation = true := by
  revert h
  unfold route
  split_ifs
  · exact nofun
  · cases message with
    | hello proto =>
      dsimp only
      split_ifs
      all_goals exact nofun
    | query | mutation => exact nofun
  · exact nofun
  · exact nofun
  · exact nofun
  · exact isMutation_of_dispatch

theorem acceptInternal_admits (r : V2Router) (mutation : V2InternalMutation) :
    Admits r (.internal mutation) (r.acceptInternal mutation).1 (r.acceptInternal mutation).2 := by
  unfold acceptInternal
  split_ifs with hfatal hfull
  · exact .refl rfl
  · exact .dropped
  · rcases r.allocate_cases with halloc | halloc
    · rw [halloc]
      by_cases hphase : r.allocated.phase = .serving
      · dsimp only
        rw [if_pos hphase]
        exact .sequenced hphase
      · have hroom : r.bootstrapFifo.length < v2BootstrapFifoCapacity :=
          not_le.mp fun h => hfull ⟨hphase, h⟩
        dsimp only
        rw [if_neg hphase]
        exact .queued hphase hroom
    · rw [halloc]
      exact .stopped _ true

theorem acceptInternal_ne_response {mutation : V2InternalMutation} {message : RouterMessage} :
    (r.acceptInternal mutation).1 ≠ .response message := by
  unfold acceptInternal
  split_ifs
  · exact nofun
  · exact nofun
  · rcases r.allocate_cases with halloc | halloc
    · rw [halloc]
      dsimp only
      split_ifs
      · exact nofun
      · exact nofun
    · rw [halloc]
      exact nofun

end V2Router

/-- Whether the thread that hands a mutation in waits for it, and for how long. -/
inductive Patience
  | silent
  | patient
  | impatient
deriving DecidableEq

def Patience.registers (acceptedSeq : ℕ) : Patience → List ℕ
  | silent => []
  | patient | impatient => [acceptedSeq]

def Patience.hurries (acceptedSeq : ℕ) : Patience → List ℕ
  | impatient => [acceptedSeq]
  | silent | patient => []

namespace ProductionV2Coordinator
variable {s s' : ProductionV2Coordinator} {mutation : V2AcceptedMutation} {patience : Patience}

def nextSequenced (s : ProductionV2Coordinator) (mutation : V2AcceptedMutation) :
    V2SequencedMutation :=
  ⟨s.router.nextAcceptedSeq, mutation⟩

def allotted (s : ProductionV2Coordinator) (mutation : V2AcceptedMutation) (patience : Patience) :
    ProductionV2Coordinator :=
  { s with
    router := s.router.allocated
    waiters := s.waiters ++ patience.registers s.router.nextAcceptedSeq
    impatient := s.impatient ++ patience.hurries s.router.nextAcceptedSeq
    seen := { s.seen with
      accepted := s.seen.accepted ++ [s.nextSequenced mutation]
      registered := s.seen.registered ++ patience.registers s.router.nextAcceptedSeq } }

def queued (s : ProductionV2Coordinator) (mutation : V2AcceptedMutation) (patience : Patience) :
    ProductionV2Coordinator :=
  { s.allotted mutation patience with
    router := { s.router.allocated with
      bootstrapFifo := s.router.bootstrapFifo ++ [s.nextSequenced mutation] } }

def enqueued (s : ProductionV2Coordinator) (mutation : V2AcceptedMutation) (patience : Patience) :
    ProductionV2Coordinator :=
  { s.allotted mutation patience with
    queue := { s.queue with items := s.queue.items ++ [s.nextSequenced mutation] } }

def withFatal (s : ProductionV2Coordinator) (fatal : Bool) : ProductionV2Coordinator :=
  { s with router := { s.router with fatal := fatal } }

inductive Taken (s : ProductionV2Coordinator) (mutation : V2AcceptedMutation)
    (patience : Patience) : ProductionV2Coordinator → Prop
  | queued (hphase : s.router.phase ≠ .serving)
    (hroom : s.router.bootstrapFifo.length < v2BootstrapFifoCapacity) :
    Taken s mutation patience (s.queued mutation patience)
  | enqueued (hphase : s.router.phase = .serving)
    (hroom : s.queue.load < v2MutationQueueCapacity) :
    Taken s mutation patience (s.enqueued mutation patience)

inductive Accepting (s : ProductionV2Coordinator) (mutation : V2AcceptedMutation)
    (patience : Patience) : ProductionV2Coordinator → Prop
  | refused (fatal : Bool) : Accepting s mutation patience (s.withFatal fatal)
  | taken {s' : ProductionV2Coordinator} (h : Taken s mutation patience s') :
    Accepting s mutation patience s'

theorem accepting_passed : Accepting s mutation patience (s.withRouter s.router mutation) := by
  have heq : s.withRouter s.router mutation = s.withFatal s.router.fatal := by
    simp [withRouter, withFatal]
  rw [heq]
  exact .refused _

theorem withRouter_fatal (fatal : Bool) :
    s.withRouter { s.router with fatal := fatal } mutation = s.withFatal fatal := by
  simp [withRouter, withFatal]

theorem accepting_fatal (fatal : Bool) :
    Accepting s mutation patience (s.withRouter { s.router with fatal := fatal } mutation) := by
  rw [withRouter_fatal]
  exact .refused fatal

theorem taken_held (hphase : s.router.phase ≠ .serving)
    (hroom : s.router.bootstrapFifo.length < v2BootstrapFifoCapacity) :
    Taken s mutation .silent (s.withRouter (s.router.held mutation) mutation) := by
  have heq : s.withRouter (s.router.held mutation) mutation = s.queued mutation .silent := by
    simp [withRouter, V2Router.held, V2Router.allocated, queued, allotted, nextSequenced,
      Patience.registers, Patience.hurries]
  rw [heq]
  exact .queued hphase hroom

theorem taken_waited (hphase : s.router.phase ≠ .serving)
    (hroom : s.router.bootstrapFifo.length < v2BootstrapFifoCapacity) :
    Taken s mutation .patient ((s.withRouter (s.router.held mutation) mutation).register
      s.router.nextAcceptedSeq) := by
  have heq : (s.withRouter (s.router.held mutation) mutation).register s.router.nextAcceptedSeq =
      s.queued mutation .patient := by
    simp [withRouter, register, V2Router.held, V2Router.allocated, queued, allotted, nextSequenced,
      Patience.registers, Patience.hurries]
  rw [heq]
  exact .queued hphase hroom

theorem taken_enqueued (hphase : s.router.phase = .serving)
    (hroom : s.queue.load < v2MutationQueueCapacity) : Taken s mutation .silent
    ((s.withRouter s.router.allocated mutation).enqueueWithoutWaiterLocked
      (s.nextSequenced mutation)) := by
  have heq : (s.withRouter s.router.allocated mutation).enqueueWithoutWaiterLocked
      (s.nextSequenced mutation) = s.enqueued mutation .silent := by
    simp [withRouter, enqueueWithoutWaiterLocked, V2Router.allocated, enqueued, allotted,
      nextSequenced, Patience.registers, Patience.hurries]
  rw [heq]
  exact .enqueued hphase hroom

theorem taken_enqueueLocked (hphase : s.router.phase = .serving)
    (hroom : s.queue.load < v2MutationQueueCapacity) : Taken s mutation .patient
    ((s.withRouter s.router.allocated mutation).enqueueLocked (s.nextSequenced mutation)) := by
  have heq : (s.withRouter s.router.allocated mutation).enqueueLocked (s.nextSequenced mutation) =
      s.enqueued mutation .patient := by
    simp [withRouter, enqueueLocked, register, enqueueWithoutWaiterLocked, V2Router.allocated,
      enqueued, allotted, nextSequenced, Patience.registers, Patience.hurries]
  rw [heq]
  exact .enqueued hphase hroom

theorem taken_impatient (hphase : s.router.phase = .serving)
    (hroom : s.queue.load < v2MutationQueueCapacity) : Taken s mutation .impatient
    { (s.withRouter s.router.allocated mutation).enqueueLocked (s.nextSequenced mutation) with
      impatient := ((s.withRouter s.router.allocated mutation).enqueueLocked
        (s.nextSequenced mutation)).impatient ++ [s.router.nextAcceptedSeq] } := by
  have heq : { (s.withRouter s.router.allocated mutation).enqueueLocked
      (s.nextSequenced mutation) with
        impatient := ((s.withRouter s.router.allocated mutation).enqueueLocked
          (s.nextSequenced mutation)).impatient ++ [s.router.nextAcceptedSeq] } =
      s.enqueued mutation .impatient := by
    simp [withRouter, enqueueLocked, register, enqueueWithoutWaiterLocked, V2Router.allocated,
      enqueued, allotted, nextSequenced, Patience.registers, Patience.hurries]
  rw [heq]
  exact .enqueued hphase hroom

theorem routeExternal_accepting (s : ProductionV2Coordinator) (connection : V2ConnectionState)
    (message : ClientMessage) :
    ∃ patience, (patience ≠ .silent → s.shutdown = false) ∧
      Accepting s (.external message) patience (s.routeExternal connection message).2.2 := by
  unfold routeExternal
  split_ifs with hshutdown hfull
  · exact ⟨.silent, fun h => absurd rfl h, .refused s.router.fatal⟩
  · exact ⟨.silent, fun h => absurd rfl h, .refused s.router.fatal⟩
  · have hopen : s.shutdown = false := Bool.eq_false_iff.mpr hshutdown
    have hadmits := s.router.route_admits connection message
    have hmutation (sequenced : V2SequencedMutation)
        (h : (s.router.route connection message).1 = .mutation sequenced) :=
      V2Router.isMutation_of_route h
    generalize s.router.route connection message = outcome at hadmits hmutation
    obtain ⟨route, connection', router⟩ := outcome
    dsimp only at hadmits ⊢
    cases hadmits with
    | responded | asked | dropped => exact ⟨.patient, fun _ => hopen, accepting_passed⟩
    | stopped message fatal => exact ⟨.patient, fun _ => hopen, accepting_fatal fatal⟩
    | sequenced hphase =>
      have hroom : s.queue.load < v2MutationQueueCapacity :=
        not_le.mp fun h => hfull ⟨hphase, hmutation _ rfl, h⟩
      dsimp only
      split
      · exact ⟨.silent, fun _ => hopen, .taken (taken_enqueued hphase hroom)⟩
      · exact ⟨.patient, fun _ => hopen, .taken (taken_enqueueLocked hphase hroom)⟩
    | queued hphase hroom => exact ⟨.patient, fun _ => hopen, .taken (taken_waited hphase hroom)⟩
    | viewQueued message hphase hroom =>
      exact ⟨.silent, fun _ => hopen, .taken (taken_held hphase hroom)⟩

theorem enqueueInternalAndWait_accepting (s : ProductionV2Coordinator)
    (mutation : V2InternalMutation) :
    ∃ patience, (patience ≠ .silent → s.shutdown = false) ∧
      Accepting s (.internal mutation) patience (s.enqueueInternalAndWait mutation).2 := by
  unfold enqueueInternalAndWait
  split_ifs with hshutdown hfull
  · exact ⟨.silent, fun h => absurd rfl h, .refused s.router.fatal⟩
  · exact ⟨.silent, fun h => absurd rfl h, .refused s.router.fatal⟩
  · have hopen : s.shutdown = false := Bool.eq_false_iff.mpr hshutdown
    have hadmits := s.router.acceptInternal_admits mutation
    generalize s.router.acceptInternal mutation = outcome at hadmits
    obtain ⟨route, router⟩ := outcome
    dsimp only at hadmits ⊢
    cases hadmits with
    | responded | asked | dropped => exact ⟨.patient, fun _ => hopen, accepting_passed⟩
    | stopped message fatal => exact ⟨.patient, fun _ => hopen, accepting_fatal fatal⟩
    | sequenced hphase =>
      exact ⟨.impatient, fun _ => hopen, .taken (taken_impatient hphase (not_le.mp hfull))⟩
    | queued hphase hroom | viewQueued message hphase hroom =>
      exact ⟨.silent, fun _ => hopen, .taken (taken_held hphase hroom)⟩

theorem enqueueInternal_cases (s : ProductionV2Coordinator) (mutation : V2InternalMutation) :
    (∃ fatal, s.enqueueInternal mutation = (false, s.withFatal fatal)) ∨
      ∃ s', s.enqueueInternal mutation = (true, s') ∧ Taken s (.internal mutation) .silent s' := by
  unfold enqueueInternal
  split_ifs with hshutdown hfull
  · exact Or.inl ⟨s.router.fatal, rfl⟩
  · exact Or.inl ⟨s.router.fatal, rfl⟩
  · have hadmits := s.router.acceptInternal_admits mutation
    have hresponse (message : RouterMessage) :
        (s.router.acceptInternal mutation).1 ≠ .response message :=
      V2Router.acceptInternal_ne_response
    generalize s.router.acceptInternal mutation = outcome at hadmits hresponse
    obtain ⟨route, router⟩ := outcome
    dsimp only at hadmits hresponse ⊢
    cases hadmits with
    | responded message | viewQueued message => exact absurd rfl (hresponse message)
    | asked | dropped =>
      exact Or.inl ⟨s.router.fatal, by rw [← withRouter_fatal]⟩
    | stopped message fatal => exact Or.inl ⟨fatal, by rw [← withRouter_fatal]⟩
    | sequenced hphase => exact Or.inr ⟨_, rfl, taken_enqueued hphase (not_le.mp hfull)⟩
    | queued hphase hroom => exact Or.inr ⟨_, rfl, taken_held hphase hroom⟩

theorem enqueueInternal_accepting (s : ProductionV2Coordinator) (mutation : V2InternalMutation) :
    Accepting s (.internal mutation) .silent (s.enqueueInternal mutation).2 := by
  rcases s.enqueueInternal_cases mutation with ⟨fatal, h⟩ | ⟨s', h, htaken⟩
  · rw [h]
    exact .refused fatal
  · rw [h]
    exact .taken htaken

theorem acceptDuringBootstrap_accepting (s : ProductionV2Coordinator)
    (mutation : V2InternalMutation) (hphase : s.router.phase ≠ .serving) :
    Accepting s (.internal mutation) .silent (s.acceptDuringBootstrap mutation).2 := by
  unfold acceptDuringBootstrap
  have hadmits := s.router.acceptInternal_admits mutation
  generalize s.router.acceptInternal mutation = outcome at hadmits
  obtain ⟨route, router⟩ := outcome
  dsimp only at hadmits ⊢
  cases hadmits with
  | responded | asked | dropped => exact accepting_passed
  | stopped message fatal => exact accepting_fatal fatal
  | sequenced hserving => exact absurd hserving hphase
  | queued hphase hroom | viewQueued message hphase hroom => exact .taken (taken_held hphase hroom)

/-! ## Moves -/

def answer (s : ProductionV2Coordinator) (acceptedSeq : ℕ) (response : RouterMessage) :
    ProductionV2Coordinator :=
  if acceptedSeq ∈ s.waiters then
    { s with waiters := s.waiters.filter (· ≠ acceptedSeq) }.send [acceptedSeq] response
  else s

theorem complete_accepting (s : ProductionV2Coordinator) (acceptedSeq : ℕ)
    (response : RouterMessage) : ∃ message, Accepting (s.answer acceptedSeq response)
      (.internal (.diagnosticProjection message)) .silent (s.complete acceptedSeq response) := by
  refine ⟨s!"mutation_response_disconnected: accepted_seq={acceptedSeq}", ?_⟩
  unfold complete answer
  split_ifs
  · exact enqueueInternal_accepting _ _
  · exact .refused s.router.fatal
  · exact .refused s.router.fatal

/-- The coordinator once the effect of a command is finished, before the command is answered. -/
def finished (s : ProductionV2Coordinator) (m : V2SequencedMutation)
    (completion : SidebarEffectCompletion) : ProductionV2Coordinator :=
  { s with
    deferredResponses := s.deferredResponses.filter (· ≠ completion.originalAcceptedSeq)
    progress := .effectFinished m
    seen := { s.seen with
      responses := s.seen.responses ++
        [(completion.originalAcceptedSeq, completion.originalResponse)] } }

inductive Move (s : ProductionV2Coordinator) : ProductionV2Coordinator → Prop
  | accept {s' : ProductionV2Coordinator} (mutation : V2AcceptedMutation) (patience : Patience)
    (hopen : patience ≠ .silent → s.shutdown = false)
    (hproducible : finishedEffect mutation = none) (h : Accepting s mutation patience s') : Move s s'
  | giveUp (acceptedSeq : ℕ) (hwaits : acceptedSeq ∈ s.impatient)
    (hnew : acceptedSeq ∉ s.timedOut) (hnone : acceptedSeq ∉ s.seen.answers.map Prod.fst) :
    Move s { s with
      timedOut := s.timedOut ++ [acceptedSeq]
      seen := { s.seen with
        answers := s.seen.answers ++ [(acceptedSeq, responseUnavailable)] } }
  | forward {s' : ProductionV2Coordinator} (completion : SidebarEffectCompletion)
    (hjob : completion.originalAcceptedSeq ∈ s.sidebarJobs)
    (h : Taken (s.reported completion.originalAcceptedSeq)
      (.internal (.sidebarEffectCompleted completion)) .silent s') : Move s s'
  | forwardFailed (acceptedSeq : ℕ) (fatal : Bool) :
    Move s { (s.reported acceptedSeq).withFatal fatal with forwarderFailed := true }
  | hydrate (hphase : s.router.phase = .installingHooks) :
    Move s { s with router := { s.router with phase := .hydrating } }
  | takeFifo (queued : Bool) (happlier : s.applier = .bootstrap .take queued) :
    Move s { s with
      router := { s.router with bootstrapFifo := [] }
      batch := s.router.bootstrapFifo
      applier := .bootstrap .apply queued }
  | turn (queued queued' : Bool) (point : BootstrapPoint)
    (happlier : s.applier = .bootstrap .apply queued) (hidle : s.progress = .idle)
    (hbatch : s.batch = []) : Move s { s with applier := .bootstrap point queued' }
  | goBack (queued : Bool) (happlier : s.applier = .bootstrap .after queued) :
    Move s { s with applier := .bootstrap .take queued }
  | fail (point : BootstrapPoint) (queued : Bool) (happlier : s.applier = .bootstrap point queued)
    (hidle : s.progress = .idle ∨ ∃ m response, s.progress = .returned m response) :
    Move s s.bootstrapFailed
  | serve (queued : Bool) (happlier : s.applier = .bootstrap .after queued)
    (hfifo : s.router.bootstrapFifo = []) :
    Move s { s with router := { s.router with phase := .serving }, applier := .worker }
  | popBatch (queued : Bool) (m : V2SequencedMutation) (batch : List V2SequencedMutation)
    (happlier : s.applier = .bootstrap .apply queued) (hidle : s.progress = .idle)
    (hbatch : s.batch = m :: batch) : Move s { s with batch := batch, progress := .applying m }
  | popQueue (m : V2SequencedMutation) (items : List V2SequencedMutation)
    (happlier : s.applier = .worker) (hidle : s.progress = .idle)
    (hitems : s.queue.items = m :: items) :
    Move s { s with queue := ⟨items, true⟩, progress := .applying m }
  | defer (m : V2SequencedMutation) (hprogress : s.progress = .applying m)
    (hcommand : isSidebarCommand m.mutation = true) (hnew : m.acceptedSeq ∉ s.deferredResponses) :
    Move s { s with
      deferredResponses := s.deferredResponses ++ [m.acceptedSeq]
      sidebarJobs := s.sidebarJobs ++ [m.acceptedSeq] }
  | finish (m : V2SequencedMutation) (completion : SidebarEffectCompletion)
    (hprogress : s.progress = .applying m) (hfinished : finishedEffect m.mutation = some completion) :
    Move s ((s.finished m completion).answer completion.originalAcceptedSeq
      completion.originalResponse)
  | applied (m : V2SequencedMutation) (response : RouterMessage)
    (hprogress : s.progress = .applying m ∧ finishedEffect m.mutation = none ∧
      s.returnable m = true ∨ s.progress = .effectFinished m) : Move s (s.applied m response)
  | answer (m : V2SequencedMutation) (response : RouterMessage)
    (hprogress : s.progress = .returned m response) (hdone : m.acceptedSeq ∉ s.deferredResponses) :
    Move s (s.answer m.acceptedSeq response)
  | complete (m : V2SequencedMutation) (response : RouterMessage)
    (hprogress : s.progress = .returned m response)
    (hdone : m.acceptedSeq ∈ s.deferredResponses ∨ m.acceptedSeq ∉ s.waiters) :
    Move s (s.settled m)
  | release (m : V2SequencedMutation) (hprogress : s.progress = .completed m) :
    Move s { s with queue := { s.queue with inFlight := false }, progress := .idle }
  | beginStop (kind : StopKind) (hstop : s.stop = none) (hstoppable : s.stoppable kind = true) :
    Move s { s with shutdown := true, stop := some (kind, .flagged) }
  | markFatal (kind : StopKind) (hstop : s.stop = some (kind, .flagged)) :
    Move s { s with router := s.router.markFatal, stop := some (kind, .fatalMarked) }
  | clearQueue (kind : StopKind) (hstop : s.stop = some (kind, .fatalMarked)) :
    Move s { s with queue := { s.queue with items := [] }, stop := some (kind, .queueCleared) }
  | drain (kind : StopKind) (hstop : s.stop = some (kind, .queueCleared)) :
    Move s { s.drainWaiters kind with stop := some (kind, .finished) }

/-! ## Operations are moves -/

structure Unmoved (s s' : ProductionV2Coordinator) : Prop where
  applier : s'.applier = s.applier
  batch : s'.batch = s.batch
  progress : s'.progress = s.progress
  deferred : s'.deferredResponses = s.deferredResponses
  phase : s'.router.phase = s.router.phase

theorem Accepting.unmoved (h : Accepting s mutation patience s') : Unmoved s s' := by
  cases h with
  | refused => exact ⟨rfl, rfl, rfl, rfl, rfl⟩
  | taken h =>
    cases h with
    | queued | enqueued => exact ⟨rfl, rfl, rfl, rfl, rfl⟩

theorem Accepting.waiters (h : Accepting s mutation .silent s') : s'.waiters = s.waiters := by
  cases h with
  | refused => rfl
  | taken h =>
    cases h with
    | queued | enqueued => exact List.append_nil _

theorem answer_unmoved (s : ProductionV2Coordinator) (acceptedSeq : ℕ) (response : RouterMessage) :
    Unmoved s (s.answer acceptedSeq response) := by
  unfold answer
  split_ifs
  · exact ⟨rfl, rfl, rfl, rfl, rfl⟩
  · exact ⟨rfl, rfl, rfl, rfl, rfl⟩

theorem not_mem_waiters_answer (s : ProductionV2Coordinator) (acceptedSeq : ℕ)
    (response : RouterMessage) : acceptedSeq ∉ (s.answer acceptedSeq response).waiters := by
  unfold answer
  split_ifs with h
  · simp [send]
  · exact h

section Kept
variable {I : ProductionV2Coordinator → Prop}

theorem complete_kept (hkept : ∀ s s', I s → Move s s' → I s') {acceptedSeq : ℕ}
    {response : RouterMessage} (h : I (s.answer acceptedSeq response)) :
    I (s.complete acceptedSeq response) := by
  obtain ⟨message, hmessage⟩ := s.complete_accepting acceptedSeq response
  exact hkept _ _ h (.accept _ .silent (fun h => absurd rfl h) rfl hmessage)

theorem acceptDuringBootstrap_kept (hkept : ∀ s s', I s → Move s s' → I s')
    {mutation : V2InternalMutation} (hproducible : finishedEffect (.internal mutation) = none)
    (hphase : s.router.phase ≠ .serving) (h : I s) : I (s.acceptDuringBootstrap mutation).2 :=
  hkept _ _ h (.accept _ .silent (fun h => absurd rfl h) hproducible
    (s.acceptDuringBootstrap_accepting mutation hphase))

theorem finishedEffect_producible {mutation : V2InternalMutation} (h : producible mutation = true) :
    finishedEffect (.internal mutation) = none := by
  cases mutation with
  | sidebarEffectCompleted => cases h
  | _ => rfl

theorem popMutation_kept (hkept : ∀ s s', I s → Move s s' → I s') (hI : I s)
    (h : s.popMutation = some s') : I s' := by
  unfold popMutation at h
  split at h
  · rename_i queued happlier hidle
    cases hbatch : s.batch with
    | nil =>
      rw [hbatch] at h
      cases h
    | cons m batch =>
      rw [hbatch] at h
      cases h
      exact hkept _ _ hI (.popBatch queued m batch happlier hidle hbatch)
  · rename_i happlier hidle
    cases hitems : s.queue.items with
    | nil =>
      rw [hitems] at h
      cases h
    | cons m items =>
      simp only [hitems] at h
      split_ifs at h
      cases h
      exact hkept _ _ hI (.popQueue m items happlier hidle hitems)
  · cases h

theorem deferResponse_kept (hkept : ∀ s s', I s → Move s s' → I s') (hI : I s)
    (h : s.deferResponse = some s') : I s' := by
  unfold deferResponse at h
  split at h
  · rename_i m hprogress
    split_ifs at h with hcommand
    cases h
    exact hkept _ _ hI (.defer m hprogress hcommand.1 hcommand.2)
  · cases h

theorem finishEffect_kept (hkept : ∀ s s', I s → Move s s' → I s') (hI : I s)
    (h : s.finishEffect = some s') : I s' := by
  unfold finishEffect at h
  split at h
  · rename_i m hprogress
    obtain ⟨completion, hfinished, rfl⟩ := Option.map_eq_some_iff.mp h
    exact complete_kept hkept (hkept _ _ hI (.finish m completion hprogress hfinished))
  · cases h

theorem returnResponse_kept (hkept : ∀ s s', I s → Move s s' → I s') (hI : I s)
    {response : RouterMessage} (h : s.returnResponse response = some s') : I s' := by
  unfold returnResponse at h
  split at h
  · rename_i m hprogress
    split_ifs at h with hreturns
    cases h
    exact hkept _ _ hI (.applied m response
      (Or.inl ⟨hprogress, Option.isNone_iff_eq_none.mp hreturns.1, hreturns.2⟩))
  · rename_i m hprogress
    cases h
    exact hkept _ _ hI (.applied m response (Or.inr hprogress))
  · cases h

theorem completeMutation_kept (hkept : ∀ s s', I s → Move s s' → I s') (hI : I s)
    (h : s.completeMutation = some s') : I s' := by
  unfold completeMutation at h
  split at h
  · rename_i m response hprogress
    dsimp only at h
    split_ifs at h with hdeferred
    · cases h
      exact hkept _ _ hI (.complete m response hprogress (Or.inl hdeferred))
    · cases h
      have hanswer := hkept _ _ hI (.answer m response hprogress hdeferred)
      have hmoved := s.answer_unmoved m.acceptedSeq response
      obtain ⟨message, hmessage⟩ := s.complete_accepting m.acceptedSeq response
      have hwaiters := s.not_mem_waiters_answer m.acceptedSeq response
      rw [← hmessage.waiters] at hwaiters
      exact hkept _ _ (complete_kept hkept hanswer) (.complete m response
        (hmessage.unmoved.progress.trans (hmoved.progress.trans hprogress)) (Or.inr hwaiters))
  · cases h

theorem failBootstrap_kept (hkept : ∀ s s', I s → Move s s' → I s') (hI : I s)
    (h : s.failBootstrap = some s') : I s' := by
  unfold failBootstrap at h
  split at h
  · rename_i point queued happlier hidle
    cases h
    exact hkept _ _ hI (.fail point queued happlier (Or.inl hidle))
  · rename_i point queued m response happlier hreturned
    cases h
    exact hkept _ _ hI (.fail point queued happlier (Or.inr ⟨m, response, hreturned⟩))
  · cases h

theorem takeBootstrapFifo_kept (hkept : ∀ s s', I s → Move s s' → I s') (hI : I s)
    (h : s.takeBootstrapFifo = some s') : I s' := by
  unfold takeBootstrapFifo at h
  split at h
  · rename_i queued happlier
    split_ifs at h
    cases h
    exact hkept _ _ hI (.takeFifo queued happlier)
  · cases h

theorem endBatch_kept (hkept : ∀ s s', I s → Move s s' → I s')
    (hphase : ∀ s, I s → s.applier ≠ .worker → s.router.phase ≠ .serving) (hI : I s)
    (h : s.endBatch = some s') : I s' := by
  unfold endBatch at h
  split at h
  · rename_i happlier hidle hbatch
    have hworker : s.applier ≠ .worker := by
      rw [happlier]
      exact nofun
    have hfirst := s.acceptDuringBootstrap_accepting .refreshTopology (hphase s hI hworker)
    have hI₁ := acceptDuringBootstrap_kept hkept
      (show finishedEffect (.internal .refreshTopology) = none from rfl) (hphase s hI hworker) hI
    generalize s.acceptDuringBootstrap .refreshTopology = outcome at h hfirst hI₁
    obtain ⟨alive, s₁⟩ := outcome
    have hmoved := hfirst.unmoved
    dsimp only at h hI₁ hmoved
    have happlier₁ := hmoved.applier.trans happlier
    have hidle₁ := hmoved.progress.trans hidle
    cases alive with
    | false =>
      cases h
      exact hkept _ _ hI₁ (.fail .apply false happlier₁ (Or.inl hidle₁))
    | true =>
      have hworker₁ : s₁.applier ≠ .worker := by
        rw [happlier₁]
        exact nofun
      have hsecond := s₁.acceptDuringBootstrap_accepting .reconcileViews (hphase s₁ hI₁ hworker₁)
      have hI₂ := acceptDuringBootstrap_kept hkept
        (show finishedEffect (.internal .reconcileViews) = none from rfl) (hphase s₁ hI₁ hworker₁) hI₁
      simp only [if_true] at h
      generalize s₁.acceptDuringBootstrap .reconcileViews = outcome at h hsecond hI₂
      obtain ⟨alive, s₂⟩ := outcome
      have hmoved' := hsecond.unmoved
      dsimp only at h hI₂ hmoved'
      have happlier₂ := hmoved'.applier.trans happlier₁
      have hidle₂ := hmoved'.progress.trans hidle₁
      have hbatch₂ := hmoved'.batch.trans (hmoved.batch.trans hbatch)
      cases alive with
      | false =>
        cases h
        exact hkept _ _ hI₂ (.fail .apply false happlier₂ (Or.inl hidle₂))
      | true =>
        cases h
        exact hkept _ _ hI₂ (.turn false true .take happlier₂ hidle₂ hbatch₂)
  · rename_i happlier hidle hbatch
    cases h
    exact hkept _ _ hI (.turn true true .after happlier hidle hbatch)
  · cases h

theorem enterServing_kept (hkept : ∀ s s', I s → Move s s' → I s') (hI : I s)
    (h : s.enterServing = some s') : I s' := by
  unfold enterServing V2Router.enterServingIfBootstrapEmpty at h
  split at h
  · rename_i queued happlier
    by_cases hready : s.router.phase = .hydrating ∧ s.router.bootstrapFifo = []
    · rw [if_pos hready] at h
      cases h
      exact hkept _ _ hI (.serve queued happlier hready.2)
    · rw [if_neg hready] at h
      cases h
      exact hkept _ _ hI (.goBack queued happlier)
  · cases h

theorem advanceStop_kept (hkept : ∀ s s', I s → Move s s' → I s') (hI : I s)
    (h : s.advanceStop = some s') : I s' := by
  unfold advanceStop at h
  obtain ⟨⟨kind, stage⟩, hstop, h⟩ := Option.bind_eq_some_iff.mp h
  cases stage with
  | flagged =>
    cases h
    exact hkept _ _ hI (.markFatal kind hstop)
  | fatalMarked =>
    cases h
    exact hkept _ _ hI (.clearQueue kind hstop)
  | queueCleared =>
    cases h
    exact hkept _ _ hI (.drain kind hstop)
  | finished => cases h

theorem forwardCompletion_kept (hkept : ∀ s s', I s → Move s s' → I s') (hI : I s)
    {completion : SidebarEffectCompletion}
    (h : s.perform (.forwardCompletion completion) = some s') : I s' := by
  simp only [perform] at h
  split_ifs at h with hjob
  cases h
  unfold forwardCompletion
  rcases (s.reported completion.originalAcceptedSeq).enqueueInternal_cases
    (.sidebarEffectCompleted completion) with ⟨fatal, heq⟩ | ⟨s₁, heq, htaken⟩
  · rw [heq]
    simp only [Bool.not_false, Bool.or_true]
    exact hkept _ _ hI (.forwardFailed completion.originalAcceptedSeq fatal)
  · rw [heq]
    simp only [Bool.not_true, Bool.or_false]
    exact hkept _ _ hI (.forward completion hjob htaken)

theorem perform_kept (hkept : ∀ s s', I s → Move s s' → I s')
    (hphase : ∀ s, I s → s.applier ≠ .worker → s.router.phase ≠ .serving) (hI : I s)
    {op : SequencerOp} (h : s.perform op = some s') : I s' := by
  cases op with
  | routeExternal connection message =>
    cases h
    obtain ⟨patience, hopen, haccepting⟩ := s.routeExternal_accepting connection message
    exact hkept _ _ hI (.accept _ patience hopen rfl haccepting)
  | enqueueInternal mutation =>
    simp only [perform] at h
    split_ifs at h with hproducible
    cases h
    exact hkept _ _ hI (.accept _ .silent (fun h => absurd rfl h)
      (finishedEffect_producible hproducible) (s.enqueueInternal_accepting mutation))
  | enqueueInternalAndWait mutation =>
    simp only [perform] at h
    split_ifs at h with hproducible
    cases h
    obtain ⟨patience, hopen, haccepting⟩ := s.enqueueInternalAndWait_accepting mutation
    exact hkept _ _ hI (.accept _ patience hopen (finishedEffect_producible hproducible) haccepting)
  | giveUp acceptedSeq =>
    simp only [perform] at h
    split_ifs at h with hwaits
    cases h
    exact hkept _ _ hI (.giveUp acceptedSeq hwaits.1 hwaits.2.1 hwaits.2.2)
  | forwardCompletion completion => exact forwardCompletion_kept hkept hI h
  | beginHydration =>
    simp only [perform, V2Router.beginHydration] at h
    split_ifs at h with hinstalling
    cases h
    exact hkept _ _ hI (.hydrate hinstalling)
  | takeBootstrapFifo => exact takeBootstrapFifo_kept hkept hI h
  | endBatch => exact endBatch_kept hkept hphase hI h
  | enterServing => exact enterServing_kept hkept hI h
  | popMutation => exact popMutation_kept hkept hI h
  | deferResponse => exact deferResponse_kept hkept hI h
  | finishEffect => exact finishEffect_kept hkept hI h
  | returnResponse response => exact returnResponse_kept hkept hI h
  | failBootstrap => exact failBootstrap_kept hkept hI h
  | completeMutation => exact completeMutation_kept hkept hI h
  | releaseQueue =>
    simp only [perform] at h
    split at h
    · rename_i m hprogress
      cases h
      exact hkept _ _ hI (.release m hprogress)
    · cases h
  | beginStop kind =>
    simp only [perform] at h
    split_ifs at h with hstop
    cases h
    exact hkept _ _ hI (.beginStop kind (Option.isNone_iff_eq_none.mp hstop.1) hstop.2)
  | advanceStop => exact advanceStop_kept hkept hI h

end Kept

end ProductionV2Coordinator

end VdeTmux.Daemon
