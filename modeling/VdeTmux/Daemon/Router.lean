import Mathlib.Tactic.Common
import VdeTmux.Pane.Model

/-!
# The router

How a request is turned into a response, a query or a sequenced mutation. Before the daemon serves,
accepted mutations wait in the bootstrap FIFO. Of a request only what the router reads is kept.
-/

open Foundation VdeTmux.Pane
namespace VdeTmux.Daemon

def protocolVersion : ℕ := 35

def v2BootstrapFifoCapacity : ℕ := 64

inductive DaemonPhase
  | installingHooks
  | hydrating
  | serving
deriving DecidableEq

def DaemonPhase.debug : DaemonPhase → String
  | .installingHooks => "InstallingHooks"
  | .hydrating => "Hydrating"
  | .serving => "Serving"

inductive HookHealth
  | healthy
  | degraded
deriving DecidableEq

/-- The codes the router and the coordinator answer with themselves. -/
inductive RouterErrorCode
  | unsupportedProtocol
  | invalidRequest
  | invalidPaneInstance
  | staleDaemonInstance
  | notReady
  | queueFull
  | internalError
deriving DecidableEq

/-- A response; `outcome` is whatever else a mutation or a query is answered with. -/
inductive RouterMessage
  | helloAck (proto : ℕ) (daemonInstanceId : DaemonInstanceId) (serverIdentity : String)
      (phase : DaemonPhase) (hookHealth : HookHealth)
  | error (code : RouterErrorCode) (message : String) (eventId : Option EventId)
  | viewQueued (eventId : EventId) (acceptedSeq : ℕ)
  | shutdownAccepted (eventId : EventId) (acceptedSeq : ℕ)
  | outcome (body : String)
deriving DecidableEq

inductive MutationKind
  | submitViewEvent
  | sidebarCommand
  | shutdown
  | other (name : String)
deriving DecidableEq

/-- A request; `refusal` is the error `validate_v2_origin` has for it. -/
inductive ClientMessage
  | hello (proto : ℕ)
  | query (proto : ℕ) (name : String)
  | mutation (proto : ℕ) (daemonInstanceId : DaemonInstanceId) (eventId : EventId)
      (kind : MutationKind) (refusal : Option RouterMessage)
deriving DecidableEq

namespace ClientMessage

def proto : ClientMessage → ℕ
  | hello proto | query proto _ | mutation proto _ _ _ _ => proto

def mutationInstanceId : ClientMessage → Option DaemonInstanceId
  | mutation _ daemonInstanceId _ _ _ => some daemonInstanceId
  | _ => none

def eventId : ClientMessage → Option EventId
  | mutation _ _ eventId _ _ => some eventId
  | _ => none

def isMutation (message : ClientMessage) : Bool :=
  message.mutationInstanceId.isSome

def isQuery : ClientMessage → Bool
  | query _ _ => true
  | _ => false

def kind : ClientMessage → Option MutationKind
  | mutation _ _ _ kind _ => some kind
  | _ => none

def isView (message : ClientMessage) : Bool :=
  message.kind = some .submitViewEvent

def validateV2Origin : ClientMessage → Except RouterMessage Unit
  | mutation _ _ _ _ (some refusal) => .error refusal
  | _ => .ok ()

end ClientMessage

/-- What the sidebar worker found out, with the answer to the command that asked for it. -/
structure SidebarEffectCompletion where
  originalAcceptedSeq : ℕ
  originalResponse : RouterMessage
deriving DecidableEq

inductive V2InternalMutation
  | refreshTopology
  | reconcileViews
  | targetedPaneRefresh (paneId : String)
  | diagnosticProjection (message : String)
  | sidebarEffectCompleted (completion : SidebarEffectCompletion)
  | other (name : String)
deriving DecidableEq

inductive V2AcceptedMutation
  | external (message : ClientMessage)
  | internal (mutation : V2InternalMutation)
deriving DecidableEq

structure V2SequencedMutation where
  acceptedSeq : ℕ
  mutation : V2AcceptedMutation
deriving DecidableEq

structure V2ConnectionState where
  helloComplete : Bool := false
deriving DecidableEq

inductive V2Route
  | response (message : RouterMessage)
  | fatal (message : RouterMessage)
  | query (message : ClientMessage)
  | mutation (sequenced : V2SequencedMutation)
  | queued (acceptedSeq : ℕ)
  | droppedInternal
deriving DecidableEq

structure V2Router where
  daemonInstanceId : DaemonInstanceId
  serverIdentity : String
  phase : DaemonPhase := .installingHooks
  hookHealth : HookHealth := .healthy
  nextAcceptedSeq : ℕ := 1
  bootstrapFifo : List V2SequencedMutation := []
  fatal : Bool := false
deriving DecidableEq

namespace V2Router

def beginHydration (r : V2Router) : Except String V2Router :=
  if r.phase = .installingHooks then .ok { r with phase := .hydrating }
  else .error "daemon may enter hydration only after hook installation"

def markFatal (r : V2Router) : V2Router :=
  { r with fatal := true }

def allocateAcceptedSeq (r : V2Router) : Option ℕ × V2Router :=
  if r.nextAcceptedSeq < u64Max then
    (some r.nextAcceptedSeq, { r with nextAcceptedSeq := r.nextAcceptedSeq + 1 })
  else (none, { r with fatal := true })

def protocolRequirementMessage : String :=
  s!"protocol version {protocolVersion} is required"

def enqueue (r : V2Router) (message : ClientMessage) : V2Route × V2Router :=
  if r.phase ≠ .serving ∧ v2BootstrapFifoCapacity ≤ r.bootstrapFifo.length then
    (.response (.error .queueFull "bootstrap FIFO is full" message.eventId), r)
  else
    match r.allocateAcceptedSeq with
    | (none, r) => (.fatal (.error .internalError "accepted sequence overflow" message.eventId), r)
    | (some acceptedSeq, r) =>
      let sequenced : V2SequencedMutation := ⟨acceptedSeq, .external message⟩
      if r.phase = .serving then (.mutation sequenced, r)
      else
        let queued : V2Router := { r with bootstrapFifo := r.bootstrapFifo ++ [sequenced] }
        match message.isView, message.eventId with
        | true, some eventId => (.response (.viewQueued eventId acceptedSeq), queued)
        | _, _ => (.queued acceptedSeq, queued)

/-- The route of a request of a connection that has said hello, to this very daemon. -/
def dispatch (r : V2Router) (message : ClientMessage) : V2Route × V2Router :=
  match message.validateV2Origin with
  | .error refusal => (.response refusal, r)
  | .ok () =>
    if message.isQuery then
      if r.phase ≠ .serving then
        (.response (.error .notReady s!"daemon phase is {r.phase.debug}" none), r)
      else (.query message, r)
    else if message.isMutation = false then
      (.response (.error .invalidRequest "unsupported message" none), r)
    else r.enqueue message

def route (r : V2Router) (connection : V2ConnectionState) (message : ClientMessage) :
    V2Route × V2ConnectionState × V2Router :=
  if r.fatal then
    (.fatal (.error .internalError "daemon router is fail-stopped" message.eventId), connection, r)
  else if connection.helloComplete = false then
    match message with
    | .hello proto =>
      if proto = protocolVersion then
        (.response (.helloAck protocolVersion r.daemonInstanceId r.serverIdentity r.phase
          r.hookHealth), { connection with helloComplete := true }, r)
      else
        (.response (.error .unsupportedProtocol protocolRequirementMessage none), connection, r)
    | _ => (.response (.error .invalidRequest "Hello must be the first message on a connection" none),
        connection, r)
  else if message.proto ≠ protocolVersion then
    (.response (.error .unsupportedProtocol protocolRequirementMessage message.eventId),
      connection, r)
  else if message matches .hello _ then
    (.response (.error .invalidRequest "Hello may only be sent once" message.eventId),
      connection, r)
  else if message.mutationInstanceId.any (· ≠ r.daemonInstanceId) then
    (.response (.error .staleDaemonInstance "mutation targets a stale daemon instance"
      message.eventId), connection, r)
  else ((r.dispatch message).1, connection, (r.dispatch message).2)

def takeBootstrapFifo (r : V2Router) : List V2SequencedMutation × V2Router :=
  (r.bootstrapFifo, { r with bootstrapFifo := [] })

def enterServingIfBootstrapEmpty (r : V2Router) : Bool × V2Router :=
  if r.phase = .hydrating ∧ r.bootstrapFifo = [] then (true, { r with phase := .serving })
  else (false, r)

def acceptInternal (r : V2Router) (mutation : V2InternalMutation) : V2Route × V2Router :=
  if r.fatal then
    (.fatal (.error .internalError "daemon router is fail-stopped" none), r)
  else if r.phase ≠ .serving ∧ v2BootstrapFifoCapacity ≤ r.bootstrapFifo.length then
    (.droppedInternal, r)
  else
    match r.allocateAcceptedSeq with
    | (none, r) => (.fatal (.error .internalError "accepted sequence overflow" none), r)
    | (some acceptedSeq, r) =>
      let sequenced : V2SequencedMutation := ⟨acceptedSeq, .internal mutation⟩
      if r.phase = .serving then (.mutation sequenced, r)
      else (.queued acceptedSeq, { r with bootstrapFifo := r.bootstrapFifo ++ [sequenced] })

end V2Router

end VdeTmux.Daemon
