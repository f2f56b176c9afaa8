import VdeTmux.Foundation.Json
import VdeTmux.Foundation.Maps
import VdeTmux.Foundation.Trace
import VdeTmux.Pane.Model

/-!
# The passive resolver

Which questions may be acknowledged without an answer: sessions are trusted from their start on,
an ordinary input makes a candidate, and the candidate has to pass an order check, a finished run
and two looks at the screen. Counters that only diagnostics read are left out. Instants are
milliseconds.
-/

open Foundation VdeTmux.Pane
namespace VdeTmux.QuestionNotice

def sessionLimit : ℕ := 4096
def sessionIngressLimit : ℕ := 4096
def ingressLimit : ℕ := 65536
def armedLimit : ℕ := 24 * 60 * 60 * 1000
def probeLimit : ℕ := 1500
def settleDelay : ℕ := 150
def sampleDelay : ℕ := 300
def recoveryDelay : ℕ := 250
def sampleLimit : ℕ := 3

inductive InputClass
  | ordinaryPrompt
  | nonAuthoritativeInput
deriving DecidableEq

inductive SessionSource
  | startup
  | resume
  | clear
  | fork
  | compact
  | unknown
deriving DecidableEq

inductive CodexProfile
  | v01551
  | v01561
  | v01593
  | v01600
  | unknown
deriving DecidableEq

structure ExecutableFingerprint where
  dev : ℕ
  ino : ℕ
  size : ℕ
  mtimeSec : ℤ
  mtimeNsec : ℤ
  ctimeSec : ℤ
  ctimeNsec : ℤ
deriving DecidableEq

structure ProfileRequest where
  process : AgentProcessIdentity
  executable : ExecutableFingerprint
deriving DecidableEq

structure TranscriptLocator where
  home : String
  transcript : String
  dev : ℕ
  ino : ℕ
deriving DecidableEq

def TranscriptLocator.homeDigest [Sha256] (locator : TranscriptLocator) : String :=
  sha256Hex (utf8 (Json.quote locator.home))

structure Binding where
  owner : String
  pane : PaneInstance
  process : AgentProcessIdentity
  executable : ProfileRequest
  profile : CodexProfile
  locator : TranscriptLocator
deriving DecidableEq

def sameOwner (a b : Binding) : Bool :=
  a.owner = b.owner && a.pane = b.pane && a.process = b.process && a.executable = b.executable &&
    a.profile = b.profile

inductive Trust
  | trusted
  | historyUnknown
deriving DecidableEq

structure Session where
  trust : Trust
  binding : Option Binding
  epoch : ℕ
  ingresses : List String
deriving DecidableEq

def Session.distrust (session : Session) : Session := { session with trust := .historyUnknown }

structure Order where
  session : String
  turn : String
  generation : ℕ
  resolved : Bool
  home : String
  epoch : ℕ
deriving DecidableEq

inductive CandidateStage
  | checkingOrder
  | armed
  | probing
deriving DecidableEq

structure Fence where
  generation : ℕ
  ingress : String
  binding : Binding
  home : String
  session : String
  turn : String
  epoch : ℕ
  acknowledged : ℕ
  latest : ℕ
deriving DecidableEq

structure Candidate where
  eligibleRun : Option String
  lastEvaluatedProjection : Option String
  fence : Fence
  stage : CandidateStage
  through : ℕ
  created : ℕ
  deadline : ℕ
  nextSample : Option ℕ
  samples : ℕ
  consecutiveNormal : ℕ
  probeId : ℕ
  pending : Bool
deriving DecidableEq

namespace Candidate

def sampleDue (candidate : Candidate) (now : ℕ) : Bool :=
  candidate.stage = .probing && !candidate.pending &&
    (candidate.nextSample.any fun due => due ≤ now) && candidate.samples < sampleLimit

def probe (candidate : Candidate) : Candidate :=
  { candidate with
    samples := candidate.samples + 1
    probeId := candidate.probeId + 1
    pending := true
    nextSample := none }

/-- What a tick makes of a candidate: past its deadline it is dropped. -/
def tick (candidate : Candidate) (now : ℕ) : Option Candidate :=
  if candidate.deadline ≤ now then none
  else if candidate.sampleDue now then some candidate.probe
  else some candidate

end Candidate

inductive Sample
  | matchedQuestion
  | activeQuestion
  | normalComposer
  | ambiguous
deriving DecidableEq

structure OrderCheck where
  fence : Fence
  issuedTurns : List String
deriving DecidableEq

structure NoticeFence where
  acknowledged : ℕ
  latest : ℕ
deriving DecidableEq

structure JournalView where
  epoch : ℕ
  veto : Bool
  sessionDirty : Bool
deriving DecidableEq

structure Resolver where
  generation : ℕ := 1
  nextCandidate : ℕ := 0
  disabled : Bool := false
  sessions : Std.ExtTreeMap (String × String) Session Maps.lex := ∅
  orders : Std.ExtTreeMap (String × ℕ) Order Maps.lex := ∅
  candidates : Std.ExtTreeMap String Candidate := ∅
  totalIngresses : ℕ := 0
  homeFailures : Std.ExtTreeMap String (ℕ × ℕ) := ∅
  nextFailure : ℕ := 0

namespace Resolver

def trust (r : Resolver) (home session : String) : Trust :=
  (r.sessions[(home, session)]?.map Session.trust).getD .historyUnknown

def retainCandidates (r : Resolver) (keep : Candidate → Bool) : Resolver :=
  { r with candidates := r.candidates.filter fun _ candidate => keep candidate }

def disable (r : Resolver) : Resolver := { r with disabled := true, candidates := ∅ }

def cancel (r : Resolver) (owner : String) : Resolver :=
  { r with candidates := r.candidates.erase owner }

def unknown (r : Resolver) (home session : String) : Resolver :=
  match r.sessions[(home, session)]? with
  | none =>
    if sessionLimit ≤ r.sessions.size then r.disable
    else
      { r with sessions := r.sessions.insert (home, session) ⟨.historyUnknown, none, 0, []⟩ }
        |>.retainCandidates fun c => c.fence.home ≠ home || c.fence.session ≠ session
  | some state =>
    { r with sessions := r.sessions.insert (home, session) state.distrust }
      |>.retainCandidates fun c => c.fence.home ≠ home || c.fence.session ≠ session

def journalFailed (r : Resolver) (home session : Option String) (now : ℕ) : Resolver :=
  match home, session with
  | none, _ => r.disable
  | some home, some session => r.unknown home session
  | some home, none =>
    if ¬home ∈ r.homeFailures ∧ sessionLimit ≤ r.homeFailures.size then r.disable
    else
      let ticket := min (r.nextFailure + 1) u64Max
      { r with
          nextFailure := ticket
          homeFailures := r.homeFailures.insert home (ticket, now) }
        |>.retainCandidates fun c => c.fence.home ≠ home

def rootMismatch (r : Resolver) (home : String) (now : ℕ) : Resolver :=
  if home ∈ r.homeFailures then r else r.journalFailed (some home) none now

/-- The homes whose recovery may be tried now; each is put off until the next try. -/
def recoveryDue (r : Resolver) (now : ℕ) : List (String × ℕ) × Resolver :=
  ((r.homeFailures.toList.filter fun p => p.2.2 ≤ now).map fun p => (p.1, p.2.1),
    { r with
        homeFailures := r.homeFailures.map fun _ p =>
          if now < p.2 then p else (p.1, now + recoveryDelay) })

def recovered (r : Resolver) (home : String) (ticket : ℕ) : Resolver :=
  if r.homeFailures[home]?.map Prod.fst = some ticket then
    { r with
        homeFailures := r.homeFailures.erase home
        sessions := r.sessions.map fun key (session : Session) =>
          if key.1 = home then session.distrust else session }
      |>.retainCandidates fun c => c.fence.home ≠ home
  else r

def invalidateOwner (r : Resolver) (owner : String) : Resolver :=
  { r.cancel owner with
    sessions := r.sessions.map fun _ session =>
      if session.binding.any fun binding => binding.owner = owner then session.distrust
      else session }

def startOver (r : Resolver) (source : SessionSource) (binding : Option Binding) : Resolver :=
  match binding with
  | none => r
  | some binding =>
    if source = .startup then r.cancel binding.owner
    else (r.cancel binding.owner).invalidateOwner binding.owner

def startTrust (source : SessionSource) (binding : Option Binding) (journal : JournalView)
    (verified : Bool) : Trust :=
  if source = .startup ∧ verified = true ∧ binding.isSome = true ∧ journal.sessionDirty = false then
    .trusted
  else .historyUnknown

def sessionStart (r : Resolver) (home session : String) (source : SessionSource)
    (binding : Option Binding) (journal : JournalView) (verified : Bool) : Resolver :=
  if r.disabled = true ∨ home ∈ r.homeFailures then r
  else
    match r.sessions[(home, session)]? with
    | some existing =>
      let same := existing.binding = binding ∧ binding.isSome = true ∧ verified = true ∧
        existing.epoch = journal.epoch ∧ journal.sessionDirty = false
      if ¬same ∨ ¬(source = .startup ∨ source = .compact) then r.unknown home session else r
    | none =>
      if sessionLimit ≤ r.sessions.size then r.disable
      else
        let r := r.startOver source binding
        { r with
          sessions := r.sessions.insert (home, session)
            ⟨startTrust source binding journal verified, binding, journal.epoch, []⟩ }

def trusts (r : Resolver) (home session : String) (binding : Binding) (epoch : ℕ) : Bool :=
  r.sessions[(home, session)]?.any fun state =>
    state.trust = .trusted && state.binding = some binding && state.epoch = epoch

def issue (r : Resolver) (binding : Binding) (home session turn : String) (order epoch : ℕ) :
    Resolver :=
  let r := r.cancel binding.owner
  if r.trusts home session binding epoch = true then
    { r with
      orders := r.orders.insert (binding.owner, order)
        ⟨session, turn, r.generation, false, home, epoch⟩ }
  else r.unknown home session

def issuedTurns (r : Resolver) (owner home session turn : String) (epoch : ℕ)
    (notice : NoticeFence) : List String :=
  (r.orders.toList.filter fun p =>
    p.1.1 = owner && notice.acknowledged < p.1.2 && p.1.2 ≤ notice.latest &&
      p.2.session = session && p.2.turn ≠ turn && p.2.generation = r.generation &&
      p.2.home = home && p.2.epoch = epoch).map fun p => p.2.turn

def enroll (r : Resolver) (home session : String) : Resolver :=
  if (home, session) ∈ r.sessions then r else r.unknown home session

def admitInput (r : Resolver) (home session ingress owner : String) (state : Session) : Resolver :=
  { r with
      sessions := r.sessions.insert (home, session)
        { state with ingresses := ingress :: state.ingresses }
      totalIngresses := r.totalIngresses + 1 }
    |>.cancel owner

def newCandidate (fence : Fence) (now : ℕ) : Candidate where
  eligibleRun := none
  lastEvaluatedProjection := none
  fence := fence
  stage := .checkingOrder
  through := fence.acknowledged
  created := now
  deadline := now + probeLimit
  nextSample := none
  samples := 0
  consecutiveNormal := 0
  probeId := 0
  pending := false

def propose (r : Resolver) (binding : Binding) (home session ingress turn : String)
    (notice : NoticeFence) (journal : JournalView) (now : ℕ) : Option OrderCheck × Resolver :=
  let turns := r.issuedTurns binding.owner home session turn journal.epoch notice
  if turns.isEmpty then (none, r)
  else if u64Max ≤ r.nextCandidate then (none, r.disable)
  else
    let fence := ⟨r.nextCandidate + 1, ingress, binding, home, session, turn, journal.epoch,
      notice.acknowledged, notice.latest⟩
    (some ⟨fence, turns⟩,
      { r with
        nextCandidate := r.nextCandidate + 1
        candidates := r.candidates.insert binding.owner (newCandidate fence now) })

def ordinary [Sha256] (r : Resolver) (class_ : InputClass) (binding : Binding)
    (session ingress turn : String) (notice : NoticeFence) (journal : JournalView) (now : ℕ) :
    Option OrderCheck × Resolver :=
  if class_ = .nonAuthoritativeInput then (none, r)
  else if r.disabled = true then (none, r)
  else
    let home := binding.locator.homeDigest
    let r := r.enroll home session
    match r.sessions[(home, session)]? with
    | none => (none, r)
    | some state =>
      if ingress ∈ state.ingresses then (none, r)
      -- nothing is cancelled for an input the session has no room for
      else if sessionIngressLimit ≤ state.ingresses.length then (none, r.unknown home session)
      else if ingressLimit ≤ r.totalIngresses then (none, r.disable)
      else
        let valid := state.trust = .trusted ∧ state.binding = some binding ∧
          state.epoch = journal.epoch
        let r := r.admitInput home session ingress binding.owner state
        if ¬valid then (none, r.unknown home session)
        else if home ∈ r.homeFailures ∨ journal.veto = true ∨ notice.latest ≤ notice.acknowledged then
          (none, r)
        else r.propose binding home session ingress turn notice journal now

def fenceCurrent (r : Resolver) (fence : Fence) : Bool :=
  !r.disabled && !r.homeFailures.contains fence.home &&
    (r.candidates[fence.binding.owner]?.any fun candidate => candidate.fence = fence) &&
    r.trusts fence.home fence.session fence.binding fence.epoch

/-- An order of the prefix: resolved, and issued by a session of the owner that is still trusted. -/
def settled (r : Resolver) (fence : Fence) (order : Order) : Bool :=
  order.resolved && order.generation = r.generation && order.home = fence.home &&
    order.epoch = fence.epoch && r.sessions[(order.home, order.session)]?.any fun state =>
      state.trust = .trusted && state.epoch = fence.epoch &&
        state.binding.any fun binding => sameOwner binding fence.binding

def prefixFrom (r : Resolver) (fence : Fence) : ℕ → ℕ → ℕ
  | 0, through => through
  | n + 1, through =>
    if r.orders[(fence.binding.owner, through + 1)]?.any (r.settled fence) then
      prefixFrom r fence n (through + 1)
    else through

def resolvedPrefix (r : Resolver) (fence : Fence) : ℕ :=
  r.prefixFrom fence (fence.latest - fence.acknowledged) fence.acknowledged

def resolves (r : Resolver) (check : OrderCheck) (proven : List String) (key : String × ℕ)
    (order : Order) : Bool :=
  key.1 = check.fence.binding.owner && check.fence.acknowledged < key.2 &&
    key.2 ≤ check.fence.latest && order.session = check.fence.session &&
    order.home = check.fence.home && order.epoch = check.fence.epoch &&
    order.generation = r.generation && order.turn ≠ check.fence.turn &&
    proven.contains order.turn && check.issuedTurns.contains order.turn

def resolveOrders (r : Resolver) (check : OrderCheck) (proven : List String) : Resolver :=
  { r with
    orders := r.orders.map fun key order =>
      if r.resolves check proven key order then { order with resolved := true } else order }

def checked (r : Resolver) (check : OrderCheck) (proven : List String) (now : ℕ) :
    Bool × Resolver :=
  if r.fenceCurrent check.fence = false then (false, r)
  else
    match r.candidates[check.fence.binding.owner]? with
    | none => (false, r)
    | some candidate =>
      if candidate.stage ≠ .checkingOrder ∨ candidate.deadline ≤ now then
        (false, r.cancel check.fence.binding.owner)
      else
        let r := r.resolveOrders check proven
        let through := r.resolvedPrefix check.fence
        if through = check.fence.acknowledged then (false, r.cancel check.fence.binding.owner)
        else
          (true,
            { r with
              candidates := r.candidates.insert check.fence.binding.owner
                { candidate with
                  through := through
                  stage := .armed
                  created := now
                  deadline := now + armedLimit } })

def eligible (r : Resolver) (owner turn : String) (done interrupted : Bool) (now : ℕ) : Resolver :=
  match r.candidates[owner]? with
  | none => r
  | some candidate =>
    if candidate.fence.turn ≠ turn then r
    else if interrupted = true ∨ candidate.deadline ≤ now then r.cancel owner
    else if candidate.stage = .armed ∧ done = true then
      { r with
        candidates := r.candidates.insert owner
          { candidate with
            stage := .probing
            deadline := now + probeLimit
            nextSample := some (now + settleDelay) } }
    else r

def due (r : Resolver) (now : ℕ) : List (Fence × ℕ) × Resolver :=
  ((r.candidates.toList.filter fun p => now < p.2.deadline && p.2.sampleDue now).map fun p =>
      (p.2.fence, p.2.probeId + 1),
    { r with candidates := r.candidates.filterMap fun _ candidate => candidate.tick now })

def recordEligibility (r : Resolver) (owner run : String) : Resolver :=
  match r.candidates[owner]? with
  | none => r
  | some candidate =>
    if candidate.stage = .probing ∧ candidate.eligibleRun = none then
      { r with candidates := r.candidates.insert owner { candidate with eligibleRun := some run } }
    else r

def recordEvaluatedProjection (r : Resolver) (owner projection : String) : Resolver :=
  match r.candidates[owner]? with
  | none => r
  | some candidate =>
    if candidate.stage = .armed then
      { r with
        candidates := r.candidates.insert owner
          { candidate with lastEvaluatedProjection := some projection } }
    else r

def sample (r : Resolver) (fence : Fence) (probeId : ℕ) (sample : Sample) (now : ℕ) :
    Option ℕ × Resolver :=
  if r.fenceCurrent fence = false then (none, r)
  else
    match r.candidates[fence.binding.owner]? with
    | none => (none, r)
    | some candidate =>
      if candidate.stage ≠ .probing ∨ candidate.probeId ≠ probeId ∨ candidate.pending = false then
        (none, r)
      else if candidate.deadline ≤ now ∨ sample ≠ .normalComposer then
        (none, r.cancel fence.binding.owner)
      else if candidate.consecutiveNormal + 1 = 2 then
        (some candidate.through,
          { r with
            candidates := r.candidates.insert fence.binding.owner
              { candidate with
                consecutiveNormal := candidate.consecutiveNormal + 1
                pending := true } })
      else
        (none,
          { r with
            candidates := r.candidates.insert fence.binding.owner
              { candidate with
                consecutiveNormal := candidate.consecutiveNormal + 1
                pending := false
                nextSample := some (now + sampleDelay) } })

def finalGuard (r : Resolver) (fence : Fence) (through : ℕ) (notice : NoticeFence)
    (journal : JournalView) (now : ℕ) : Bool :=
  r.fenceCurrent fence && notice.latest = fence.latest && notice.acknowledged = fence.acknowledged &&
    journal.epoch = fence.epoch && !journal.veto && r.resolvedPrefix fence = through &&
    r.candidates[fence.binding.owner]?.any fun candidate =>
      candidate.stage = .probing && candidate.consecutiveNormal = 2 && candidate.pending &&
        candidate.through = through && now < candidate.deadline

def acknowledged (r : Resolver) (owner : String) (through : ℕ) : Resolver :=
  { r.cancel owner with
    orders := r.orders.filter fun key _ => key.1 ≠ owner || through < key.2 }

end Resolver

inductive Operation
  | sessionStart (home session : String) (source : SessionSource) (binding : Option Binding)
      (journal : JournalView) (verified : Bool)
  | issue (binding : Binding) (home session turn : String) (order epoch : ℕ)
  | ordinary (class_ : InputClass) (binding : Binding) (session ingress turn : String)
      (notice : NoticeFence) (journal : JournalView) (now : ℕ)
  | checked (check : OrderCheck) (proven : List String) (now : ℕ)
  | eligible (owner turn : String) (done interrupted : Bool) (now : ℕ)
  | due (now : ℕ)
  | recordEligibility (owner run : String)
  | recordEvaluatedProjection (owner projection : String)
  | sample (fence : Fence) (probeId : ℕ) (sample : Sample) (now : ℕ)
  | acknowledged (owner : String) (through : ℕ)
  | cancel (owner : String)
  | invalidateOwner (owner : String)
  | unknown (home session : String)
  | journalFailed (home session : Option String) (now : ℕ)
  | rootMismatch (home : String) (now : ℕ)
  | recoveryDue (now : ℕ)
  | recovered (home : String) (ticket : ℕ)

def Resolver.perform [Sha256] (r : Resolver) : Operation → Resolver
  | .sessionStart home session source binding journal verified =>
    r.sessionStart home session source binding journal verified
  | .issue binding home session turn order epoch => r.issue binding home session turn order epoch
  | .ordinary class_ binding session ingress turn notice journal now =>
    (r.ordinary class_ binding session ingress turn notice journal now).2
  | .checked check proven now => (r.checked check proven now).2
  | .eligible owner turn done interrupted now => r.eligible owner turn done interrupted now
  | .due now => (r.due now).2
  | .recordEligibility owner run => r.recordEligibility owner run
  | .recordEvaluatedProjection owner projection => r.recordEvaluatedProjection owner projection
  | .sample fence probeId sample now => (r.sample fence probeId sample now).2
  | .acknowledged owner through => r.acknowledged owner through
  | .cancel owner => r.cancel owner
  | .invalidateOwner owner => r.invalidateOwner owner
  | .unknown home session => r.unknown home session
  | .journalFailed home session now => r.journalFailed home session now
  | .rootMismatch home now => r.rootMismatch home now
  | .recoveryDue now => (r.recoveryDue now).2
  | .recovered home ticket => r.recovered home ticket

def Resolver.Step [Sha256] (r : Resolver) (operation : Operation) (r' : Resolver) : Prop :=
  r.perform operation = r'

end VdeTmux.QuestionNotice
