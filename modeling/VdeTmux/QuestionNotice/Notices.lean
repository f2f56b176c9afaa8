import VdeTmux.QuestionNotice.Sidecar

/-!
# Issuing, answering and acknowledging questions

The operations on the notices and the files they are saved to. What is decided by the clock or by
the disk is an argument: the instant of the call, and where a save fails if it fails.
-/

open Foundation VdeTmux.Pane
namespace VdeTmux.QuestionNotice

inductive NoticeDisposition
  | applied
  | duplicate
  | rejected
deriving DecidableEq

inductive NoticeDurability
  | persisted
  | memoryOnly
deriving DecidableEq

structure NoticeResult where
  disposition : NoticeDisposition
  durability : Option NoticeDurability
  reason : Option NoticeReason
deriving DecidableEq

def NoticeResult.reject (reason : NoticeReason) : NoticeResult := ⟨.rejected, none, some reason⟩

def NoticeResult.saved (disposition : NoticeDisposition) (persisted : Bool) : NoticeResult where
  disposition := disposition
  durability := some (if persisted then .persisted else .memoryOnly)
  reason := if persisted then none else some .persistencePending

def ReplyEvidence.valid (items : List String) : Bool :=
  !items.isEmpty && items.length ≤ maxItems && decide items.Nodup && items.all validDigest

structure World where
  notices : QuestionNotices
  files : Files

namespace QuestionNotices

def bind (n : QuestionNotices) (pane : PaneInstance) (process : AgentProcessIdentity) :
    QuestionNotices :=
  if pane ∈ n.bound ∨ n.bound.size < maxOwners then { n with bound := n.bound.insert pane process }
  else n

def reject (n : QuestionNotices) (pane : PaneInstance) (reason : NoticeReason) :
    NoticeResult × QuestionNotices :=
  (.reject reason,
    if pane ∈ n.diagnostics ∨ n.diagnostics.size < maxOwners then
      { n with diagnostics := n.diagnostics.insert pane reason }
    else n)

def retryDue (n : QuestionNotices) (now : ℕ) : Bool :=
  !(n.lastWriteAttempt.any fun attempt => now - attempt < retryInterval)

def keyCount (n : QuestionNotices) : ℕ := Maps.total n.owners fun _ owner => owner.seen.size

def callCount (n : QuestionNotices) : ℕ := Maps.total n.replyCalls fun _ calls => calls.size

def replyCount (n : QuestionNotices) (owner : String) : ℕ :=
  (n.replyItems.filter fun key _ => key.1 = owner).size

section
variable [Sha256]

def itemDigests (call : String) (count : ℕ) : StringSet :=
  .ofList ((List.range count).map (itemDigest call))

def registerReplyItems (n : QuestionNotices) (owner : String) (order : ℕ) (session call : String)
    (count : ℕ) : QuestionNotices :=
  if owner ∈ n.replyBlockedOwners ∨ ¬(n.owners[owner]?.any fun state =>
      state.acknowledgedOrder < order && order = state.latestOrder) = true then n
  else
    let session := identifierDigest session
    let called := callDigest session call
    if (n.replyCalls[owner]?.any fun calls => calls.contains called) = true then
      { n with
        replyItems := n.replyItems.filter fun key items =>
          key.1 ≠ owner || items.session ≠ session ||
            (items.items.toList.all fun id => !(itemDigests call maxIssuedItems).contains id)
        dirty := true }
    else if maxKeys ≤ n.callCount ∨
        (n.replyCalls[owner]?.any fun calls => maxKeysPerOwner ≤ calls.size) = true then
      { n with
        replyBlockedOwners := n.replyBlockedOwners.insert owner
        replyItems := n.replyItems.filter fun key _ => key.1 ≠ owner
        dirty := true }
    else
      let n := { n with
        replyCalls := n.replyCalls.insert owner ((n.replyCalls[owner]?.getD ∅).insert called)
        dirty := true }
      if count = 0 ∨ maxIssuedItems < count ∨ maxTextNotices ≤ n.replyItems.size ∨
          maxTextNoticesPerOwner ≤ n.replyCount owner then n
      else
        { n with
          replyItems := n.replyItems.insert (owner, order)
            ⟨session, itemDigests call count, itemDigests call count⟩ }

end

def inRange (owner : String) (state : QuestionNoticeState) (key : String × ℕ) : Bool :=
  key.1 = owner && state.acknowledgedOrder + 1 ≤ key.2 && key.2 ≤ state.latestOrder

def boundOrder (n : QuestionNotices) (owner session : String) (state : QuestionNoticeState)
    (id : String) : Option ℕ :=
  (n.replyItems.toList.find? fun entry =>
    inRange owner state entry.1 && entry.2.session = session &&
      entry.2.items.contains id).map fun entry => entry.1.2

def matchReplyOrders (n : QuestionNotices) (pane : PaneInstance) (owner session : String)
    (reply : List String) : Except String (List ℕ) :=
  if ReplyEvidence.valid reply = false ∨ n.invalidSidecar = true then
    .error "invalid_reply_evidence"
  else
    match n.owners[owner]?.filter fun state => state.pane = pane with
    | none => .error "stale_notice_owner"
    | some notice =>
      if notice.latestOrder ≤ notice.acknowledgedOrder then .error "unknown_reply_item"
      else
        match reply.mapM (n.boundOrder owner session notice) with
        | none => .error "unknown_reply_item"
        | some orders => .ok orders

/-- Takes the ids out of the pending sets of their orders. -/
def answer (owner : String) (acknowledged : ℕ) (items : ReplyMap) : List (String × ℕ) → ReplyMap
  | [] => items
  | (id, order) :: rest =>
    answer owner acknowledged
      (if order ≤ acknowledged then items
        else items.modify (owner, order) fun entry =>
          { entry with pending := entry.pending.erase id }) rest

def answeredFrom (owner : String) (items : ReplyMap) : ℕ → ℕ → ℕ
  | 0, through => through
  | n + 1, through =>
    if (items[(owner, through + 1)]?.any fun entry => entry.pending.isEmpty) = true then
      answeredFrom owner items n (through + 1)
    else through

end QuestionNotices

namespace World

def persistCommitUntil (w : World) (deadline : Option ℕ) (now : ℕ) (io : SaveIo) :
    CommitResult × World :=
  let n := { w.notices with lastWriteAttempt := some now }
  match n.save w.files deadline io with
  | (.preCommitFailed, files) => (.preCommitFailed, ⟨n, files⟩)
  | (.committed, files) =>
    (.committed,
      ⟨{ n with
          dirty := false
          memoryOnly := ∅
          diagnostics := n.diagnostics.filter fun _ reason => reason ≠ .persistencePending
          lastWriteAttempt := none }, files⟩)
  | (.committedDurabilityUnknown, files) =>
    (.committedDurabilityUnknown, ⟨{ n with dirty := false, lastWriteAttempt := none }, files⟩)

def persist (w : World) (now : ℕ) (io : SaveIo) : Bool × World :=
  let (result, w) := w.persistCommitUntil none now io
  (result = .committed, w)

def reject (w : World) (pane : PaneInstance) (reason : NoticeReason) : NoticeResult × World :=
  let (result, n) := w.notices.reject pane reason
  (result, { w with notices := n })

def duplicate (w : World) (owner key : String) (now : ℕ) (io : SaveIo) : NoticeResult × World :=
  let w := if (owner, key) ∈ w.notices.memoryOnly then (w.persist now io).2 else w
  (.saved .duplicate (!(w.notices.memoryOnly.contains (owner, key))), w)

section
variable [Sha256]

/-- The notices with one more question of the owner. -/
def record (n : QuestionNotices) (pane : PaneInstance) (process : AgentProcessIdentity)
    (owner key session tool : String) (now : ℤ) (itemCount : Option ℕ) : QuestionNotices :=
  let state := n.owners[owner]?.getD ⟨pane, process, owner, 0, 0, now, ∅⟩
  let issued := { state with
    latestOrder := state.latestOrder + 1
    lastIssuedAt := now
    seen := state.seen.insert key }
  let n := { n with
    memoryOnly := n.memoryOnly.insert (owner, key)
    resolver := n.resolver.cancel owner
    owners := n.owners.insert owner issued }
  let n :=
    match itemCount with
    | none => n
    | some count => n.registerReplyItems owner issued.latestOrder session tool count
  { n with diagnostics := n.diagnostics.erase pane, dirty := true }

def issueWithItems (w : World) (pane : PaneInstance) (process : AgentProcessIdentity)
    (session turn tool : String) (issuedAt : ℤ) (itemCount : Option ℕ) (now : ℕ) (io : SaveIo) :
    NoticeResult × World :=
  let w : World := { w with notices := w.notices.bind pane process }
  if w.notices.invalidSidecar = true then w.reject pane .invalidSidecar
  else
    let key := noticeKey session turn tool
    let owner := ownerRef w.notices.serverHash pane process
    if (w.notices.owners[owner]?.any fun state => state.seen.contains key) = true then
      w.duplicate owner key now io
    else if maxKeys ≤ w.notices.keyCount ∨
        (w.notices.owners[owner]?.any fun state =>
          maxKeysPerOwner ≤ state.seen.size || state.latestOrder = u64Max) = true ∨
        (owner ∉ w.notices.owners ∧ maxOwners ≤ w.notices.owners.size) then
      w.reject pane .capacityExceeded
    else
      let w : World := { w with
        notices := record w.notices pane process owner key session tool issuedAt itemCount }
      -- a disk that failed is left alone for a while
      if w.notices.retryDue now = true then
        let (persisted, w) := w.persist now io
        (.saved .applied persisted, w)
      else (.saved .applied false, w)

end

def settle (w : World) (owner : String) (through : ℕ) : World :=
  { w with
    notices := { w.notices with
      resolver := w.notices.resolver.acknowledged owner through
      replyItems := w.notices.replyItems.filter fun key _ => key.1 ≠ owner || through < key.2 } }

def diagnose (w : World) (pane : PaneInstance) (reason : NoticeReason) : World :=
  { w with notices := { w.notices with diagnostics := w.notices.diagnostics.insert pane reason } }

def undiagnose (w : World) (pane : PaneInstance) : World :=
  { w with notices := { w.notices with diagnostics := w.notices.diagnostics.erase pane } }

def acknowledgeUntil (w : World) (pane : PaneInstance) (owner : String) (through : ℕ)
    (deadline : Option ℕ) (now : ℕ) (io : SaveIo) : Except String Bool × World :=
  if w.notices.invalidSidecar = true then (.error "invalid_sidecar", w)
  else
    let w := { w with
      notices := { w.notices with resolver := w.notices.resolver.cancel owner } }
    match w.notices.owners[owner]?.filter fun state => state.pane = pane with
    | none => (.error "stale_notice_owner", w)
    | some state =>
      if state.latestOrder < through then (.error "future_notice_order", w)
      else if through ≤ state.acknowledgedOrder then (.ok false, w)
      else
        let advanced := { w with
          notices := { w.notices with
            owners := w.notices.owners.insert owner { state with acknowledgedOrder := through } } }
        match advanced.persistCommitUntil deadline now io with
        | (.preCommitFailed, w') =>
          (.error "persistence_pending",
            { w' with
                notices := { w'.notices with
                  owners := w'.notices.owners.insert owner state
                  dirty := w.notices.dirty
                  lastWriteAttempt := w.notices.lastWriteAttempt } }
              |>.diagnose pane .persistencePending)
        | (.committedDurabilityUnknown, w') =>
          (.ok true, (w'.diagnose pane .questionAckDirectoryFsyncFailed).settle owner through)
        | (.committed, w') => (.ok true, (w'.undiagnose pane).settle owner through)

def withItems (w : World) (items : ReplyMap) : World :=
  { w with notices := { w.notices with replyItems := items } }

def saveAnswers (w : World) (pane : PaneInstance) (answered before : ReplyMap) (deadline now : ℕ)
    (io : SaveIo) : Except String Bool × World :=
  match (w.withItems answered).persistCommitUntil (some deadline) now io with
  | (.preCommitFailed, w') =>
    (.error "persistence_pending",
      { w' with
          notices := { w'.notices with
            replyItems := w'.notices.replyItems ∪ before
            dirty := w.notices.dirty
            lastWriteAttempt := w.notices.lastWriteAttempt } }
        |>.diagnose pane .persistencePending)
  | (.committedDurabilityUnknown, w') =>
    (.ok false, w'.diagnose pane .questionAckDirectoryFsyncFailed)
  | (.committed, w') => (.ok false, w'.undiagnose pane)

def acknowledgeReplyOrders (w : World) (pane : PaneInstance) (owner session : String)
    (reply : List String) (orders : List ℕ) (deadline now : ℕ) (io : SaveIo) :
    Except String Bool × World :=
  if deadline - now < replyCommitReserve then (.error "reply_deadline", w)
  else if ReplyEvidence.valid reply = false ∨ orders.length ≠ reply.length ∨ 0 ∈ orders ∨
      w.notices.invalidSidecar = true then
    (.error "invalid_reply_evidence", w)
  else
    match w.notices.owners[owner]?.filter fun state => state.pane = pane with
    | none => (.error "stale_notice_owner", w)
    | some notice =>
      if notice.latestOrder ≤ notice.acknowledgedOrder then (.ok false, w)
      -- what was acknowledged while the reply waited is never bound again
      else if (orders.all fun order => order ≤ notice.acknowledgedOrder) = true then (.ok false, w)
      else
        let before := w.notices.replyItems.filter fun key _ =>
          QuestionNotices.inRange owner notice key
        if ((reply.zip orders).any fun p =>
            notice.acknowledgedOrder < p.2 && !(before[(owner, p.2)]?.any fun entry =>
              entry.session = session && entry.items.contains p.1)) = true then
          (.error "unknown_reply_item", w)
        else
          let answered := QuestionNotices.answer owner notice.acknowledgedOrder
            w.notices.replyItems (reply.zip orders)
          let through := QuestionNotices.answeredFrom owner answered
            (notice.latestOrder - notice.acknowledgedOrder) notice.acknowledgedOrder
          if through = notice.acknowledgedOrder then
            if (answered.toList.any fun entry => QuestionNotices.inRange owner notice entry.1 &&
                before[entry.1]?.any fun old => old.pending ≠ entry.2.pending) = true then
              w.saveAnswers pane answered before deadline now io
            else (.ok false, w.withItems answered)
          else
            match (w.withItems answered).acknowledgeUntil pane owner through (some deadline) now io with
            | (.ok changed, w') => (.ok changed, w')
            | (.error error, w') => (.error error, w'.withItems (w'.notices.replyItems ∪ before))

def reconcile (w : World) (alive boundAlive : PaneInstance → AgentProcessIdentity → Bool)
    (now : ℕ) (io : SaveIo) : Bool × World :=
  let n := w.notices
  let owners := n.owners.filter fun _ owner => alive owner.pane owner.process
  let dead := n.owners.keys.filter fun owner => !owners.contains owner
  let removed := decide (n.owners.size ≠ owners.size)
  let n : QuestionNotices := { n with
    owners := owners
    resolver := dead.foldl Resolver.invalidateOwner n.resolver
    memoryOnly := n.memoryOnly.filter fun p => owners.contains p.1
    replyItems := n.replyItems.filter fun key _ => owners.contains key.1
    replyCalls := n.replyCalls.filter fun owner _ => owners.contains owner
    replyBlockedOwners := n.replyBlockedOwners.filter fun owner => owners.contains owner
    bound := n.bound.filter boundAlive
    dirty := n.dirty || removed }
  let w := { w with notices := n }
  if n.dirty = true ∧ n.retryDue now = true then
    let w' := (w.persist now io).2
    (removed || n.dirty != w'.notices.dirty, w')
  else (removed, w)

end World

inductive NoticeOp
  | issue (pane : PaneInstance) (process : AgentProcessIdentity) (session turn tool : String)
      (issuedAt : ℤ) (itemCount : Option ℕ) (now : ℕ) (io : SaveIo)
  | acknowledge (pane : PaneInstance) (owner : String) (through : ℕ) (deadline : Option ℕ)
      (now : ℕ) (io : SaveIo)
  | reply (pane : PaneInstance) (owner session : String) (reply : List String) (orders : List ℕ)
      (deadline now : ℕ) (io : SaveIo)
  | reconcile (alive boundAlive : PaneInstance → AgentProcessIdentity → Bool) (now : ℕ)
      (io : SaveIo)
  | restart

def World.perform [Sha256] [SnapshotReader] (w : World) : NoticeOp → World
  | .issue pane process session turn tool issuedAt itemCount now io =>
    (w.issueWithItems pane process session turn tool issuedAt itemCount now io).2
  | .acknowledge pane owner through deadline now io =>
    (w.acknowledgeUntil pane owner through deadline now io).2
  | .reply pane owner session reply orders deadline now io =>
    (w.acknowledgeReplyOrders pane owner session reply orders deadline now io).2
  | .reconcile alive boundAlive now io => (w.reconcile alive boundAlive now io).2
  | .restart => { w with notices := w.files.open w.notices.serverHash }

def World.Step [Sha256] [SnapshotReader] (w : World) (operation : NoticeOp) (w' : World) : Prop :=
  w.perform operation = w'

/-- The world at the first start of the daemon. -/
def World.start (serverHash : String) : World := ⟨{ serverHash := serverHash }, {}⟩

end VdeTmux.QuestionNotice
