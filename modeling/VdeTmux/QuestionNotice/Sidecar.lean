import VdeTmux.Foundation.Json
import VdeTmux.Pane.Runtime
import VdeTmux.QuestionNotice.Resolver

/-!
# The question notices and their sidecar

The state of the notices, the snapshot that is written to disk, and how it is saved and loaded.
Question texts, which are never written, are left out. The notices are those of an opened sidecar;
instants are milliseconds. Only reading the JSON text back is a parameter.
-/

open Foundation VdeTmux.Pane
namespace VdeTmux.QuestionNotice

def maxOwners : ℕ := 512
def maxKeysPerOwner : ℕ := 4096
def maxKeys : ℕ := 65536
def replyCommitReserve : ℕ := 40
def retryInterval : ℕ := 5000
def maxTextNotices : ℕ := 2048
def maxTextNoticesPerOwner : ℕ := 512
def maxBytes : ℕ := 16 * 1024 * 1024
def maxItems : ℕ := 64
def maxIssuedItems : ℕ := 8

abbrev StringSet := Std.ExtTreeSet String

inductive NoticeReason
  | invalidPayload
  | originUnverified
  | ancestorNotInPane
  | ownerUnverified
  | capacityExceeded
  | persistencePending
  | invalidSidecar
  | questionAckDirectoryFsyncFailed
deriving DecidableEq

structure QuestionNoticeState where
  pane : PaneInstance
  process : AgentProcessIdentity
  ownerRef : String
  latestOrder : ℕ
  acknowledgedOrder : ℕ
  lastIssuedAt : ℤ
  seen : StringSet
deriving DecidableEq

structure ReplyItems where
  session : String
  items : StringSet
  pending : StringSet
deriving DecidableEq

abbrev ReplyMap := Std.ExtTreeMap (String × ℕ) ReplyItems Maps.lex

structure QuestionNotices where
  resolver : Resolver := {}
  owners : Std.ExtTreeMap String QuestionNoticeState := ∅
  bound : PaneMap AgentProcessIdentity := ∅
  diagnostics : PaneMap NoticeReason := ∅
  serverHash : String
  invalidSidecar : Bool := false
  dirty : Bool := false
  lastWriteAttempt : Option ℕ := none
  memoryOnly : Std.ExtTreeSet (String × String) Maps.lex := ∅
  replyItems : ReplyMap := ∅
  replyCalls : Std.ExtTreeMap String StringSet := ∅
  replyBlockedOwners : StringSet := ∅

section
variable [Sha256]

def identifierDigest (value : String) : String := sha256Hex (utf8 (Json.quote value))

def callDigest (session call : String) : String := sha256Hex (utf8 (Json.strings [session, call]))

def itemText (call : String) (index : ℕ) : List Char :=
  '[' :: (Json.quoteChars "request_user_input_async" ++
    (',' :: Json.quoteChars call ++ (',' :: Writer.digits index ++ [']'])))

def itemDigest (call : String) (index : ℕ) : String :=
  sha256Hex (utf8 (Json.quote (String.ofList (itemText call index))))

def noticeKey (session turn tool : String) : String :=
  sha256Hex (utf8 (Json.array [Json.quote "codex", Json.strings [session, turn, tool]]))

end

namespace Sidecar
open Writer Json

def field (name : String) (value : List Char) : List Char := quoteChars name ++ ':' :: value

def fields (values : List (List Char)) : List Char := list '{' '}' id values

def set (values : StringSet) : List Char := list '[' ']' quoteChars values.toList

def pane (pane : PaneInstance) : List Char :=
  fields [field "pane_id" (quoteChars pane.paneId), field "pane_pid" (digits pane.panePid)]

def process (process : AgentProcessIdentity) : List Char :=
  fields [field "pid" (digits process.pid), field "start_token" (quoteChars process.startToken)]

def owner (state : QuestionNoticeState) : List Char :=
  fields [field "pane" (pane state.pane), field "process" (process state.process),
    field "owner_ref" (quoteChars state.ownerRef),
    field "latest_order" (digits state.latestOrder),
    field "acknowledged_order" (digits state.acknowledgedOrder),
    field "last_issued_at" (signed state.lastIssuedAt), field "seen" (set state.seen)]

def reply (entry : (String × ℕ) × ReplyItems) : List Char :=
  list '[' ']' id [quoteChars entry.1.1, digits entry.1.2,
    fields [field "session" (quoteChars entry.2.session), field "items" (set entry.2.items),
      field "pending" (set entry.2.pending)]]

def calls (entry : String × StringSet) : List Char := quoteChars entry.1 ++ ':' :: set entry.2

end Sidecar

structure Snapshot where
  schemaVersion : ℕ
  serverHash : String
  owners : List QuestionNoticeState
  replyItems : List ((String × ℕ) × ReplyItems)
  replyCalls : Std.ExtTreeMap String StringSet
  replyBlockedOwners : StringSet

def Snapshot.chars (snapshot : Snapshot) : List Char :=
  Sidecar.fields [Sidecar.field "schema_version" (Writer.digits snapshot.schemaVersion),
    Sidecar.field "server_hash" (Json.quoteChars snapshot.serverHash),
    Sidecar.field "owners" (Writer.list '[' ']' Sidecar.owner snapshot.owners),
    Sidecar.field "reply_items" (Writer.list '[' ']' Sidecar.reply snapshot.replyItems),
    Sidecar.field "reply_calls" (Writer.list '{' '}' Sidecar.calls snapshot.replyCalls.toList),
    Sidecar.field "reply_blocked_owners" (Sidecar.set snapshot.replyBlockedOwners)]

def Snapshot.toVec (snapshot : Snapshot) : List UInt8 := utf8 (String.ofList snapshot.chars)

class SnapshotReader where
  fromSlice : List UInt8 → Option Snapshot
  roundTrip : ∀ snapshot : Snapshot, fromSlice snapshot.toVec = some snapshot

/-- The marker is created and then written; only the whole of it is a marker. -/
inductive Marker
  | missing
  | torn
  | written
deriving DecidableEq

inductive CommitResult
  | preCommitFailed
  | committed
  | committedDurabilityUnknown
deriving DecidableEq

/-- The files, and what the saves have answered so far, which nothing reads. -/
structure Files where
  sidecar : Option (List UInt8) := none
  marker : Marker := .missing
  saves : List CommitResult := []

def Files.commits (files : Files) : ℕ := files.saves.countP (· ≠ .preCommitFailed)

inductive SaveFault
  | none
  | beforeRename
  | afterRename
  | markerTorn
  | directorySync
deriving DecidableEq

structure SaveIo where
  fault : SaveFault
  commitAt : ℕ
deriving DecidableEq

def createMarker (marker : Marker) (fault : SaveFault) : Bool × Marker :=
  match marker with
  | .written => (true, .written)
  | .torn => (false, .torn)
  | .missing => if fault = .markerTorn then (false, .torn) else (true, .written)

namespace QuestionNotices

def snapshot (n : QuestionNotices) : Snapshot where
  schemaVersion := 1
  serverHash := n.serverHash
  owners := n.owners.toList.map Prod.snd
  replyItems := n.replyItems.toList
  replyCalls := n.replyCalls
  replyBlockedOwners := n.replyBlockedOwners

def saveInner (n : QuestionNotices) (files : Files) (deadline : Option ℕ) (io : SaveIo) :
    CommitResult × Files :=
  if n.invalidSidecar = true ∨ maxBytes < n.snapshot.toVec.length ∨ io.fault = .beforeRename ∨
      (deadline.any fun limit => limit ≤ io.commitAt) = true then
    (.preCommitFailed, files)
  else
    let renamed := { files with sidecar := some n.snapshot.toVec }
    if io.fault = .afterRename then (.committedDurabilityUnknown, renamed)
    else
      let (created, marker) := createMarker renamed.marker io.fault
      if created = true ∧ io.fault ≠ .directorySync then
        (.committed, { renamed with marker := marker })
      else (.committedDurabilityUnknown, { renamed with marker := marker })

def save (n : QuestionNotices) (files : Files) (deadline : Option ℕ) (io : SaveIo) :
    CommitResult × Files :=
  let (result, files) := n.saveInner files deadline io
  (result, { files with saves := result :: files.saves })

end QuestionNotices

abbrev Owners := Std.ExtTreeMap String QuestionNoticeState

def validDigest (value : String) : Bool :=
  Text.byteLen value = 64 && value.toList.all isLowerHexDigit

section
variable [Sha256]

def ownerRef (serverHash : String) (pane : PaneInstance) (process : AgentProcessIdentity) : String :=
  "vtqn1:" ++ sha256Hex (utf8 (String.ofList
    (Writer.list '[' ']' id [Json.quoteChars serverHash, Sidecar.pane pane,
      Sidecar.process process])))

def checkOwner (serverHash : String) (owner : QuestionNoticeState) : Except String Unit := do
  owner.pane.validate.mapError (·.message)
  owner.process.validate.mapError (·.message)
  refuse (owner.ownerRef ≠ ownerRef serverHash owner.pane owner.process)
    "invalid notice owner reference"
  refuse (¬(owner.acknowledgedOrder ≤ owner.latestOrder ∧ owner.latestOrder = owner.seen.size ∧
    0 ≤ owner.lastIssuedAt)) "invalid notice order"
  refuse (maxKeysPerOwner < owner.seen.size) "too many question keys"
  refuse (¬owner.seen.toList.all validDigest) "invalid question key"

def loadOwners (serverHash : String) : List QuestionNoticeState → ℕ → Owners → Except String Owners
  | [], _, owners => .ok owners
  | owner :: rest, keys, owners => do
    checkOwner serverHash owner
    refuse (maxKeys < keys + owner.seen.size) "question keys exceed total limit"
    refuse (owner.ownerRef ∈ owners) "duplicate question owner"
    loadOwners serverHash rest (keys + owner.seen.size) (owners.insert owner.ownerRef owner)

end

def checkReply (state : QuestionNoticeState) (order : ℕ) (items : ReplyItems) : Except String Unit :=
  refuse (¬(0 < order ∧ order ≤ state.latestOrder ∧ validDigest items.session = true ∧
    0 < items.items.size ∧ items.items.size ≤ maxIssuedItems ∧
    items.items.toList.all validDigest = true ∧
    (items.pending.toList.all fun id => items.items.contains id) = true)) "invalid reply metadata"

def loadReplies (owners : Owners) : List ((String × ℕ) × ReplyItems) →
    Std.ExtTreeMap String ℕ → ReplyMap → Except String ReplyMap
  | [], _, replies => .ok replies
  | ((owner, order), items) :: rest, perOwner, replies =>
    match owners[owner]? with
    | none => .error "unknown reply owner"
    | some state => do
      checkReply state order items
      -- what is acknowledged may still be in the sidecar
      if order ≤ state.acknowledgedOrder then loadReplies owners rest perOwner replies
      else
        let count := (perOwner[owner]?).getD 0 + 1
        refuse (maxTextNoticesPerOwner < count) "too many owner replies"
        refuse ((owner, order) ∈ replies) "duplicate reply order"
        loadReplies owners rest (perOwner.insert owner count) (replies.insert (owner, order) items)

def checkCalls (owners : Owners) : List (String × StringSet) → ℕ → Except String Unit
  | [], _ => .ok ()
  | (owner, ids) :: rest, calls => do
    refuse (¬(owner ∈ owners ∧ ids.size ≤ maxKeysPerOwner ∧ ids.toList.all validDigest = true))
      "invalid reply call history"
    refuse (maxKeys < calls + ids.size) "too many reply calls"
    checkCalls owners rest (calls + ids.size)

section
variable [Sha256]

/-- The notices a snapshot stands for. -/
def Snapshot.restore (snapshot : Snapshot) (serverHash : String) : Except String QuestionNotices := do
  refuse (¬(snapshot.schemaVersion = 1 ∧ snapshot.serverHash = serverHash))
    "question notice sidecar identity mismatch"
  refuse (maxOwners < snapshot.owners.length) "too many question owners"
  let owners ← loadOwners serverHash snapshot.owners 0 ∅
  refuse (maxTextNotices < snapshot.replyItems.length) "too many reply entries"
  let replies ← loadReplies owners snapshot.replyItems ∅ ∅
  checkCalls owners snapshot.replyCalls.toList 0
  refuse (¬snapshot.replyBlockedOwners.toList.all fun owner => owners.contains owner)
    "invalid blocked reply owner"
  .ok
    { serverHash := serverHash
      owners := owners
      replyItems := replies
      replyCalls := snapshot.replyCalls
      replyBlockedOwners := snapshot.replyBlockedOwners }

def Files.load [SnapshotReader] (files : Files) (serverHash : String) :
    Except String QuestionNotices :=
  if files.marker = .torn then .error "invalid question notice expectation marker"
  else
    match files.sidecar with
    | none =>
      if files.marker = .written then .error "expected question notice sidecar is missing"
      else .ok { serverHash := serverHash }
    | some bytes =>
      if maxBytes < bytes.length then .error "question notice sidecar exceeds limit"
      else
        match SnapshotReader.fromSlice bytes with
        | none => .error "invalid question notice sidecar"
        | some snapshot => snapshot.restore serverHash

/-- Opening the sidecar at the start; what cannot be loaded is kept for an explicit repair. -/
def Files.open [SnapshotReader] (files : Files) (serverHash : String) : QuestionNotices :=
  match files.load serverHash with
  | .ok notices => notices
  | .error _ => { serverHash := serverHash, invalidSidecar := true }

end

end VdeTmux.QuestionNotice
