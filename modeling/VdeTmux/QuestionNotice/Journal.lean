import VdeTmux.Foundation.Effect
import VdeTmux.Foundation.Json
import VdeTmux.Foundation.Trace
import VdeTmux.Pane.Model

/-!
# The home loss journal

A home keeps its dirty entries in a JSON file and its epoch both there and in the lock file. A
guard holds the lock and a copy of the journal. Every step of a save may fail; a crash is a
failed step after which the guard is gone. What `serde_json` makes of the file, and the length of
the text it writes, is given from outside.
-/

open Foundation VdeTmux.Pane
namespace VdeTmux.QuestionNotice

def digest [Sha256] (values : List String) : String := sha256Hex (utf8 (Json.strings values))

namespace LossJournal

def maxBytes : ℕ := 1024 * 1024
def maxDirty : ℕ := 4096

inductive JournalFailure
  | unavailable
  | contended
  | capacity
  | invalid
  | expired
deriving DecidableEq

inductive DirtyReason
  | questionHook
  | unclassifiedHook
deriving DecidableEq

structure DirtyEntry where
  homeDigest : String
  sessionDigest : String
  turnDigest : String
  toolDigest : String
  writer : AgentProcessIdentity
  reason : DirtyReason
  createdAt : ℤ
deriving DecidableEq

def DirtyEntry.key [Sha256] (entry : DirtyEntry) : String :=
  digest [entry.homeDigest, entry.sessionDigest, entry.turnDigest, entry.toolDigest]

def validDigest (value : String) : Bool :=
  Text.byteLen value = 64 && value.toList.all isLowerHexDigit

def DirtyEntry.valid (entry : DirtyEntry) (home : String) : Bool :=
  entry.homeDigest = home && 0 ≤ entry.createdAt && entry.writer.validate = .ok () &&
    [entry.homeDigest, entry.sessionDigest, entry.turnDigest, entry.toolDigest].all validDigest

structure Journal where
  schemaVersion : ℕ
  homeDigest : String
  homeDirtyEpoch : ℕ
  dirty : Std.ExtTreeMap String DirtyEntry

def Journal.valid [Sha256] (journal : Journal) (home : String) : Bool :=
  journal.schemaVersion = 1 && journal.homeDigest = home && journal.dirty.size ≤ maxDirty &&
    journal.dirty.toList.all fun p => p.1 = p.2.key && p.2.valid home

inductive WriterState
  | alive
  | dead
  | unknown
deriving DecidableEq

class JournalText where
  encodedLen : Journal → ℕ

/-- The JSON file: how long it is and the journal it parses to, if it does. -/
structure JournalFile where
  size : ℕ
  parsed : Option Journal

def JournalFile.damaged [Sha256] (file : JournalFile) (home : String) : Bool :=
  maxBytes < file.size || !file.parsed.any fun journal => journal.valid home

/-- The lock file: empty, the eight bytes of an epoch, or anything else. -/
inductive Checkpoint
  | empty
  | epoch (value : ℕ)
  | torn

structure Disk where
  checkpoint : Checkpoint
  json : Option JournalFile

structure JournalGuard where
  homeDigest : String
  checkpoint : Option ℕ
  journal : Journal

structure Session where
  guard : JournalGuard
  disk : Disk

structure Evaluation where
  epoch : ℕ
  veto : Bool
  sessionDirty : Bool
deriving DecidableEq

structure SaveIo where
  current : Bool := true
  checkpointWritten : Bool := true
  checkpointSynced : Bool := true
  temporaryWritten : Bool := true
  currentAtRename : Bool := true
  targetPrivate : Bool := true
  renamed : Bool := true
  directorySynced : Bool := true

structure LoadIo where
  acquired : Except JournalFailure Unit := .ok ()
  checkpointRead : Bool := true
  opened : Bool := true
  filePrivate : Bool := true
  fileRead : Bool := true
  save : SaveIo := {}

/-- An operation may save twice: once for the change, once for the epoch. -/
structure CallIo where
  current : Bool := true
  save : SaveIo := {}
  bump : SaveIo := {}
  currentAtEnd : Bool := true

namespace Session

abbrev Action (α : Type) := EStateM JournalFailure Session α

def epoch (s : Session) : ℕ := s.guard.journal.homeDirtyEpoch

def dirty (s : Session) : Std.ExtTreeMap String DirtyEntry := s.guard.journal.dirty

def withJournal (s : Session) (journal : Journal) : Session :=
  { s with guard := { s.guard with journal := journal } }

def withEpoch (s : Session) (epoch : ℕ) : Session :=
  s.withJournal { s.guard.journal with homeDirtyEpoch := epoch }

def withDirty (s : Session) (dirty : Std.ExtTreeMap String DirtyEntry) : Session :=
  s.withJournal { s.guard.journal with dirty := dirty }

def withCheckpoint (s : Session) (checkpoint : Option ℕ) : Session :=
  { s with guard := { s.guard with checkpoint := checkpoint } }

def stampDisk (s : Session) : Session :=
  { s with disk := { s.disk with checkpoint := .epoch s.epoch } }

variable [JournalText]

def file (s : Session) : JournalFile :=
  ⟨JournalText.encodedLen s.guard.journal, some s.guard.journal⟩

def renameFile (s : Session) : Session :=
  { s with disk := { s.disk with json := some s.file } }

omit [JournalText] in
def writeCheckpoint (io : SaveIo) : Action Unit := do
  let s ← get
  if s.guard.checkpoint = some s.epoch then
    pure ()
  else do
    stopIf (io.checkpointWritten = false) .unavailable
    modify stampDisk
    stopIf (io.checkpointSynced = false) .unavailable
    modify fun s => s.withCheckpoint (some s.epoch)

def save (io : SaveIo) : Action Unit := do
  stopIf (io.current = false) .expired
  let s ← get
  stopIf (maxBytes < s.file.size) .capacity
  writeCheckpoint io
  stopIf (io.temporaryWritten = false) .unavailable
  stopIf (io.currentAtRename = false) .expired
  -- an existing target is refused when it is not a private file
  stopIf (s.disk.json.isSome = true ∧ io.targetPrivate = false) .invalid
  stopIf (io.renamed = false) .unavailable
  modify renameFile
  stopIf (io.directorySynced = false) .unavailable

def bump (io : SaveIo) : Action Unit := do
  let s ← get
  stopIf (u64Max ≤ s.epoch) .capacity
  modify fun s => s.withEpoch (s.epoch + 1)
  save io

omit [JournalText] in
def readJournal [Sha256] (io : LoadIo) (s : Session) : Except JournalFailure (Option Journal) := do
  refuse (io.opened = false) .unavailable
  match s.disk.json with
  | none => pure none
  | some file => do
    refuse (io.filePrivate = false) .invalid
    refuse (io.fileRead = false) .unavailable
    refuse (maxBytes < file.size) .capacity
    match file.parsed with
    | none => throw .invalid
    | some journal => do
      refuse (journal.valid s.guard.homeDigest = false) .invalid
      pure (some journal)

/-- Repair every mismatch between the file read and the expected epoch by a new epoch. -/
def adopt (io : SaveIo) (expected : Option ℕ) (loaded : Except JournalFailure (Option Journal)) :
    Action Unit :=
  match loaded with
  | .ok (some journal) => do
    modify fun s => s.withJournal journal
    if expected = some journal.homeDirtyEpoch then
      pure ()
    else do
      modify fun s => s.withEpoch (max s.epoch (expected.getD 0))
      bump io
  | .ok none => if expected = none then save io else bump io
  | .error .capacity => bump io
  | .error .invalid => bump io
  | .error e => throw e

omit [JournalText] in
def readCheckpoint : Checkpoint → Except JournalFailure (Option ℕ)
  | .empty => .ok none
  | .epoch value => .ok (some value)
  | .torn => .error .invalid

def load [Sha256] (io : LoadIo) : Action Unit := do
  stopIf (io.checkpointRead = false) .unavailable
  let s ← get
  match readCheckpoint s.disk.checkpoint with
  | .error e => throw e
  | .ok expected => do
    modify fun s => (s.withCheckpoint expected).withEpoch (expected.getD 0)
    let s ← get
    adopt io.save expected (readJournal io s)

def insert [Sha256] (entry : DirtyEntry) (io : CallIo) : Action String := do
  stopIf (io.current = false) .expired
  let s ← get
  stopIf (entry.valid s.guard.homeDigest = false) .invalid
  if entry.key ∈ s.dirty then
    pure entry.key
  else if maxDirty ≤ s.dirty.size then do
    bump io.bump
    throw .capacity
  else do
    modify fun s => s.withDirty (s.dirty.insert entry.key entry)
    match ← attempt (save io.save) with
    | .ok () => pure entry.key
    | .error e => do
      modify fun s => s.withDirty (s.dirty.erase entry.key)
      if e = .capacity then do
        bump io.bump
        throw e
      else
        throw e

def clearPersisted (key : String) (io : CallIo) : Action Unit := do
  stopIf (io.current = false) .expired
  let s ← get
  if key ∈ s.dirty then do
    modify fun s => s.withDirty (s.dirty.erase key)
    save io.save
  else
    pure ()

omit [JournalText] in
def abandoned (liveness : String → AgentProcessIdentity → WriterState) (key : String)
    (entry : DirtyEntry) : Bool :=
  liveness key entry.writer = .dead

omit [JournalText] in
def hasAbandoned (s : Session) (liveness : String → AgentProcessIdentity → WriterState) : Bool :=
  s.dirty.toList.any fun p => abandoned liveness p.1 p.2

def bumpIf (c : Bool) (io : SaveIo) : Action Unit :=
  if c then bump io else pure ()

def evaluate (session : Option String) (liveness : String → AgentProcessIdentity → WriterState)
    (io : CallIo) : Action Evaluation := do
  stopIf (io.current = false) .expired
  let s ← get
  modify fun s => s.withDirty (s.dirty.filter fun key entry => !abandoned liveness key entry)
  bumpIf (s.hasAbandoned liveness) io.bump
  stopIf (io.currentAtEnd = false) .expired
  let s' ← get
  pure
    { epoch := s'.epoch
      veto := !s'.dirty.isEmpty
      sessionDirty := s.dirty.toList.any fun p => session = some p.2.sessionDigest }

end Session

structure World where
  homeDigest : String
  disk : Disk
  guard : Option JournalGuard

inductive Call
  | lock (io : LoadIo)
  | insert (entry : DirtyEntry) (io : CallIo)
  | clearPersisted (key : String) (io : CallIo)
  | bump (io : SaveIo)
  | evaluate (session : Option String) (liveness : String → AgentProcessIdentity → WriterState)
      (io : CallIo)
  /-- The guard is dropped, or its process stops. -/
  | release
  /-- The JSON file goes missing or is overwritten with something no journal can be read from. -/
  | damage (file : Option JournalFile)

inductive Answer
  | locked (epoch : ℕ)
  | inserted (key : String) (epoch : ℕ)
  | cleared
  | bumped
  | evaluated (evaluation : Evaluation)
  | failed (failure : JournalFailure)
  | done

/-- The guard outlives the calls on it that fail. -/
def World.run {α : Type} (world : World) (action : Session.Action α) (answer : α → Session → Answer) :
    Answer × World :=
  match world.guard with
  | none => (.done, world)
  | some guard =>
    match action ⟨guard, world.disk⟩ with
    | .ok a s => (answer a s, { world with disk := s.disk, guard := some s.guard })
    | .error e s => (.failed e, { world with disk := s.disk, guard := some s.guard })

def newGuard (home : String) : JournalGuard := ⟨home, none, ⟨1, home, 0, ∅⟩⟩

variable [Sha256] [JournalText]

/-- The lock is exclusive, and no guard comes out of a load that fails. -/
def World.lock (world : World) (io : LoadIo) : Answer × World :=
  match world.guard, io.acquired with
  | some _, _ => (.failed .contended, world)
  | none, .error e => (.failed e, world)
  | none, .ok () =>
    match Session.load io ⟨newGuard world.homeDigest, world.disk⟩ with
    | .ok () s => (.locked s.epoch, { world with disk := s.disk, guard := some s.guard })
    | .error e s => (.failed e, { world with disk := s.disk })

def World.call (world : World) : Call → Answer × World
  | .lock io => world.lock io
  | .insert entry io => world.run (Session.insert entry io) fun key s => .inserted key s.epoch
  | .clearPersisted key io => world.run (Session.clearPersisted key io) fun _ _ => .cleared
  | .bump io => world.run (Session.bump io) fun _ _ => .bumped
  | .evaluate session liveness io =>
    world.run (Session.evaluate session liveness io) fun evaluation _ => .evaluated evaluation
  | .release => (.done, { world with guard := none })
  | .damage file =>
    if file.all fun f => f.damaged world.homeDigest then
      (.done, { world with disk := { world.disk with json := file } })
    else (.done, world)

def World.Step (world : World) (call : Call) (world' : World) : Prop :=
  (world.call call).2 = world'

end LossJournal
end VdeTmux.QuestionNotice
