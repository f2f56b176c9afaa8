import VdeTmux.Foundation.Maps
import VdeTmux.QuestionNotice.Journal

/-!
# What the loss journal remembers

The checkpoint bounds every epoch a guard returned, and a dirty entry that was inserted stays in
the file until it is cleared or the epoch has moved on. Both survive failed saves and crashes.
-/

open Foundation VdeTmux.Pane
namespace VdeTmux.QuestionNotice.LossJournal

def Checkpoint.floor : Checkpoint → ℕ
  | .epoch value => value
  | _ => 0

namespace Session

def checkpointed (s : Session) : Session := s.stampDisk.withCheckpoint (some s.epoch)

def Settled (s : Session) : Prop := s.guard.checkpoint = some s.epoch

/-- The lock file holds no epoch above the guard's, and the guard knows what it wrote. -/
structure Stamped (s : Session) : Prop where
  known : ∀ c ∈ s.guard.checkpoint, c ≤ s.epoch ∧ (c = s.epoch → s.disk.checkpoint = .epoch c)
  floor : s.disk.checkpoint.floor ≤ s.epoch

theorem Stamped.settled {s : Session} (h : s.Stamped) (hs : s.Settled) :
    s.disk.checkpoint = .epoch s.epoch :=
  (h.known s.epoch hs).2 rfl

theorem Stamped.checkpointed_eq {s : Session} (h : s.Stamped) (hs : s.Settled) :
    s.checkpointed = s := by
  obtain ⟨⟨home, checkpoint, journal⟩, ⟨stamp, json⟩⟩ := s
  have hstamp := h.settled hs
  simp only [Settled] at hs
  simp only at hstamp
  simp only [checkpointed, stampDisk, withCheckpoint, epoch] at hs hstamp ⊢
  rw [hs, hstamp]

theorem Stamped.stampDisk {s : Session} (h : s.Stamped) : s.stampDisk.Stamped where
  known c hc := ⟨(h.known c hc).1, fun heq => congrArg Checkpoint.epoch heq.symm⟩
  floor := le_refl _

theorem checkpointed_stamped (s : Session) : s.checkpointed.Stamped where
  known c hc := by
    obtain rfl : s.epoch = c := Option.some.inj hc
    exact ⟨le_refl _, fun _ => rfl⟩
  floor := le_refl _

theorem Stamped.raise {s : Session} (h : s.Stamped) : (s.withEpoch (s.epoch + 1)).Stamped where
  known c hc := by
    have hle : c ≤ s.epoch := (h.known c hc).1
    exact ⟨Nat.le_succ_of_le hle, fun heq => absurd heq (Nat.ne_of_lt (Nat.lt_succ_of_le hle))⟩
  floor := Nat.le_succ_of_le h.floor

end Session

section
variable [Sha256]

/-- The journal a load would accept from the file. -/
def Disk.journal (disk : Disk) (home : String) : Option Journal :=
  disk.json.bind fun file =>
    if file.size ≤ maxBytes then file.parsed.filter fun journal => journal.valid home else none

def Session.Covered (s : Session) : Prop :=
  ∀ journal ∈ s.disk.journal s.guard.homeDigest, journal.homeDirtyEpoch ≤ s.epoch ∧
    (journal.homeDirtyEpoch = s.epoch → ∀ key ∈ s.dirty, key ∈ journal.dirty)

def Disk.Keeps (disk : Disk) (home key : String) (epoch : ℕ) : Prop :=
  ∃ c, disk.checkpoint = .epoch c ∧ epoch ≤ c ∧
    (c = epoch → ∀ journal ∈ disk.journal home, journal.homeDirtyEpoch = epoch →
      key ∈ journal.dirty)

def Session.Keeps (s : Session) (key : String) (epoch : ℕ) : Prop :=
  epoch < s.epoch ∨ (epoch = s.epoch ∧ key ∈ s.dirty)

/-- What a run has to remember: an epoch that was returned, and perhaps an inserted entry. -/
structure Memory where
  home : String
  floor : ℕ
  entry : Option (String × ℕ)

structure Inv (memory : Memory) (s : Session) : Prop where
  home : s.guard.homeDigest = memory.home
  stamped : s.Stamped
  covered : s.Covered
  floor : memory.floor ≤ s.disk.checkpoint.floor
  disk : ∀ e ∈ memory.entry, s.disk.Keeps memory.home e.1 e.2
  guard : ∀ e ∈ memory.entry, s.Keeps e.1 e.2

/-- What holds while a load repairs the epoch: it is past everything that was inserted. -/
structure Repairing (memory : Memory) (s : Session) : Prop where
  home : s.guard.homeDigest = memory.home
  stamped : s.Stamped
  floor : memory.floor ≤ s.disk.checkpoint.floor
  disk : ∀ e ∈ memory.entry, s.disk.Keeps memory.home e.1 e.2
  guard : ∀ e ∈ memory.entry, e.2 < s.epoch

variable [JournalText]

structure Stable (I : Session → Prop) : Prop where
  stamped : ∀ s, I s → s.Stamped
  stamp : ∀ s, I s → I s.stampDisk
  checkpointed : ∀ s, I s → I s.checkpointed
  rename : ∀ s, I s → s.Settled → I s.renameFile

def Session.Written (s : Session) : Prop := s.disk.json = some s.file

theorem Disk.journal_written {s : Session} (hwritten : s.Written) {home : String}
    {journal : Journal} (h : journal ∈ s.disk.journal home) : journal = s.guard.journal := by
  have hjson : s.disk.json = some s.file := hwritten
  simp only [Disk.journal, hjson, Option.bind_some, Session.file] at h
  split_ifs at h with hsize
  · exact (Option.some.inj (Option.filter_eq_some_iff.mp h).1).symm
  · cases h

theorem Disk.journal_renameFile {s : Session} {home : String} {journal : Journal}
    (h : journal ∈ s.renameFile.disk.journal home) : journal = s.guard.journal :=
  journal_written (s := s.renameFile) rfl h

theorem Session.Written.covered {s : Session} (h : s.Written) : s.Covered := by
  intro journal hjournal
  obtain rfl := Disk.journal_written h hjournal
  exact ⟨le_refl _, fun _ key hkey => hkey⟩

theorem Session.Keeps.renameFile {s : Session} {home key : String} {epoch : ℕ}
    (h : s.Keeps key epoch) (hstamped : s.Stamped) (hsettled : s.Settled) :
    s.renameFile.disk.Keeps home key epoch := by
  have hstamp := hstamped.settled hsettled
  refine ⟨s.epoch, hstamp, ?_, fun hsame journal hjournal hepoch => ?_⟩
  · rcases h with hlt | ⟨heq, -⟩ <;> omega
  · obtain rfl := Disk.journal_renameFile hjournal
    rcases h with hlt | ⟨-, hmem⟩
    · omega
    · exact hmem

omit [JournalText] in
theorem Disk.Keeps.stamp {s : Session} {home key : String} {epoch : ℕ}
    (h : s.disk.Keeps home key epoch) (hstamped : s.Stamped) :
    s.stampDisk.disk.Keeps home key epoch := by
  obtain ⟨c, hc, hle, hkept⟩ := h
  have hfloor : c ≤ s.epoch := by
    have hle := hstamped.floor
    rw [hc] at hle
    exact hle
  refine ⟨s.epoch, rfl, hle.trans hfloor, fun hsame journal hjournal hepoch => ?_⟩
  exact hkept (by omega) journal hjournal hepoch

theorem inv_stable (memory : Memory) : Stable (Inv memory) where
  stamped _ h := h.stamped
  stamp _ h :=
    { home := h.home
      stamped := h.stamped.stampDisk
      covered := h.covered
      floor := h.floor.trans h.stamped.floor
      disk := fun e he => (h.disk e he).stamp h.stamped
      guard := h.guard }
  checkpointed s h :=
    { home := h.home
      stamped := s.checkpointed_stamped
      covered := h.covered
      floor := h.floor.trans h.stamped.floor
      disk := fun e he => (h.disk e he).stamp h.stamped
      guard := h.guard }
  rename _ h hs :=
    { home := h.home
      stamped := ⟨h.stamped.known, h.stamped.floor⟩
      covered := Session.Written.covered rfl
      floor := h.floor
      disk := fun e he => (h.guard e he).renameFile h.stamped hs
      guard := h.guard }

theorem repairing_stable (memory : Memory) : Stable (Repairing memory) where
  stamped _ h := h.stamped
  stamp _ h :=
    { home := h.home
      stamped := h.stamped.stampDisk
      floor := h.floor.trans h.stamped.floor
      disk := fun e he => (h.disk e he).stamp h.stamped
      guard := h.guard }
  checkpointed s h :=
    { home := h.home
      stamped := s.checkpointed_stamped
      floor := h.floor.trans h.stamped.floor
      disk := fun e he => (h.disk e he).stamp h.stamped
      guard := h.guard }
  rename _ h hs :=
    { home := h.home
      stamped := ⟨h.stamped.known, h.stamped.floor⟩
      floor := h.floor
      disk := fun e he => Session.Keeps.renameFile (Or.inl (h.guard e he)) h.stamped hs
      guard := h.guard }

namespace Session

inductive Saved (s : Session) : Session → Prop
  | kept : Saved s s
  | stamped : Saved s s.stampDisk
  | checkpointed : Saved s s.checkpointed
  | renamed : Saved s s.checkpointed.renameFile

omit [Sha256] [JournalText] in
theorem writeCheckpoint_spec {s₀ : Session} (h : s₀.Stamped) (io : SaveIo) :
    Triple (· = s₀) (writeCheckpoint io) (fun _ s => s = s₀.checkpointed)
      fun _ s => s = s₀ ∨ s = s₀.stampDisk := by
  refine .getThen fun s hs => .ite (.pure ?_) ?_
  · rintro s' ⟨rfl, hsettled⟩
    rw [hs] at hsettled ⊢
    exact (h.checkpointed_eq hsettled).symm
  · refine .bind (.keepIf fun s' _ hs' => Or.inl (hs'.1.trans hs)) fun _ => ?_
    refine .modifyThen (· = s₀.stampDisk) (fun s' hs' => by rw [hs'.1, hs]) ?_
    refine .bind (.keepIf fun s' _ hs => Or.inr hs) fun _ => ?_
    exact .modify fun s' hs => hs ▸ rfl

omit [Sha256] in
theorem save_spec {s₀ : Session} (h : s₀.Stamped) (io : SaveIo) :
    Triple (· = s₀) (save io) (fun _ s => s = s₀.checkpointed.renameFile) fun _ s => Saved s₀ s := by
  refine .bind (.keepIf fun s _ hs => hs ▸ .kept) fun _ => .getThen fun s hs => ?_
  refine .bind (.keepIf fun s' _ hs' => (hs'.trans hs) ▸ .kept) fun _ => ?_
  have hwrite : Triple (· = s) (writeCheckpoint io) (fun _ s' => s' = s₀.checkpointed)
      fun _ s' => Saved s₀ s' := by
    refine (writeCheckpoint_spec h io).mono (fun s' hs' => hs'.trans hs) (fun _ _ hs => hs) ?_
    rintro e s' (rfl | rfl)
    · exact .kept
    · exact .stamped
  refine .bind hwrite fun _ => ?_
  have hstop {bad : Prop} [Decidable bad] (e : JournalFailure) :
      Triple (· = s₀.checkpointed) (stopIf bad e) (fun _ s => s = s₀.checkpointed)
        fun _ s => Saved s₀ s :=
    .keepIf fun s _ hs => hs ▸ .checkpointed
  refine .bind (hstop _) fun _ => .bind (hstop _) fun _ => .bind (hstop _) fun _ =>
    .bind (hstop _) fun _ => ?_
  refine .modifyThen (· = s₀.checkpointed.renameFile) (fun s' hs => congrArg renameFile hs) ?_
  exact .keepIf fun s _ hs => hs ▸ .renamed

variable {I : Session → Prop}

omit [Sha256] in
theorem Saved.stable (hI : Stable I) {s s' : Session} (hs : I s) (h : Saved s s') : I s' := by
  cases h with
  | kept => exact hs
  | stamped => exact hI.stamp s hs
  | checkpointed => exact hI.checkpointed s hs
  | renamed => exact hI.rename _ (hI.checkpointed s hs) rfl

omit [Sha256] in
theorem save_stable (hI : Stable I) (io : SaveIo) :
    Triple I (save io) (fun _ s => I s ∧ s.Settled ∧ s.Written) fun _ s => I s := by
  intro s hs
  have hsave := save_spec (hI.stamped s hs) io s rfl
  cases hrun : save io s with
  | ok a s' =>
    rw [hrun] at hsave
    obtain rfl : s' = s.checkpointed.renameFile := hsave
    exact ⟨hI.rename _ (hI.checkpointed s hs) rfl, rfl, rfl⟩
  | error e s' =>
    rw [hrun] at hsave
    exact Saved.stable hI hs hsave

omit [Sha256] in
theorem bump_stable {J K : Session → Prop} (hI : Stable I) (io : SaveIo)
    (hraise : ∀ s, J s → s.epoch < u64Max → I (s.withEpoch (s.epoch + 1)))
    (hfull : ∀ s, J s → u64Max ≤ s.epoch → K s) (hfail : ∀ s, I s → K s) :
    Triple J (bump io) (fun _ s => I s ∧ s.Settled ∧ s.Written) fun _ s => K s := by
  refine .getThen fun s hs => .bind (.stopIf fun s' hfull' hs' => ?_) fun _ => ?_
  · exact hs' ▸ hfull s hs hfull'
  · refine .modifyThen I ?_ ((save_stable hI io).mono (fun _ hs => hs) (fun _ _ hs => hs)
      fun _ => hfail)
    rintro s' ⟨rfl, hroom⟩
    exact hraise s' hs (by omega)

end Session

omit [JournalText] in
theorem Inv.raise {memory : Memory} {s : Session} (h : Inv memory s) :
    Inv memory (s.withEpoch (s.epoch + 1)) where
  home := h.home
  stamped := h.stamped.raise
  covered journal hjournal := by
    have hle : journal.homeDirtyEpoch ≤ s.epoch := (h.covered journal hjournal).1
    exact ⟨Nat.le_succ_of_le hle, fun heq =>
      absurd heq (Nat.ne_of_lt (Nat.lt_succ_of_le hle))⟩
  floor := h.floor
  disk := h.disk
  guard e he := by
    refine Or.inl (show e.2 < s.epoch + 1 from ?_)
    rcases h.guard e he with hlt | ⟨heq, -⟩ <;> omega

omit [JournalText] in
theorem Repairing.raise {memory : Memory} {s : Session} (h : Repairing memory s) :
    Repairing memory (s.withEpoch (s.epoch + 1)) where
  home := h.home
  stamped := h.stamped.raise
  floor := h.floor
  disk := h.disk
  guard e he := Nat.lt_succ_of_lt (h.guard e he)

theorem bump_inv (memory : Memory) (io : SaveIo) :
    Triple (Inv memory) (Session.bump io) (fun _ s => Inv memory s) fun _ s => Inv memory s :=
  (Session.bump_stable (inv_stable memory) io (fun _ hs _ => hs.raise) (fun _ hs _ => hs)
    fun _ hs => hs).weaken fun _ _ hs => hs.1

/-! ## Operations on a guard -/

namespace Session

omit [JournalText] in
theorem Inv.forget {memory : Memory} {s : Session} (h : Inv memory s)
    {dirty : Std.ExtTreeMap String DirtyEntry} (hsub : ∀ key ∈ dirty, key ∈ s.dirty)
    (hkept : ∀ e ∈ memory.entry, e.1 ∈ s.dirty → e.2 = s.epoch → e.1 ∈ dirty) :
    Inv memory (s.withDirty dirty) where
  home := h.home
  stamped := ⟨h.stamped.known, h.stamped.floor⟩
  covered journal hjournal :=
    ⟨(h.covered journal hjournal).1, fun heq key hkey =>
      (h.covered journal hjournal).2 heq key (hsub key hkey)⟩
  floor := h.floor
  disk := h.disk
  guard e he := by
    rcases h.guard e he with hlt | ⟨heq, hmem⟩
    · exact Or.inl hlt
    · exact Or.inr ⟨heq, hkept e he hmem heq⟩

theorem clearPersisted_inv {memory : Memory} {key : String} (io : CallIo)
    (hother : ∀ e ∈ memory.entry, e.1 ≠ key) :
    Triple (Inv memory) (clearPersisted key io) (fun _ s => Inv memory s) fun _ s => Inv memory s := by
  refine .bind (.keepIf fun _ _ hs => hs) fun _ => .getThen fun s hs => .ite ?_ ?_
  · refine .modifyThen (Inv memory) ?_
      ((save_stable (inv_stable memory) io.save).weaken fun _ _ hs => hs.1)
    rintro s' ⟨rfl, -⟩
    refine Inv.forget hs (fun k hk => ?_) fun e he hmem _ => ?_
    · exact (Std.ExtTreeMap.mem_erase.mp hk).2
    · refine Std.ExtTreeMap.mem_erase.mpr ⟨?_, hmem⟩
      simpa using (hother e he).symm
  · exact .pure fun s' hs' => hs'.1 ▸ hs

omit [Sha256] [JournalText] in
theorem withDirty_erase_insert {s : Session} {key : String} {entry : DirtyEntry} (h : key ∉ s.dirty) :
    (s.withDirty (s.dirty.insert key entry)).withDirty ((s.dirty.insert key entry).erase key) = s := by
  rw [Maps.erase_insert h]
  rfl

def rolledBack (s : Session) (key : String) (entry : DirtyEntry) : Session :=
  (s.withDirty (s.dirty.insert key entry)).checkpointed.renameFile.withDirty s.dirty

theorem Inv.rolledBack {memory : Memory} {s : Session} (h : Inv memory s) (key : String)
    (entry : DirtyEntry) : Inv memory (s.rolledBack key entry) where
  home := h.home
  stamped := ⟨s.checkpointed_stamped.known, le_refl _⟩
  covered journal hjournal := by
    obtain rfl := Disk.journal_renameFile
      (s := (s.withDirty (s.dirty.insert key entry)).checkpointed) hjournal
    exact ⟨le_refl _, fun _ k hk => Std.ExtTreeMap.mem_insert.mpr (Or.inr hk)⟩
  floor := h.floor.trans h.stamped.floor
  disk e he := by
    have hkeeps : (s.withDirty (s.dirty.insert key entry)).checkpointed.Keeps e.1 e.2 :=
      (h.guard e he).imp_right fun ⟨heq, hmem⟩ =>
        ⟨heq, Std.ExtTreeMap.mem_insert.mpr (Or.inr hmem)⟩
    exact hkeeps.renameFile (checkpointed_stamped _) rfl
  guard := h.guard

theorem Inv.inserted {memory : Memory} {s : Session} (h : Inv memory s) (key : String)
    (entry : DirtyEntry) :
    Inv memory (s.withDirty (s.dirty.insert key entry)).checkpointed.renameFile where
  home := h.home
  stamped := ⟨s.checkpointed_stamped.known, le_refl _⟩
  covered := Written.covered rfl
  floor := h.floor.trans h.stamped.floor
  disk e he := by
    have hkeeps : (s.withDirty (s.dirty.insert key entry)).checkpointed.Keeps e.1 e.2 :=
      (h.guard e he).imp_right fun ⟨heq, hmem⟩ =>
        ⟨heq, Std.ExtTreeMap.mem_insert.mpr (Or.inr hmem)⟩
    exact hkeeps.renameFile (checkpointed_stamped _) rfl
  guard e he := (h.guard e he).imp_right fun ⟨heq, hmem⟩ =>
    ⟨heq, Std.ExtTreeMap.mem_insert.mpr (Or.inr hmem)⟩

theorem Saved.rollback {memory : Memory} {s s' : Session} {key : String} {entry : DirtyEntry}
    (h : Inv memory s) (hnew : key ∉ s.dirty)
    (hsaved : Saved (s.withDirty (s.dirty.insert key entry)) s') :
    Inv memory (s'.withDirty (s'.dirty.erase key)) ∧
      (s'.withDirty (s'.dirty.erase key)).dirty = s.dirty := by
  have hback := @withDirty_erase_insert s key entry hnew
  have hdirty : (s.dirty.insert key entry).erase key = s.dirty := Maps.erase_insert hnew
  have hstable := inv_stable memory
  cases hsaved with
  | kept => exact ⟨hback.symm ▸ h, hdirty⟩
  | stamped =>
    refine ⟨?_, hdirty⟩
    have hstamp := hstable.stamp s h
    rw [← hback] at hstamp
    exact hstamp
  | checkpointed =>
    refine ⟨?_, hdirty⟩
    have hstamp := hstable.checkpointed s h
    rw [← hback] at hstamp
    exact hstamp
  | renamed =>
    refine ⟨?_, hdirty⟩
    change Inv memory ((s.withDirty (s.dirty.insert key entry)).checkpointed.renameFile.withDirty
      ((s.dirty.insert key entry).erase key))
    rw [hdirty]
    exact Inv.rolledBack h key entry

omit [Sha256] in
theorem Stable.ofDirty {I : Session → Prop} (hI : Stable I) (dirty : Std.ExtTreeMap String DirtyEntry) :
    Stable fun s => I s ∧ s.dirty = dirty where
  stamped _ h := hI.stamped _ h.1
  stamp _ h := ⟨hI.stamp _ h.1, h.2⟩
  checkpointed _ h := ⟨hI.checkpointed _ h.1, h.2⟩
  rename _ h hs := ⟨hI.rename _ h.1 hs, h.2⟩

theorem bump_dirty (memory : Memory) (dirty : Std.ExtTreeMap String DirtyEntry) (io : SaveIo) :
    Triple (fun s => Inv memory s ∧ s.dirty = dirty) (bump io)
      (fun _ s => Inv memory s ∧ s.dirty = dirty) fun _ s => Inv memory s ∧ s.dirty = dirty :=
  (bump_stable (Stable.ofDirty (inv_stable memory) dirty) io (fun _ hs _ => ⟨hs.1.raise, hs.2⟩)
    (fun _ hs _ => hs) fun _ hs => hs).weaken fun _ _ hs => hs.1

theorem insert_spec {memory : Memory} {s₀ : Session} (h : Inv memory s₀) (entry : DirtyEntry)
    (io : CallIo) :
    Triple (· = s₀) (insert entry io)
      (fun key s => Inv memory s ∧ key = entry.key ∧ key ∈ s.dirty ∧
        (key ∈ s₀.dirty ∧ s = s₀ ∨ s.Settled))
      fun _ s => Inv memory s ∧ s.dirty = s₀.dirty := by
  refine .bind (.keepIf fun s _ hs => ⟨hs ▸ h, hs ▸ rfl⟩) fun _ => .getThen fun s hs => ?_
  subst hs
  refine .bind (.keepIf fun s' _ hs => ⟨hs ▸ h, hs ▸ rfl⟩) fun _ => .ite (.pure ?_) (.ite ?_ ?_)
  · rintro s' ⟨rfl, hmem⟩
    exact ⟨h, rfl, hmem, Or.inl ⟨hmem, rfl⟩⟩
  · refine .bind ((bump_dirty memory s.dirty io.bump).strengthen ?_) fun _ => .throw fun _ hs => hs
    rintro s' ⟨⟨rfl, -⟩, -⟩
    exact ⟨h, rfl⟩
  · rintro s' ⟨⟨rfl, hnew⟩, -⟩
    have hstamped : (s'.withDirty (s'.dirty.insert entry.key entry)).Stamped :=
      ⟨h.stamped.known, h.stamped.floor⟩
    have hsave := save_spec hstamped io.save
    refine Triple.modifyThen _ (fun _ hs => hs ▸ rfl) (.bind (.attempt hsave) fun result => ?_) s' rfl
    cases result with
    | ok _ =>
      refine .pure fun s' hs => ?_
      obtain rfl : s' = _ := hs
      exact ⟨Inv.inserted h _ entry, rfl, Std.ExtTreeMap.mem_insert_self, Or.inr rfl⟩
    | error e =>
      refine .modifyThen (fun s => Inv memory s ∧ s.dirty = s'.dirty)
        (fun s hs => Saved.rollback h hnew hs) (.ite ?_ ?_)
      · refine .bind ((bump_dirty memory s'.dirty io.bump).strengthen fun _ hs => hs.1) fun _ => ?_
        exact .throw fun _ hs => hs
      · exact .throw fun _ hs => hs.1

/-- Where a dead writer raises the epoch or the epoch is already settled, the epoch returned is
the one the lock file holds. -/
def Orderly (s : Session) (liveness : String → AgentProcessIdentity → WriterState) : Prop :=
  if s.hasAbandoned liveness = true then s.epoch < u64Max else s.Settled

theorem bumpIf_spec {memory : Memory} {s : Session} (h : Inv memory s)
    {liveness : String → AgentProcessIdentity → WriterState} (io : SaveIo)
    (horderly : s.Orderly liveness) :
    Triple (· = s.withDirty (s.dirty.filter fun key entry => !abandoned liveness key entry))
      (bumpIf (s.hasAbandoned liveness) io) (fun _ s => Inv memory s ∧ s.Settled)
      fun _ s => Inv memory s := by
  unfold Orderly at horderly
  cases hdead : s.hasAbandoned liveness with
  | true =>
    rw [if_pos hdead] at horderly
    refine (bump_stable (inv_stable memory) io ?_ ?_ fun _ hs => hs).weaken
      fun _ _ hs => ⟨hs.1, hs.2.1⟩
    · rintro s' rfl -
      refine Inv.forget h.raise (fun key hkey => Std.ExtTreeMap.mem_of_mem_filter hkey) ?_
      intro e he _ heq
      have hle : e.2 = s.epoch + 1 := heq
      rcases h.guard e he with hlt | ⟨hsame, -⟩ <;> omega
    · rintro s' rfl hfull
      exact absurd horderly (not_lt.mpr hfull)
  | false =>
    rw [if_neg (by simp [hdead])] at horderly
    refine .pure ?_
    rintro s' rfl
    rw [Maps.any_toList_eq_false hdead]
    exact ⟨h, horderly⟩

theorem evaluate_spec {memory : Memory} {s₀ : Session} (h : Inv memory s₀)
    (session : Option String) (liveness : String → AgentProcessIdentity → WriterState) (io : CallIo)
    (horderly : s₀.Orderly liveness) :
    Triple (· = s₀) (evaluate session liveness io)
      (fun evaluation s => Inv memory s ∧ s.Settled ∧ evaluation.epoch = s.epoch ∧
        evaluation.veto = !s.dirty.isEmpty)
      fun _ s => Inv memory s := by
  refine .bind (.keepIf fun s _ hs => hs ▸ h) fun _ => .getThen fun s hs => ?_
  subst hs
  refine .modifyThen _ (fun s' hs => by rw [hs]) (.bind (bumpIf_spec h io.bump horderly) fun _ => ?_)
  refine .bind (.keepIf fun _ _ hs => hs.1) fun _ => .getThen fun s' hs => .pure ?_
  rintro s'' rfl
  exact ⟨hs.1, hs.2, rfl, rfl⟩

end Session

/-! ## Loading -/

omit [JournalText] in
theorem readJournal_eq_ok {io : LoadIo} {s : Session} {journal : Journal}
    (h : s.readJournal io = .ok (some journal)) : journal ∈ s.disk.journal s.guard.homeDigest := by
  unfold Session.readJournal at h
  obtain ⟨-, h⟩ := seq_eq_ok.mp h
  cases hjson : s.disk.json with
  | none => simp [hjson, pure, Except.pure] at h
  | some file =>
    simp only [hjson] at h
    obtain ⟨-, h⟩ := seq_eq_ok.mp h
    obtain ⟨-, h⟩ := seq_eq_ok.mp h
    obtain ⟨hsize, h⟩ := seq_eq_ok.mp h
    cases hparsed : file.parsed with
    | none => simp [hparsed] at h
    | some read =>
      simp only [hparsed] at h
      obtain ⟨hvalid, h⟩ := seq_eq_ok.mp h
      obtain rfl : read = journal := by simpa [pure, Except.pure] using h
      simp only [refuse_eq_ok, not_lt, Bool.not_eq_false] at hsize hvalid
      simp [Disk.journal, hjson, hsize, hparsed, Option.filter, hvalid]

theorem Repairing.inv {memory : Memory} {s : Session} (h : Repairing memory s)
    (hwritten : s.Written) : Inv memory s where
  home := h.home
  stamped := h.stamped
  covered := hwritten.covered
  floor := h.floor
  disk := h.disk
  guard e he := Or.inl (h.guard e he)

structure Disk.Remembers (memory : Memory) (disk : Disk) : Prop where
  floor : memory.floor ≤ disk.checkpoint.floor
  entry : ∀ e ∈ memory.entry, disk.Keeps memory.home e.1 e.2

omit [JournalText] in
theorem Inv.remembers {memory : Memory} {s : Session} (h : Inv memory s) :
    s.disk.Remembers memory :=
  ⟨h.floor, h.disk⟩

omit [JournalText] in
theorem Repairing.remembers {memory : Memory} {s : Session} (h : Repairing memory s) :
    s.disk.Remembers memory :=
  ⟨h.floor, h.disk⟩

/-- The guard of a load that has read the expected epoch and nothing else. -/
structure Expecting (memory : Memory) (expected : Option ℕ) (s : Session) : Prop where
  home : s.guard.homeDigest = memory.home
  read : Session.readCheckpoint s.disk.checkpoint = .ok expected
  known : s.guard.checkpoint = expected
  reached : expected.getD 0 ≤ s.epoch
  remembers : s.disk.Remembers memory

omit [Sha256] [JournalText] in
theorem readCheckpoint_eq_ok {checkpoint : Checkpoint} {expected : Option ℕ}
    (h : Session.readCheckpoint checkpoint = .ok expected) :
    checkpoint.floor = expected.getD 0 ∧ ∀ c, expected = some c ↔ checkpoint = .epoch c := by
  cases checkpoint with
  | empty =>
    cases h
    exact ⟨rfl, fun c => by simp⟩
  | epoch value =>
    cases h
    exact ⟨rfl, fun c => by simp⟩
  | torn => cases h

namespace Expecting
variable {memory : Memory} {expected : Option ℕ} {s : Session}

omit [JournalText] in
theorem stamped (h : Expecting memory expected s) : s.Stamped where
  known c hc := by
    have hsome : expected = some c := h.known ▸ hc
    have hreached := h.reached
    rw [hsome] at hreached
    exact ⟨hreached, fun _ => ((readCheckpoint_eq_ok h.read).2 c).mp hsome⟩
  floor := (readCheckpoint_eq_ok h.read).1 ▸ h.reached

omit [JournalText] in
theorem entry_le (h : Expecting memory expected s) {e : String × ℕ} (he : e ∈ memory.entry) :
    ∃ c, expected = some c ∧ e.2 ≤ c := by
  obtain ⟨c, hc, hle, -⟩ := h.remembers.entry e he
  exact ⟨c, ((readCheckpoint_eq_ok h.read).2 c).mpr hc, hle⟩

omit [JournalText] in
theorem raise (h : Expecting memory expected s) :
    Repairing memory (s.withEpoch (s.epoch + 1)) where
  home := h.home
  stamped := h.stamped.raise
  floor := h.remembers.floor
  disk := h.remembers.entry
  guard e he := by
    obtain ⟨c, rfl, hle⟩ := h.entry_le he
    exact Nat.lt_succ_of_le (hle.trans h.reached)

theorem save_remembers (io : SaveIo) (h : Repairing memory s) :
    Triple (· = s) (Session.save io) (fun _ s => Inv memory s ∧ s.Settled)
      fun _ s => s.disk.Remembers memory :=
  (Session.save_stable (repairing_stable memory) io).mono (fun _ hs => hs ▸ h)
    (fun _ _ hs => ⟨hs.1.inv hs.2.2, hs.2.1⟩) fun _ _ hs => hs.remembers

theorem bump_remembers (io : SaveIo) (h : Expecting memory expected s) :
    Triple (· = s) (Session.bump io) (fun _ s => Inv memory s ∧ s.Settled)
      fun _ s => s.disk.Remembers memory := by
  refine (Session.bump_stable (repairing_stable memory) io ?_ ?_ fun _ hs => hs.remembers).weaken
    fun _ _ hs => ⟨hs.1.inv hs.2.2, hs.2.1⟩
  · rintro s' rfl -
    exact h.raise
  · rintro s' rfl -
    exact h.remembers

omit [JournalText] in
theorem adopted (h : Expecting memory expected s) {journal : Journal}
    (hjournal : journal ∈ s.disk.journal s.guard.homeDigest)
    (hepoch : expected = some journal.homeDirtyEpoch) :
    Inv memory (s.withJournal journal) ∧ (s.withJournal journal).Settled := by
  have hknown := h.known
  have hdisk := ((readCheckpoint_eq_ok h.read).2 _).mp hepoch
  refine ⟨⟨h.home, ⟨fun c hc => ?_, ?_⟩, fun other hother => ?_, h.remembers.floor,
    h.remembers.entry, fun e he => ?_⟩, hknown.trans hepoch⟩
  · obtain rfl : journal.homeDirtyEpoch = c :=
      Option.some.inj (hepoch.symm.trans (hknown.symm.trans hc))
    exact ⟨le_refl _, fun _ => hdisk⟩
  · exact (congrArg Checkpoint.floor hdisk).le
  · obtain rfl : journal = other := Option.some.inj (hjournal.symm.trans hother)
    exact ⟨le_refl _, fun _ key hkey => hkey⟩
  · obtain ⟨c, hc, hle, hkept⟩ := h.remembers.entry e he
    obtain rfl : journal.homeDirtyEpoch = c := Checkpoint.epoch.inj (hdisk.symm.trans hc)
    rcases hle.lt_or_eq with hlt | heq
    · exact Or.inl hlt
    · exact Or.inr ⟨heq, hkept heq.symm journal (h.home ▸ hjournal) heq.symm⟩

theorem adopt_spec (io : SaveIo) (h : Expecting memory expected s)
    {loaded : Except JournalFailure (Option Journal)}
    (hloaded : ∀ journal, loaded = .ok (some journal) →
      journal ∈ s.disk.journal s.guard.homeDigest) :
    Triple (· = s) (Session.adopt io expected loaded) (fun _ s => Inv memory s ∧ s.Settled)
      fun _ s => s.disk.Remembers memory := by
  unfold Session.adopt
  split
  · rename_i journal
    refine .modifyThen (· = s.withJournal journal) (fun _ hs => hs ▸ rfl) (.ite (.pure ?_) ?_)
    · rintro s' ⟨rfl, hepoch⟩
      exact h.adopted (hloaded journal rfl) hepoch
    · have hraised : Expecting memory expected ((s.withJournal journal).withEpoch
          (max journal.homeDirtyEpoch (expected.getD 0))) :=
        ⟨h.home, h.read, h.known, le_max_right _ _, h.remembers⟩
      exact .modifyThen _ (fun s' hs => by rw [hs.1]; rfl) (hraised.bump_remembers io)
  · split_ifs with hnone
    · refine save_remembers io ⟨h.home, h.stamped, h.remembers.floor, h.remembers.entry, ?_⟩
      intro e he
      obtain ⟨c, hc, -⟩ := h.entry_le he
      simp [hnone] at hc
    · exact h.bump_remembers io
  · exact h.bump_remembers io
  · exact h.bump_remembers io
  · exact .throw fun s' hs => hs ▸ h.remembers

end Expecting

theorem load_spec {memory : Memory} {disk : Disk} (h : disk.Remembers memory) (io : LoadIo) :
    Triple (· = ⟨newGuard memory.home, disk⟩) (Session.load io)
      (fun _ s => Inv memory s ∧ s.Settled) fun _ s => s.disk.Remembers memory := by
  refine .bind (.keepIf fun s _ hs => hs ▸ h) fun _ => .getThen fun s hs => ?_
  subst hs
  cases hread : Session.readCheckpoint disk.checkpoint with
  | error e => exact .throw fun s hs => hs ▸ h
  | ok expected =>
    refine .modifyThen (· = (Session.withCheckpoint ⟨newGuard memory.home, disk⟩ expected).withEpoch
      (expected.getD 0)) (fun _ hs => hs ▸ rfl) (.getThen fun s hs => ?_)
    have hexpecting : Expecting memory expected s := by
      subst hs
      exact ⟨rfl, hread, rfl, le_refl _, h⟩
    exact hexpecting.adopt_spec io.save fun journal => readJournal_eq_ok

/-! ## Runs -/

def World.Remembers (memory : Memory) (world : World) : Prop :=
  world.homeDigest = memory.home ∧
    match world.guard with
    | none => world.disk.Remembers memory
    | some guard => Inv memory ⟨guard, world.disk⟩

omit [Sha256] [JournalText] in
theorem World.run_spec {α : Type} {world : World} {guard : JournalGuard}
    (hguard : world.guard = some guard) {action : Session.Action α} (answer : α → Session → Answer)
    {post : α → Session → Prop} {fail : JournalFailure → Session → Prop}
    (h : Triple (· = ⟨guard, world.disk⟩) action post fail) :
    ∃ s : Session, (world.run action answer).2 =
        { world with disk := s.disk, guard := some s.guard } ∧
      ((∃ a, post a s ∧ (world.run action answer).1 = answer a s) ∨
        ∃ e, fail e s ∧ (world.run action answer).1 = .failed e) := by
  simp only [World.run, hguard]
  cases hrun : action ⟨guard, world.disk⟩ with
  | ok a s => exact ⟨s, rfl, Or.inl ⟨a, h.ok rfl hrun, rfl⟩⟩
  | error e s => exact ⟨s, rfl, Or.inr ⟨e, h.error rfl hrun, rfl⟩⟩

def Call.clears (call : Call) (key : String) : Prop := ∃ io, call = .clearPersisted key io

/-- The call does not rest on an epoch that a failed bump left in memory only. -/
def World.Orderly (world : World) (call : Call) : Prop :=
  match world.guard, call with
  | some guard, .insert entry _ =>
    entry.key ∈ guard.journal.dirty → Session.Settled ⟨guard, world.disk⟩
  | some guard, .evaluate _ liveness _ => Session.Orderly ⟨guard, world.disk⟩ liveness
  | _, _ => True

def World.Confirms (world : World) : Answer → Prop
  | .locked epoch => ∃ s : Session, world.guard = some s.guard ∧ world.disk = s.disk ∧ s.Settled ∧
      epoch = s.epoch
  | .inserted key epoch => ∃ s : Session, world.guard = some s.guard ∧ world.disk = s.disk ∧
      s.Settled ∧ epoch = s.epoch ∧ key ∈ s.dirty
  | .evaluated evaluation => ∃ s : Session, world.guard = some s.guard ∧ world.disk = s.disk ∧
      s.Settled ∧ evaluation.epoch = s.epoch ∧ evaluation.veto = !s.dirty.isEmpty
  | _ => True

omit [JournalText] in
theorem Disk.journal_damaged {disk : Disk} {home : String} {file : Option JournalFile}
    (h : file.all fun f => f.damaged home) : ({ disk with json := file } : Disk).journal home = none := by
  cases file with
  | none => rfl
  | some file =>
    simp only [Option.all_some, JournalFile.damaged, Bool.or_eq_true, decide_eq_true_eq,
      Bool.not_eq_true'] at h
    simp only [Disk.journal, Option.bind_some]
    split_ifs with hsize
    · rcases h with hlarge | hinvalid
      · omega
      · cases hparsed : file.parsed with
        | none => rfl
        | some journal =>
          rw [hparsed] at hinvalid
          simpa [Option.filter] using hinvalid
    · rfl

omit [JournalText] in
theorem Disk.Keeps.damage {disk : Disk} {home key : String} {epoch : ℕ}
    {file : Option JournalFile} (h : disk.Keeps home key epoch)
    (hdamaged : file.all fun f => f.damaged home) :
    ({ disk with json := file } : Disk).Keeps home key epoch := by
  obtain ⟨c, hc, hle, -⟩ := h
  refine ⟨c, hc, hle, fun _ journal hjournal => ?_⟩
  cases (Disk.journal_damaged hdamaged).symm.trans hjournal

omit [JournalText] in
theorem Inv.world {memory : Memory} {world : World} (hhome : world.homeDigest = memory.home)
    {s : Session} (h : Inv memory s) :
    ({ world with disk := s.disk, guard := some s.guard } : World).Remembers memory :=
  ⟨hhome, h⟩

namespace World
variable {memory : Memory} {world : World}

theorem lock_spec (h : world.Remembers memory) (io : LoadIo) :
    (world.lock io).2.Remembers memory ∧ (world.lock io).2.Confirms (world.lock io).1 := by
  have hsame := h
  obtain ⟨hhome, h⟩ := h
  unfold World.lock
  split
  · exact ⟨hsame, trivial⟩
  · exact ⟨hsame, trivial⟩
  · rename_i hguard _
    simp only [hguard] at h
    have hload := load_spec h io ⟨newGuard world.homeDigest, world.disk⟩ (by rw [hhome])
    cases hrun : Session.load io ⟨newGuard world.homeDigest, world.disk⟩ with
    | ok u s =>
      rw [hrun] at hload
      exact ⟨hload.1.world hhome, s, rfl, rfl, hload.2, rfl⟩
    | error e s =>
      rw [hrun] at hload
      refine ⟨⟨hhome, ?_⟩, trivial⟩
      simpa only [hguard] using hload

theorem damage_spec (h : world.Remembers memory) (file : Option JournalFile) :
    (world.call (.damage file)).2.Remembers memory := by
  have hsame := h
  obtain ⟨hhome, h⟩ := h
  simp only [World.call]
  split_ifs with hdamaged
  · rw [hhome] at hdamaged
    refine ⟨hhome, ?_⟩
    cases hguard : world.guard with
    | none =>
      simp only [hguard] at h ⊢
      exact ⟨h.floor, fun e he => (h.entry e he).damage hdamaged⟩
    | some guard =>
      simp only [hguard] at h ⊢
      refine ⟨h.home, ⟨h.stamped.known, h.stamped.floor⟩, fun journal hjournal => ?_, h.floor,
        fun e he => (h.disk e he).damage hdamaged, h.guard⟩
      have hnone := @Disk.journal_damaged _ world.disk _ _ hdamaged
      rw [← h.home] at hnone
      cases hnone.symm.trans hjournal
  · exact hsame

omit [JournalText] in
theorem release_spec (h : world.Remembers memory) :
    ({ world with guard := none } : World).Remembers memory := by
  refine ⟨h.1, ?_⟩
  have hworld := h.2
  cases hguard : world.guard with
  | none => simpa only [hguard] using hworld
  | some guard =>
    simp only [hguard] at hworld
    exact hworld.remembers

omit [JournalText] in
theorem action_spec {α : Type} (h : world.Remembers memory) {action : Session.Action α}
    {answer : α → Session → Answer} (post : α → Session → Prop)
    (haction : ∀ guard, world.guard = some guard → Inv memory ⟨guard, world.disk⟩ →
      Triple (· = ⟨guard, world.disk⟩) action (fun a s => Inv memory s ∧ post a s)
        fun _ s => Inv memory s)
    (hanswer : ∀ a s, post a s →
      ({ world with disk := s.disk, guard := some s.guard } : World).Confirms (answer a s)) :
    (world.run action answer).2.Remembers memory ∧
      (world.run action answer).2.Confirms (world.run action answer).1 := by
  cases hguard : world.guard with
  | none =>
    simp only [World.run, hguard]
    exact ⟨h, trivial⟩
  | some guard =>
    have hinv := h.2
    simp only [hguard] at hinv
    obtain ⟨s, hworld, ⟨a, hpost, hans⟩ | ⟨e, hfail, hans⟩⟩ :=
      World.run_spec hguard answer (haction guard hguard hinv)
    · rw [hworld, hans]
      exact ⟨hpost.1.world h.1, hanswer a s hpost.2⟩
    · rw [hworld, hans]
      exact ⟨hfail.world h.1, trivial⟩

theorem call_spec {call : Call} (h : world.Remembers memory) (horderly : world.Orderly call)
    (hclear : ∀ e ∈ memory.entry, ¬call.clears e.1) :
    (world.call call).2.Remembers memory ∧ (world.call call).2.Confirms (world.call call).1 := by
  cases call with
  | lock io => exact lock_spec h io
  | release => exact ⟨release_spec h, trivial⟩
  | damage file =>
    refine ⟨damage_spec h file, ?_⟩
    simp only [World.call]
    split_ifs <;> trivial
  | insert entry io =>
    refine action_spec h (fun key s => s.Settled ∧ key ∈ s.dirty)
      (fun guard hguard hinv => ?_) fun key s hpost => ⟨s, rfl, rfl, hpost.1, rfl, hpost.2⟩
    refine (Session.insert_spec hinv entry io).mono (fun _ hs => hs) ?_ fun _ _ hs => hs.1
    rintro key s ⟨hs, rfl, hmem, ⟨hheld, rfl⟩ | hsettled⟩
    · simp only [Orderly, hguard] at horderly
      exact ⟨hs, horderly hheld, hmem⟩
    · exact ⟨hs, hsettled, hmem⟩
  | clearPersisted key io =>
    refine action_spec h (fun _ _ => True) (fun guard hguard hinv => ?_) fun _ _ _ => trivial
    refine (Session.clearPersisted_inv io ?_).mono (fun _ hs => hs ▸ hinv)
      (fun _ _ hs => ⟨hs, trivial⟩) fun _ _ hs => hs
    rintro e he rfl
    exact hclear e he ⟨io, rfl⟩
  | bump io =>
    refine action_spec h (fun _ _ => True) (fun guard hguard hinv => ?_) fun _ _ _ => trivial
    exact (bump_inv memory io).mono (fun _ hs => hs ▸ hinv) (fun _ _ hs => ⟨hs, trivial⟩)
      fun _ _ hs => hs
  | evaluate session liveness io =>
    refine action_spec h (fun evaluation s => s.Settled ∧ evaluation.epoch = s.epoch ∧
      evaluation.veto = !s.dirty.isEmpty) (fun guard hguard hinv => ?_)
      fun evaluation s hpost => ⟨s, rfl, rfl, hpost⟩
    simp only [Orderly, hguard] at horderly
    exact Session.evaluate_spec hinv session liveness io horderly

end World

/-! ## What a run keeps -/

def Answer.epoch : Answer → Option ℕ
  | .locked epoch => some epoch
  | .evaluated evaluation => some evaluation.epoch
  | _ => none

def World.dirty (world : World) : Option (Std.ExtTreeMap String DirtyEntry) :=
  world.guard.map fun guard => guard.journal.dirty

/-- What a call at the end of a run may count on. -/
structure Honest (past : List (World × Call)) (world : World) (call : Call) : Prop where
  /-- No epoch is returned that is smaller than one returned before. -/
  epoch : ∀ e ∈ past, ∀ n ∈ (e.1.call e.2).1.epoch, ∀ m ∈ (world.call call).1.epoch, n ≤ m
  /-- An entry that was inserted and not cleared since is found until the epoch moves on. -/
  entry : ∀ later earlier w c key n evaluation, past = later ++ (w, c) :: earlier →
    (w.call c).1 = .inserted key n → (∀ e ∈ later, ¬e.2.clears key) →
    (world.call call).1 = .evaluated evaluation →
    n < evaluation.epoch ∨ evaluation.veto = true ∧ ∃ dirty ∈ (world.call call).2.dirty, key ∈ dirty
  /-- A failed insertion leaves the entries in memory as they were. -/
  restored : ∀ entry io failure, call = .insert entry io → (world.call call).1 = .failed failure →
    (world.call call).2.dirty = world.dirty
  /-- A load returns no epoch below the checkpoint. -/
  floor : ∀ n, (world.call call).1 = .locked n → world.disk.checkpoint.floor ≤ n

namespace World
variable {memory : Memory} {start world : World} {past : List (World × Call)}

omit [JournalText] in
theorem Remembers.raise (h : world.Remembers memory) {n : ℕ}
    (hfloor : n ≤ world.disk.checkpoint.floor) : world.Remembers { memory with floor := n } := by
  refine ⟨h.1, ?_⟩
  have hworld := h.2
  cases hguard : world.guard with
  | none =>
    simp only [hguard] at hworld ⊢
    exact ⟨hfloor, hworld.entry⟩
  | some guard =>
    simp only [hguard] at hworld ⊢
    exact ⟨hworld.home, hworld.stamped, hworld.covered, hfloor, hworld.disk, hworld.guard⟩

omit [JournalText] in
theorem Remembers.session (h : world.Remembers memory) {s : Session}
    (hguard : world.guard = some s.guard) (hdisk : world.disk = s.disk) : Inv memory s := by
  have hworld := h.2
  simp only [hguard, hdisk] at hworld
  exact hworld

omit [JournalText] in
theorem Remembers.floor_le (h : world.Remembers memory) :
    memory.floor ≤ world.disk.checkpoint.floor := by
  have hworld := h.2
  cases hguard : world.guard with
  | none =>
    simp only [hguard] at hworld
    exact hworld.floor
  | some guard =>
    simp only [hguard] at hworld
    exact hworld.floor

omit [JournalText] in
theorem Confirms.floor (h : world.Remembers memory) {answer : Answer}
    (hanswer : world.Confirms answer) {n : ℕ} (hn : n ∈ answer.epoch) :
    world.disk.checkpoint.floor = n := by
  have hsettled : ∃ s : Session, world.guard = some s.guard ∧ world.disk = s.disk ∧ s.Settled ∧
      n = s.epoch := by
    cases answer with
    | locked epoch =>
      obtain ⟨s, hguard, hdisk, hs, rfl⟩ := hanswer
      exact ⟨s, hguard, hdisk, hs, (Option.some.inj hn).symm⟩
    | evaluated evaluation =>
      obtain ⟨s, hguard, hdisk, hs, hepoch, -⟩ := hanswer
      exact ⟨s, hguard, hdisk, hs, (Option.some.inj hn).symm.trans hepoch⟩
    | _ => cases hn
  obtain ⟨s, hguard, hdisk, hs, rfl⟩ := hsettled
  have hstamp := (h.session hguard hdisk).stamped.settled hs
  rw [hdisk, hstamp]
  rfl

omit [JournalText] in
theorem Confirms.inserted (h : world.Remembers memory) {key : String} {n : ℕ}
    (hanswer : world.Confirms (.inserted key n)) :
    world.Remembers { memory with entry := some (key, n) } := by
  obtain ⟨s, hguard, hdisk, hs, rfl, hmem⟩ := hanswer
  have hinv := h.session hguard hdisk
  refine ⟨h.1, ?_⟩
  simp only [hguard, hdisk]
  refine ⟨hinv.home, hinv.stamped, hinv.covered, hinv.floor, ?_, ?_⟩
  · rintro e he
    obtain rfl := Option.some.inj he
    refine ⟨s.epoch, hinv.stamped.settled hs, le_refl _, fun _ journal hjournal hepoch => ?_⟩
    rw [← hinv.home] at hjournal
    exact (hinv.covered journal hjournal).2 hepoch _ hmem
  · rintro e he
    obtain rfl := Option.some.inj he
    exact Or.inr ⟨rfl, hmem⟩

theorem trace_remembers (h : Trace World.Step start past world) (hstart : start.Remembers memory)
    (horderly : ∀ e ∈ past, e.1.Orderly e.2)
    (hclear : ∀ e ∈ past, ∀ entry ∈ memory.entry, ¬e.2.clears entry.1) :
    world.Remembers memory := by
  refine h.invariant_of (fun w c => w.Orderly c ∧ ∀ entry ∈ memory.entry, ¬c.clears entry.1) hstart (fun e he => ⟨horderly e he, hclear e he⟩) ?_
  rintro w c w' hw ⟨ho, hc⟩ rfl
  exact (call_spec hw ho hc).1

theorem trace_remembers_nothing (h : Trace World.Step start past world)
    (hstart : start.guard = none) (horderly : ∀ e ∈ past, e.1.Orderly e.2) :
    world.Remembers ⟨start.homeDigest, 0, none⟩ := by
  refine trace_remembers h ⟨rfl, ?_⟩ horderly fun _ _ => nofun
  rw [hstart]
  exact ⟨Nat.zero_le _, nofun⟩

omit [Sha256] [JournalText] in
theorem run_answer {α : Type} (world : World) (action : Session.Action α)
    (answer : α → Session → Answer) :
    (∃ a s, (world.run action answer).1 = answer a s) ∨
      (∃ e, (world.run action answer).1 = .failed e) ∨ (world.run action answer).1 = .done := by
  unfold World.run
  split
  · exact Or.inr (Or.inr rfl)
  · split
    · exact Or.inl ⟨_, _, rfl⟩
    · exact Or.inr (Or.inl ⟨_, rfl⟩)

theorem not_clears_of_evaluated {call : Call} {evaluation : Evaluation} (key : String)
    (h : (world.call call).1 = .evaluated evaluation) : ¬call.clears key := by
  rintro ⟨io, rfl⟩
  simp only [World.call] at h
  rcases run_answer world (Session.clearPersisted key io) fun _ _ => .cleared with
    ⟨_, _, hans⟩ | ⟨_, hans⟩ | hans
  all_goals
    rw [hans] at h
    cases h

theorem insert_restores (h : world.Remembers memory) {entry : DirtyEntry} {io : CallIo}
    {failure : JournalFailure} (hfailed : (world.call (.insert entry io)).1 = .failed failure) :
    (world.call (.insert entry io)).2.dirty = world.dirty := by
  simp only [World.call] at hfailed ⊢
  cases hguard : world.guard with
  | none => simp [World.run, hguard] at hfailed
  | some guard =>
    have hinv := h.2
    simp only [hguard] at hinv
    obtain ⟨s, hworld, ⟨key, -, hans⟩ | ⟨e, hfail, -⟩⟩ :=
      World.run_spec hguard (fun key s => .inserted key s.epoch) (Session.insert_spec hinv entry io)
    · rw [hans] at hfailed
      cases hfailed
    · rw [hworld]
      simp only [World.dirty, hguard, Option.map_some]
      exact congrArg some hfail.2

end World

/-- In every run that rests on no epoch a failed bump left behind, answers are honest. -/
theorem journal_honest {start world : World} {past : List (World × Call)}
    (h : Trace World.Step start past world) (hstart : start.guard = none)
    (horderly : ∀ e ∈ past, e.1.Orderly e.2) (call : Call) (hcall : world.Orderly call) :
    Honest past world call := by
  have hnow := World.trace_remembers_nothing h hstart horderly
  refine ⟨?_, ?_, ?_, ?_⟩
  · intro e he n hn m hm
    obtain ⟨later, earlier, rfl⟩ := List.append_of_mem he
    obtain ⟨w', hearlier, rfl, hlater⟩ := h.split
    have hbefore := World.trace_remembers_nothing hearlier hstart fun e he =>
      horderly e (by simp [he])
    obtain ⟨hkept, hconfirms⟩ := World.call_spec hbefore (horderly e (by simp)) nofun
    have hraised := hkept.raise (hconfirms.floor hkept hn).ge
    have hworld := World.trace_remembers hlater hraised (fun e he => horderly e (by simp [he]))
      fun _ _ => nofun
    obtain ⟨hafter, hanswer⟩ := World.call_spec hworld hcall nofun
    exact hafter.floor_le.trans (hanswer.floor hafter hm).le
  · intro later earlier w c key n evaluation hpast hinserted hclear hevaluated
    subst hpast
    obtain ⟨w', hearlier, rfl, hlater⟩ := h.split
    have hbefore := World.trace_remembers_nothing hearlier hstart fun e he =>
      horderly e (by simp [he])
    obtain ⟨hkept, hconfirms⟩ := World.call_spec hbefore (horderly (w, c) (by simp)) nofun
    rw [hinserted] at hconfirms
    have hentry := hconfirms.inserted hkept
    have hworld := World.trace_remembers hlater hentry (fun e he => horderly e (by simp [he]))
      fun e he entry hentry => Option.some.inj hentry ▸ hclear e he
    obtain ⟨hafter, hanswer⟩ := World.call_spec hworld hcall fun entry _ =>
      World.not_clears_of_evaluated entry.1 hevaluated
    rw [hevaluated] at hanswer
    obtain ⟨s, hguard, hdisk, hsettled, hepoch, hveto⟩ := hanswer
    rcases (hafter.session hguard hdisk).guard (key, n) rfl with hlt | ⟨heq, hmem⟩
    · exact Or.inl (hepoch ▸ hlt)
    · refine Or.inr ⟨?_, s.dirty, ?_, hmem⟩
      · have hsome : s.dirty.isEmpty = false :=
          Std.ExtTreeMap.isEmpty_eq_false_iff.mpr (Std.ExtTreeMap.ne_empty_of_mem hmem)
        rw [hveto, hsome]
        rfl
      · simp only [World.dirty, hguard, Option.map_some]
        rfl
  · rintro entry io failure rfl hfailed
    exact World.insert_restores hnow hfailed
  · intro n hlocked
    have hfloor := hnow.raise (le_refl _)
    obtain ⟨hafter, hanswer⟩ := World.call_spec hfloor hcall nofun
    refine hafter.floor_le.trans (hanswer.floor hafter ?_).le
    rw [hlocked]
    exact rfl

end

/-! A text length to evaluate runs with, whose journals stay far below the bound. -/

@[reducible] def shortText : JournalText := ⟨fun _ => 256⟩

def World.replay [Sha256] [JournalText] (calls : List Call) (home : String) :
    List (World × Call) × World :=
  Foundation.replay (fun w c => (w.call c).2) ⟨home, ⟨.empty, none⟩, none⟩ [] calls

def sampleDigest : String := "0123456789abcdef0123456789abcdef0123456789abcdef0123456789abcdef"

def sampleEntry : DirtyEntry :=
  ⟨sampleDigest, sampleDigest, sampleDigest, sampleDigest, ⟨1, "token"⟩, .questionHook, 1⟩

def insertedOnce : List Call := [.lock {}, .insert sampleEntry {}]

theorem journal_honest_inserted :
    @Honest .constant shortText (@World.replay .constant shortText insertedOnce sampleDigest).1
      (@World.replay .constant shortText insertedOnce sampleDigest).2
      (.evaluate none (fun _ _ => .unknown) {}) := by
  have hrun : Trace (@World.Step .constant shortText) ⟨sampleDigest, ⟨.empty, none⟩, none⟩
      (@World.replay .constant shortText insertedOnce sampleDigest).1
      (@World.replay .constant shortText insertedOnce sampleDigest).2 :=
    replay_trace insertedOnce .nil
  refine @journal_honest .constant shortText _ _ _ hrun rfl (fun e he => ?_) _ ?_
  · obtain rfl | he := List.mem_cons.mp he
    · exact fun _ => rfl
    · obtain rfl := List.mem_singleton.mp he
      trivial
  · have halive (s : Session) (hs : s.Settled) : s.Orderly fun _ _ => .unknown := by
      unfold Session.Orderly
      rw [if_neg (by simp [Session.hasAbandoned, Session.abandoned])]
      exact hs
    exact halive _ rfl

/-- A bump that cannot write the lock file leaves its epoch in the guard: the guard returns it,
and the next load returns the smaller one again. -/
def forgottenBump : List Call :=
  [.lock {}, .bump { checkpointWritten := false }, .evaluate none (fun _ _ => .alive) {}, .release]

theorem forgottenBump_dishonest :
    Trace (@World.Step .constant shortText) ⟨sampleDigest, ⟨.empty, none⟩, none⟩
        (@World.replay .constant shortText forgottenBump sampleDigest).1
        (@World.replay .constant shortText forgottenBump sampleDigest).2 ∧
      ¬@Honest .constant shortText (@World.replay .constant shortText forgottenBump sampleDigest).1
        (@World.replay .constant shortText forgottenBump sampleDigest).2 (.lock {}) := by
  refine ⟨replay_trace forgottenBump .nil, fun hhonest => ?_⟩
  have hle := @Honest.epoch .constant shortText _ _ _ hhonest _
    (List.mem_cons_of_mem _ List.mem_cons_self) 1 rfl 0 rfl
  exact absurd hle (by decide)

end VdeTmux.QuestionNotice.LossJournal
