import VdeTmux.Foundation.Trace
import VdeTmux.QuestionNotice.SidecarText
import VdeTmux.QuestionNotice.Steps

/-!
# What the sidecar keeps

Along every run the sidecar loads and gives back the notices of the last save that reached the
rename. What memory reports as saved or as acknowledged is in it.
-/

open Foundation VdeTmux.Pane
namespace VdeTmux.QuestionNotice

def NoticeOp.io : NoticeOp → Option SaveIo
  | .issue _ _ _ _ _ _ _ _ io => some io
  | .acknowledge _ _ _ _ _ io => some io
  | .reply _ _ _ _ _ _ _ io => some io
  | .reconcile _ _ _ io => some io
  | .restart => none

/-- The save of the operation stops between creating the marker and writing it. -/
def NoticeOp.Tears (operation : NoticeOp) (w : World) : Prop :=
  w.files.marker = .missing ∧ ∃ io, operation.io = some io ∧ io.fault = .markerTorn

/-- What the callers check before a question is issued. -/
def NoticeOp.Proper : NoticeOp → Prop
  | .issue pane process _ _ _ issuedAt _ _ _ =>
    pane.validate = .ok () ∧ process.validate = .ok () ∧ 0 ≤ issuedAt
  | _ => True

def lastSave : List (World × NoticeOp) → World → World
  | [], w => w
  | (before, _) :: past, w =>
    if before.files.commits = w.files.commits then lastSave past before else w

theorem lastSave_reached (past : List (World × NoticeOp)) (w : World) :
    lastSave past w = w ∨ ∃ e ∈ past, e.1 = lastSave past w := by
  induction past generalizing w with
  | nil => exact Or.inl rfl
  | cons e past ih =>
    rw [lastSave]
    split_ifs
    · rcases ih e.1 with heq | ⟨e', he', heq⟩
      · exact Or.inr ⟨e, List.mem_cons_self, heq.symm⟩
      · exact Or.inr ⟨e', List.mem_cons_of_mem _ he', heq⟩
    · exact Or.inl rfl

/-! ## One operation -/

/-- What an operation that does not replace the sidecar does to the notices. -/
structure Kept (n n' : QuestionNotices) : Prop where
  server : n'.serverHash = n.serverHash
  acknowledged : ∀ (owner : String) (state : QuestionNoticeState), n'.owners[owner]? = some state →
    state.acknowledgedOrder = (n.owners[owner]?.map (·.acknowledgedOrder)).getD 0
  seen : ∀ (owner : String) (state : QuestionNoticeState), n'.owners[owner]? = some state →
    ∀ key ∈ state.seen, (owner, key) ∈ n'.memoryOnly ∨
      ∃ old, n.owners[owner]? = some old ∧ key ∈ old.seen
  pending : ∀ owner key, (owner, key) ∈ n.memoryOnly → owner ∈ n'.owners →
    (owner, key) ∈ n'.memoryOnly

theorem Kept.same {n n' : QuestionNotices} (hserver : n'.serverHash = n.serverHash)
    (howners : n'.owners = n.owners) (hmemory : n'.memoryOnly = n.memoryOnly) : Kept n n' := by
  refine ⟨hserver, fun owner state hstate => ?_, fun owner state hstate key hkey => ?_,
    fun owner key hin _ => hmemory ▸ hin⟩
  · rw [howners] at hstate
    rw [hstate]
    rfl
  · exact Or.inr ⟨state, howners ▸ hstate, hkey⟩

theorem Kept.congr {n n' m : QuestionNotices} (h : Kept n m) (hserver : n'.serverHash = m.serverHash)
    (howners : n'.owners = m.owners) (hmemory : n'.memoryOnly = m.memoryOnly) : Kept n n' := by
  obtain ⟨hs, ha, hk, hp⟩ := h
  exact ⟨hserver.trans hs, by rwa [howners], by rwa [howners, hmemory], by rwa [howners, hmemory]⟩

theorem Kept.reconciled (n : QuestionNotices)
    (alive boundAlive : PaneInstance → AgentProcessIdentity → Bool) :
    Kept n (n.reconciled alive boundAlive) := by
  refine ⟨rfl, fun owner state hstate => ?_, fun owner state hstate key hkey => ?_,
    fun owner key hin howner => ?_⟩
  · obtain ⟨hstate, -⟩ := Maps.getElem?_filter_eq_some.mp hstate
    rw [hstate]
    rfl
  · exact Or.inr ⟨state, (Maps.getElem?_filter_eq_some.mp hstate).1, hkey⟩
  · refine Std.ExtTreeSet.mem_filter.mpr ⟨hin, ?_⟩
    rw [Std.ExtTreeSet.get_eq]
    exact Std.ExtTreeMap.contains_iff_mem.mpr howner

theorem Files.commits_failed (files : Files) :
    ({ files with saves := .preCommitFailed :: files.saves } : Files).commits = files.commits := by
  simp [Files.commits]

theorem commits_saved {sidecar : Option (List UInt8)} {marker : Marker} {result : CommitResult}
    {saves : List CommitResult} (h : result ≠ .preCommitFailed) :
    (⟨sidecar, marker, result :: saves⟩ : Files).commits = saves.countP (· ≠ .preCommitFailed) + 1 := by
  simp [Files.commits, h]

theorem reload_settled {n : QuestionNotices} {owner : String} {state : QuestionNoticeState} {through : ℕ}
    {resolver : Resolver} {diagnostics : PaneMap NoticeReason} {dirty : Bool} {attempt : Option ℕ}
    {memoryOnly : Std.ExtTreeSet (String × String) Maps.lex} :
    QuestionNotices.reload { n.advanced owner state through with
      resolver := resolver
      diagnostics := diagnostics
      dirty := dirty
      lastWriteAttempt := attempt
      memoryOnly := memoryOnly
      replyItems := n.replyItems.filter fun key _ => key.1 ≠ owner || through < key.2 } =
    (n.advanced owner state through).reload := by
  have hitems : ((n.replyItems.filter fun key _ => key.1 ≠ owner || through < key.2).filter
      fun key _ => (n.advanced owner state through).owners[key.1]?.any fun state =>
        state.acknowledgedOrder < key.2) =
      n.replyItems.filter fun key _ => (n.advanced owner state through).owners[key.1]?.any
        fun state => state.acknowledgedOrder < key.2 := by
    refine Std.ExtTreeMap.ext_getElem? fun {key} => Option.ext fun items => ?_
    simp only [Maps.getElem?_filter_eq_some, and_assoc, and_congr_right_iff, and_iff_right_iff_imp]
    intro _ hopen
    by_cases howner : key.1 = owner
    · rw [howner, QuestionNotices.advanced, Maps.getElem?_insert, if_pos rfl] at hopen
      simpa [howner] using hopen
    · simp [howner]
  unfold QuestionNotices.reload
  dsimp only [QuestionNotices.advanced] at hitems ⊢
  rw [hitems]

/-! ## What the answers say -/

theorem saved_persisted {disposition : NoticeDisposition} {persisted : Bool}
    (h : (NoticeResult.saved disposition persisted).durability = some .persisted) :
    persisted = true := by
  cases persisted with
  | false => cases h
  | true => rfl

theorem ack_acknowledged {pane : PaneInstance} {owner : String} {through now : ℕ} {io : SaveIo}
    {answer : Bool} {w w' : World} (hrun : AckStep w pane owner through now io (.ok answer, w')) :
    ∃ state, w'.notices.owners[owner]? = some state ∧ through ≤ state.acknowledgedOrder := by
  cases hrun with
  | done hstate hthrough => exact ⟨_, hstate, hthrough⟩
  | saved => exact ⟨_, by rw [QuestionNotices.advanced, Maps.getElem?_insert, if_pos rfl], le_rfl⟩

structure Unchanged (n n' : QuestionNotices) : Prop where
  owners : n'.owners = n.owners
  replyItems : n'.replyItems = n.replyItems
  dirty : n'.dirty = n.dirty
  lastWriteAttempt : n'.lastWriteAttempt = n.lastWriteAttempt

theorem saves_ne {saves : List CommitResult} {result : CommitResult} (h : result ≠ .preCommitFailed) :
    result :: saves ≠ .preCommitFailed :: saves := by
  intro heq
  exact h (List.cons.inj heq).1

theorem ack_failed {pane : PaneInstance} {owner : String} {through now : ℕ} {io : SaveIo}
    {answer : Except String Bool} {w w' : World}
    (hrun : AckStep w pane owner through now io (answer, w'))
    (hsaves : w'.files.saves = .preCommitFailed :: w.files.saves) :
    (∃ error, answer = .error error) ∧ Unchanged w.notices w'.notices := by
  cases hrun with
  | refused => exact absurd hsaves.symm (List.cons_ne_self _ _)
  | done => exact absurd hsaves.symm (List.cons_ne_self _ _)
  | failed => exact ⟨⟨_, rfl⟩, rfl, rfl, rfl, rfl⟩
  | saved _ _ _ _ hresult => exact absurd hsaves (saves_ne hresult)

theorem reply_failed {pane : PaneInstance} {owner session : String} {reply : List String}
    {orders : List ℕ} {now : ℕ} {io : SaveIo} {answer : Except String Bool} {w w' : World}
    (hrun : ReplyStep w pane owner session reply orders now io (answer, w'))
    (hsaves : w'.files.saves = .preCommitFailed :: w.files.saves) :
    (∃ error, answer = .error error) ∧ Unchanged w.notices w'.notices := by
  cases hrun with
  | refused => exact absurd hsaves.symm (List.cons_ne_self _ _)
  | settled => exact absurd hsaves.symm (List.cons_ne_self _ _)
  | failed => exact ⟨⟨_, rfl⟩, rfl, rfl, rfl, rfl⟩
  | answered _ _ _ hresult => exact absurd hsaves (saves_ne hresult)
  | advanced _ _ _ _ _ _ hack =>
    obtain ⟨⟨error, herror⟩, -⟩ := ack_failed hack hsaves
    cases herror

section
variable [Sha256]

theorem bindItems_frame (n : QuestionNotices) (owner : String) (order : ℕ) (session tool : String)
    (itemCount : Option ℕ) :
    (n.bindItems owner order session tool itemCount).serverHash = n.serverHash ∧
      (n.bindItems owner order session tool itemCount).owners = n.owners ∧
      (n.bindItems owner order session tool itemCount).memoryOnly = n.memoryOnly := by
  cases itemCount with
  | none => exact ⟨rfl, rfl, rfl⟩
  | some count =>
    have hrun := register_step n owner order session tool count
    rw [QuestionNotices.bindItems]
    generalize n.registerReplyItems owner order session tool count = m at hrun
    cases hrun <;> exact ⟨rfl, rfl, rfl⟩

theorem Kept.record (n : QuestionNotices) (pane : PaneInstance) (process : AgentProcessIdentity)
    (owner key session tool : String) (now : ℤ) (itemCount : Option ℕ) :
    Kept n (World.record n pane process owner key session tool now itemCount) := by
  obtain ⟨hserver, howners, hmemory⟩ := bindItems_frame (n.issue pane process owner key now) owner
    (n.issued pane process owner key now).latestOrder session tool itemCount
  have hissue : Kept n (n.issue pane process owner key now) := by
    refine ⟨rfl, ?_, ?_, fun owner' key' hin _ => Std.ExtTreeSet.mem_insert.mpr (Or.inr hin)⟩
    · intro owner' state hstate
      rw [QuestionNotices.issue, Maps.getElem?_insert] at hstate
      split_ifs at hstate with hsame
      · cases hstate
        rw [hsame, QuestionNotices.issued]
        cases n.owners[owner]? <;> rfl
      · rw [hstate]
        rfl
    · intro owner' state hstate key' hkey
      rw [QuestionNotices.issue, Maps.getElem?_insert] at hstate
      split_ifs at hstate with hsame
      · cases hstate
        subst hsame
        rcases Std.ExtTreeSet.mem_insert.mp hkey with heq | hold
        · rw [← Std.LawfulEqCmp.eq_of_compare heq]
          exact Or.inl Std.ExtTreeSet.mem_insert_self
        · cases hget : n.owners[owner']? with
          | none => simp [hget] at hold
          | some old => exact Or.inr ⟨old, rfl, by simpa [hget] using hold⟩
      · exact Or.inr ⟨state, hstate, hkey⟩
  rw [record_eq]
  exact hissue.congr hserver howners hmemory

theorem record_owner (n : QuestionNotices) (pane : PaneInstance) (process : AgentProcessIdentity)
    (owner key session tool : String) (now : ℤ) (itemCount : Option ℕ) :
    (World.record n pane process owner key session tool now itemCount).owners[owner]? =
      some (n.issued pane process owner key now) := by
  obtain ⟨-, howners, -⟩ := bindItems_frame (n.issue pane process owner key now) owner
    (n.issued pane process owner key now).latestOrder session tool itemCount
  rw [record_eq]
  dsimp only
  rw [howners, QuestionNotices.issue, Maps.getElem?_insert, if_pos rfl]

theorem load_of_torn [SnapshotReader] {files : Files} (h : files.marker = .torn)
    {serverHash : String} :
    files.load serverHash = .error "invalid question notice expectation marker" := by
  rw [Files.load, if_pos h]

theorem issue_persisted {pane : PaneInstance} {process : AgentProcessIdentity}
    {session turn tool : String} {issuedAt : ℤ} {itemCount : Option ℕ} {now : ℕ} {io : SaveIo}
    {result : NoticeResult} {w w' : World}
    (hrun : IssuedStep w pane process session turn tool issuedAt itemCount now io (result, w'))
    (hresult : result.durability = some .persisted) :
    ∃ state, w'.notices.owners[ownerRef w.notices.serverHash pane process]? = some state ∧
      noticeKey session turn tool ∈ state.seen ∧
      (ownerRef w.notices.serverHash pane process, noticeKey session turn tool) ∉
        w'.notices.memoryOnly := by
  cases hrun with
  | rejected reason => cases hresult
  | duplicate hstate hkey hsaved => exact ⟨_, hstate, hkey, hsaved⟩
  | @retried bound state _ _ hstate hkey hpersist =>
    have hgone := saved_persisted hresult
    rw [Bool.not_eq_true', Bool.eq_false_iff, ne_eq, Std.ExtTreeSet.contains_iff_mem] at hgone
    refine ⟨state, ?_, hkey, hgone⟩
    cases hpersist <;> exact hstate
  | @applied bound notices hnotices _ _ _ persisted _ hrun =>
    obtain rfl := saved_persisted hresult
    rcases hrun with ⟨hfalse, -⟩ | ⟨result, hpersist, hcommitted⟩
    · cases hfalse
    · have howner := record_owner { w.notices with bound := bound } pane process
        (ownerRef w.notices.serverHash pane process) (noticeKey session turn tool) session tool
        issuedAt itemCount
      rw [← hnotices] at howner
      cases hpersist with
      | failed => cases hcommitted
      | saved _ _ _ hmemory =>
        rcases hmemory with ⟨-, rfl⟩ | ⟨rfl, -⟩
        · exact ⟨_, howner, Std.ExtTreeSet.mem_insert_self, Std.ExtTreeSet.not_mem_empty⟩
        · cases hcommitted

/-- What one operation can do to the notices and to the sidecar. -/
inductive OpStep [SnapshotReader] (w : World) (operation : NoticeOp) (w' : World) : Prop
  | saved {n : QuestionNotices} (hvalid : n.Valid) (hserver : n.serverHash = w.notices.serverHash)
      (hsidecar : w'.files.sidecar = some n.snapshot.toVec)
      (hbytes : n.snapshot.toVec.length ≤ maxBytes)
      (hmarker : w'.files.marker = .torn → w.files.marker = .torn ∨ operation.Tears w)
      (hcommits : w'.files.commits = w.files.commits + 1) (hreload : w'.notices.reload = n.reload)
      (hvalid' : w'.notices.Valid)
  | kept (hsidecar : w'.files.sidecar = w.files.sidecar) (hmarker : w'.files.marker = w.files.marker)
      (hcommits : w'.files.commits = w.files.commits) (hkept : Kept w.notices w'.notices)
      (hvalid' : w'.notices.Valid)
  | restarted (hoperation : operation = .restart)
      (hrestart : w' = { w with notices := w.files.open w.notices.serverHash })

section
variable [SnapshotReader] {w w' : World} {operation : NoticeOp} {n : QuestionNotices}

theorem OpStep.of_persist {now : ℕ} {io : SaveIo} {result : CommitResult}
    (hrun : PersistStep { w with notices := n } now io (result, w')) (hvalid : n.Valid)
    (hkept : Kept w.notices n) (hio : operation.io = some io) : OpStep w operation w' := by
  cases hrun with
  | failed =>
    refine .kept rfl rfl (Files.commits_failed _) (hkept.congr rfl rfl rfl) ?_
    exact hvalid.congr rfl rfl rfl rfl rfl
  | saved hresult hbytes hmarker hmemory =>
    refine .saved hvalid hkept.server rfl hbytes (fun h => ?_) (commits_saved hresult) rfl
      (hvalid.congr rfl rfl rfl rfl rfl)
    rcases hmarker h with htorn | ⟨hfault, hmissing⟩
    · exact Or.inl htorn
    · exact Or.inr ⟨hmissing, io, hio, hfault⟩

theorem issue_opStep {pane : PaneInstance} {process : AgentProcessIdentity}
    {session turn tool : String} {issuedAt : ℤ} {itemCount : Option ℕ} {now : ℕ} {io : SaveIo}
    {result : NoticeResult} (hvalid : w.notices.Valid) (hpane : pane.validate = .ok ())
    (hprocess : process.validate = .ok ()) (hissued : 0 ≤ issuedAt)
    (hrun : IssuedStep w pane process session turn tool issuedAt itemCount now io (result, w')) :
    OpStep w (.issue pane process session turn tool issuedAt itemCount now io) w' := by
  have hsame {bound : PaneMap AgentProcessIdentity} :
      Kept w.notices { w.notices with bound := bound } := .same rfl rfl rfl
  cases hrun with
  | rejected reason => exact .kept rfl rfl rfl (.same rfl rfl rfl) (hvalid.congr rfl rfl rfl rfl rfl)
  | duplicate => exact .kept rfl rfl rfl hsame (hvalid.congr rfl rfl rfl rfl rfl)
  | retried hstate hkey hpersist =>
    exact .of_persist hpersist (hvalid.congr rfl rfl rfl rfl rfl) hsame rfl
  | @applied bound notices hnotices hnew htotal hsize persisted w' hrun =>
    have hbound : ({ w.notices with bound := bound } : QuestionNotices).Valid :=
      hvalid.congr rfl rfl rfl rfl rfl
    have hrecord : notices.Valid := by
      rw [hnotices]
      exact hbound.record hpane hprocess hissued (validDigest_sha256Hex _) hnew htotal hsize
    have hkept : Kept w.notices notices := by
      have h := Kept.record { w.notices with bound := bound } pane process
        (ownerRef w.notices.serverHash pane process) (noticeKey session turn tool) session tool
        issuedAt itemCount
      rw [← hnotices] at h
      exact ⟨h.server, h.acknowledged, h.seen, h.pending⟩
    rcases hrun with ⟨-, rfl⟩ | ⟨result, hpersist, -⟩
    · exact .kept rfl rfl rfl hkept hrecord
    · exact .of_persist hpersist hrecord hkept rfl

theorem ack_opStep {pane : PaneInstance} {owner : String} {through now : ℕ} {io : SaveIo}
    {answer : Except String Bool} (hvalid : w.notices.Valid)
    (hrun : AckStep w pane owner through now io (answer, w')) (hio : operation.io = some io) :
    OpStep w operation w' := by
  cases hrun with
  | refused => exact .kept rfl rfl rfl (.same rfl rfl rfl) (hvalid.congr rfl rfl rfl rfl rfl)
  | done => exact .kept rfl rfl rfl (.same rfl rfl rfl) (hvalid.congr rfl rfl rfl rfl rfl)
  | failed =>
    exact .kept rfl rfl (Files.commits_failed _) (.same rfl rfl rfl)
      (hvalid.congr rfl rfl rfl rfl rfl)
  | saved hstate hpane hthrough hlatest hresult hbytes hmarker hmemory =>
    have hadvanced := hvalid.advance hstate hlatest
    refine .saved hadvanced rfl rfl hbytes (fun h => ?_) (commits_saved hresult) reload_settled
      ((hadvanced.filter _).congr rfl rfl rfl rfl rfl)
    rcases hmarker h with htorn | ⟨hfault, hmissing⟩
    · exact Or.inl htorn
    · exact Or.inr ⟨hmissing, io, hio, hfault⟩

theorem reply_opStep {pane : PaneInstance} {owner session : String} {reply : List String}
    {orders : List ℕ} {deadline now : ℕ} {io : SaveIo} {answer : Except String Bool}
    (hvalid : w.notices.Valid)
    (hrun : ReplyStep w pane owner session reply orders now io (answer, w')) :
    OpStep w (.reply pane owner session reply orders deadline now io) w' := by
  have hanswered (notice : QuestionNoticeState) : QuestionNotices.Valid { w.notices with
      replyItems := w.notices.answered owner notice (reply.zip orders) } :=
    hvalid.narrow narrowed_of_answer
  cases hrun with
  | refused => exact .kept rfl rfl rfl (.same rfl rfl rfl) (hvalid.congr rfl rfl rfl rfl rfl)
  | settled => exact .kept rfl rfl rfl (.same rfl rfl rfl) hvalid
  | failed =>
    exact .kept rfl rfl (Files.commits_failed _) (.same rfl rfl rfl)
      (hvalid.congr rfl rfl rfl rfl rfl)
  | @answered notice result marker memoryOnly diagnostics hnotice _ _ hresult hbytes hmarker =>
    refine .saved (hanswered notice) rfl rfl hbytes (fun h => ?_) (commits_saved hresult) rfl
      ((hanswered notice).congr rfl rfl rfl rfl rfl)
    rcases hmarker h with htorn | ⟨hfault, hmissing⟩
    · exact Or.inl htorn
    · exact Or.inr ⟨hmissing, io, rfl, hfault⟩
  | @advanced notice through changed w' hnotice _ _ _ _ _ hack =>
    have hstep : OpStep (w.withItems (w.notices.answered owner notice (reply.zip orders)))
        (.reply pane owner session reply orders deadline now io) w' :=
      ack_opStep (hanswered notice) hack rfl
    cases hstep with
    | saved hvalid hserver hsidecar hbytes hmarker hcommits hreload hvalid' =>
      exact .saved hvalid hserver hsidecar hbytes hmarker hcommits hreload hvalid'
    | kept hsidecar hmarker hcommits hkept hvalid' =>
      exact .kept hsidecar hmarker hcommits ⟨hkept.server, hkept.acknowledged, hkept.seen,
        hkept.pending⟩ hvalid'
    | restarted hoperation _ => cases hoperation

theorem op_step (hvalid : w.notices.Valid) (hproper : operation.Proper) :
    OpStep w operation (w.perform operation) := by
  cases operation with
  | issue pane process session turn tool issuedAt itemCount now io =>
    obtain ⟨hpane, hprocess, hissued⟩ := hproper
    exact issue_opStep hvalid hpane hprocess hissued
      (issued_step w pane process session turn tool issuedAt itemCount now io)
  | acknowledge pane owner through deadline now io =>
    exact ack_opStep hvalid (ack_step w pane owner through deadline now io) rfl
  | reply pane owner session reply orders deadline now io =>
    exact reply_opStep hvalid (reply_step w pane owner session reply orders deadline now io)
  | reconcile alive boundAlive now io =>
    have hreconciled := hvalid.reconciled alive boundAlive
    have hkept := Kept.reconciled w.notices alive boundAlive
    rw [World.perform]
    rcases reconcile_step w alive boundAlive now io with heq | ⟨result, hpersist⟩
    · rw [heq]
      exact .kept rfl rfl rfl hkept hreconciled
    · exact .of_persist hpersist hreconciled hkept rfl
  | restart => exact .restarted rfl rfl

end

/-! ## Every run -/

section
variable [SnapshotReader] {past : List (World × NoticeOp)} {w : World} {serverHash : String}

/-- What is true of the notices and the sidecar after the history `past`. -/
structure DiskBacked (serverHash : String) (past : List (World × NoticeOp)) (w : World) : Prop where
  server : w.notices.serverHash = serverHash
  valid : w.notices.Valid
  savedServer : (lastSave past w).notices.serverHash = serverHash
  savedValid : (lastSave past w).notices.Valid
  whole : w.files.marker ≠ .torn
  loads : w.files.load serverHash = .ok (lastSave past w).notices.reload
  seen : ∀ (owner : String) (state : QuestionNoticeState), w.notices.owners[owner]? = some state →
    ∀ key ∈ state.seen, (owner, key) ∈ w.notices.memoryOnly ∨
      ∃ saved, (lastSave past w).notices.owners[owner]? = some saved ∧ key ∈ saved.seen
  acknowledged : ∀ (owner : String) (state : QuestionNoticeState),
    w.notices.owners[owner]? = some state → 0 < state.acknowledgedOrder →
      ∃ saved, (lastSave past w).notices.owners[owner]? = some saved ∧
        state.acknowledgedOrder ≤ saved.acknowledgedOrder
  same : ∀ (owner : String) (saved state : QuestionNoticeState),
    (lastSave past w).notices.owners[owner]? = some saved →
      (∀ e ∈ past, e.1.files.commits = w.files.commits → owner ∈ e.1.notices.owners) →
        w.notices.owners[owner]? = some state → state.acknowledgedOrder = saved.acknowledgedOrder

theorem DiskBacked.start (serverHash : String) : DiskBacked serverHash [] (World.start serverHash) where
  server := rfl
  valid := .start serverHash
  savedServer := rfl
  savedValid := .start serverHash
  whole := nofun
  loads := by
    have hempty : (World.start serverHash).notices.reload = (World.start serverHash).notices := by
      have hitems : (∅ : ReplyMap).filter (fun key _ =>
          (∅ : Owners)[key.1]?.any fun state => state.acknowledgedOrder < key.2) = ∅ :=
        Std.ExtTreeMap.filter_eq_empty_iff.mpr fun _ h => absurd h Std.ExtTreeMap.not_mem_empty
      rw [World.start, QuestionNotices.reload, hitems]
    rw [lastSave, hempty]
    rfl
  seen := fun _ _ hstate => by simp [World.start] at hstate
  acknowledged := fun _ _ hstate => by simp [World.start] at hstate
  same := fun _ _ _ hstate => by simp [World.start, lastSave] at hstate

theorem DiskBacked.step {operation : NoticeOp} (h : DiskBacked serverHash past w)
    (hproper : operation.Proper) (hwhole : ¬operation.Tears w) :
    DiskBacked serverHash ((w, operation) :: past) (w.perform operation) := by
  have hstep := op_step h.valid hproper
  generalize w.perform operation = w' at hstep
  cases hstep with
  | @saved n hvalid hserver hsidecar hbytes hmarker hcommits hreload hvalid' =>
    have hlast : lastSave ((w, operation) :: past) w' = w' := by
      rw [lastSave, if_neg (by omega)]
    have hwhole' : w'.files.marker ≠ .torn := fun htorn =>
      (hmarker htorn).elim h.whole hwhole
    have hloads : w'.files.load serverHash = .ok w'.notices.reload := by
      obtain ⟨loaded, hloaded⟩ := exists_restore hvalid
      have heq := load_of_sidecar hwhole' hsidecar hbytes
      rw [hloaded, hserver, h.server] at heq
      rw [heq, restore_eq hvalid.keyed hloaded, hreload]
    have hserver' : w'.notices.serverHash = serverHash := by
      have hsame := congrArg QuestionNotices.serverHash hreload
      exact hsame.trans (hserver.trans h.server)
    refine ⟨hserver', hvalid', ?_, ?_, hwhole', ?_, ?_, ?_, ?_⟩ <;> rw [hlast]
    · exact hserver'
    · exact hvalid'
    · exact hloads
    · exact fun owner state hstate key hkey => Or.inr ⟨state, hstate, hkey⟩
    · exact fun owner state hstate _ => ⟨state, hstate, le_rfl⟩
    · intro owner saved state hsaved _ hstate
      cases hsaved.symm.trans hstate
      rfl
  | kept hsidecar hmarker hcommits hkept hvalid' =>
    have hlast : lastSave ((w, operation) :: past) w' = lastSave past w := by
      rw [lastSave, if_pos hcommits.symm]
    have hload : w'.files.load serverHash = w.files.load serverHash := by
      rw [Files.load, Files.load, hsidecar, hmarker]
    refine ⟨hkept.server.trans h.server, hvalid', ?_, ?_, hmarker ▸ h.whole, ?_, ?_, ?_, ?_⟩ <;>
      rw [hlast]
    · exact h.savedServer
    · exact h.savedValid
    · exact hload.trans h.loads
    · intro owner state hstate key hkey
      rcases hkept.seen owner state hstate key hkey with hmem | ⟨old, hold, hkey'⟩
      · exact Or.inl hmem
      · rcases h.seen owner old hold key hkey' with hmem | hsaved
        · exact Or.inl (hkept.pending owner key hmem (Maps.mem_iff_exists.mpr ⟨state, hstate⟩))
        · exact Or.inr hsaved
    · intro owner state hstate hpos
      have hsame := hkept.acknowledged owner state hstate
      cases hold : w.notices.owners[owner]? with
      | none =>
        rw [hold] at hsame
        exact absurd hpos (by simp [hsame])
      | some old =>
        rw [hold] at hsame
        rw [hsame]
        exact h.acknowledged owner old hold (by simpa [hsame] using hpos)
    · intro owner saved state hsaved hthere hstate
      obtain ⟨hnow, hbefore⟩ := List.forall_mem_cons.mp hthere
      obtain ⟨old, hold⟩ := Maps.mem_iff_exists.mp (hnow hcommits.symm)
      have hsame := hkept.acknowledged owner state hstate
      rw [hold] at hsame
      rw [hsame]
      exact h.same owner saved old hsaved (fun e he heq => hbefore e he (heq.trans hcommits.symm)) hold
  | restarted hoperation hrestart =>
    subst hrestart
    have hlast : lastSave ((w, operation) :: past)
        { w with notices := w.files.open w.notices.serverHash } = lastSave past w := by
      rw [lastSave, if_pos rfl]
    have hopen : w.files.open w.notices.serverHash = (lastSave past w).notices.reload := by
      rw [Files.open, h.server, h.loads]
    rw [hopen] at hlast ⊢
    refine ⟨h.savedServer, h.savedValid.reload, ?_, ?_, h.whole, ?_, ?_, ?_, ?_⟩ <;> rw [hlast]
    · exact h.savedServer
    · exact h.savedValid
    · exact h.loads
    · exact fun owner state hstate key hkey => Or.inr ⟨state, hstate, hkey⟩
    · exact fun owner state hstate _ => ⟨state, hstate, le_rfl⟩
    · intro owner saved state hsaved _ hstate
      cases hsaved.symm.trans hstate
      rfl

theorem backed (hrun : Trace World.Step (World.start serverHash) past w)
    (hproper : ∀ e ∈ past, e.2.Proper) (hwhole : ∀ e ∈ past, ¬e.2.Tears e.1) :
    DiskBacked serverHash past w := by
  induction hrun with
  | nil => exact .start serverHash
  | snoc before taken ih =>
    obtain ⟨hnow, hproper⟩ := List.forall_mem_cons.mp hproper
    obtain ⟨hnow', hwhole⟩ := List.forall_mem_cons.mp hwhole
    rw [← show _ = _ from taken]
    exact (ih hproper hwhole).step hnow hnow'

def QuestionNotices.Acknowledged (n : QuestionNotices) (owner : String) (order : ℕ) : Prop :=
  ∃ state, n.owners[owner]? = some state ∧ order ≤ state.acknowledgedOrder

/-- What the sidecar keeps after the history `past`, and what the next operation may answer. -/
structure Durable (serverHash : String) (past : List (World × NoticeOp)) (w : World) : Prop where
  loads : w.files.load serverHash = .ok (lastSave past w).notices.reload
  persisted : ∀ pane process session turn tool issuedAt itemCount now io (operation : NoticeOp),
    operation = .issue pane process session turn tool issuedAt itemCount now io →
      operation.Proper → ¬operation.Tears w →
        (w.issueWithItems pane process session turn tool issuedAt itemCount now io).1.durability =
          some .persisted →
            ∃ saved, (lastSave ((w, operation) :: past) (w.perform operation)).notices.owners[
                ownerRef serverHash pane process]? = some saved ∧
              noticeKey session turn tool ∈ saved.seen
  acknowledgeFailed : ∀ pane owner through deadline now io,
    (w.acknowledgeUntil pane owner through deadline now io).2.files.saves =
        .preCommitFailed :: w.files.saves →
      (∃ error, (w.acknowledgeUntil pane owner through deadline now io).1 = .error error) ∧
        Unchanged w.notices (w.acknowledgeUntil pane owner through deadline now io).2.notices
  replyFailed : ∀ pane owner session reply orders deadline now io,
    (w.acknowledgeReplyOrders pane owner session reply orders deadline now io).2.files.saves =
        .preCommitFailed :: w.files.saves →
      (∃ error, (w.acknowledgeReplyOrders pane owner session reply orders deadline now io).1 =
          .error error) ∧
        Unchanged w.notices
          (w.acknowledgeReplyOrders pane owner session reply orders deadline now io).2.notices
  reported : ∀ pane owner through deadline now io answer (operation : NoticeOp),
    operation = .acknowledge pane owner through deadline now io → ¬operation.Tears w → 0 < through →
      (w.acknowledgeUntil pane owner through deadline now io).1 = .ok answer →
        (lastSave ((w, operation) :: past) (w.perform operation)).notices.Acknowledged owner through
  shown : ∀ owner order, 0 < order → w.notices.Acknowledged owner order →
    (lastSave past w).notices.Acknowledged owner order
  restarted : ∀ owner order, (w.perform .restart).notices.Acknowledged owner order →
    w.notices.Acknowledged owner order ∨ ∃ e ∈ past, e.1.notices.Acknowledged owner order
  alive : ∀ owner order, (w.perform .restart).notices.Acknowledged owner order →
    owner ∈ w.notices.owners →
      (∀ e ∈ past, e.1.files.commits = w.files.commits → owner ∈ e.1.notices.owners) →
        w.notices.Acknowledged owner order

theorem DiskBacked.shown (h : DiskBacked serverHash past w) {owner : String} {order : ℕ} (hpos : 0 < order)
    (hshown : w.notices.Acknowledged owner order) :
    (lastSave past w).notices.Acknowledged owner order := by
  obtain ⟨state, hstate, hle⟩ := hshown
  obtain ⟨saved, hsaved, hle'⟩ := h.acknowledged owner state hstate (by omega)
  exact ⟨saved, hsaved, by omega⟩

theorem DiskBacked.restarted (h : DiskBacked serverHash past w) :
    (w.perform .restart).notices = (lastSave past w).notices.reload := by
  rw [World.perform, Files.open, h.server, h.loads]

/-- Along every run whose saves leave a whole marker, the sidecar loads and keeps what was
answered. -/
theorem sidecar_durable (hrun : Trace World.Step (World.start serverHash) past w)
    (hproper : ∀ e ∈ past, e.2.Proper) (hwhole : ∀ e ∈ past, ¬e.2.Tears e.1) :
    Durable serverHash past w := by
  have h := backed hrun hproper hwhole
  refine ⟨h.loads, ?_, ?_, ?_, ?_, fun _ _ => h.shown, ?_, ?_⟩
  · rintro pane process session turn tool issuedAt itemCount now io operation rfl hnow hnow' hresult
    have hnext := h.step hnow hnow'
    obtain ⟨state, hstate, hkey, hsaved⟩ := issue_persisted
      (issued_step w pane process session turn tool issuedAt itemCount now io) hresult
    rw [h.server] at hstate hsaved
    exact (hnext.seen _ state hstate _ hkey).resolve_left hsaved
  · exact fun pane owner through deadline now io => ack_failed (ack_step _ _ _ _ _ _ _)
  · exact fun pane owner session reply orders deadline now io =>
      reply_failed (reply_step _ _ _ _ _ _ _ _ _)
  · rintro pane owner through deadline now io answer operation rfl hnow hpos hanswer
    have hack := ack_step w pane owner through deadline now io
    have hnext := h.step (show NoticeOp.Proper (.acknowledge pane owner through deadline now io) from
      trivial) hnow
    refine hnext.shown hpos ?_
    rw [World.perform]
    generalize w.acknowledgeUntil pane owner through deadline now io = p at hack hanswer
    obtain ⟨result, w'⟩ := p
    cases hanswer
    exact ack_acknowledged hack
  · intro owner order hafter
    rw [h.restarted] at hafter
    rcases lastSave_reached past w with heq | ⟨e, he, heq⟩
    · exact Or.inl (heq ▸ hafter)
    · exact Or.inr ⟨e, he, heq ▸ hafter⟩
  · intro owner order hafter howner hthere
    rw [h.restarted] at hafter
    obtain ⟨saved, hsaved, hle⟩ := hafter
    obtain ⟨state, hstate⟩ := Maps.mem_iff_exists.mp howner
    exact ⟨state, hstate, by rw [h.same owner saved state hsaved hthere hstate]; exact hle⟩

end

end

/-! ## A question on a new sidecar -/

theorem record_retryDue [Sha256] (n : QuestionNotices) (pane : PaneInstance)
    (process : AgentProcessIdentity) (owner key session tool : String) (issuedAt : ℤ)
    (itemCount : Option ℕ) (now : ℕ) :
    (World.record n pane process owner key session tool issuedAt itemCount).retryDue now =
      n.retryDue now := by
  rw [record_eq]
  cases itemCount with
  | none => rfl
  | some count =>
    have hrun := register_step (n.issue pane process owner key issuedAt) owner
      (n.issued pane process owner key issuedAt).latestOrder session tool count
    rw [QuestionNotices.bindItems]
    generalize QuestionNotices.registerReplyItems _ owner _ session tool count = m at hrun
    cases hrun <;> rfl

theorem issue_due [Sha256] {w : World} {pane : PaneInstance} {process : AgentProcessIdentity}
    {session turn tool : String} {issuedAt : ℤ} {itemCount : Option ℕ} {now : ℕ} {io : SaveIo}
    (hvalid : w.notices.invalidSidecar = false)
    (hnew : ∀ state, w.notices.owners[ownerRef w.notices.serverHash pane process]? = some state →
      noticeKey session turn tool ∉ state.seen ∧ state.seen.size < maxKeysPerOwner ∧
        state.latestOrder ≠ u64Max)
    (htotal : w.notices.keyCount < maxKeys) (hroom : w.notices.owners.size < maxOwners)
    (hdue : w.notices.retryDue now = true) :
    ∃ bound, w.notices.bind pane process = { w.notices with bound := bound } ∧
      w.issueWithItems pane process session turn tool issuedAt itemCount now io =
      let saved := World.persist { w with
        notices := World.record { w.notices with bound := bound } pane process
          (ownerRef w.notices.serverHash pane process) (noticeKey session turn tool) session tool
          issuedAt itemCount } now io
      (.saved .applied saved.1, saved.2) := by
  obtain ⟨bound, hbound⟩ := bind_eq w.notices pane process
  have hunseen : (w.notices.owners[ownerRef w.notices.serverHash pane process]?.any fun state =>
      state.seen.contains (noticeKey session turn tool)) ≠ true := by
    simp only [ne_eq, Option.any_eq_true, Std.ExtTreeSet.contains_iff_mem, not_exists, not_and]
    exact fun state hstate => (hnew state hstate).1
  have hfull : (w.notices.owners[ownerRef w.notices.serverHash pane process]?.any fun state =>
      maxKeysPerOwner ≤ state.seen.size || state.latestOrder = u64Max) ≠ true := by
    simp only [ne_eq, Option.any_eq_true, Bool.or_eq_true, decide_eq_true_eq, not_exists, not_and,
      not_or, not_le]
    exact fun state hstate => (hnew state hstate).2
  have hkept : (World.record { w.notices with bound := bound } pane process
      (ownerRef w.notices.serverHash pane process) (noticeKey session turn tool) session tool
        issuedAt itemCount).retryDue now = true :=
    (record_retryDue { w.notices with bound := bound } pane process _ _ session tool issuedAt
      itemCount now).trans hdue
  refine ⟨bound, hbound, ?_⟩
  unfold World.issueWithItems
  rw [hbound]
  dsimp only
  rw [if_neg (by simp [hvalid]), if_neg hunseen, if_neg, if_pos hkept]
  rintro (h | h | ⟨-, h⟩)
  · exact absurd h (Nat.not_le.mpr htotal)
  · exact hfull h
  · exact absurd h (Nat.not_le.mpr hroom)

namespace Asked

theorem toList_insert_empty (key : String) (state : QuestionNoticeState) :
    ((∅ : Owners).insert key state).toList = [(key, state)] := rfl

theorem issued_first (serverHash : String) (bound : PaneMap AgentProcessIdentity)
    (pane : PaneInstance) (process : AgentProcessIdentity) (owner key : String) (now : ℤ) :
    QuestionNotices.issued { serverHash := serverHash, bound := bound } pane process owner key now =
      ⟨pane, process, owner, 1, 0, now, {key}⟩ := by
  rw [QuestionNotices.issued, Std.ExtTreeMap.getElem?_empty]
  rfl

theorem record_first [Sha256] (serverHash : String) (bound : PaneMap AgentProcessIdentity)
    (pane : PaneInstance) (process : AgentProcessIdentity) (owner key session tool : String)
    (now : ℤ) :
    (World.record { serverHash := serverHash, bound := bound } pane process owner key session tool now
      none).snapshot =
        ⟨1, serverHash, [⟨pane, process, owner, 1, 0, now, {key}⟩], [], ∅, ∅⟩ := by
  rw [record_eq, QuestionNotices.snapshot]
  dsimp only [QuestionNotices.bindItems, QuestionNotices.issue]
  rw [issued_first, toList_insert_empty]
  rfl

theorem issue_first [Sha256] (serverHash : String) (pane : PaneInstance)
    (process : AgentProcessIdentity) (session turn tool : String) (issuedAt : ℤ) (now : ℕ)
    (io : SaveIo) :
    ∃ n : QuestionNotices,
      n.snapshot = ⟨1, serverHash, [⟨pane, process, ownerRef serverHash pane process, 1, 0, issuedAt,
        {noticeKey session turn tool}⟩], [], ∅, ∅⟩ ∧ n.invalidSidecar = false ∧
      ((World.start serverHash).issueWithItems pane process session turn tool issuedAt none now io).2 =
        (World.persist ⟨n, {}⟩ now io).2 := by
  obtain ⟨bound, -, hissue⟩ := @issue_due _ (World.start serverHash) pane process session turn tool
    issuedAt none now io rfl nofun (Nat.succ_pos 65535) (Nat.succ_pos 511) rfl
  refine ⟨World.record { serverHash := serverHash, bound := bound } pane process
    (ownerRef serverHash pane process) (noticeKey session turn tool) session tool issuedAt none,
    record_first serverHash bound pane process _ _ session tool issuedAt, ?_, ?_⟩
  · rw [record_eq]
    rfl
  · rw [hissue]
    rfl

theorem perform_issue [Sha256] [SnapshotReader] (w : World) (pane : PaneInstance)
    (process : AgentProcessIdentity) (session turn tool : String) (issuedAt : ℤ)
    (itemCount : Option ℕ) (now : ℕ) (io : SaveIo) :
    w.perform (.issue pane process session turn tool issuedAt itemCount now io) =
      (w.issueWithItems pane process session turn tool issuedAt itemCount now io).2 := rfl

def ask (fault : SaveFault) : NoticeOp :=
  .issue ⟨"%1", 4⟩ ⟨7, "started"⟩ "session" "turn" "call" 5 none 0 ⟨fault, 0⟩

noncomputable def asked (fault : SaveFault) : World :=
  @World.perform .constant .inverse (World.start "server") (ask fault)

def text (owner key : String) : List Char :=
  Snapshot.chars ⟨1, "server", [⟨⟨"%1", 4⟩, ⟨7, "started"⟩, owner, 1, 0, 5, {key}⟩], [], ∅, ∅⟩

theorem text_length (owner key : String) :
    (text owner key).length + 4 =
      (text "" "").length + (Json.quoteChars owner).length + (Json.quoteChars key).length := by
  have hkey (key : String) : Std.ExtTreeSet.toList ({key} : StringSet) = [key] := rfl
  have hempty : (Json.quoteChars "").length = 2 := rfl
  simp only [text, Snapshot.chars, Sidecar.fields, Sidecar.field, Writer.list, Writer.rest,
    Sidecar.owner, Sidecar.set, List.length_append, List.length_cons, hkey, id, hempty]
  omega

theorem text_short : (text "" "").length ≤ 300 := by decide +kernel

theorem ask_proper (fault : SaveFault) : (ask fault).Proper := by
  refine ⟨?_, ?_, ?_⟩ <;> decide

theorem asked_step (fault : SaveFault) :
    @World.Step .constant .inverse (World.start "server") (ask fault) (asked fault) := rfl

theorem sidecar_durable_asked :
    @Durable .constant .inverse "server" [(World.start "server", ask .none)] (asked .none) := by
  refine @sidecar_durable .constant .inverse _ _ _ (Trace.nil.snoc (asked_step .none)) ?_ ?_
  · exact List.forall_mem_singleton.mpr (ask_proper _)
  · refine List.forall_mem_singleton.mpr ?_
    rintro ⟨-, io, hio, hfault⟩
    cases hio
    cases hfault

theorem text_fits [Sha256] (serverHash session turn tool : String) (pane : PaneInstance)
    (process : AgentProcessIdentity) :
    4 * (text (ownerRef serverHash pane process) (noticeKey session turn tool)).length ≤ maxBytes := by
  rw [ownerRef, noticeKey]
  generalize utf8 _ = owner
  generalize utf8 _ = key
  have hhex (bytes : List UInt8) : (sha256Hex bytes).toList.length ≤ 64 :=
    (Text.length_le_charBytes _).trans (sha256Hex_length bytes).le
  have hlength := text_length ("vtqn1:" ++ sha256Hex owner) (sha256Hex key)
  have hshort := text_short
  have howner := Json.quoteChars_length_le ("vtqn1:" ++ sha256Hex owner)
  have hkey := Json.quoteChars_length_le (sha256Hex key)
  have hprefix : "vtqn1:".toList.length = 6 := rfl
  rw [String.toList_append, List.length_append] at howner
  have hbound := hhex owner
  have hbound' := hhex key
  have hmax : 10000 ≤ maxBytes := by
    unfold maxBytes
    omega
  omega

theorem persist_torn {n : QuestionNotices} (hvalid : n.invalidSidecar = false)
    (hbytes : n.snapshot.toVec.length ≤ maxBytes) (now : ℕ) :
    (World.persist ⟨n, {}⟩ now ⟨.markerTorn, 0⟩).2.files.marker = .torn ∧
      (World.persist ⟨n, {}⟩ now ⟨.markerTorn, 0⟩).2.files.saves = [.committedDurabilityUnknown] := by
  have hsave : { n with lastWriteAttempt := some now }.save {} none ⟨.markerTorn, 0⟩ =
      (.committedDurabilityUnknown,
        ⟨some { n with lastWriteAttempt := some now }.snapshot.toVec, .torn,
          [.committedDurabilityUnknown]⟩) := by
    unfold QuestionNotices.save QuestionNotices.saveInner
    rw [if_neg]
    · rfl
    · rintro (h | h | h | h)
      · exact absurd (hvalid.symm.trans h) nofun
      · exact absurd h (Nat.not_lt.mpr hbytes)
      · cases h
      · cases h
  unfold World.persist World.persistCommitUntil
  dsimp only
  rw [hsave]
  exact ⟨rfl, rfl⟩

theorem ask_torn [Sha256] [SnapshotReader] :
    ((World.start "server").perform (ask .markerTorn)).files.marker = .torn ∧
      ((World.start "server").perform (ask .markerTorn)).files.saves =
        [.committedDurabilityUnknown] := by
  obtain ⟨n, hsnapshot, hvalid, hrun⟩ := issue_first "server" ⟨"%1", 4⟩ ⟨7, "started"⟩
    "session" "turn" "call" 5 0 ⟨.markerTorn, 0⟩
  have hbytes : n.snapshot.toVec.length ≤ maxBytes := by
    have hfits := text_fits "server" "session" "turn" "call" ⟨"%1", 4⟩ ⟨7, "started"⟩
    have hlength := n.snapshot.length_toVec_le
    rw [text, ← hsnapshot] at hfits
    omega
  rw [ask, perform_issue, hrun]
  exact persist_torn hvalid hbytes 0

/-- The save reaches the rename, but stops before the marker is written. -/
theorem load_torn :
    (ask .markerTorn).Proper ∧ @World.Step .constant .inverse (World.start "server")
        (ask .markerTorn) (asked .markerTorn) ∧
      (asked .markerTorn).files.saves = [.committedDurabilityUnknown] ∧
      @Files.load .constant .inverse (asked .markerTorn).files "server" =
        .error "invalid question notice expectation marker" := by
  obtain ⟨hmarker, hsaves⟩ := @ask_torn .constant .inverse
  rw [← asked] at hmarker hsaves
  exact ⟨ask_proper _, asked_step _, hsaves, @load_of_torn .constant .inverse _ hmarker _⟩

end Asked

end VdeTmux.QuestionNotice
