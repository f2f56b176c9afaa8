import VdeTmux.QuestionNotice.ReplyBinding

/-!
# Replies along every run

A reply takes exactly the ids it names out of the orders they were frozen for, and acknowledges
only orders that replies have answered completely. A call binds its items once.
-/

open Foundation VdeTmux.Pane
namespace VdeTmux.QuestionNotice

/-- The notices the sidecar stands for. -/
def OnDisk (files : Files) (n : QuestionNotices) : Prop :=
  files.sidecar = some n.snapshot.toVec ∨
    files.sidecar = none ∧ ∃ serverHash, n = { serverHash := serverHash }

def QuestionNotices.Live (n : QuestionNotices) : Prop :=
  ∀ (owner : String) (order : ℕ) (items : ReplyItems), n.replyItems[(owner, order)]? = some items →
    ∃ state, n.owners[owner]? = some state ∧ state.acknowledgedOrder < order

def QuestionNotices.Ordered (n : QuestionNotices) : Prop :=
  ∀ (owner : String) (state : QuestionNoticeState), n.owners[owner]? = some state →
    state.acknowledgedOrder ≤ state.latestOrder

def Behind (n saved : QuestionNotices) : Prop :=
  ∀ (owner : String) (state : QuestionNoticeState), n.owners[owner]? = some state →
    0 < state.acknowledgedOrder → saved.Acknowledged owner state.acknowledgedOrder

theorem Kept.forward {n n' : QuestionNotices} (h : Kept n n') {owner : String}
    {state state' : QuestionNoticeState} (hstate : n.owners[owner]? = some state)
    (hstate' : n'.owners[owner]? = some state') : state.acknowledgedOrder = state'.acknowledgedOrder := by
  have hsame := h.acknowledged owner state' hstate'
  rw [hstate] at hsame
  exact hsame.symm

def Unbound (w : World) (owner session : String) (p : String × ℕ) : Prop :=
  ∀ notice, w.notices.owners[owner]? = some notice → notice.acknowledgedOrder < p.2 ∧
    ¬(p.2 ≤ notice.latestOrder ∧ ∃ entry, w.notices.replyItems[(owner, p.2)]? = some entry ∧
      entry.session = session ∧ p.1 ∈ entry.items)

theorem reply_refused {w : World} {pane : PaneInstance} {owner session : String} {reply : List String}
    {orders : List ℕ} {deadline now : ℕ} {io : SaveIo} {p : String × ℕ}
    (hp : p ∈ reply.zip orders) (hunbound : Unbound w owner session p) :
    (w.acknowledgeReplyOrders pane owner session reply orders deadline now io).2 = w ∧
      ((∃ error, (w.acknowledgeReplyOrders pane owner session reply orders deadline now io).1 =
          .error error) ∨
        (w.acknowledgeReplyOrders pane owner session reply orders deadline now io).1 = .ok false ∧
          ∃ notice, w.notices.owners[owner]? = some notice ∧
            notice.latestOrder ≤ notice.acknowledgedOrder) := by
  unfold World.acknowledgeReplyOrders
  split_ifs with hdeadline hinvalid
  · exact ⟨rfl, Or.inl ⟨_, rfl⟩⟩
  · exact ⟨rfl, Or.inl ⟨_, rfl⟩⟩
  split
  · exact ⟨rfl, Or.inl ⟨_, rfl⟩⟩
  rename_i notice hfilter
  obtain ⟨hnotice, -⟩ := Option.filter_eq_some_iff.mp hfilter
  obtain ⟨hopen, hnone⟩ := hunbound notice hnotice
  split_ifs with hsettled hall
  · exact ⟨rfl, Or.inr ⟨rfl, notice, hnotice, hsettled⟩⟩
  · have hdone := of_decide_eq_true (List.all_eq_true.mp hall p.2 (List.of_mem_zip hp).2)
    omega
  dsimp only
  rw [if_pos]
  · exact ⟨rfl, Or.inl ⟨_, rfl⟩⟩
  refine List.any_eq_true.mpr ⟨p, hp, ?_⟩
  simp only [hopen, decide_true, Bool.true_and, Bool.not_eq_true', Bool.eq_false_iff, ne_eq,
    Std.ExtTreeMap.getElem?_filter', Option.any_eq_true, Option.filter_eq_some_iff,
    QuestionNotices.inRange, Bool.and_eq_true, decide_eq_true_eq, Std.ExtTreeSet.contains_iff_mem]
  rintro ⟨entry, ⟨hentry, hrange⟩, hsession, hid⟩
  exact hnone ⟨hrange.2, entry, hentry, hsession, hid⟩

theorem mapM_zip {α β : Type} {f : α → Option β} {xs : List α} {ys : List β}
    (h : xs.mapM f = some ys) : ys.length = xs.length ∧ ∀ p ∈ xs.zip ys, f p.1 = some p.2 := by
  induction xs generalizing ys with
  | nil =>
    cases h
    exact ⟨rfl, nofun⟩
  | cons x xs ih =>
    simp only [List.mapM_cons, Option.pure_def, Option.bind_eq_bind, Option.bind_eq_some_iff,
      Option.some.injEq] at h
    obtain ⟨y, hy, ys', hys, rfl⟩ := h
    obtain ⟨hlength, hall⟩ := ih hys
    refine ⟨congrArg (· + 1) hlength, ?_⟩
    rw [List.zip_cons_cons]
    exact List.forall_mem_cons.mpr ⟨hy, hall⟩

theorem match_bound {n : QuestionNotices} {pane : PaneInstance} {owner session : String}
    {reply : List String} {orders : List ℕ}
    (h : n.matchReplyOrders pane owner session reply = .ok orders) :
    orders.length = reply.length ∧ ∃ notice, n.owners[owner]? = some notice ∧
      ∀ p ∈ reply.zip orders, notice.acknowledgedOrder < p.2 ∧ p.2 ≤ notice.latestOrder ∧
        ∃ entry, n.replyItems[(owner, p.2)]? = some entry ∧ entry.session = session ∧
          p.1 ∈ entry.items := by
  unfold QuestionNotices.matchReplyOrders at h
  split_ifs at h
  split at h
  · cases h
  rename_i notice hfilter
  obtain ⟨hnotice, -⟩ := Option.filter_eq_some_iff.mp hfilter
  split_ifs at h
  split at h
  · cases h
  rename_i orders' hmap
  cases h
  obtain ⟨hlength, hall⟩ := mapM_zip hmap
  refine ⟨hlength, notice, hnotice, fun p hp => ?_⟩
  obtain ⟨⟨key, entry⟩, hfind, horder⟩ := Option.map_eq_some_iff.mp (hall p hp)
  have hmem := Std.ExtTreeMap.mem_toList_iff_getElem?_eq_some.mp (List.mem_of_find?_eq_some hfind)
  have hsome := List.find?_some hfind
  simp only [QuestionNotices.inRange, Bool.and_eq_true, decide_eq_true_eq,
    Std.ExtTreeSet.contains_iff_mem] at hsome
  obtain ⟨⟨⟨⟨rfl, hopen⟩, hlatest⟩, hsession⟩, hid⟩ := hsome
  rw [← horder]
  exact ⟨hopen, hlatest, entry, hmem, hsession, hid⟩

section
variable [Sha256]

def QuestionNotices.Used (n : QuestionNotices) (owner session call : String) : Prop :=
  owner ∈ n.replyBlockedOwners ∨ n.Called owner (callDigest (identifierDigest session) call)

structure Memory (past : List (World × NoticeOp)) (n : QuestionNotices) : Prop where
  bindings : Bindings past n
  keyed : n.Keyed
  ordered : n.Ordered
  live : n.Live

def UsedMono (n n' : QuestionNotices) : Prop :=
  ∀ owner session call, owner ∈ n'.owners → n.Used owner session call → n'.Used owner session call

theorem UsedMono.same {n n' : QuestionNotices} (hcalls : n'.replyCalls = n.replyCalls)
    (hblocked : n'.replyBlockedOwners = n.replyBlockedOwners) : UsedMono n n' := by
  intro owner session call _ hused
  rwa [QuestionNotices.Used, QuestionNotices.Called, hblocked, hcalls]

namespace Memory
variable {past : List (World × NoticeOp)} {n m : QuestionNotices}

theorem congr (h : Memory past n) (howners : m.owners = n.owners)
    (hitems : m.replyItems = n.replyItems) (hcalls : m.replyCalls = n.replyCalls) : Memory past m where
  bindings := h.bindings.congr hitems hcalls
  keyed := by
    rw [QuestionNotices.Keyed, howners]
    exact h.keyed
  ordered := by
    rw [QuestionNotices.Ordered, howners]
    exact h.ordered
  live := by
    rw [QuestionNotices.Live, howners, hitems]
    exact h.live

theorem mono (h : Memory past n) (e : World × NoticeOp) : Memory (e :: past) n :=
  ⟨h.bindings.mono e, h.keyed, h.ordered, h.live⟩

theorem issue (h : Memory past n) (pane : PaneInstance) (process : AgentProcessIdentity)
    (owner key : String) (now : ℤ) : Memory past (n.issue pane process owner key now) where
  bindings := h.bindings.congr rfl rfl
  keyed := by
    intro ref state hstate
    rw [QuestionNotices.issue, Maps.getElem?_insert] at hstate
    split_ifs at hstate with hsame
    · cases hstate
      rw [QuestionNotices.issued]
      cases hget : n.owners[owner]? with
      | none => exact hsame.symm
      | some old => exact (h.keyed owner old hget).trans hsame.symm
    · exact h.keyed ref state hstate
  ordered := by
    intro ref state hstate
    rw [QuestionNotices.issue, Maps.getElem?_insert] at hstate
    split_ifs at hstate with hsame
    · cases hstate
      rw [QuestionNotices.issued]
      cases hget : n.owners[owner]? with
      | none => exact Nat.zero_le _
      | some old => exact (h.ordered owner old hget).trans (Nat.le_succ _)
    · exact h.ordered ref state hstate
  live := by
    intro owner' order items hitems
    obtain ⟨state, hstate, hopen⟩ := h.live owner' order items hitems
    rw [QuestionNotices.issue, Maps.getElem?_insert]
    split_ifs with hsame
    · refine ⟨_, rfl, ?_⟩
      rw [QuestionNotices.issued, ← hsame, hstate]
      exact hopen
    · exact ⟨state, hstate, hopen⟩

theorem register (h : Memory past n) {owner : String} {order : ℕ} {session call : String} {count : ℕ}
    (hcall : call ∈ issuedCalls past) (hrun : RegisterStep n owner order session call count m) :
    Memory past m ∧ UsedMono n m := by
  have hbindings := h.bindings.register hcall hrun
  cases hrun with
  | untracked => exact ⟨h, .same rfl rfl⟩
  | reused =>
    refine ⟨⟨hbindings, h.keyed, h.ordered, fun owner' order' items hitems => ?_⟩, .same rfl rfl⟩
    exact h.live owner' order' items (Maps.getElem?_filter_eq_some.mp hitems).1
  | blocked =>
    refine ⟨⟨hbindings, h.keyed, h.ordered, fun owner' order' items hitems => ?_⟩, ?_⟩
    · exact h.live owner' order' items (Maps.getElem?_filter_eq_some.mp hitems).1
    · intro owner' session' call' _ hused
      exact hused.imp (fun hin => Std.ExtTreeSet.mem_insert.mpr (Or.inr hin)) id
  | called =>
    refine ⟨⟨hbindings, h.keyed, h.ordered, h.live⟩, ?_⟩
    intro owner' session' call' _ hused
    exact hused.imp id fun hin => hin.insert
  | @bound state hallowed hstate hopen =>
    refine ⟨⟨hbindings, h.keyed, h.ordered, fun owner' order' items hitems => ?_⟩, ?_⟩
    · dsimp only at hitems
      rw [Maps.getElem?_insert] at hitems
      split_ifs at hitems with hkey
      · cases hkey
        exact ⟨state, hstate, hopen⟩
      · exact h.live owner' order' items hitems
    · intro owner' session' call' _ hused
      exact hused.imp id fun hin => hin.insert

theorem record (h : Memory past n) (pane : PaneInstance) (process : AgentProcessIdentity)
    (owner key session tool : String) (now : ℤ) (itemCount : Option ℕ)
    (hcall : itemCount.isSome = true → tool ∈ issuedCalls past) :
    Memory past (World.record n pane process owner key session tool now itemCount) ∧
      UsedMono n (World.record n pane process owner key session tool now itemCount) := by
  have hissue := h.issue pane process owner key now
  rw [record_eq]
  cases itemCount with
  | none => exact ⟨hissue.congr rfl rfl rfl, .same rfl rfl⟩
  | some count =>
    obtain ⟨hmemory, hused⟩ := hissue.register (hcall rfl) (register_step _ owner
      (n.issued pane process owner key now).latestOrder session tool count)
    exact ⟨hmemory.congr rfl rfl rfl, hused⟩

theorem reconciled (h : Memory past n)
    (alive boundAlive : PaneInstance → AgentProcessIdentity → Bool) :
    Memory past (n.reconciled alive boundAlive) ∧ UsedMono n (n.reconciled alive boundAlive) := by
  have hcalled {owner call : String}
      (howner : (n.owners.filter fun _ owner => alive owner.pane owner.process).contains owner = true)
      (hin : n.Called owner call) : (n.reconciled alive boundAlive).Called owner call := by
    obtain ⟨calls, hcalls, hin⟩ := hin
    exact ⟨calls, Maps.getElem?_filter_eq_some.mpr ⟨hcalls, howner⟩, hin⟩
  refine ⟨⟨?_, ?_, ?_, ?_⟩, ?_⟩
  · refine h.bindings.drop fun owner order items hitems => ?_
    obtain ⟨hitems, howner⟩ := Maps.getElem?_filter_eq_some.mp hitems
    exact ⟨hitems, fun call => hcalled howner⟩
  · exact fun ref state hstate => h.keyed ref state (Maps.getElem?_filter_eq_some.mp hstate).1
  · exact fun ref state hstate => h.ordered ref state (Maps.getElem?_filter_eq_some.mp hstate).1
  · intro owner order items hitems
    obtain ⟨hitems, howner⟩ := Maps.getElem?_filter_eq_some.mp hitems
    obtain ⟨state, hstate, hopen⟩ := h.live owner order items hitems
    obtain ⟨state', hstate'⟩ := Maps.mem_iff_exists.mp (Std.ExtTreeMap.contains_iff_mem.mp howner)
    cases hstate.symm.trans (Maps.getElem?_filter_eq_some.mp hstate').1
    exact ⟨state, hstate', hopen⟩
  · intro owner session call howner hused
    have hcontains := Std.ExtTreeMap.contains_iff_mem.mpr howner
    refine hused.imp (fun hin => Std.ExtTreeSet.mem_filter.mpr ⟨hin, ?_⟩) (hcalled hcontains)
    rw [Std.ExtTreeSet.get_eq]
    exact hcontains

theorem advanced (h : Memory past n) {owner : String} {state : QuestionNoticeState} {through : ℕ}
    (hstate : n.owners[owner]? = some state) (hlatest : through ≤ state.latestOrder)
    (howners : m.owners = (n.advanced owner state through).owners)
    (hitems : m.replyItems = n.replyItems.filter fun key _ => key.1 ≠ owner || through < key.2)
    (hcalls : m.replyCalls = n.replyCalls) : Memory past m where
  bindings := h.bindings.filter _ hitems hcalls
  keyed := by
    intro ref state' hstate'
    rw [howners, QuestionNotices.advanced, Maps.getElem?_insert] at hstate'
    split_ifs at hstate' with hsame
    · cases hstate'
      exact (h.keyed owner state hstate).trans hsame.symm
    · exact h.keyed ref state' hstate'
  ordered := by
    intro ref state' hstate'
    rw [howners, QuestionNotices.advanced, Maps.getElem?_insert] at hstate'
    split_ifs at hstate' with hsame
    · cases hstate'
      exact hlatest
    · exact h.ordered ref state' hstate'
  live := by
    intro owner' order items hin
    rw [hitems] at hin
    obtain ⟨hin, hopen⟩ := Maps.getElem?_filter_eq_some.mp hin
    rw [howners, QuestionNotices.advanced, Maps.getElem?_insert]
    split_ifs with hsame
    · exact ⟨_, rfl, by simpa [hsame] using hopen⟩
    · exact h.live owner' order items hin

theorem answered (h : Memory past n) {owner session : String} {notice : QuestionNoticeState}
    {pairs : List (String × ℕ)} (hverified : n.Verified owner session notice pairs)
    (hpairs : ∀ p ∈ pairs, AnsweredBy past owner session p.1 p.2) :
    Memory past { n with replyItems := n.answered owner notice pairs } where
  bindings := by
    refine h.bindings.narrow fun owner' order new hnew => ?_
    obtain ⟨old, hold, hsession, hitems, hpending⟩ := getElem?_answer.mp hnew
    refine ⟨old, hold, hsession, hitems, fun _ hin => hin, fun id hid hgone => ?_⟩
    -- an id goes only where the reply named it for this order, and then for the entry's session
    rw [hpending, not_and, not_not] at hgone
    obtain ⟨rfl, hopen, hin⟩ := hgone hid
    obtain ⟨-, entry, hentry, hsame, -⟩ := hverified _ hin hopen
    cases hold.symm.trans hentry
    rw [hsame]
    exact hpairs _ hin
  keyed := h.keyed
  ordered := h.ordered
  live := by
    intro owner' order new hnew
    obtain ⟨old, hold, -⟩ := getElem?_answer.mp hnew
    exact h.live owner' order old hold

end Memory

/-! ## One operation -/

/-- What one operation can do to the bindings, in memory and on the disk. -/
inductive TrackStep [SnapshotReader] (past : List (World × NoticeOp)) (w : World)
    (operation : NoticeOp) (w' : World) : Prop
  | saved {n : QuestionNotices} (hsidecar : w'.files.sidecar = some n.snapshot.toVec)
      (hcommits : w'.files.commits = w.files.commits + 1)
      (hserver : w'.notices.serverHash = w.notices.serverHash) (hkeyed : n.Keyed)
      (hordered : n.Ordered) (hbindings : Bindings past n) (howners : w'.notices.owners = n.owners)
      (hcalls : n.replyCalls = w'.notices.replyCalls)
      (hblocked : n.replyBlockedOwners = w'.notices.replyBlockedOwners)
      (hmemory : Memory past w'.notices) (hused : UsedMono w.notices w'.notices)
      (hforward : ∀ (owner : String) (state state' : QuestionNoticeState),
        w.notices.owners[owner]? = some state → w'.notices.owners[owner]? = some state' →
          state.acknowledgedOrder ≤ state'.acknowledgedOrder)
  | kept (hsidecar : w'.files.sidecar = w.files.sidecar)
      (hcommits : w'.files.commits = w.files.commits) (hkept : Kept w.notices w'.notices)
      (hmemory : Memory past w'.notices) (hused : UsedMono w.notices w'.notices)
  | restarted (hoperation : operation = .restart)
      (hrestart : w' = { w with notices := w.files.open w.notices.serverHash })

structure Tracked (serverHash : String) (past : List (World × NoticeOp)) (w : World) : Prop where
  server : w.notices.serverHash = serverHash
  memory : Memory past w.notices
  disk : ∃ n, OnDisk w.files n ∧ n.Keyed ∧ n.Ordered ∧ Bindings past n ∧ Behind w.notices n

theorem Tracked.start (serverHash : String) : Tracked serverHash [] (World.start serverHash) where
  server := rfl
  memory := ⟨.empty rfl, fun _ _ h => by simp [World.start] at h,
    fun _ _ h => by simp [World.start] at h, fun _ _ _ h => by simp [World.start] at h⟩
  disk := ⟨{ serverHash := serverHash }, Or.inr ⟨rfl, serverHash, rfl⟩,
    fun _ _ h => by simp at h, fun _ _ h => by simp at h, .empty rfl, fun _ _ h => by simp [World.start] at h⟩

section
variable [SnapshotReader] {past : List (World × NoticeOp)} {w w' : World} {operation : NoticeOp}
  {n : QuestionNotices}

theorem TrackStep.of_persist {now : ℕ} {io : SaveIo} {result : CommitResult}
    (hrun : PersistStep { w with notices := n } now io (result, w')) (hmemory : Memory past n)
    (hkept : Kept w.notices n) (hused : UsedMono w.notices n) :
    TrackStep past w operation w' := by
  cases hrun with
  | failed =>
    exact .kept rfl (Files.commits_failed _) (hkept.congr rfl rfl rfl) (hmemory.congr rfl rfl rfl) hused
  | saved hresult _ _ hmem =>
    exact .saved rfl (commits_saved hresult) hkept.server hmemory.keyed hmemory.ordered hmemory.bindings rfl rfl rfl
      (hmemory.congr rfl rfl rfl) hused fun owner state state' hstate hstate' =>
        (hkept.forward hstate hstate').le

theorem issue_trackStep {pane : PaneInstance} {process : AgentProcessIdentity}
    {session turn tool : String} {issuedAt : ℤ} {itemCount : Option ℕ} {now : ℕ} {io : SaveIo}
    {result : NoticeResult} (hmemory : Memory past w.notices)
    (hcall : itemCount.isSome = true → tool ∈ issuedCalls past)
    (hrun : IssuedStep w pane process session turn tool issuedAt itemCount now io (result, w')) :
    TrackStep past w operation w' := by
  cases hrun with
  | rejected reason =>
    exact .kept rfl rfl (.same rfl rfl rfl) (hmemory.congr rfl rfl rfl) (.same rfl rfl)
  | duplicate =>
    exact .kept rfl rfl (.same rfl rfl rfl) (hmemory.congr rfl rfl rfl) (.same rfl rfl)
  | retried hstate hkey hpersist =>
    exact .of_persist hpersist (hmemory.congr rfl rfl rfl) (.same rfl rfl rfl) (.same rfl rfl)
  | @applied bound notices hnotices hnew htotal hsize persisted w' hrun =>
    have hbound : Memory past { w.notices with bound := bound } := hmemory.congr rfl rfl rfl
    obtain ⟨hrecord, hused⟩ := hbound.record pane process (ownerRef w.notices.serverHash pane process)
      (noticeKey session turn tool) session tool issuedAt itemCount hcall
    have hkept := Kept.record { w.notices with bound := bound } pane process
      (ownerRef w.notices.serverHash pane process) (noticeKey session turn tool) session tool
      issuedAt itemCount
    rw [← hnotices] at hrecord hused hkept
    have hkept' : Kept w.notices notices := ⟨hkept.server, hkept.acknowledged, hkept.seen, hkept.pending⟩
    rcases hrun with ⟨-, rfl⟩ | ⟨result, hpersist, -⟩
    · exact .kept rfl rfl hkept' hrecord hused
    · exact .of_persist hpersist hrecord hkept' hused

theorem ack_trackStep {pane : PaneInstance} {owner : String} {through now : ℕ} {io : SaveIo}
    {answer : Except String Bool} (hmemory : Memory past w.notices)
    (hrun : AckStep w pane owner through now io (answer, w')) : TrackStep past w operation w' := by
  cases hrun with
  | refused => exact .kept rfl rfl (.same rfl rfl rfl) (hmemory.congr rfl rfl rfl) (.same rfl rfl)
  | done => exact .kept rfl rfl (.same rfl rfl rfl) (hmemory.congr rfl rfl rfl) (.same rfl rfl)
  | failed =>
    exact .kept rfl (Files.commits_failed _) (.same rfl rfl rfl) (hmemory.congr rfl rfl rfl)
      (.same rfl rfl)
  | @saved resolver state result marker memoryOnly diagnostics hstate hpane hthrough hlatest hresult =>
    have hadvanced : Memory past { w.notices.advanced owner state through with
        replyItems := w.notices.replyItems.filter fun key _ => key.1 ≠ owner || through < key.2 } :=
      hmemory.advanced hstate hlatest rfl rfl rfl
    refine .saved (n := w.notices.advanced owner state through) rfl (commits_saved hresult) rfl
      hadvanced.keyed hadvanced.ordered (hmemory.bindings.congr rfl rfl) rfl rfl rfl (hadvanced.congr rfl rfl rfl)
      (.same rfl rfl) fun owner' old new hold hnew => ?_
    dsimp only [QuestionNotices.advanced] at hnew
    rw [Maps.getElem?_insert] at hnew
    split_ifs at hnew with hsame
    · cases hnew
      subst hsame
      cases hstate.symm.trans hold
      exact hthrough.le
    · cases hnew.symm.trans hold
      exact le_rfl

theorem reply_trackStep {pane : PaneInstance} {owner session : String} {reply : List String}
    {orders : List ℕ} {deadline now : ℕ} {io : SaveIo} {answer : Except String Bool}
    (hmemory : Memory past w.notices)
    (hpairs : ∀ changed, answer = .ok changed →
      ∀ p ∈ reply.zip orders, AnsweredBy past owner session p.1 p.2)
    (hrun : ReplyStep w pane owner session reply orders now io (answer, w')) :
    TrackStep past w (.reply pane owner session reply orders deadline now io) w' := by
  cases hrun with
  | refused => exact .kept rfl rfl (.same rfl rfl rfl) (hmemory.congr rfl rfl rfl) (.same rfl rfl)
  | settled => exact .kept rfl rfl (.same rfl rfl rfl) hmemory (.same rfl rfl)
  | failed =>
    exact .kept rfl (Files.commits_failed _) (.same rfl rfl rfl) (hmemory.congr rfl rfl rfl)
      (.same rfl rfl)
  | answered hnotice hlength hverified hresult =>
    have hanswered := hmemory.answered hverified (hpairs _ rfl)
    exact .saved rfl (commits_saved hresult) rfl hanswered.keyed hanswered.ordered hanswered.bindings
      rfl rfl rfl
      (hanswered.congr rfl rfl rfl) (.same rfl rfl)
      fun _ _ _ hold hnew => (Option.some_inj.mp (hold.symm.trans hnew)) ▸ le_rfl
  | @advanced notice _ _ _ hnotice hlength hverified hthrough hlatest hall hack =>
    have hanswered := hmemory.answered hverified (hpairs _ rfl)
    have hstep : TrackStep past (w.withItems (w.notices.answered owner notice (reply.zip orders)))
        (.reply pane owner session reply orders deadline now io) w' := ack_trackStep hanswered hack
    cases hstep with
    | saved hsidecar hcommits hserver hkeyed hordered hbindings howners hcalls hblocked hmemory hused
        hforward =>
      exact .saved hsidecar hcommits hserver hkeyed hordered hbindings howners hcalls hblocked hmemory
        hused hforward
    | kept hsidecar hcommits hkept hmemory hused =>
      exact .kept hsidecar hcommits
        ⟨hkept.server, hkept.acknowledged, hkept.seen, hkept.pending⟩ hmemory hused
    | restarted hoperation _ => cases hoperation

theorem op_trackStep (operation : NoticeOp) (hmemory : Memory past w.notices) :
    TrackStep ((w, operation) :: past) w operation (w.perform operation) := by
  have hmemory := hmemory.mono (w, operation)
  cases operation with
  | issue pane process session turn tool issuedAt itemCount now io =>
    refine issue_trackStep hmemory (fun hcount => ?_)
      (issued_step w pane process session turn tool issuedAt itemCount now io)
    obtain ⟨count, rfl⟩ := Option.isSome_iff_exists.mp hcount
    exact List.mem_cons_self
  | acknowledge pane owner through deadline now io =>
    exact ack_trackStep hmemory (ack_step w pane owner through deadline now io)
  | reply pane owner session reply orders deadline now io =>
    refine reply_trackStep hmemory (fun changed hchanged p hp => ?_)
      (reply_step w pane owner session reply orders deadline now io)
    exact ⟨_, List.mem_cons_self, pane, reply, orders, deadline, now, io, rfl, hp, changed, hchanged⟩
  | reconcile alive boundAlive now io =>
    obtain ⟨hreconciled, hused⟩ := hmemory.reconciled alive boundAlive
    have hkept := Kept.reconciled w.notices alive boundAlive
    rw [World.perform]
    rcases reconcile_step w alive boundAlive now io with heq | ⟨result, hpersist⟩
    · rw [heq]
      exact .kept rfl rfl hkept hreconciled hused
    · exact .of_persist hpersist hreconciled hkept hused
  | restart => exact .restarted rfl rfl

/-! ## Every run -/

theorem open_cases {files : Files} (hdisk : OnDisk files n) (hkeyed : n.Keyed) (serverHash : String) :
    (files.open serverHash).owners = n.owners ∧
        (files.open serverHash).replyItems = n.reload.replyItems ∧
        (files.open serverHash).replyCalls = n.replyCalls ∧
        (files.open serverHash).replyBlockedOwners = n.replyBlockedOwners ∨
      (files.open serverHash).owners = ∅ ∧ (files.open serverHash).replyItems = ∅ := by
  unfold Files.open
  cases hload : files.load serverHash with
  | error error => exact Or.inr ⟨rfl, rfl⟩
  | ok loaded =>
    dsimp only
    have htorn : files.marker ≠ .torn := by
      intro h
      rw [load_of_torn h] at hload
      cases hload
    rw [Files.load, if_neg htorn] at hload
    rcases hdisk with hsidecar | ⟨hsidecar, serverHash', rfl⟩
    · rw [hsidecar] at hload
      dsimp only at hload
      split_ifs at hload with hbytes
      rw [SnapshotReader.roundTrip] at hload
      dsimp only at hload
      have hserver : n.serverHash = serverHash := by
        have hchecked := (seq_eq_ok.mp hload).1
        simp only [refuse_eq_ok, not_not] at hchecked
        exact hchecked.2
      rw [← hserver] at hload
      obtain rfl := restore_eq hkeyed hload
      exact Or.inl ⟨rfl, rfl, rfl, rfl⟩
    · rw [hsidecar] at hload
      dsimp only at hload
      split_ifs at hload
      cases hload
      exact Or.inr ⟨rfl, rfl⟩

theorem load_server {files : Files} {serverHash : String} {loaded : QuestionNotices}
    (h : files.load serverHash = .ok loaded) : loaded.serverHash = serverHash := by
  have htorn : files.marker ≠ .torn := by
    intro htorn
    rw [load_of_torn htorn] at h
    cases h
  rw [Files.load, if_neg htorn] at h
  cases hsidecar : files.sidecar with
  | none =>
    rw [hsidecar] at h
    dsimp only at h
    split_ifs at h
    cases h
    rfl
  | some bytes =>
    rw [hsidecar] at h
    dsimp only at h
    split_ifs at h
    cases hread : SnapshotReader.fromSlice bytes with
    | none =>
      rw [hread] at h
      cases h
    | some snapshot =>
      rw [hread] at h
      dsimp only at h
      rw [Snapshot.restore] at h
      obtain ⟨-, h⟩ := seq_eq_ok.mp h
      obtain ⟨-, h⟩ := seq_eq_ok.mp h
      obtain ⟨_, -, h⟩ := bind_eq_ok.mp h
      obtain ⟨-, h⟩ := seq_eq_ok.mp h
      obtain ⟨_, -, h⟩ := bind_eq_ok.mp h
      obtain ⟨-, h⟩ := seq_eq_ok.mp h
      obtain ⟨-, h⟩ := seq_eq_ok.mp h
      cases h
      rfl

theorem open_server (files : Files) (serverHash : String) :
    (files.open serverHash).serverHash = serverHash := by
  unfold Files.open
  cases hload : files.load serverHash with
  | ok loaded => exact load_server hload
  | error error => rfl

theorem Tracked.step {serverHash : String} (h : Tracked serverHash past w) (operation : NoticeOp) :
    Tracked serverHash ((w, operation) :: past) (w.perform operation) := by
  have hstep := op_trackStep operation h.memory
  obtain ⟨n, hdisk, hkeyed, hordered, hbindings, hbehind⟩ := h.disk
  have hbindings := hbindings.mono (w, operation)
  generalize w.perform operation = w' at hstep
  cases hstep with
  | @saved saved hsidecar hcommits hserver hkeyed hordered hbindings howners hcalls hblocked hmemory =>
    refine ⟨hserver.trans h.server, hmemory, saved, Or.inl hsidecar, hkeyed, hordered, hbindings, fun owner state hstate _ => ?_⟩
    exact ⟨state, howners ▸ hstate, le_rfl⟩
  | kept hsidecar hcommits hkept hmemory =>
    refine ⟨hkept.server.trans h.server, hmemory, n, ?_, hkeyed, hordered, hbindings, fun owner state hstate hpos => ?_⟩
    · rwa [OnDisk, hsidecar]
    · have hsame := hkept.acknowledged owner state hstate
      cases hold : w.notices.owners[owner]? with
      | none =>
        rw [hold] at hsame
        exact absurd hpos (by simp [hsame])
      | some old =>
        rw [hold, Option.map_some, Option.getD_some] at hsame
        rw [hsame] at hpos ⊢
        exact hbehind owner old hold hpos
  | restarted hoperation hrestart =>
    subst hrestart
    have hserver := (open_server w.files w.notices.serverHash).trans h.server
    rcases open_cases hdisk hkeyed w.notices.serverHash with ⟨howners, hitems, hcalls, -⟩ |
      ⟨howners, hitems⟩
    · refine ⟨hserver, ⟨hbindings.filter _ hitems hcalls, ?_, ?_, ?_⟩, n, hdisk, hkeyed, hordered, hbindings, ?_⟩
      · rw [QuestionNotices.Keyed, howners]
        exact hkeyed
      · rw [QuestionNotices.Ordered, howners]
        exact hordered
      · intro owner order items hin
        dsimp only at hin ⊢
        rw [hitems] at hin
        obtain ⟨-, hopen⟩ := Maps.getElem?_filter_eq_some.mp hin
        rw [howners]
        simpa [Option.any_eq_true] using hopen
      · intro owner state hstate _
        exact ⟨state, howners ▸ hstate, le_rfl⟩
    · refine ⟨hserver, ⟨.empty hitems, ?_, ?_, ?_⟩, n, hdisk, hkeyed, hordered, hbindings, ?_⟩
      · exact fun ref state hstate => by simp [howners] at hstate
      · exact fun ref state hstate => by simp [howners] at hstate
      · exact fun owner order items hin => by simp [hitems] at hin
      · exact fun owner state hstate => by simp [howners] at hstate

theorem tracked {serverHash : String} (hrun : Trace World.Step (World.start serverHash) past w) :
    Tracked serverHash past w := by
  induction hrun with
  | nil => exact .start serverHash
  | snoc before taken ih =>
    rw [← show _ = _ from taken]
    exact ih.step _

end

/-! ## What a reply does -/

section
variable {past : List (World × NoticeOp)} {w w' : World}

/-- A reply that was applied: what it took, and what it acknowledged. -/
structure Applied (past : List (World × NoticeOp)) (w w' : World) (owner session : String)
    (pairs : List (String × ℕ)) (notice notice' : QuestionNoticeState) : Prop where
  before : w.notices.owners[owner]? = some notice
  after : w'.notices.owners[owner]? = some notice'
  others : ∀ other, other ≠ owner → w'.notices.owners[other]? = w.notices.owners[other]?
  bound : w.notices.Verified owner session notice pairs
  entries : ∀ (key : String × ℕ) (new : ReplyItems), w'.notices.replyItems[key]? = some new ↔
    ∃ old, w.notices.replyItems[key]? = some old ∧
      (key.1 = owner → notice'.acknowledgedOrder < key.2) ∧ new.session = old.session ∧
      new.items = old.items ∧ ∀ id, id ∈ new.pending ↔ id ∈ old.pending ∧
        ¬(key.1 = owner ∧ notice.acknowledgedOrder < key.2 ∧ (id, key.2) ∈ pairs)
  forward : notice.acknowledgedOrder ≤ notice'.acknowledgedOrder
  answered : ∀ order, notice.acknowledgedOrder < order → order ≤ notice'.acknowledgedOrder →
    ∃ old, w.notices.replyItems[(owner, order)]? = some old ∧
      ∀ id ∈ old.items, AnsweredBy past owner old.session id order

theorem reply_applied {pane : PaneInstance} {owner session : String} {reply : List String}
    {orders : List ℕ} {now : ℕ} {io : SaveIo} {answer : Except String Bool}
    (hmemory : Memory past w.notices)
    (hpairs : ∀ changed, answer = .ok changed →
      ∀ p ∈ reply.zip orders, AnsweredBy past owner session p.1 p.2)
    (hrun : ReplyStep w pane owner session reply orders now io (answer, w')) :
    (w'.notices.owners = w.notices.owners ∧ w'.notices.replyItems = w.notices.replyItems) ∨
      ∃ notice notice', Applied past w w' owner session (reply.zip orders) notice notice' := by
  cases hrun with
  | refused => exact Or.inl ⟨rfl, rfl⟩
  | settled => exact Or.inl ⟨rfl, rfl⟩
  | failed => exact Or.inl ⟨rfl, rfl⟩
  | @answered notice _ _ _ _ hnotice _ hverified =>
    refine Or.inr ⟨notice, notice, hnotice, hnotice, fun _ _ => rfl, hverified, fun key new => ?_,
      le_rfl, fun order hlow hhigh => absurd (hlow.trans_le hhigh) (Nat.lt_irrefl _)⟩
    refine getElem?_answer.trans (exists_congr fun old => and_congr_right fun hold => ?_)
    refine (and_iff_right fun howner => ?_).symm
    obtain ⟨state, hstate, hopen⟩ := hmemory.live key.1 key.2 old hold
    rw [howner] at hstate
    cases hnotice.symm.trans hstate
    exact hopen
  | @advanced notice through _ _ hnotice _ hverified hthrough hlatest hall hack =>
    cases hack with
    | done hstate hdone =>
      cases hnotice.symm.trans hstate
      omega
    | @saved _ state _ _ _ _ hstate =>
      cases hnotice.symm.trans hstate
      refine Or.inr ⟨notice, { notice with acknowledgedOrder := through }, hnotice, ?_, ?_,
        hverified, fun key new => ?_, hthrough.le, fun order hlow hhigh => ?_⟩
      · exact (Maps.getElem?_insert _ _ _ _).trans (if_pos rfl)
      · exact fun other hother => (Maps.getElem?_insert _ _ _ _).trans (if_neg hother)
      · refine Maps.getElem?_filter_eq_some.trans ?_
        rw [World.withItems]
        dsimp only
        rw [QuestionNotices.answered, getElem?_answer]
        simp only [Bool.or_eq_true, decide_eq_true_eq, ne_eq, ← imp_iff_not_or]
        constructor
        · rintro ⟨⟨old, hold, hrest⟩, hopen⟩
          exact ⟨old, hold, hopen, hrest⟩
        · rintro ⟨old, hold, hopen, hrest⟩
          exact ⟨⟨old, hold, hrest⟩, hopen⟩
      · obtain ⟨new, hnew, hempty⟩ := hall order hlow hhigh
        obtain ⟨old, hold, hsession, hitems, hpending⟩ := getElem?_answer.mp hnew
        refine ⟨old, hold, fun id hid => ?_⟩
        by_cases hin : id ∈ old.pending
        · -- the reply itself answers what was still pending
          have hgone : id ∉ new.pending := by simp [hempty]
          rw [hpending, not_and, not_not] at hgone
          obtain ⟨-, hopen, hpair⟩ := hgone hin
          obtain ⟨-, entry, hentry, hsame, -⟩ := hverified _ hpair hopen
          cases hold.symm.trans hentry
          rw [hsame]
          exact hpairs _ rfl _ hpair
        · exact hmemory.bindings.answered owner order old hold id hid hin

end

/-! ## Calls -/

section
variable {w w' : World} {n m : QuestionNotices}

theorem RegisterStep.bind_used {owner : String} {order : ℕ} {session call : String} {count : ℕ}
    (hrun : RegisterStep n owner order session call count m) (hused : n.Used owner session call)
    (key : String × ℕ) (items : ReplyItems) (hitems : m.replyItems[key]? = some items) :
    n.replyItems[key]? = some items := by
  cases hrun with
  | untracked => exact hitems
  | reused => exact (Maps.getElem?_filter_eq_some.mp hitems).1
  | blocked => exact (Maps.getElem?_filter_eq_some.mp hitems).1
  | called => exact hitems
  | bound hallowed hstate hopen hlatest htotal hcalls =>
    rcases hused with hblocked | ⟨calls, hget, hin⟩
    · exact absurd hblocked hallowed
    · exact absurd hin (hcalls calls hget).1

theorem RegisterStep.used {owner : String} {order : ℕ} {session call : String} {count : ℕ}
    {state : QuestionNoticeState} (hrun : RegisterStep n owner order session call count m)
    (hstate : n.owners[owner]? = some state) (hlatest : order = state.latestOrder)
    (hopen : state.acknowledgedOrder < order) : m.Used owner session call := by
  cases hrun with
  | untracked hskip =>
    refine hskip.elim Or.inl fun hnone => ?_
    have hdone := hnone state hstate hlatest
    omega
  | reused hcalls hin => exact Or.inr ⟨_, hcalls, hin⟩
  | blocked => exact Or.inl Std.ExtTreeSet.mem_insert_self
  | called => exact Or.inr (n.called_self owner _)
  | bound => exact Or.inr (n.called_self owner _)

theorem record_used (hordered : n.Ordered) (pane : PaneInstance) (process : AgentProcessIdentity)
    (owner key session tool : String) (now : ℤ) (count : ℕ) :
    (World.record n pane process owner key session tool now (some count)).Used owner session tool := by
  have hopen : (n.issued pane process owner key now).acknowledgedOrder <
      (n.issued pane process owner key now).latestOrder := by
    rw [QuestionNotices.issued]
    cases hget : n.owners[owner]? with
    | none => exact Nat.zero_lt_succ _
    | some old => exact Nat.lt_succ_of_le (hordered owner old hget)
  have hstate : (n.issue pane process owner key now).owners[owner]? =
      some (n.issued pane process owner key now) :=
    (Maps.getElem?_insert _ _ _ _).trans (if_pos rfl)
  have hused := (register_step (n.issue pane process owner key now) owner
    (n.issued pane process owner key now).latestOrder session tool count).used hstate rfl hopen
  rw [record_eq]
  exact hused

theorem issue_used {pane : PaneInstance} {process : AgentProcessIdentity}
    {session turn tool : String} {issuedAt : ℤ} {count now : ℕ} {io : SaveIo} {result : NoticeResult}
    (hordered : w.notices.Ordered)
    (hrun : IssuedStep w pane process session turn tool issuedAt (some count) now io (result, w'))
    (happlied : result.disposition = .applied) :
    w'.notices.Used (ownerRef w.notices.serverHash pane process) session tool := by
  cases hrun with
  | rejected => cases happlied
  | duplicate => cases happlied
  | retried => cases happlied
  | @applied bound notices hnotices _ _ _ persisted _ hrun =>
    have hused : notices.Used (ownerRef w.notices.serverHash pane process) session tool := by
      rw [hnotices]
      exact record_used (n := { w.notices with bound := bound }) hordered pane process _ _ _ _ _ _
    rcases hrun with ⟨-, rfl⟩ | ⟨result, hpersist, -⟩
    · exact hused
    · cases hpersist <;> exact hused

theorem issue_bind_used {pane : PaneInstance} {process : AgentProcessIdentity}
    {session turn tool : String} {issuedAt : ℤ} {itemCount : Option ℕ} {now : ℕ} {io : SaveIo}
    {result : NoticeResult}
    (hrun : IssuedStep w pane process session turn tool issuedAt itemCount now io (result, w'))
    (hused : w.notices.Used (ownerRef w.notices.serverHash pane process) session tool)
    (key : String × ℕ) (items : ReplyItems) (hitems : w'.notices.replyItems[key]? = some items) :
    w.notices.replyItems[key]? = some items := by
  cases hrun with
  | rejected => exact hitems
  | duplicate => exact hitems
  | retried _ _ hpersist => cases hpersist <;> exact hitems
  | @applied bound notices hnotices _ _ _ persisted _ hrun =>
    have hbind (hitems : notices.replyItems[key]? = some items) :
        w.notices.replyItems[key]? = some items := by
      rw [hnotices, record_eq] at hitems
      cases itemCount with
      | none => exact hitems
      | some count =>
        have hstep := register_step (QuestionNotices.issue { w.notices with bound := bound } pane process
          (ownerRef w.notices.serverHash pane process) (noticeKey session turn tool) issuedAt)
          (ownerRef w.notices.serverHash pane process) (QuestionNotices.issued { w.notices with
            bound := bound } pane process (ownerRef w.notices.serverHash pane process)
              (noticeKey session turn tool) issuedAt).latestOrder session tool count
        exact hstep.bind_used hused key items hitems
    rcases hrun with ⟨-, rfl⟩ | ⟨result, hpersist, -⟩
    · exact hbind hitems
    · cases hpersist <;> exact hbind hitems

end

/-! ## Replies and calls along a run -/

section
variable [SnapshotReader] {past before later : List (World × NoticeOp)} {start w w' : World}
  {owner session call serverHash : String} {commits : ℕ}

/-- The call is in the history, and on the disk once that was replaced since. -/
structure Recorded (commits : ℕ) (owner session call : String) (w : World) : Prop where
  used : w.notices.Used owner session call
  disk : commits < w.files.commits → ∃ n, OnDisk w.files n ∧ n.Keyed ∧ n.Used owner session call

theorem Recorded.step {operation : NoticeOp} (h : Recorded commits owner session call w)
    (hmemory : Memory past w.notices) (halive : owner ∈ (w.perform operation).notices.owners)
    (hrestart : operation = .restart → commits < w.files.commits) :
    Recorded commits owner session call (w.perform operation) := by
  have hstep := op_trackStep operation hmemory
  generalize w.perform operation = w' at hstep halive
  cases hstep with
  | @saved n hsidecar _ _ hkeyed _ _ _ hcalls hblocked _ hused =>
    have hnow := hused owner session call halive h.used
    refine ⟨hnow, fun _ => ⟨n, Or.inl hsidecar, hkeyed, ?_⟩⟩
    rwa [QuestionNotices.Used, QuestionNotices.Called, hcalls, hblocked]
  | kept hsidecar hcommits _ _ hused =>
    refine ⟨hused owner session call halive h.used, fun hlt => ?_⟩
    rw [hcommits] at hlt
    obtain ⟨n, hdisk, hrest⟩ := h.disk hlt
    exact ⟨n, by rwa [OnDisk, hsidecar], hrest⟩
  | restarted hoperation hopened =>
    subst hopened
    obtain ⟨n, hdisk, hkeyed, hused⟩ := h.disk (hrestart hoperation)
    rcases open_cases hdisk hkeyed w.notices.serverHash with ⟨-, -, hcalls, hblocked⟩ | ⟨howners, -⟩
    · refine ⟨?_, fun _ => ⟨n, hdisk, hkeyed, hused⟩⟩
      rwa [QuestionNotices.Used, QuestionNotices.Called, hcalls, hblocked]
    · dsimp only at halive
      rw [howners] at halive
      exact absurd halive Std.ExtTreeMap.not_mem_empty

theorem Recorded.run (hbefore : Trace World.Step (World.start serverHash) before start)
    (hrun : Trace World.Step start later w) (h : Recorded commits owner session call start)
    (halive : ∀ e ∈ later, owner ∈ e.1.notices.owners) (hnow : owner ∈ w.notices.owners)
    (hrestart : ∀ e ∈ later, e.2 = .restart → commits < e.1.files.commits) :
    Recorded commits owner session call w := by
  induction hrun with
  | nil => exact h
  | snoc hlater taken ih =>
    obtain ⟨halive, hothers⟩ := List.forall_mem_cons.mp halive
    obtain ⟨hrestart, hrestarts⟩ := List.forall_mem_cons.mp hrestart
    rw [← show _ = _ from taken] at hnow ⊢
    exact (ih hothers halive hrestarts).step (tracked (hbefore.append hlater)).memory hnow hrestart

theorem Recorded.issue {pane : PaneInstance} {process : AgentProcessIdentity} {turn : String}
    {issuedAt : ℤ} {count now : ℕ} {io : SaveIo} (h : Tracked serverHash past w)
    (hstep : World.Step w (.issue pane process session turn call issuedAt (some count) now io) w')
    (happlied : (w.issueWithItems pane process session turn call issuedAt (some count) now io).1.disposition =
      .applied) :
    Recorded w.files.commits (ownerRef serverHash pane process) session call w' := by
  have hstep : w.perform (.issue pane process session turn call issuedAt (some count) now io) = w' :=
    hstep
  have htrack : TrackStep _ w _ w' := hstep ▸ op_trackStep
    (.issue pane process session turn call issuedAt (some count) now io) h.memory
  have hused : w'.notices.Used (ownerRef w.notices.serverHash pane process) session call :=
    hstep ▸ issue_used h.memory.ordered
      (issued_step w pane process session turn call issuedAt (some count) now io) happlied
  rw [h.server] at hused
  refine ⟨hused, fun hlt => ?_⟩
  cases htrack with
  | @saved n hsidecar _ _ hkeyed _ _ _ hcalls hblocked =>
    refine ⟨n, Or.inl hsidecar, hkeyed, ?_⟩
    rwa [QuestionNotices.Used, QuestionNotices.Called, hcalls, hblocked]
  | kept _ hcommits => omega
  | restarted hoperation _ => cases hoperation

theorem Tracked.forward (h : Tracked serverHash past w) (operation : NoticeOp)
    {state state' : QuestionNoticeState} (hstate : w.notices.owners[owner]? = some state)
    (hstate' : (w.perform operation).notices.owners[owner]? = some state') :
    state.acknowledgedOrder ≤ state'.acknowledgedOrder := by
  have hstep := op_trackStep operation h.memory
  obtain ⟨n, hdisk, hkeyed, -, -, hbehind⟩ := h.disk
  generalize w.perform operation = w' at hstep hstate'
  cases hstep with
  | saved _ _ _ _ _ _ _ _ _ _ _ hforward => exact hforward owner state state' hstate hstate'
  | kept _ _ hkept => exact (hkept.forward hstate hstate').le
  | restarted _ hrestart =>
    subst hrestart
    rcases open_cases hdisk hkeyed w.notices.serverHash with ⟨howners, -⟩ | ⟨howners, -⟩
    · rcases Nat.eq_zero_or_pos state.acknowledgedOrder with hzero | hpos
      · omega
      · obtain ⟨saved, hsaved, hle⟩ := hbehind owner state hstate hpos
        rw [howners, hsaved] at hstate'
        cases hstate'
        exact hle
    · simp [howners] at hstate'

/-- What holds of replies after the history `past`, and of the next operation. -/
structure RepliesSafe (serverHash : String) (past : List (World × NoticeOp)) (w : World) : Prop where
  unique : NoCollision past → ∀ (owner : String) (order order' : ℕ) (items items' : ReplyItems)
    (id : String), w.notices.replyItems[(owner, order)]? = some items →
      w.notices.replyItems[(owner, order')]? = some items' → items.session = items'.session →
        id ∈ items.items → id ∈ items'.items → order = order'
  once : ∀ later w₀ before pane process session turn call issuedAt count now io,
    past = later ++ (w₀, .issue pane process session turn call issuedAt (some count) now io) :: before →
      (w₀.issueWithItems pane process session turn call issuedAt (some count) now io).1.disposition =
        .applied →
      (∀ e ∈ later, ownerRef serverHash pane process ∈ e.1.notices.owners) →
      ownerRef serverHash pane process ∈ w.notices.owners →
      (∀ e ∈ later, e.2 = .restart → w₀.files.commits < e.1.files.commits) →
      ∀ turn' issuedAt' itemCount' now' io' (key : String × ℕ) (items : ReplyItems),
        (w.issueWithItems pane process session turn' call issuedAt' itemCount' now'
          io').2.notices.replyItems[key]? = some items → w.notices.replyItems[key]? = some items
  applied : ∀ pane owner session reply orders deadline now io,
    let w' := (w.acknowledgeReplyOrders pane owner session reply orders deadline now io).2
    (w'.notices.owners = w.notices.owners ∧ w'.notices.replyItems = w.notices.replyItems) ∨
      ∃ notice notice', Applied
        ((w, .reply pane owner session reply orders deadline now io) :: past) w w' owner session
        (reply.zip orders) notice notice'
  forward : ∀ (operation : NoticeOp) (owner : String) (state state' : QuestionNoticeState),
    w.notices.owners[owner]? = some state →
      (w.perform operation).notices.owners[owner]? = some state' →
        state.acknowledgedOrder ≤ state'.acknowledgedOrder
  refused : ∀ pane owner session reply orders deadline now io,
    ∀ p ∈ reply.zip orders, Unbound w owner session p →
      (w.acknowledgeReplyOrders pane owner session reply orders deadline now io).2 = w ∧
        ((∃ error, (w.acknowledgeReplyOrders pane owner session reply orders deadline now io).1 =
            .error error) ∨
          (w.acknowledgeReplyOrders pane owner session reply orders deadline now io).1 = .ok false ∧
            ∃ notice, w.notices.owners[owner]? = some notice ∧
              notice.latestOrder ≤ notice.acknowledgedOrder)
  frozen : ∀ pane owner session reply orders,
    w.notices.matchReplyOrders pane owner session reply = .ok orders →
      orders.length = reply.length ∧ ∀ p ∈ reply.zip orders, ¬Unbound w owner session p

/-- Replies answer what they are bound to, and a call is bound once unless a restart forgot it. -/
theorem replies_safe (hrun : Trace World.Step (World.start serverHash) past w) :
    RepliesSafe serverHash past w := by
  have h := tracked hrun
  refine ⟨h.memory.bindings.unique, ?_, ?_, fun operation owner state state' => h.forward operation,
    fun pane owner session reply orders deadline now io p hp => reply_refused hp, ?_⟩
  · rintro later w₀ before pane process session turn call issuedAt count now io rfl happlied halive
      hnow hrestart turn' issuedAt' itemCount' now' io' key items hitems
    obtain ⟨w₁, hbefore, hstep, hlater⟩ := hrun.split
    have hissue := Recorded.issue (tracked hbefore) hstep happlied
    have hrecorded := hissue.run (hbefore.snoc hstep) hlater halive hnow hrestart
    refine issue_bind_used (issued_step w pane process session turn' call issuedAt' itemCount' now' io')
      ?_ key items hitems
    rw [h.server]
    exact hrecorded.used
  · intro pane owner session reply orders deadline now io
    have hmemory := h.memory.mono (w, .reply pane owner session reply orders deadline now io)
    refine reply_applied hmemory (fun changed hchanged p hp => ?_)
      (reply_step w pane owner session reply orders deadline now io)
    exact ⟨_, List.mem_cons_self, pane, reply, orders, deadline, now, io, rfl, hp, changed, hchanged⟩
  · intro pane owner session reply orders hmatch
    obtain ⟨hlength, notice, hnotice, hall⟩ := match_bound hmatch
    refine ⟨hlength, fun p hp hunbound => ?_⟩
    exact (hunbound notice hnotice).2 (hall p hp).2

end

end

/-! ## A call that is bound twice -/

namespace Forgotten

theorem persist_failed (w : World) (now commitAt : ℕ) :
    World.persist w now ⟨.beforeRename, commitAt⟩ =
      (false, ⟨{ w.notices with lastWriteAttempt := some now },
        { w.files with saves := .preCommitFailed :: w.files.saves }⟩) := by
  have hfailed : QuestionNotices.save { w.notices with lastWriteAttempt := some now } w.files none
      ⟨.beforeRename, commitAt⟩ =
        (.preCommitFailed, { w.files with saves := .preCommitFailed :: w.files.saves }) := by
    unfold QuestionNotices.save QuestionNotices.saveInner
    rw [if_pos (Or.inr (Or.inr (Or.inl rfl)))]
  unfold World.persist World.persistCommitUntil
  dsimp only
  rw [hfailed]
  rfl

theorem persistCommitUntil_saved {n : QuestionNotices} {files : Files} {deadline : Option ℕ}
    (hvalid : n.invalidSidecar = false) (hbytes : n.snapshot.toVec.length ≤ maxBytes)
    (hmarker : files.marker = .missing) (hdeadline : ∀ limit ∈ deadline, 0 < limit) (now : ℕ) :
    World.persistCommitUntil ⟨n, files⟩ deadline now ⟨.none, 0⟩ =
      (.committed, ⟨{ n with
          dirty := false
          memoryOnly := ∅
          diagnostics := n.diagnostics.filter fun _ reason => reason ≠ .persistencePending
          lastWriteAttempt := none },
        ⟨some n.snapshot.toVec, .written, .committed :: files.saves⟩⟩) := by
  have hsave : QuestionNotices.save { n with lastWriteAttempt := some now } files deadline ⟨.none, 0⟩ =
      (.committed, ⟨some n.snapshot.toVec, .written, .committed :: files.saves⟩) := by
    unfold QuestionNotices.save QuestionNotices.saveInner
    rw [if_neg]
    · dsimp only
      rw [hmarker]
      rfl
    · rintro (h | h | h | h)
      · exact absurd (hvalid.symm.trans h) nofun
      · exact absurd h (Nat.not_lt.mpr hbytes)
      · cases h
      · obtain ⟨limit, hlimit, hle⟩ := Option.any_eq_true _ _ |>.mp h
        have hpos := hdeadline limit hlimit
        have hzero : limit ≤ 0 := of_decide_eq_true hle
        omega
  unfold World.persistCommitUntil
  dsimp only
  rw [hsave]

theorem persist_saved {n : QuestionNotices} (hvalid : n.invalidSidecar = false)
    (hbytes : n.snapshot.toVec.length ≤ maxBytes) (now : ℕ) :
    (World.persist ⟨n, {}⟩ now ⟨.none, 0⟩).2 =
      ⟨{ n with
          dirty := false
          memoryOnly := ∅
          diagnostics := n.diagnostics.filter fun _ reason => reason ≠ .persistencePending
          lastWriteAttempt := none }, ⟨some n.snapshot.toVec, .written, [.committed]⟩⟩ := by
  unfold World.persist
  rw [persistCommitUntil_saved hvalid hbytes rfl (by simp)]

def pane : PaneInstance := ⟨"%1", 4⟩
def process : AgentProcessIdentity := ⟨7, "started"⟩

section
variable [Sha256]

def owner : String := ownerRef "server" pane process

/-- The notices of an owner whose questions bind nothing so far. -/
structure Unbinding (n : QuestionNotices) (latest : ℕ) (seen : StringSet) : Prop where
  server : n.serverHash = "server"
  valid : n.invalidSidecar = false
  owners : n.owners = (∅ : Owners).insert owner ⟨pane, process, owner, latest, 0, 5, seen⟩
  items : n.replyItems = ∅
  calls : n.replyCalls = ∅
  blocked : n.replyBlockedOwners = ∅
  size : seen.size ≤ latest

namespace Unbinding
variable {n : QuestionNotices} {latest : ℕ} {seen : StringSet}

theorem getElem?_owner (h : Unbinding n latest seen) :
    n.owners[owner]? = some ⟨pane, process, owner, latest, 0, 5, seen⟩ := by
  rw [h.owners, Maps.getElem?_insert, if_pos rfl]

theorem keyCount (h : Unbinding n latest seen) : n.keyCount = seen.size := by
  rw [QuestionNotices.keyCount, h.owners, Maps.total_insert, Maps.erase_of_none (by simp)]
  rfl

theorem issued (h : Unbinding n latest seen) (key : String) :
    n.issued pane process owner key 5 =
      ⟨pane, process, owner, latest + 1, 0, 5, seen.insert key⟩ := by
  rw [QuestionNotices.issued, h.getElem?_owner]
  rfl

theorem record (h : Unbinding n latest seen) (key session tool : String) :
    Unbinding (World.record n pane process owner key session tool 5 none) (latest + 1)
      (seen.insert key) := by
  rw [record_eq]
  refine ⟨h.server, h.valid, ?_, h.items, h.calls, h.blocked,
    Std.ExtTreeSet.size_insert_le.trans (Nat.succ_le_succ h.size)⟩
  dsimp only [QuestionNotices.bindItems, QuestionNotices.issue]
  rw [h.issued, h.owners, Maps.insert_insert]

theorem getElem?_issue (h : Unbinding n latest seen) (key : String) :
    (n.issue pane process owner key 5).owners[owner]? =
      some ⟨pane, process, owner, latest + 1, 0, 5, seen.insert key⟩ := by
  rw [QuestionNotices.issue, h.issued]
  exact (Maps.getElem?_insert _ _ _ _).trans (if_pos rfl)

theorem bind (h : Unbinding n latest seen) (key session tool : String) :
    (World.record n pane process owner key session tool 5 (some 1)).replyItems =
      (∅ : ReplyMap).insert (owner, latest + 1) ⟨identifierDigest session,
        QuestionNotices.itemDigests tool 1, QuestionNotices.itemDigests tool 1⟩ := by
  rw [record_eq, h.issued]
  dsimp only [QuestionNotices.bindItems]
  have hitems : (n.issue pane process owner key 5).replyItems = ∅ := h.items
  have hcalls : (n.issue pane process owner key 5).replyCalls = ∅ := h.calls
  have hblocked : (n.issue pane process owner key 5).replyBlockedOwners = ∅ := h.blocked
  have howner := h.getElem?_issue key
  generalize n.issue pane process owner key 5 = m at hitems hcalls hblocked howner
  have htotal : m.callCount = 0 := by
    rw [QuestionNotices.callCount, hcalls]
    rfl
  have hcount : m.replyCount owner = 0 := by
    rw [QuestionNotices.replyCount, hitems]
    rfl
  unfold QuestionNotices.registerReplyItems
  rw [if_neg (by simp [hblocked, howner])]
  dsimp only
  rw [hcalls, if_neg (by simp), if_neg (by simp [htotal, maxKeys]), if_neg]
  · rw [hitems]
  · rintro (h | h | h | h)
    · exact absurd h (by decide)
    · exact absurd h (by decide)
    · rw [hitems] at h
      exact absurd h (by decide)
    · replace h : maxTextNoticesPerOwner ≤ m.replyCount owner := h
      rw [hcount] at h
      exact absurd h (by decide)

theorem asked [SnapshotReader] (h : Unbinding n latest seen) (files : Files) {turn tool : String}
    (itemCount : Option ℕ) {now : ℕ} (hnew : noticeKey "session" turn tool ∉ seen)
    (hlatest : latest < maxKeysPerOwner) (hdue : n.retryDue now = true) :
    ∃ n' : QuestionNotices, World.perform ⟨n, files⟩
        (.issue pane process "session" turn tool 5 itemCount now ⟨.beforeRename, 0⟩) =
          ⟨n', { files with saves := .preCommitFailed :: files.saves }⟩ ∧
      n'.serverHash = "server" ∧ n'.lastWriteAttempt = some now ∧ owner ∈ n'.owners ∧
      (itemCount = none →
        Unbinding n' (latest + 1) (seen.insert (noticeKey "session" turn tool))) ∧
      (itemCount = some 1 → n'.replyItems[(owner, latest + 1)]? =
        some ⟨identifierDigest "session", QuestionNotices.itemDigests tool 1,
          QuestionNotices.itemDigests tool 1⟩) := by
  have howner : ownerRef n.serverHash pane process = owner := by rw [h.server, owner]
  have hsize := h.size
  obtain ⟨bound, -, hissue⟩ := @issue_due _ ⟨n, files⟩ pane process "session" turn tool 5 itemCount
    now ⟨.beforeRename, 0⟩ h.valid (by
      intro state hstate
      rw [howner, h.getElem?_owner] at hstate
      cases hstate
      have hmax : maxKeysPerOwner < u64Max := by decide
      exact ⟨hnew, by simp only; omega, by simp only; omega⟩) (by
      have hmax : maxKeysPerOwner < maxKeys := by decide
      rw [h.keyCount]
      omega) (by
      rw [h.owners]
      exact Nat.lt_of_le_of_lt Std.ExtTreeMap.size_insert_le (by decide)) hdue
  have hbound : Unbinding { n with bound := bound } latest seen :=
    ⟨h.server, h.valid, h.owners, h.items, h.calls, h.blocked, h.size⟩
  have hkept := Kept.record { n with bound := bound } pane process owner
    (noticeKey "session" turn tool) "session" tool 5 itemCount
  refine ⟨{ World.record { n with bound := bound } pane process owner
      (noticeKey "session" turn tool) "session" tool 5 itemCount with
        lastWriteAttempt := some now }, ?_, ?_, rfl, ?_, ?_, ?_⟩
  · rw [Asked.perform_issue, hissue, persist_failed, howner]
  · exact hkept.server.trans h.server
  · exact Maps.mem_iff_exists.mpr ⟨_, record_owner _ _ _ _ _ _ _ _ _⟩
  · rintro rfl
    have hrecord := hbound.record (noticeKey "session" turn tool) "session" tool
    exact ⟨hrecord.server, hrecord.valid, hrecord.owners, hrecord.items, hrecord.calls,
      hrecord.blocked, hrecord.size⟩
  · rintro rfl
    exact (congrArg (·[(owner, latest + 1)]?) (hbound.bind _ "session" tool)).trans
      ((Maps.getElem?_insert _ _ _ _).trans (if_pos rfl))

end Unbinding

theorem first_saved [SnapshotReader] : ∃ n : QuestionNotices,
    Unbinding n 1 {noticeKey "session" "1" "first"} ∧ n.retryDue 0 = true ∧ n.Valid ∧
      n.snapshot.toVec.length ≤ maxBytes ∧
      (World.start "server").perform
          (.issue pane process "session" "1" "first" 5 none 0 ⟨.none, 0⟩) =
        ⟨n, ⟨some n.snapshot.toVec, .written, [.committed]⟩⟩ := by
  have hempty (bound : PaneMap AgentProcessIdentity) :
      QuestionNotices.keyCount { serverHash := "server", bound := bound } = 0 := rfl
  obtain ⟨bound, -, hissue⟩ := @issue_due _ (World.start "server") pane process "session" "1" "first"
    5 none 0 ⟨.none, 0⟩ rfl nofun (by decide) (by decide) rfl
  have hstart : QuestionNotices.Valid { serverHash := "server", bound := bound } :=
    (QuestionNotices.Valid.start "server").congr rfl rfl rfl rfl rfl
  have hvalid := @QuestionNotices.Valid.record _ _ hstart pane process
    (noticeKey "session" "1" "first") "session" "first" 5 none (by decide) (by decide)
    (by decide) (validDigest_sha256Hex _) nofun (by rw [hempty]; decide) (Or.inr (Nat.succ_pos 511))
  have hsnapshot := Asked.record_first "server" bound pane process owner
    (noticeKey "session" "1" "first") "session" "first" 5
  obtain ⟨m, hm⟩ : ∃ m, World.record { serverHash := "server", bound := bound } pane process owner
      (noticeKey "session" "1" "first") "session" "first" 5 none = m := ⟨_, rfl⟩
  have howners : m.owners = (∅ : Owners).insert owner ⟨pane, process, owner, 1, 0, 5,
      {noticeKey "session" "1" "first"}⟩ := by
    rw [← hm, record_eq, QuestionNotices.issue, Asked.issued_first]
    rfl
  have hrest : m.serverHash = "server" ∧ m.invalidSidecar = false ∧ m.replyItems = ∅ ∧
      m.replyCalls = ∅ ∧ m.replyBlockedOwners = ∅ := by
    rw [← hm, record_eq]
    exact ⟨rfl, rfl, rfl, rfl, rfl⟩
  have hbytes : m.snapshot.toVec.length ≤ maxBytes := by
    have hfits := Asked.text_fits "server" "session" "1" "first" pane process
    have hlength := m.snapshot.length_toVec_le
    rw [← hm, hsnapshot] at hlength ⊢
    exact hlength.trans hfits
  obtain ⟨hserver, hinvalid, hitems, hcalls, hblocked⟩ := hrest
  rw [show ownerRef _ pane process = owner from rfl] at hvalid
  rw [hm] at hvalid
  refine ⟨{ m with
      dirty := false
      memoryOnly := ∅
      diagnostics := m.diagnostics.filter fun _ reason => reason ≠ .persistencePending
      lastWriteAttempt := none }, ⟨hserver, hinvalid, howners, hitems, hcalls, hblocked, le_rfl⟩, rfl,
    hvalid.congr rfl rfl rfl rfl rfl, hbytes, ?_⟩
  have hrun : (World.start "server").perform
      (.issue pane process "session" "1" "first" 5 none 0 ⟨.none, 0⟩) =
        (World.persist ⟨m, {}⟩ 0 ⟨.none, 0⟩).2 := by
    rw [Asked.perform_issue, hissue, ← hm]
    dsimp only [World.start, owner]
  exact hrun.trans (persist_saved hinvalid hbytes 0)

/-- A call is bound to the second order, forgotten by a restart, and bound to the third order while
its owner lives. -/
def Rebound [SnapshotReader] : Prop :=
  ∃ w₁ w₂ w₃ w₄ w₅ : World, ∃ items : ReplyItems,
    World.Step (World.start "server")
      (.issue pane process "session" "1" "first" 5 none 0 ⟨.none, 0⟩) w₁ ∧
    World.Step w₁ (.issue pane process "session" "2nd" "call" 5 (some 1) 0 ⟨.beforeRename, 0⟩) w₂ ∧
    World.Step w₂ .restart w₃ ∧
    World.Step w₃ (.issue pane process "session" "third" "other" 5 none 0 ⟨.beforeRename, 0⟩) w₄ ∧
    World.Step w₄
      (.issue pane process "session" "the fourth" "call" 5 (some 1) 5000 ⟨.beforeRename, 0⟩) w₅ ∧
    (∀ w ∈ [w₁, w₂, w₃, w₄, w₅], owner ∈ w.notices.owners) ∧
    w₂.notices.replyItems[(owner, 2)]? = some items ∧
    w₅.notices.replyItems[(owner, 3)]? = some items

theorem rebound [SnapshotReader]
    (hsecond : noticeKey "session" "2nd" "call" ≠ noticeKey "session" "1" "first")
    (hthird : noticeKey "session" "third" "other" ≠ noticeKey "session" "1" "first")
    (hfourth : noticeKey "session" "the fourth" "call" ≠ noticeKey "session" "1" "first" ∧
      noticeKey "session" "the fourth" "call" ≠ noticeKey "session" "third" "other") : Rebound := by
  obtain ⟨n, hn, hdue, hvalid, hbytes, hfirst⟩ := first_saved
  have hnot {a b : String} {seen : StringSet} (h : a ≠ b) (hseen : a ∉ seen) :
      a ∉ seen.insert b := by
    intro hin
    rcases Std.ExtTreeSet.mem_insert.mp hin with hsame | hin
    · exact h (Std.LawfulEqCmp.eq_of_compare hsame).symm
    · exact hseen hin
  have hnone (a : String) : a ∉ (∅ : StringSet) := Std.ExtTreeSet.not_mem_empty
  obtain ⟨n₂, hrun₂, hserver₂, -, howner₂, -, hbound₂⟩ := hn.asked
    ⟨some n.snapshot.toVec, .written, [.committed]⟩ (some 1) (hnot hsecond (hnone _)) (by decide) hdue
  have hreload : Unbinding n.reload 1 {noticeKey "session" "1" "first"} := by
    refine ⟨hn.server, rfl, hn.owners, ?_, hn.calls, hn.blocked, hn.size⟩
    rw [QuestionNotices.reload, hn.items]
    rfl
  have hopen : Files.open ⟨some n.snapshot.toVec, .written, [.preCommitFailed, .committed]⟩ "server" =
      n.reload := by
    obtain ⟨loaded, hloaded⟩ := exists_restore hvalid
    have hload : Files.load ⟨some n.snapshot.toVec, .written, [.preCommitFailed, .committed]⟩
        n.serverHash = n.snapshot.restore n.serverHash :=
      load_of_sidecar (show Marker.written ≠ .torn by decide) rfl hbytes
    rw [hloaded, restore_eq hvalid.keyed hloaded, hn.server] at hload
    rw [Files.open, hload]
  obtain ⟨n₄, hrun₄, -, hattempt₄, howner₄, hunbinding₄, -⟩ := hreload.asked
    ⟨some n.snapshot.toVec, .written, [.preCommitFailed, .committed]⟩ none
    (hnot hthird (hnone _)) (by decide) (show n.reload.retryDue 0 = true from rfl)
  have hdue₄ : n₄.retryDue 5000 = true := by
    rw [QuestionNotices.retryDue, hattempt₄]
    rfl
  obtain ⟨n₅, hrun₅, -, -, howner₅, -, hbound₅⟩ := (hunbinding₄ rfl).asked
    ⟨some n.snapshot.toVec, .written, [.preCommitFailed, .preCommitFailed, .committed]⟩ (some 1)
    (hnot hfourth.2 (hnot hfourth.1 (hnone _))) (by decide) hdue₄
  refine ⟨_, _, ⟨n.reload, _⟩, _, _, _, hfirst, hrun₂, ?_, hrun₄, hrun₅, ?_, hbound₂ rfl,
    hbound₅ rfl⟩
  · rw [World.Step, World.perform, hserver₂, hopen]
  · have howner : owner ∈ n.owners := Maps.mem_iff_exists.mpr ⟨_, hn.getElem?_owner⟩
    simp only [List.forall_mem_cons]
    exact ⟨howner, howner₂, howner, howner₄, howner₅, List.forall_mem_nil _⟩

end

@[reducible] def byLength : Sha256 := ⟨fun bytes => Vector.replicate 32 (UInt8.ofNat bytes.length)⟩

/-- A call is bound to a second order while its owner lives. -/
theorem call_rebound : @Rebound byLength .inverse :=
  @rebound byLength .inverse (by decide +kernel) (by decide +kernel)
    ⟨by decide +kernel, by decide +kernel⟩

end Forgotten

/-! ## A reply that is matched -/

namespace Answered
open Forgotten (pane process persist_failed persistCommitUntil_saved)

section
variable {w : World} {pane : PaneInstance} {owner session : String} {items : List String}
  {orders : List ℕ} {limit now through : ℕ} {io : SaveIo} {notice : QuestionNoticeState}

theorem reply_through (hlimit : replyCommitReserve ≤ limit - now)
    (hitems : ReplyEvidence.valid items = true) (horders : orders.length = items.length)
    (hpositive : 0 ∉ orders) (hvalid : w.notices.invalidSidecar = false)
    (hnotice : w.notices.owners[owner]? = some notice) (hpane : notice.pane = pane)
    (hopen : ¬(orders.all fun order => order ≤ notice.acknowledgedOrder) = true)
    (hlatest : notice.acknowledgedOrder < notice.latestOrder)
    (hbound : ¬((items.zip orders).any fun p => notice.acknowledgedOrder < p.2 &&
      !((w.notices.replyItems.filter fun key _ => QuestionNotices.inRange owner notice key)[(owner,
        p.2)]?.any fun entry => entry.session = session && entry.items.contains p.1)) = true)
    (hthrough : QuestionNotices.answeredFrom owner (QuestionNotices.answer owner
      notice.acknowledgedOrder w.notices.replyItems (items.zip orders))
        (notice.latestOrder - notice.acknowledgedOrder) notice.acknowledgedOrder = through)
    (hmoved : through ≠ notice.acknowledgedOrder) {result : Bool} {w' : World}
    (hacknowledged : (w.withItems (QuestionNotices.answer owner notice.acknowledgedOrder
      w.notices.replyItems (items.zip orders))).acknowledgeUntil pane owner through (some limit) now
        io = (.ok result, w')) :
    w.acknowledgeReplyOrders pane owner session items orders limit now io = (.ok result, w') := by
  have hfilter : (w.notices.owners[owner]?.filter fun state => state.pane = pane) = some notice := by
    rw [hnotice, Option.filter_some, if_pos (decide_eq_true hpane)]
  unfold World.acknowledgeReplyOrders
  rw [if_neg (Nat.not_lt.mpr hlimit), if_neg (by simp [hitems, horders, hpositive, hvalid]), hfilter]
  dsimp only
  rw [if_neg (Nat.not_le.mpr hlatest), if_neg hopen, if_neg hbound, hthrough, if_neg hmoved,
    hacknowledged]

def acknowledging (n : QuestionNotices) (owner : String) (notice : QuestionNoticeState)
    (through : ℕ) : QuestionNotices :=
  { n with
    resolver := n.resolver.cancel owner
    owners := n.owners.insert owner { notice with acknowledgedOrder := through } }

theorem acknowledge_saved (hvalid : w.notices.invalidSidecar = false)
    (hnotice : w.notices.owners[owner]? = some notice) (hpane : notice.pane = pane)
    (hlatest : through ≤ notice.latestOrder) (hmoved : notice.acknowledgedOrder < through)
    (hmarker : w.files.marker = .missing) (hpositive : 0 < limit)
    (hbytes : (acknowledging w.notices owner notice through).snapshot.toVec.length ≤ maxBytes) :
    ∃ w', w.acknowledgeUntil pane owner through (some limit) now ⟨.none, 0⟩ = (.ok true, w') := by
  have hfilter : (w.notices.owners[owner]?.filter fun state => state.pane = pane) = some notice := by
    rw [hnotice, Option.filter_some, if_pos (decide_eq_true hpane)]
  have hsaved := @persistCommitUntil_saved (acknowledging w.notices owner notice through) w.files
    (some limit) hvalid hbytes hmarker (by simpa using hpositive) now
  unfold World.acknowledgeUntil
  dsimp only
  rw [if_neg (by simp [hvalid]), hfilter]
  dsimp only
  unfold acknowledging at hsaved
  rw [if_neg (Nat.not_lt.mpr hlatest), if_neg (Nat.not_le.mpr hmoved), hsaved]
  exact ⟨_, rfl⟩
end

/-- A question with one item that is not saved at first. -/
def ask : NoticeOp := .issue pane process "session" "turn" "call" 5 (some 1) 0 ⟨.beforeRename, 0⟩

def owner : String := @ownerRef .constant "server" pane process

def session : String := @identifierDigest .constant "session"

def items : List String := [@itemDigest .constant "call" 0]

def notice : QuestionNoticeState :=
  ⟨pane, process, owner, 1, 0, 5, {@noticeKey .constant "session" "turn" "call"}⟩

def asked : World :=
  ⟨{ @World.record .constant ((World.start "server").notices.bind pane process) pane process owner
      (@noticeKey .constant "session" "turn" "call") "session" "call" 5 (some 1) with
        lastWriteAttempt := some 0 }, ⟨none, .missing, [.preCommitFailed]⟩⟩

theorem asked_step : @World.Step .constant .inverse (World.start "server") ask asked := by
  let : Sha256 := .constant
  let : SnapshotReader := .inverse
  obtain ⟨bound, hbound, hissue⟩ := @issue_due _ (World.start "server") pane process "session" "turn"
    "call" 5 (some 1) 0 ⟨.beforeRename, 0⟩ rfl nofun (Nat.succ_pos 65535) (Nat.succ_pos 511) rfl
  refine (Asked.perform_issue (World.start "server") pane process "session" "turn" "call" 5 (some 1)
    0 ⟨.beforeRename, 0⟩).trans ?_
  rw [hissue, ← hbound, persist_failed]
  rfl

theorem asked_notice : asked.notices.owners[owner]? = some notice := by decide +kernel

theorem items_matched : asked.notices.matchReplyOrders pane owner session items = .ok [1] := by
  decide +kernel

def answered : ReplyMap := QuestionNotices.answer owner 0 asked.notices.replyItems (items.zip [1])

theorem answered_fits : (acknowledging (asked.withItems answered).notices owner notice
    1).snapshot.toVec.length ≤ maxBytes := by
  refine (Snapshot.length_toVec_le _).trans ?_
  decide +kernel

theorem perform_reply [Sha256] [SnapshotReader] (w : World) (pane : PaneInstance)
    (owner session : String) (reply : List String) (orders : List ℕ) (deadline now : ℕ)
    (io : SaveIo) :
    w.perform (.reply pane owner session reply orders deadline now io) =
      (w.acknowledgeReplyOrders pane owner session reply orders deadline now io).2 := rfl

theorem reply_accepted : ∃ w', asked.acknowledgeReplyOrders pane owner session items [1] 20000 10000
    ⟨.none, 0⟩ = (.ok true, w') := by
  obtain ⟨w', hw'⟩ := @acknowledge_saved (asked.withItems answered) pane owner 20000 10000 1 notice
    rfl asked_notice rfl le_rfl Nat.zero_lt_one rfl (Nat.succ_pos 19999) answered_fits
  exact ⟨w', reply_through (by decide) (by decide +kernel) rfl (by decide) rfl asked_notice rfl
    (by decide) Nat.zero_lt_one (by decide +kernel) (by decide +kernel) Nat.one_ne_zero hw'⟩

/-- A reply is matched to the order of its item, and acknowledges it. -/
theorem replies_safe_answered :
    asked.notices.matchReplyOrders pane owner session items = .ok [1] ∧
      ∃ w', asked.acknowledgeReplyOrders pane owner session items [1] 20000 10000 ⟨.none, 0⟩ =
          (.ok true, w') ∧
        @RepliesSafe .constant .inverse "server"
          [(asked, .reply pane owner session items [1] 20000 10000 ⟨.none, 0⟩),
            (World.start "server", ask)] w' := by
  obtain ⟨w', hw'⟩ := reply_accepted
  have hreply : @World.Step .constant .inverse asked
      (.reply pane owner session items [1] 20000 10000 ⟨.none, 0⟩) w' :=
    (@perform_reply .constant .inverse _ _ _ _ _ _ _ _ _).trans (congrArg Prod.snd hw')
  exact ⟨items_matched, w', hw',
    @replies_safe .constant .inverse _ _ _ ((Trace.nil.snoc asked_step).snoc hreply)⟩

end Answered

end VdeTmux.QuestionNotice
