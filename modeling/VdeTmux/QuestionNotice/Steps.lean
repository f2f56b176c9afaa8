import VdeTmux.QuestionNotice.Validity

/-!
# What an operation on the notices can do

One inversion lemma for each operation: everything a call can answer, with the notices and the
files it leaves behind.
-/

open Foundation VdeTmux.Pane
namespace VdeTmux.QuestionNotice

inductive PersistStep (w : World) (now : ℕ) (io : SaveIo) : CommitResult × World → Prop
  | failed : PersistStep w now io
      (.preCommitFailed, ⟨{ w.notices with lastWriteAttempt := some now },
        { w.files with saves := .preCommitFailed :: w.files.saves }⟩)
  | saved {result : CommitResult} {marker : Marker}
      {memoryOnly : Std.ExtTreeSet (String × String) Maps.lex} {diagnostics : PaneMap NoticeReason}
      (hresult : result ≠ .preCommitFailed) (hbytes : w.notices.snapshot.toVec.length ≤ maxBytes)
      (hmarker : marker = .torn →
        w.files.marker = .torn ∨ io.fault = .markerTorn ∧ w.files.marker = .missing)
      (hmemory : result = .committed ∧ memoryOnly = ∅ ∨
        result = .committedDurabilityUnknown ∧ memoryOnly = w.notices.memoryOnly) :
      PersistStep w now io
        (result, ⟨{ w.notices with
            dirty := false
            lastWriteAttempt := none
            memoryOnly := memoryOnly
            diagnostics := diagnostics },
          ⟨some w.notices.snapshot.toVec, marker, result :: w.files.saves⟩⟩)

theorem persist_step (w : World) (deadline : Option ℕ) (now : ℕ) (io : SaveIo) :
    PersistStep w now io (w.persistCommitUntil deadline now io) := by
  unfold World.persistCommitUntil
  have hsave := save_step { w.notices with lastWriteAttempt := some now } w.files deadline io
  dsimp only
  generalize QuestionNotices.save _ w.files deadline io = p at hsave
  cases hsave with
  | failed => exact .failed
  | @saved result marker hresult hbytes hmarker =>
    cases result with
    | preCommitFailed => exact absurd rfl hresult
    | committed => exact .saved hresult hbytes hmarker (Or.inl ⟨rfl, rfl⟩)
    | committedDurabilityUnknown => exact .saved hresult hbytes hmarker (Or.inr ⟨rfl, rfl⟩)

theorem bind_eq (n : QuestionNotices) (pane : PaneInstance) (process : AgentProcessIdentity) :
    ∃ bound, n.bind pane process = { n with bound := bound } := by
  unfold QuestionNotices.bind
  split_ifs
  · exact ⟨_, rfl⟩
  · exact ⟨n.bound, rfl⟩

theorem reject_eq (n : QuestionNotices) (pane : PaneInstance) (reason : NoticeReason) :
    ∃ diagnostics, n.reject pane reason = (.reject reason, { n with diagnostics := diagnostics }) := by
  unfold QuestionNotices.reject
  split_ifs
  · exact ⟨_, rfl⟩
  · exact ⟨n.diagnostics, rfl⟩

section
variable [Sha256]

inductive IssuedStep (w : World) (pane : PaneInstance) (process : AgentProcessIdentity)
    (session turn tool : String) (issuedAt : ℤ) (itemCount : Option ℕ) (now : ℕ) (io : SaveIo) :
    NoticeResult × World → Prop
  | rejected {bound : PaneMap AgentProcessIdentity} {diagnostics : PaneMap NoticeReason}
      (reason : NoticeReason) :
      IssuedStep w pane process session turn tool issuedAt itemCount now io
        (.reject reason, { w with
          notices := { w.notices with bound := bound, diagnostics := diagnostics } })
  | duplicate {bound : PaneMap AgentProcessIdentity} {state : QuestionNoticeState}
      (hstate : w.notices.owners[ownerRef w.notices.serverHash pane process]? = some state)
      (hkey : noticeKey session turn tool ∈ state.seen)
      (hsaved : (ownerRef w.notices.serverHash pane process, noticeKey session turn tool) ∉
        w.notices.memoryOnly) :
      IssuedStep w pane process session turn tool issuedAt itemCount now io
        (.saved .duplicate true, { w with notices := { w.notices with bound := bound } })
  | retried {bound : PaneMap AgentProcessIdentity} {state : QuestionNoticeState}
      {result : CommitResult} {w' : World}
      (hstate : w.notices.owners[ownerRef w.notices.serverHash pane process]? = some state)
      (hkey : noticeKey session turn tool ∈ state.seen)
      (hrun : PersistStep { w with notices := { w.notices with bound := bound } } now io (result, w')) :
      IssuedStep w pane process session turn tool issuedAt itemCount now io
        (.saved .duplicate (!(w'.notices.memoryOnly.contains
          (ownerRef w.notices.serverHash pane process, noticeKey session turn tool))), w')
  | applied {bound : PaneMap AgentProcessIdentity} {notices : QuestionNotices}
      (hnotices : notices = World.record { w.notices with bound := bound } pane process
        (ownerRef w.notices.serverHash pane process) (noticeKey session turn tool) session tool
        issuedAt itemCount)
      (hnew : ∀ state, w.notices.owners[ownerRef w.notices.serverHash pane process]? = some state →
        noticeKey session turn tool ∉ state.seen ∧ state.seen.size < maxKeysPerOwner)
      (htotal : w.notices.keyCount < maxKeys)
      (hsize : ownerRef w.notices.serverHash pane process ∈ w.notices.owners ∨
        w.notices.owners.size < maxOwners) {persisted : Bool} {w' : World}
      (hrun : persisted = false ∧ w' = { w with notices := notices } ∨
        ∃ result, PersistStep { w with notices := notices } now io (result, w') ∧
          persisted = decide (result = .committed)) :
      IssuedStep w pane process session turn tool issuedAt itemCount now io
        (.saved .applied persisted, w')

theorem issued_step (w : World) (pane : PaneInstance) (process : AgentProcessIdentity)
    (session turn tool : String) (issuedAt : ℤ) (itemCount : Option ℕ) (now : ℕ) (io : SaveIo) :
    IssuedStep w pane process session turn tool issuedAt itemCount now io
      (w.issueWithItems pane process session turn tool issuedAt itemCount now io) := by
  unfold World.issueWithItems
  obtain ⟨bound, hbound⟩ := bind_eq w.notices pane process
  rw [hbound]
  dsimp only
  have hreject (reason : NoticeReason) :
      IssuedStep w pane process session turn tool issuedAt itemCount now io
        (World.reject { w with notices := { w.notices with bound := bound } } pane reason) := by
    obtain ⟨diagnostics, heq⟩ := reject_eq { w.notices with bound := bound } pane reason
    rw [World.reject]
    dsimp only
    rw [heq]
    exact .rejected reason
  split_ifs with hinvalid hseen hfull hdue
  · exact hreject _
  · obtain ⟨state, hstate, hkey⟩ := (Option.any_eq_true _ _).mp hseen
    rw [Std.ExtTreeSet.contains_iff_mem] at hkey
    rw [World.duplicate]
    dsimp only
    split_ifs with hmem
    · exact .retried hstate hkey (persist_step _ none now io)
    · have hcontains : w.notices.memoryOnly.contains
          (ownerRef w.notices.serverHash pane process, noticeKey session turn tool) = false :=
        Bool.eq_false_iff.mpr fun h => hmem (Std.ExtTreeSet.contains_iff_mem.mp h)
      rw [hcontains]
      exact .duplicate hstate hkey hmem
  · exact hreject _
  all_goals
    simp only [not_or, not_le, not_and, Option.any_eq_true, not_exists, Bool.or_eq_true,
      decide_eq_true_eq, Std.ExtTreeSet.contains_iff_mem] at hseen hfull
    have hnew : ∀ state,
        w.notices.owners[ownerRef w.notices.serverHash pane process]? = some state →
          noticeKey session turn tool ∉ state.seen ∧ state.seen.size < maxKeysPerOwner :=
      fun state h => ⟨hseen state h, (hfull.2.1 state h).1⟩
    have hsize : ownerRef w.notices.serverHash pane process ∈ w.notices.owners ∨
        w.notices.owners.size < maxOwners := by
      by_cases hin : ownerRef w.notices.serverHash pane process ∈ w.notices.owners
      · exact Or.inl hin
      · exact Or.inr (hfull.2.2 hin)
  · exact .applied rfl hnew hfull.1 hsize (Or.inr ⟨_, persist_step _ none now io, rfl⟩)
  · exact .applied rfl hnew hfull.1 hsize (Or.inl ⟨rfl, rfl⟩)

end

def QuestionNotices.advanced (n : QuestionNotices) (owner : String) (state : QuestionNoticeState)
    (through : ℕ) : QuestionNotices :=
  { n with owners := n.owners.insert owner { state with acknowledgedOrder := through } }

inductive AckStep (w : World) (pane : PaneInstance) (owner : String) (through now : ℕ)
    (io : SaveIo) : Except String Bool × World → Prop
  | refused {resolver : Resolver} {error : String} :
      AckStep w pane owner through now io
        (.error error, { w with notices := { w.notices with resolver := resolver } })
  | done {resolver : Resolver} {state : QuestionNoticeState}
      (hstate : w.notices.owners[owner]? = some state) (hthrough : through ≤ state.acknowledgedOrder) :
      AckStep w pane owner through now io
        (.ok false, { w with notices := { w.notices with resolver := resolver } })
  | failed {resolver : Resolver} {diagnostics : PaneMap NoticeReason} :
      AckStep w pane owner through now io
        (.error "persistence_pending",
          ⟨{ w.notices with resolver := resolver, diagnostics := diagnostics },
            { w.files with saves := .preCommitFailed :: w.files.saves }⟩)
  | saved {resolver : Resolver} {state : QuestionNoticeState} {result : CommitResult}
      {marker : Marker} {memoryOnly : Std.ExtTreeSet (String × String) Maps.lex}
      {diagnostics : PaneMap NoticeReason} (hstate : w.notices.owners[owner]? = some state)
      (hpane : state.pane = pane) (hthrough : state.acknowledgedOrder < through)
      (hlatest : through ≤ state.latestOrder) (hresult : result ≠ .preCommitFailed)
      (hbytes : (w.notices.advanced owner state through).snapshot.toVec.length ≤ maxBytes)
      (hmarker : marker = .torn →
        w.files.marker = .torn ∨ io.fault = .markerTorn ∧ w.files.marker = .missing)
      (hmemory : result = .committed ∧ memoryOnly = ∅ ∨
        result = .committedDurabilityUnknown ∧ memoryOnly = w.notices.memoryOnly) :
      AckStep w pane owner through now io
        (.ok true, ⟨{ w.notices.advanced owner state through with
            resolver := resolver
            diagnostics := diagnostics
            dirty := false
            lastWriteAttempt := none
            memoryOnly := memoryOnly
            replyItems := w.notices.replyItems.filter fun key _ => key.1 ≠ owner || through < key.2 },
          ⟨some (w.notices.advanced owner state through).snapshot.toVec, marker,
            result :: w.files.saves⟩⟩)

theorem ack_step (w : World) (pane : PaneInstance) (owner : String) (through : ℕ)
    (deadline : Option ℕ) (now : ℕ) (io : SaveIo) :
    AckStep w pane owner through now io (w.acknowledgeUntil pane owner through deadline now io) := by
  unfold World.acknowledgeUntil
  split
  · exact @AckStep.refused w pane owner through now io w.notices.resolver _
  dsimp only
  split
  · exact .refused
  rename_i state hfilter
  obtain ⟨hstate, hpane⟩ := Option.filter_eq_some_iff.mp hfilter
  split_ifs with hfuture hdone
  · exact .refused
  · exact .done hstate hdone
  have hpersist := persist_step ⟨{ w.notices with
    resolver := w.notices.resolver.cancel owner
    owners := w.notices.owners.insert owner { state with acknowledgedOrder := through } }, w.files⟩
    deadline now io
  generalize World.persistCommitUntil _ deadline now io = p at hpersist
  cases hpersist with
  | failed =>
    have hback : (w.notices.owners.insert owner { state with acknowledgedOrder := through }).insert
        owner state = w.notices.owners := by
      rw [Maps.insert_insert, Maps.insert_same hstate]
    dsimp only [World.diagnose]
    rw [hback]
    exact .failed
  | @saved result marker memoryOnly diagnostics hresult hbytes hmarker hmemory =>
    have hopen : state.acknowledgedOrder < through := by omega
    have hlatest : through ≤ state.latestOrder := by omega
    have hpane := of_decide_eq_true hpane
    cases result with
    | preCommitFailed => exact absurd rfl hresult
    | committed => exact .saved hstate hpane hopen hlatest hresult hbytes hmarker hmemory
    | committedDurabilityUnknown =>
      exact .saved hstate hpane hopen hlatest hresult hbytes hmarker hmemory

theorem ReplyItems.eq_of_pending {old new : ReplyItems} (hsession : new.session = old.session)
    (hitems : new.items = old.items) (hpending : ∀ id, id ∈ new.pending ↔ id ∈ old.pending) :
    new = old := by
  obtain ⟨session, items, pending⟩ := new
  obtain ⟨session', items', pending'⟩ := old
  have hsame : pending = pending' := Std.ExtTreeSet.ext_mem fun {id} => hpending id
  cases hsession
  cases hitems
  rw [hsame]

theorem getElem?_answer {owner : String} {acknowledged : ℕ} {items : ReplyMap}
    {pairs : List (String × ℕ)} {key : String × ℕ} {new : ReplyItems} :
    (QuestionNotices.answer owner acknowledged items pairs)[key]? = some new ↔
      ∃ old, items[key]? = some old ∧ new.session = old.session ∧ new.items = old.items ∧
        ∀ id, id ∈ new.pending ↔ id ∈ old.pending ∧
          ¬(key.1 = owner ∧ acknowledged < key.2 ∧ (id, key.2) ∈ pairs) := by
  induction pairs generalizing items with
  | nil =>
    rw [QuestionNotices.answer]
    constructor
    · intro h
      exact ⟨new, h, rfl, rfl, by simp⟩
    · rintro ⟨old, hold, hsession, hitems, hpending⟩
      rw [hold, ReplyItems.eq_of_pending hsession hitems fun id => by simpa using hpending id]
  | cons pair rest ih =>
    obtain ⟨id, order⟩ := pair
    rw [QuestionNotices.answer, ih]
    by_cases hkey : key = (owner, order) ∧ acknowledged < order
    · obtain ⟨rfl, hopen⟩ := hkey
      rw [if_neg (by omega), Std.ExtTreeMap.getElem?_modify_self]
      constructor
      · rintro ⟨mid, hmid, hsession, hitems, hpending⟩
        obtain ⟨old, hold, rfl⟩ := Option.map_eq_some_iff.mp hmid
        refine ⟨old, hold, hsession, hitems, fun id' => ?_⟩
        rw [hpending, Std.ExtTreeSet.mem_erase]
        simp only [Std.LawfulEqCmp.compare_eq_iff_eq, List.mem_cons, Prod.mk.injEq, and_true,
          hopen, true_and, not_or, ne_eq, @eq_comm _ id']
        tauto
      · rintro ⟨old, hold, hsession, hitems, hpending⟩
        refine ⟨_, Option.map_eq_some_iff.mpr ⟨old, hold, rfl⟩, hsession, hitems, fun id' => ?_⟩
        rw [hpending, Std.ExtTreeSet.mem_erase]
        simp only [Std.LawfulEqCmp.compare_eq_iff_eq, List.mem_cons, Prod.mk.injEq, and_true,
          hopen, true_and, not_or, ne_eq, @eq_comm _ id']
        tauto
    · have hsame : (if order ≤ acknowledged then items
          else items.modify (owner, order) fun entry =>
            { entry with pending := entry.pending.erase id })[key]? = items[key]? := by
        split_ifs with hdone
        · rfl
        · rw [Std.ExtTreeMap.getElem?_modify, if_neg]
          intro heq
          exact hkey ⟨(Std.LawfulEqCmp.eq_of_compare heq).symm, by omega⟩
      have hother (id' : String) : (key.1 = owner ∧ acknowledged < key.2 ∧
          (id', key.2) ∈ (id, order) :: rest) ↔
            (key.1 = owner ∧ acknowledged < key.2 ∧ (id', key.2) ∈ rest) := by
        rw [List.mem_cons]
        constructor
        · rintro ⟨howner, hopen, heq | hin⟩
          · cases heq
            exact absurd ⟨Prod.ext howner rfl, hopen⟩ hkey
          · exact ⟨howner, hopen, hin⟩
        · rintro ⟨howner, hopen, hin⟩
          exact ⟨howner, hopen, Or.inr hin⟩
      simp only [hsame, hother]

theorem getElem?_answer_other {owner : String} {acknowledged : ℕ} {items : ReplyMap}
    {pairs : List (String × ℕ)} {key : String × ℕ}
    (h : ∀ p ∈ pairs, acknowledged < p.2 → key ≠ (owner, p.2)) :
    (QuestionNotices.answer owner acknowledged items pairs)[key]? = items[key]? := by
  refine Option.ext fun new => ?_
  have hnone (id : String) : ¬(key.1 = owner ∧ acknowledged < key.2 ∧ (id, key.2) ∈ pairs) := by
    rintro ⟨howner, hopen, hin⟩
    exact h _ hin hopen (Prod.ext howner rfl)
  rw [getElem?_answer]
  simp only [hnone, not_false_eq_true, and_true]
  constructor
  · rintro ⟨old, hold, hsession, hitems, hpending⟩
    rw [hold, ReplyItems.eq_of_pending hsession hitems hpending]
  · intro hold
    exact ⟨new, hold, rfl, rfl, fun _ => Iff.rfl⟩

theorem narrowed_of_answer {owner : String} {acknowledged : ℕ} {items : ReplyMap}
    {pairs : List (String × ℕ)} (key : String × ℕ) (new : ReplyItems)
    (h : (QuestionNotices.answer owner acknowledged items pairs)[key]? = some new) :
    ∃ old, items[key]? = some old ∧ Narrowed old new := by
  obtain ⟨old, hold, hsession, hitems, hpending⟩ := getElem?_answer.mp h
  exact ⟨old, hold, hsession, hitems, fun id hid => ((hpending id).mp hid).1⟩

/-- Every pair of the reply that is not acknowledged yet is bound to an entry of the session. -/
def QuestionNotices.Verified (n : QuestionNotices) (owner session : String)
    (notice : QuestionNoticeState) (pairs : List (String × ℕ)) : Prop :=
  ∀ p ∈ pairs, notice.acknowledgedOrder < p.2 → p.2 ≤ notice.latestOrder ∧
    ∃ entry, n.replyItems[(owner, p.2)]? = some entry ∧ entry.session = session ∧ p.1 ∈ entry.items

def QuestionNotices.answered (n : QuestionNotices) (owner : String) (notice : QuestionNoticeState)
    (pairs : List (String × ℕ)) : ReplyMap :=
  QuestionNotices.answer owner notice.acknowledgedOrder n.replyItems pairs

def QuestionNotices.before (n : QuestionNotices) (owner : String) (notice : QuestionNoticeState) :
    ReplyMap :=
  n.replyItems.filter fun key _ => QuestionNotices.inRange owner notice key

section
variable {n : QuestionNotices} {owner session : String} {notice : QuestionNoticeState}
  {pairs : List (String × ℕ)}

theorem answered_out_of_range (h : n.Verified owner session notice pairs) {key : String × ℕ}
    (hkey : QuestionNotices.inRange owner notice key = false) :
    (n.answered owner notice pairs)[key]? = n.replyItems[key]? := by
  refine getElem?_answer_other fun p hp hopen heq => ?_
  obtain ⟨hlatest, -⟩ := h p hp hopen
  rw [heq] at hkey
  simp [QuestionNotices.inRange] at hkey
  omega

theorem answered_union_before (h : n.Verified owner session notice pairs) :
    n.answered owner notice pairs ∪ n.before owner notice = n.replyItems := by
  refine Std.ExtTreeMap.ext_getElem? fun {key} => ?_
  rw [Std.ExtTreeMap.getElem?_union, QuestionNotices.before, Std.ExtTreeMap.getElem?_filter']
  cases hkey : QuestionNotices.inRange owner notice key with
  | true =>
    cases hitems : n.replyItems[key]? with
    | some items => rfl
    | none =>
      rw [Option.filter_none, Option.none_or]
      refine Option.eq_none_iff_forall_ne_some.mpr fun new hnew => ?_
      obtain ⟨old, hold, -⟩ := narrowed_of_answer key new hnew
      exact absurd (hitems.symm.trans hold) nofun
  | false =>
    rw [answered_out_of_range h hkey]
    cases n.replyItems[key]? <;> rfl

theorem answered_eq (h : n.Verified owner session notice pairs)
    (hsame : ((n.answered owner notice pairs).toList.any fun entry =>
      QuestionNotices.inRange owner notice entry.1 &&
        (n.before owner notice)[entry.1]?.any fun old => old.pending ≠ entry.2.pending) = false) :
    n.answered owner notice pairs = n.replyItems := by
  refine Std.ExtTreeMap.ext_getElem? fun {key} => ?_
  cases hkey : QuestionNotices.inRange owner notice key with
  | false => exact answered_out_of_range h hkey
  | true =>
    cases hold : n.replyItems[key]? with
    | none =>
      refine Option.eq_none_iff_forall_ne_some.mpr fun new hnew => ?_
      obtain ⟨old, hold', -⟩ := narrowed_of_answer key new hnew
      exact absurd (hold.symm.trans hold') nofun
    | some old =>
      have hmem : key ∈ n.answered owner notice pairs := by
        obtain ⟨_, hnew⟩ : ∃ new, (n.answered owner notice pairs)[key]? = some new := by
          refine ⟨{ old with pending := old.pending.filter fun id =>
            ¬(key.1 = owner ∧ notice.acknowledgedOrder < key.2 ∧ (id, key.2) ∈ pairs) },
            getElem?_answer.mpr ⟨old, hold, rfl, rfl, fun id => ?_⟩⟩
          simp only [Std.ExtTreeSet.mem_filter, Std.ExtTreeSet.get_eq, decide_eq_true_eq, exists_prop]
        exact Maps.mem_iff_exists.mpr ⟨_, hnew⟩
      obtain ⟨new, hnew⟩ := Maps.mem_iff_exists.mp hmem
      obtain ⟨old', hold', hsession, hitems, -⟩ := getElem?_answer.mp hnew
      cases hold.symm.trans hold'
      have hpending := List.any_eq_false.mp hsame (key, new)
        (Std.ExtTreeMap.mem_toList_iff_getElem?_eq_some.mpr hnew)
      rw [hkey, QuestionNotices.before, Std.ExtTreeMap.getElem?_filter', hold] at hpending
      simp only [hkey, Option.filter_some, if_true, Option.any_some, Bool.true_and,
        decide_eq_true_eq, not_not] at hpending
      rw [hnew, ReplyItems.eq_of_pending hsession hitems fun id => by rw [hpending]]

end

theorem answeredFrom_spec (owner : String) (items : ReplyMap) (n through : ℕ) :
    through ≤ QuestionNotices.answeredFrom owner items n through ∧
      QuestionNotices.answeredFrom owner items n through ≤ through + n ∧
      ∀ order, through < order → order ≤ QuestionNotices.answeredFrom owner items n through →
        ∃ entry, items[(owner, order)]? = some entry ∧ entry.pending = ∅ := by
  induction n generalizing through with
  | zero => exact ⟨le_rfl, le_rfl, fun order h h' => absurd (h.trans_le h') (Nat.lt_irrefl _)⟩
  | succ n ih =>
    rw [QuestionNotices.answeredFrom]
    split_ifs with hnext
    · obtain ⟨hfrom, hto, hall⟩ := ih (through + 1)
      refine ⟨by omega, by omega, fun order hlow hhigh => ?_⟩
      by_cases hfirst : order = through + 1
      · obtain ⟨entry, hentry, hempty⟩ := (Option.any_eq_true _ _).mp hnext
        exact ⟨entry, hfirst ▸ hentry, Std.ExtTreeSet.isEmpty_iff.mp hempty⟩
      · exact hall order (by omega) hhigh
    · exact ⟨le_rfl, by omega, fun order h h' => absurd (h.trans_le h') (Nat.lt_irrefl _)⟩

inductive ReplyStep (w : World) (pane : PaneInstance) (owner session : String)
    (reply : List String) (orders : List ℕ) (now : ℕ) (io : SaveIo) :
    Except String Bool × World → Prop
  | refused {resolver : Resolver} {error : String} :
      ReplyStep w pane owner session reply orders now io
        (.error error, { w with notices := { w.notices with resolver := resolver } })
  | settled : ReplyStep w pane owner session reply orders now io (.ok false, w)
  | failed {resolver : Resolver} {diagnostics : PaneMap NoticeReason} :
      ReplyStep w pane owner session reply orders now io
        (.error "persistence_pending",
          ⟨{ w.notices with resolver := resolver, diagnostics := diagnostics },
            { w.files with saves := .preCommitFailed :: w.files.saves }⟩)
  | answered {notice : QuestionNoticeState} {result : CommitResult} {marker : Marker}
      {memoryOnly : Std.ExtTreeSet (String × String) Maps.lex} {diagnostics : PaneMap NoticeReason}
      (hnotice : w.notices.owners[owner]? = some notice)
      (hlength : orders.length = reply.length)
      (hverified : w.notices.Verified owner session notice (reply.zip orders))
      (hresult : result ≠ .preCommitFailed)
      (hbytes : { w.notices with
        replyItems := w.notices.answered owner notice (reply.zip orders) }.snapshot.toVec.length ≤
          maxBytes)
      (hmarker : marker = .torn →
        w.files.marker = .torn ∨ io.fault = .markerTorn ∧ w.files.marker = .missing)
      (hmemory : result = .committed ∧ memoryOnly = ∅ ∨
        result = .committedDurabilityUnknown ∧ memoryOnly = w.notices.memoryOnly) :
      ReplyStep w pane owner session reply orders now io
        (.ok false, ⟨{ w.notices with
            replyItems := w.notices.answered owner notice (reply.zip orders)
            diagnostics := diagnostics
            dirty := false
            lastWriteAttempt := none
            memoryOnly := memoryOnly },
          ⟨some { w.notices with
            replyItems := w.notices.answered owner notice (reply.zip orders) }.snapshot.toVec,
            marker, result :: w.files.saves⟩⟩)
  | advanced {notice : QuestionNoticeState} {through : ℕ} {changed : Bool} {w' : World}
      (hnotice : w.notices.owners[owner]? = some notice)
      (hlength : orders.length = reply.length)
      (hverified : w.notices.Verified owner session notice (reply.zip orders))
      (hthrough : notice.acknowledgedOrder < through) (hlatest : through ≤ notice.latestOrder)
      (hanswered : ∀ order, notice.acknowledgedOrder < order → order ≤ through → ∃ entry,
        (w.notices.answered owner notice (reply.zip orders))[(owner, order)]? = some entry ∧
          entry.pending = ∅)
      (hrun : AckStep (w.withItems (w.notices.answered owner notice (reply.zip orders))) pane owner
        through now io (.ok changed, w')) :
      ReplyStep w pane owner session reply orders now io (.ok changed, w')

theorem reply_step (w : World) (pane : PaneInstance) (owner session : String)
    (reply : List String) (orders : List ℕ) (deadline now : ℕ) (io : SaveIo) :
    ReplyStep w pane owner session reply orders now io
      (w.acknowledgeReplyOrders pane owner session reply orders deadline now io) := by
  have hrefused {error : String} : ReplyStep w pane owner session reply orders now io
      (.error error, w) := @ReplyStep.refused w pane owner session reply orders now io _ _
  unfold World.acknowledgeReplyOrders
  split_ifs with hdeadline hinvalid
  · exact hrefused
  · exact hrefused
  have hlength : orders.length = reply.length := by
    simp only [not_or, not_not] at hinvalid
    exact hinvalid.2.1
  split
  · exact hrefused
  rename_i notice hfilter
  obtain ⟨hnotice, hpane⟩ := Option.filter_eq_some_iff.mp hfilter
  split_ifs with hsettled hall
  · exact .settled
  · exact .settled
  dsimp only
  split_ifs with hunknown hthrough hchanged
  · exact hrefused
  all_goals
    have hverified : w.notices.Verified owner session notice (reply.zip orders) := by
      intro p hp hopen
      have hknown := List.any_eq_false.mp (Bool.eq_false_iff.mpr hunknown) p hp
      simp only [hopen, decide_true, Bool.true_and, Bool.not_eq_true', Bool.not_eq_false,
        Std.ExtTreeMap.getElem?_filter', Option.any_eq_true, Option.filter_eq_some_iff,
        QuestionNotices.inRange, Bool.and_eq_true, decide_eq_true_eq,
        Std.ExtTreeSet.contains_iff_mem] at hknown
      obtain ⟨entry, ⟨hentry, hrange⟩, hsession, hid⟩ := hknown
      exact ⟨hrange.2, entry, hentry, hsession, hid⟩
    have hback := answered_union_before hverified
  · have hpersist := persist_step
      (w.withItems (w.notices.answered owner notice (reply.zip orders))) (some deadline) now io
    rw [World.saveAnswers, ← QuestionNotices.answered]
    generalize World.persistCommitUntil _ (some deadline) now io = p at hpersist
    cases hpersist with
    | failed =>
      dsimp only [World.withItems]
      rw [← QuestionNotices.before, hback]
      exact @ReplyStep.failed w pane owner session reply orders now io w.notices.resolver _
    | @saved result marker memoryOnly diagnostics hresult hbytes hmarker hmemory =>
      cases result with
      | preCommitFailed => exact absurd rfl hresult
      | committed => exact .answered hnotice hlength hverified hresult hbytes hmarker hmemory
      | committedDurabilityUnknown =>
        exact .answered hnotice hlength hverified hresult hbytes hmarker hmemory
  · have hsame : w.notices.answered owner notice (reply.zip orders) = w.notices.replyItems :=
      answered_eq hverified (Bool.eq_false_iff.mpr hchanged)
    rw [← QuestionNotices.answered, hsame]
    exact .settled
  · obtain ⟨hfrom, hto, hanswered⟩ := answeredFrom_spec owner
      (w.notices.answered owner notice (reply.zip orders))
      (notice.latestOrder - notice.acknowledgedOrder) notice.acknowledgedOrder
    rw [← QuestionNotices.answered] at hthrough ⊢
    generalize QuestionNotices.answeredFrom owner _ _ _ = through at hfrom hto hanswered hthrough ⊢
    have hack := ack_step (w.withItems (w.notices.answered owner notice (reply.zip orders))) pane
      owner through (some deadline) now io
    generalize World.acknowledgeUntil _ pane owner through (some deadline) now io = p at hack
    obtain ⟨answer, w'⟩ := p
    cases answer with
    | ok changed =>
      exact .advanced hnotice hlength hverified (by omega) (by omega) hanswered hack
    | error error =>
      cases hack with
      | refused =>
        dsimp only [World.withItems]
        rw [← QuestionNotices.before, hback]
        exact .refused
      | failed =>
        dsimp only [World.withItems]
        rw [← QuestionNotices.before, hback]
        exact .failed

def QuestionNotices.reconciled (n : QuestionNotices)
    (alive boundAlive : PaneInstance → AgentProcessIdentity → Bool) : QuestionNotices :=
  let owners := n.owners.filter fun _ owner => alive owner.pane owner.process
  let dead := n.owners.keys.filter fun owner => !owners.contains owner
  { n with
    owners := owners
    resolver := dead.foldl Resolver.invalidateOwner n.resolver
    memoryOnly := n.memoryOnly.filter fun p => owners.contains p.1
    replyItems := n.replyItems.filter fun key _ => owners.contains key.1
    replyCalls := n.replyCalls.filter fun owner _ => owners.contains owner
    replyBlockedOwners := n.replyBlockedOwners.filter fun owner => owners.contains owner
    bound := n.bound.filter boundAlive
    dirty := n.dirty || decide (n.owners.size ≠ owners.size) }

theorem reconcile_step (w : World) (alive boundAlive : PaneInstance → AgentProcessIdentity → Bool)
    (now : ℕ) (io : SaveIo) :
    (w.reconcile alive boundAlive now io).2 =
        { w with notices := w.notices.reconciled alive boundAlive } ∨
      ∃ result, PersistStep { w with notices := w.notices.reconciled alive boundAlive } now io
        (result, (w.reconcile alive boundAlive now io).2) := by
  unfold World.reconcile
  dsimp only
  split_ifs
  · exact Or.inr ⟨_, persist_step _ none now io⟩
  · exact Or.inl rfl

theorem QuestionNotices.Valid.reconciled [Sha256] {n : QuestionNotices} (h : n.Valid)
    (alive boundAlive : PaneInstance → AgentProcessIdentity → Bool) :
    (n.reconciled alive boundAlive).Valid := by
  have hdrop := h.drop (fun _ owner => alive owner.pane owner.process)
    (fun owner => (n.owners.filter fun _ owner => alive owner.pane owner.process).contains owner)
    fun owner => Std.ExtTreeMap.contains_iff_mem
  exact hdrop.congr rfl rfl rfl rfl rfl

end VdeTmux.QuestionNotice
