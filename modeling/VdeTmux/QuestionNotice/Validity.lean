import VdeTmux.QuestionNotice.Reload

/-!
# Every operation keeps the notices valid

What loading checks of a snapshot holds of the notices after every operation, whatever becomes of
the saves.
-/

open Foundation VdeTmux.Pane
namespace VdeTmux.QuestionNotice

structure Narrowed (old new : ReplyItems) : Prop where
  session : new.session = old.session
  items : new.items = old.items
  pending : ∀ id ∈ new.pending, id ∈ old.pending

theorem Narrowed.refl (items : ReplyItems) : Narrowed items items := ⟨rfl, rfl, fun _ h => h⟩

theorem Narrowed.trans {a b c : ReplyItems} (h : Narrowed a b) (h' : Narrowed b c) : Narrowed a c :=
  ⟨h'.session.trans h.session, h'.items.trans h.items, fun id hid => h.pending id (h'.pending id hid)⟩

theorem checkReply_eq_ok {state : QuestionNoticeState} {order : ℕ} {items : ReplyItems} :
    checkReply state order items = .ok () ↔
      0 < order ∧ order ≤ state.latestOrder ∧ validDigest items.session = true ∧
        0 < items.items.size ∧ items.items.size ≤ maxIssuedItems ∧
        items.items.toList.all validDigest = true ∧ ∀ id ∈ items.pending, id ∈ items.items := by
  simp only [checkReply, refuse_eq_ok, not_not, List.all_eq_true, Std.ExtTreeSet.mem_toList,
    Std.ExtTreeSet.contains_iff_mem]

theorem checkReply_of_narrowed {state : QuestionNoticeState} {order : ℕ} {old new : ReplyItems}
    (h : checkReply state order old = .ok ()) (hnew : Narrowed old new) :
    checkReply state order new = .ok () := by
  obtain ⟨hpos, hlatest, hsession, hsome, hmany, hdigests, hpending⟩ := checkReply_eq_ok.mp h
  rw [checkReply_eq_ok, hnew.session, hnew.items]
  exact ⟨hpos, hlatest, hsession, hsome, hmany, hdigests,
    fun id hid => hpending id (hnew.pending id hid)⟩

theorem checkReply_of_le {state state' : QuestionNoticeState} {order : ℕ} {items : ReplyItems}
    (h : checkReply state order items = .ok ()) (hle : state.latestOrder ≤ state'.latestOrder) :
    checkReply state' order items = .ok () := by
  obtain ⟨hpos, hlatest, hrest⟩ := checkReply_eq_ok.mp h
  exact checkReply_eq_ok.mpr ⟨hpos, by omega, hrest⟩

theorem size_insert_new {s : StringSet} {key : String} (h : key ∉ s) :
    (s.insert key).size = s.size + 1 := by
  rw [Std.ExtTreeSet.size_insert, if_neg (by rwa [Std.ExtTreeSet.contains_iff_mem])]

section
variable [Sha256]

theorem validDigest_sha256Hex (bytes : List UInt8) : validDigest (sha256Hex bytes) = true := by
  simp [validDigest, sha256Hex_length, sha256Hex_lower]

theorem checkOwner_eq_ok {serverHash : String} {owner : QuestionNoticeState} :
    checkOwner serverHash owner = .ok () ↔
      owner.pane.validate = .ok () ∧ owner.process.validate = .ok () ∧
        owner.ownerRef = ownerRef serverHash owner.pane owner.process ∧
        owner.acknowledgedOrder ≤ owner.latestOrder ∧ owner.latestOrder = owner.seen.size ∧
        0 ≤ owner.lastIssuedAt ∧ owner.seen.size ≤ maxKeysPerOwner ∧
        ∀ key ∈ owner.seen, validDigest key = true := by
  simp only [checkOwner, seq_eq_ok, mapError_eq_ok, refuse_eq_ok, not_not, not_lt, ne_eq,
    List.all_eq_true, Std.ExtTreeSet.mem_toList, and_assoc]

namespace QuestionNotices.Valid
variable {n m : QuestionNotices}

theorem start (serverHash : String) : Valid { serverHash := serverHash } where
  keyed := by simp [Keyed]
  owners := by simp
  ownerCount := Nat.zero_le _
  keyCount := Nat.zero_le _
  replies := by simp
  replySize := Nat.zero_le _
  replyCount := fun _ => Std.ExtTreeMap.size_filter_le_size.trans (Nat.zero_le _)
  calls := by simp
  callCount := Nat.zero_le _
  blocked := by simp

theorem congr (h : n.Valid) (hserver : m.serverHash = n.serverHash) (howners : m.owners = n.owners)
    (hitems : m.replyItems = n.replyItems) (hcalls : m.replyCalls = n.replyCalls)
    (hblocked : m.replyBlockedOwners = n.replyBlockedOwners) : m.Valid where
  keyed := by
    rw [Keyed, howners]
    exact h.keyed
  owners := by
    rw [howners, hserver]
    exact h.owners
  ownerCount := by
    rw [howners]
    exact h.ownerCount
  keyCount := by
    rw [QuestionNotices.keyCount, howners]
    exact h.keyCount
  replies := by
    rw [howners, hitems]
    exact h.replies
  replySize := by
    rw [hitems]
    exact h.replySize
  replyCount := by
    intro owner
    rw [QuestionNotices.replyCount, hitems]
    exact h.replyCount owner
  calls := by
    rw [howners, hcalls]
    exact h.calls
  callCount := by
    rw [QuestionNotices.callCount, hcalls]
    exact h.callCount
  blocked := by
    rw [howners, hblocked]
    exact h.blocked

theorem narrow (h : n.Valid) {replies : ReplyMap}
    (hreplies : ∀ (key : String × ℕ) (items : ReplyItems), replies[key]? = some items →
      ∃ old, n.replyItems[key]? = some old ∧ Narrowed old items) :
    Valid { n with replyItems := replies } := by
  have hsubset : ∀ key ∈ replies, key ∈ n.replyItems := by
    intro key hkey
    obtain ⟨items, hitems⟩ := Maps.mem_iff_exists.mp hkey
    obtain ⟨old, hold, -⟩ := hreplies key items hitems
    exact Maps.mem_iff_exists.mpr ⟨old, hold⟩
  refine ⟨h.keyed, h.owners, h.ownerCount, h.keyCount, ?_, ?_, ?_, h.calls, h.callCount, h.blocked⟩
  · intro owner order items hitems
    obtain ⟨old, hold, hnarrowed⟩ := hreplies _ _ hitems
    obtain ⟨state, hstate, hcheck⟩ := h.replies owner order old hold
    exact ⟨state, hstate, checkReply_of_narrowed hcheck hnarrowed⟩
  · exact (Maps.size_le_of_subset hsubset).trans h.replySize
  · intro owner
    refine le_trans (Maps.size_le_of_subset fun key hkey => ?_) (h.replyCount owner)
    obtain ⟨items, hitems⟩ := Maps.mem_iff_exists.mp hkey
    obtain ⟨hitems, howner⟩ := Maps.getElem?_filter_eq_some.mp hitems
    obtain ⟨old, hold, -⟩ := hreplies key items hitems
    exact Maps.mem_iff_exists.mpr ⟨old, Maps.getElem?_filter_eq_some.mpr ⟨hold, howner⟩⟩

theorem filter (h : n.Valid) (p : String × ℕ → ReplyItems → Bool) :
    Valid { n with replyItems := n.replyItems.filter p } :=
  h.narrow fun _ items hitems =>
    ⟨items, (Maps.getElem?_filter_eq_some.mp hitems).1, .refl items⟩

theorem reload (h : n.Valid) : n.reload.Valid :=
  (h.filter fun key _ => n.owners[key.1]?.any fun state => state.acknowledgedOrder < key.2).congr
    rfl rfl rfl rfl rfl

theorem put (h : n.Valid) {ref : String} {state : QuestionNoticeState}
    (hcheck : checkOwner n.serverHash state = .ok ()) (href : state.ownerRef = ref)
    (hlatest : ∀ old, n.owners[ref]? = some old → old.latestOrder ≤ state.latestOrder)
    (hsize : (n.owners.insert ref state).size ≤ maxOwners)
    (hkeys : Maps.total (n.owners.insert ref state) (fun _ owner => owner.seen.size) ≤ maxKeys) :
    Valid { n with owners := n.owners.insert ref state } := by
  have hmem : ∀ owner ∈ n.owners, owner ∈ n.owners.insert ref state :=
    fun owner howner => Std.ExtTreeMap.mem_insert.mpr (Or.inr howner)
  refine ⟨?_, ?_, hsize, hkeys, ?_, h.replySize, h.replyCount, ?_, h.callCount,
    fun owner howner => hmem owner (h.blocked owner howner)⟩
  · intro ref' state' hstate'
    dsimp only at hstate'
    rw [Maps.getElem?_insert] at hstate'
    split_ifs at hstate' with hsame
    · cases hstate'
      rw [href, hsame]
    · exact h.keyed ref' state' hstate'
  · intro ref' state' hstate'
    dsimp only at hstate'
    rw [Maps.getElem?_insert] at hstate'
    split_ifs at hstate' with hsame
    · cases hstate'
      exact hcheck
    · exact h.owners ref' state' hstate'
  · intro owner order items hitems
    obtain ⟨old, hold, hreply⟩ := h.replies owner order items hitems
    dsimp only
    rw [Maps.getElem?_insert]
    split_ifs with hsame
    · subst hsame
      exact ⟨state, rfl, checkReply_of_le hreply (hlatest old hold)⟩
    · exact ⟨old, hold, hreply⟩
  · intro owner ids hids
    obtain ⟨howner, hrest⟩ := h.calls owner ids hids
    exact ⟨hmem owner howner, hrest⟩

theorem drop (h : n.Valid) (p : String → QuestionNoticeState → Bool) (kept : String → Bool)
    (hkept : ∀ owner, kept owner = true ↔ owner ∈ n.owners.filter p) :
    Valid { n with
      owners := n.owners.filter p
      replyItems := n.replyItems.filter fun key _ => kept key.1
      replyCalls := n.replyCalls.filter fun owner _ => kept owner
      replyBlockedOwners := n.replyBlockedOwners.filter kept } where
  keyed := fun ref state hstate => h.keyed ref state (Maps.getElem?_filter_eq_some.mp hstate).1
  owners := fun ref state hstate => h.owners ref state (Maps.getElem?_filter_eq_some.mp hstate).1
  ownerCount := Std.ExtTreeMap.size_filter_le_size.trans h.ownerCount
  keyCount := (Maps.total_filter_le _ _ _).trans h.keyCount
  replies := by
    intro owner order items hitems
    obtain ⟨hitems, howner⟩ := Maps.getElem?_filter_eq_some.mp hitems
    obtain ⟨old, hold, hreply⟩ := h.replies owner order items hitems
    obtain ⟨state, hstate⟩ := Maps.mem_iff_exists.mp ((hkept owner).mp howner)
    have hsame := (Maps.getElem?_filter_eq_some.mp hstate).1.symm.trans hold
    exact ⟨state, hstate, Option.some_inj.mp hsame ▸ hreply⟩
  replySize := (h.filter fun key _ => kept key.1).replySize
  replyCount := (h.filter fun key _ => kept key.1).replyCount
  calls := by
    intro owner ids hids
    obtain ⟨hids, howner⟩ := Maps.getElem?_filter_eq_some.mp hids
    exact ⟨(hkept owner).mp howner, (h.calls owner ids hids).2⟩
  callCount := (Maps.total_filter_le _ _ _).trans h.callCount
  blocked := by
    intro owner howner
    obtain ⟨_, hin⟩ := Std.ExtTreeSet.mem_filter.mp howner
    exact (hkept owner).mp (by simpa using hin)

end QuestionNotices.Valid

def QuestionNotices.called (n : QuestionNotices) (owner call : String) : QuestionNotices :=
  { n with
    replyCalls := n.replyCalls.insert owner ((n.replyCalls[owner]?.getD ∅).insert call)
    dirty := true }

inductive RegisterStep (n : QuestionNotices) (owner : String) (order : ℕ) (session call : String)
    (count : ℕ) : QuestionNotices → Prop
  | untracked (hskip : owner ∈ n.replyBlockedOwners ∨ ∀ state, n.owners[owner]? = some state →
        order = state.latestOrder → order ≤ state.acknowledgedOrder) :
      RegisterStep n owner order session call count n
  | reused {calls : StringSet} (hcalls : n.replyCalls[owner]? = some calls)
      (hused : callDigest (identifierDigest session) call ∈ calls) :
      RegisterStep n owner order session call count
        { n with
          replyItems := n.replyItems.filter fun key items =>
            key.1 ≠ owner || items.session ≠ identifierDigest session ||
              (items.items.toList.all fun id =>
                !(QuestionNotices.itemDigests call maxIssuedItems).contains id)
          dirty := true }
  | blocked (howner : owner ∈ n.owners) :
      RegisterStep n owner order session call count
        { n with
          replyBlockedOwners := n.replyBlockedOwners.insert owner
          replyItems := n.replyItems.filter fun key _ => key.1 ≠ owner
          dirty := true }
  | called (howner : owner ∈ n.owners) (htotal : n.callCount < maxKeys)
      (hcalls : ∀ calls, n.replyCalls[owner]? = some calls →
        callDigest (identifierDigest session) call ∉ calls ∧ calls.size < maxKeysPerOwner) :
      RegisterStep n owner order session call count
        (n.called owner (callDigest (identifierDigest session) call))
  | bound {state : QuestionNoticeState} (hallowed : owner ∉ n.replyBlockedOwners)
      (hstate : n.owners[owner]? = some state) (hopen : state.acknowledgedOrder < order) (hlatest : order = state.latestOrder)
      (htotal : n.callCount < maxKeys)
      (hcalls : ∀ calls, n.replyCalls[owner]? = some calls →
        callDigest (identifierDigest session) call ∉ calls ∧ calls.size < maxKeysPerOwner)
      (hcount : 0 < count) (hissued : count ≤ maxIssuedItems)
      (hsize : n.replyItems.size < maxTextNotices)
      (howner : n.replyCount owner < maxTextNoticesPerOwner) :
      RegisterStep n owner order session call count
        { n.called owner (callDigest (identifierDigest session) call) with
          replyItems := n.replyItems.insert (owner, order)
            ⟨identifierDigest session, QuestionNotices.itemDigests call count,
              QuestionNotices.itemDigests call count⟩ }

theorem register_step (n : QuestionNotices) (owner : String) (order : ℕ) (session call : String)
    (count : ℕ) : RegisterStep n owner order session call count
      (n.registerReplyItems owner order session call count) := by
  unfold QuestionNotices.registerReplyItems
  split
  · rename_i hskip
    refine .untracked (hskip.imp id fun hnone state hstate hlatest => ?_)
    simp only [hstate, Option.any_some, Bool.and_eq_true, decide_eq_true_eq, not_and] at hnone
    exact Nat.not_lt.mp fun hopen => hnone hopen hlatest
  rename_i hskip
  obtain ⟨hallowed, hlive⟩ := not_or.mp hskip
  simp only [not_not, Option.any_eq_true, Bool.and_eq_true, decide_eq_true_eq] at hlive
  obtain ⟨state, hstate, hopen, hlatest⟩ := hlive
  have howner : owner ∈ n.owners := Maps.mem_iff_exists.mpr ⟨state, hstate⟩
  dsimp only
  split_ifs with hused hfull hcount
  · obtain ⟨calls, hcalls, hused⟩ := (Option.any_eq_true _ _).mp hused
    exact .reused hcalls (Std.ExtTreeSet.contains_iff_mem.mp hused)
  · exact .blocked howner
  all_goals
    simp only [not_or, not_le, Option.any_eq_true, not_exists, not_and, decide_eq_true_eq,
      Std.ExtTreeSet.contains_iff_mem] at hused hfull
    have hcalls : ∀ calls, n.replyCalls[owner]? = some calls →
        callDigest (identifierDigest session) call ∉ calls ∧ calls.size < maxKeysPerOwner :=
      fun calls h => ⟨hused calls h, hfull.2 calls h⟩
  · exact .called howner hfull.1 hcalls
  · simp only [not_or, not_le, not_lt] at hcount
    exact .bound hallowed hstate hopen hlatest hfull.1 hcalls (by omega) hcount.2.1 hcount.2.2.1
      hcount.2.2.2

theorem itemDigests_size_le (call : String) (count : ℕ) :
    (QuestionNotices.itemDigests call count).size ≤ count := by
  refine Std.ExtTreeSet.size_ofList_le.trans ?_
  rw [List.length_map, List.length_range]

theorem mem_itemDigests {call id : String} {count : ℕ} :
    id ∈ QuestionNotices.itemDigests call count ↔ ∃ index < count, itemDigest call index = id := by
  rw [QuestionNotices.itemDigests, Std.ExtTreeSet.mem_ofList, List.contains_iff_mem, List.mem_map]
  simp only [List.mem_range]

theorem itemDigests_size_pos (call : String) {count : ℕ} (h : 0 < count) :
    0 < (QuestionNotices.itemDigests call count).size := by
  have hmem : itemDigest call 0 ∈ QuestionNotices.itemDigests call count :=
    mem_itemDigests.mpr ⟨0, h, rfl⟩
  rw [← Std.ExtTreeSet.mem_toList] at hmem
  rw [← Std.ExtTreeSet.length_toList]
  exact List.length_pos_of_mem hmem

namespace QuestionNotices.Valid
variable {n : QuestionNotices} {owner : String}

theorem called (h : n.Valid) {call : String} (howner : owner ∈ n.owners)
    (hcall : validDigest call = true) (htotal : n.callCount < maxKeys)
    (hcalls : ∀ calls, n.replyCalls[owner]? = some calls → call ∉ calls ∧ calls.size < maxKeysPerOwner) :
    (n.called owner call).Valid := by
  have hold : ∃ old, n.replyCalls[owner]?.getD ∅ = old ∧ old.size < maxKeysPerOwner ∧
      (∀ id ∈ old, validDigest id = true) ∧
      n.callCount = old.size + Maps.total (n.replyCalls.erase owner) fun _ calls => calls.size := by
    cases hget : n.replyCalls[owner]? with
    | none =>
      refine ⟨∅, rfl, by decide, by simp, ?_⟩
      rw [Maps.erase_of_none hget, Std.ExtTreeSet.size_empty, Nat.zero_add, QuestionNotices.callCount]
    | some calls =>
      have hvalid := (h.calls owner calls hget).2.2
      refine ⟨calls, rfl, (hcalls calls hget).2, fun id hid => ?_, Maps.total_eq_add hget _⟩
      exact List.all_eq_true.mp hvalid id (Std.ExtTreeSet.mem_toList.mpr hid)
  obtain ⟨old, hget, hsize, hdigests, hcount⟩ := hold
  have hgrown : (old.insert call).size ≤ old.size + 1 := Std.ExtTreeSet.size_insert_le
  refine ⟨h.keyed, h.owners, h.ownerCount, h.keyCount, h.replies, h.replySize, h.replyCount, ?_, ?_,
    h.blocked⟩
  · intro owner' ids hids
    rw [QuestionNotices.called, Maps.getElem?_insert, hget] at hids
    split_ifs at hids with hsame
    · cases hids
      refine ⟨hsame ▸ howner, by omega, List.all_eq_true.mpr fun id hid => ?_⟩
      rcases Std.ExtTreeSet.mem_insert.mp (Std.ExtTreeSet.mem_toList.mp hid) with heq | hid
      · exact Std.LawfulEqCmp.eq_of_compare heq ▸ hcall
      · exact hdigests id hid
    · exact h.calls owner' ids hids
  · rw [QuestionNotices.callCount, QuestionNotices.called, Maps.total_insert, hget]
    omega

theorem bound (h : n.Valid) {state : QuestionNoticeState} {order : ℕ} {items : ReplyItems}
    (hstate : n.owners[owner]? = some state) (hcheck : checkReply state order items = .ok ())
    (hsize : n.replyItems.size < maxTextNotices)
    (howner : n.replyCount owner < maxTextNoticesPerOwner) :
    Valid { n with replyItems := n.replyItems.insert (owner, order) items } := by
  refine ⟨h.keyed, h.owners, h.ownerCount, h.keyCount, ?_, ?_, ?_, h.calls, h.callCount, h.blocked⟩
  · intro owner' order' items' hitems
    dsimp only at hitems
    rw [Maps.getElem?_insert] at hitems
    split_ifs at hitems with hsame
    · cases hitems
      cases hsame
      exact ⟨state, hstate, hcheck⟩
    · exact h.replies owner' order' items' hitems
  · have hinsert : (n.replyItems.insert (owner, order) items).size ≤ n.replyItems.size + 1 :=
      Std.ExtTreeMap.size_insert_le
    exact hinsert.trans hsize
  · intro owner'
    have hinsert : ((n.replyItems.filter fun key _ => key.1 = owner').insert (owner, order)
        items).size ≤ n.replyCount owner' + 1 := Std.ExtTreeMap.size_insert_le
    have hold := h.replyCount owner'
    by_cases hsame : owner' = owner
    · subst hsame
      refine le_trans (Maps.size_le_of_subset fun key hkey => ?_) (hinsert.trans howner)
      obtain ⟨_, hitems⟩ := Maps.mem_iff_exists.mp hkey
      obtain ⟨hitems, hin⟩ := Maps.getElem?_filter_eq_some.mp hitems
      rw [Std.ExtTreeMap.mem_insert]
      rw [Maps.getElem?_insert] at hitems
      split_ifs at hitems with hnew
      · exact Or.inl (hnew ▸ Std.ReflCmp.compare_self)
      · exact Or.inr (Maps.mem_iff_exists.mpr ⟨_, Maps.getElem?_filter_eq_some.mpr ⟨hitems, hin⟩⟩)
    · refine le_trans (Maps.size_le_of_subset fun key hkey => ?_) hold
      obtain ⟨_, hitems⟩ := Maps.mem_iff_exists.mp hkey
      obtain ⟨hitems, hin⟩ := Maps.getElem?_filter_eq_some.mp hitems
      rw [Maps.getElem?_insert] at hitems
      split_ifs at hitems with hnew
      · subst hnew
        exact absurd (of_decide_eq_true hin).symm hsame
      · exact Maps.mem_iff_exists.mpr ⟨_, Maps.getElem?_filter_eq_some.mpr ⟨hitems, hin⟩⟩

theorem register (h : n.Valid) (order : ℕ) (session call : String) (count : ℕ) :
    (n.registerReplyItems owner order session call count).Valid := by
  have hcall : validDigest (callDigest (identifierDigest session) call) = true :=
    validDigest_sha256Hex _
  have hrun := register_step n owner order session call count
  generalize n.registerReplyItems owner order session call count = m at hrun
  cases hrun with
  | untracked => exact h
  | reused _ _ => exact (h.filter _).congr rfl rfl rfl rfl rfl
  | blocked howner =>
    have hfilter := h.filter fun key _ => key.1 ≠ owner
    refine ⟨h.keyed, h.owners, h.ownerCount, h.keyCount, hfilter.replies, hfilter.replySize,
      hfilter.replyCount, h.calls, h.callCount, ?_⟩
    intro owner' hin
    rcases Std.ExtTreeSet.mem_insert.mp hin with heq | hin
    · exact Std.LawfulEqCmp.eq_of_compare heq ▸ howner
    · exact h.blocked owner' hin
  | called howner htotal hcalls => exact h.called howner hcall htotal hcalls
  | bound hallowed hstate hopen hlatest htotal hcalls hcount hissued hsize hreplies =>
    have howner : owner ∈ n.owners := Maps.mem_iff_exists.mpr ⟨_, hstate⟩
    refine (h.called howner hcall htotal hcalls).bound hstate (checkReply_eq_ok.mpr ?_) hsize hreplies
    refine ⟨by omega, hlatest.le, validDigest_sha256Hex _, itemDigests_size_pos call hcount,
      (itemDigests_size_le call count).trans hissued, List.all_eq_true.mpr fun id hid => ?_,
      fun _ hid => hid⟩
    obtain ⟨index, -, rfl⟩ := mem_itemDigests.mp (Std.ExtTreeSet.mem_toList.mp hid)
    exact validDigest_sha256Hex _

end QuestionNotices.Valid

def QuestionNotices.issued (n : QuestionNotices) (pane : PaneInstance)
    (process : AgentProcessIdentity) (owner key : String) (now : ℤ) : QuestionNoticeState :=
  let state := n.owners[owner]?.getD ⟨pane, process, owner, 0, 0, now, ∅⟩
  { state with
    latestOrder := state.latestOrder + 1
    lastIssuedAt := now
    seen := state.seen.insert key }

def QuestionNotices.issue (n : QuestionNotices) (pane : PaneInstance)
    (process : AgentProcessIdentity) (owner key : String) (now : ℤ) : QuestionNotices :=
  { n with
    memoryOnly := n.memoryOnly.insert (owner, key)
    resolver := n.resolver.cancel owner
    owners := n.owners.insert owner (n.issued pane process owner key now) }

/-- The notices with the items of the newest question bound, where their count is known. -/
def QuestionNotices.bindItems (n : QuestionNotices) (owner : String) (order : ℕ)
    (session tool : String) : Option ℕ → QuestionNotices
  | none => n
  | some count => n.registerReplyItems owner order session tool count

theorem record_eq (n : QuestionNotices) (pane : PaneInstance) (process : AgentProcessIdentity)
    (owner key session tool : String) (now : ℤ) (itemCount : Option ℕ) :
    World.record n pane process owner key session tool now itemCount =
      { (n.issue pane process owner key now).bindItems owner
          (n.issued pane process owner key now).latestOrder session tool itemCount with
        diagnostics := ((n.issue pane process owner key now).bindItems owner
          (n.issued pane process owner key now).latestOrder session tool
            itemCount).diagnostics.erase pane
        dirty := true } := by
  cases itemCount <;> rfl

namespace QuestionNotices.Valid
variable {n : QuestionNotices}

theorem issue (h : n.Valid) {pane : PaneInstance} {process : AgentProcessIdentity} {key : String}
    {now : ℤ} (hpane : pane.validate = .ok ()) (hprocess : process.validate = .ok ()) (hnow : 0 ≤ now)
    (hkey : validDigest key = true)
    (hnew : ∀ state, n.owners[ownerRef n.serverHash pane process]? = some state →
      key ∉ state.seen ∧ state.seen.size < maxKeysPerOwner)
    (htotal : n.keyCount < maxKeys)
    (hsize : ownerRef n.serverHash pane process ∈ n.owners ∨ n.owners.size < maxOwners) :
    (n.issue pane process (ownerRef n.serverHash pane process) key now).Valid := by
  generalize howner : ownerRef n.serverHash pane process = owner at *
  have hold : ∃ old, n.owners[owner]?.getD ⟨pane, process, owner, 0, 0, now, ∅⟩ = old ∧
      checkOwner n.serverHash old = .ok () ∧ old.ownerRef = owner ∧ key ∉ old.seen ∧
      old.seen.size < maxKeysPerOwner ∧
      n.keyCount = old.seen.size + Maps.total (n.owners.erase owner) fun _ s => s.seen.size := by
    cases hget : n.owners[owner]? with
    | none =>
      refine ⟨_, rfl, ?_, rfl, by simp, Nat.zero_lt_succ _, ?_⟩
      · exact checkOwner_eq_ok.mpr ⟨hpane, hprocess, howner.symm, le_rfl, rfl, hnow, Nat.zero_le _,
          by simp⟩
      · rw [Maps.erase_of_none hget, Option.getD_none, Std.ExtTreeSet.size_empty, Nat.zero_add,
          QuestionNotices.keyCount]
    | some state =>
      exact ⟨state, rfl, h.owners owner state hget, h.keyed owner state hget, (hnew state hget).1,
        (hnew state hget).2, Maps.total_eq_add hget _⟩
  obtain ⟨old, hget, hcheck, href, hfresh, hroom, hcount⟩ := hold
  have hissued : n.issued pane process owner key now =
      { old with
        latestOrder := old.latestOrder + 1
        lastIssuedAt := now
        seen := old.seen.insert key } := by
    rw [QuestionNotices.issued, hget]
  obtain ⟨hp, hq, hr, hle, heq, -, -, hdigests⟩ := checkOwner_eq_ok.mp hcheck
  have hgrown := size_insert_new hfresh
  have hput : Valid { n with
      owners := n.owners.insert owner (n.issued pane process owner key now) } := by
    rw [hissued]
    refine h.put (checkOwner_eq_ok.mpr ?_) href ?_ ?_ ?_
    · refine ⟨hp, hq, hr, by dsimp only; omega, by dsimp only; omega, hnow, by dsimp only; omega,
        fun id hid => ?_⟩
      rcases Std.ExtTreeSet.mem_insert.mp hid with hsame | hid
      · exact Std.LawfulEqCmp.eq_of_compare hsame ▸ hkey
      · exact hdigests id hid
    · intro state hstate
      rw [hstate] at hget
      cases hget
      exact Nat.le_succ _
    · have hbound := h.ownerCount
      rw [Std.ExtTreeMap.size_insert]
      split_ifs with hin
      · exact hbound
      · rcases hsize with hin' | hlt
        · exact absurd (Std.ExtTreeMap.contains_iff_mem.mpr hin') hin
        · exact hlt
    · rw [Maps.total_insert]
      dsimp only
      omega
  exact hput.congr rfl rfl rfl rfl rfl

theorem record (h : n.Valid) {pane : PaneInstance} {process : AgentProcessIdentity}
    {key session tool : String} {now : ℤ} {itemCount : Option ℕ} (hpane : pane.validate = .ok ())
    (hprocess : process.validate = .ok ()) (hnow : 0 ≤ now) (hkey : validDigest key = true)
    (hnew : ∀ state, n.owners[ownerRef n.serverHash pane process]? = some state →
      key ∉ state.seen ∧ state.seen.size < maxKeysPerOwner)
    (htotal : n.keyCount < maxKeys)
    (hsize : ownerRef n.serverHash pane process ∈ n.owners ∨ n.owners.size < maxOwners) :
    (World.record n pane process (ownerRef n.serverHash pane process) key session tool now
      itemCount).Valid := by
  have hissue := h.issue hpane hprocess hnow hkey hnew htotal hsize
  rw [record_eq]
  cases itemCount with
  | none => exact hissue.congr rfl rfl rfl rfl rfl
  | some count => exact (hissue.register _ session tool count).congr rfl rfl rfl rfl rfl

theorem advance (h : n.Valid) {owner : String} {state : QuestionNoticeState} {through : ℕ}
    (hstate : n.owners[owner]? = some state) (hthrough : through ≤ state.latestOrder) :
    Valid { n with owners := n.owners.insert owner { state with acknowledgedOrder := through } } := by
  obtain ⟨hp, hq, hr, -, hrest⟩ := checkOwner_eq_ok.mp (h.owners owner state hstate)
  have hmem : owner ∈ n.owners := Maps.mem_iff_exists.mpr ⟨state, hstate⟩
  refine h.put (checkOwner_eq_ok.mpr ⟨hp, hq, hr, hthrough, hrest⟩) (h.keyed owner state hstate) ?_ ?_ ?_
  · intro old hold
    cases hstate.symm.trans hold
    exact le_rfl
  · rw [Std.ExtTreeMap.size_insert, if_pos (Std.ExtTreeMap.contains_iff_mem.mpr hmem)]
    exact h.ownerCount
  · have hcount := h.keyCount
    rw [QuestionNotices.keyCount, Maps.total_eq_add hstate] at hcount
    rw [Maps.total_insert]
    exact hcount

end QuestionNotices.Valid

end

end VdeTmux.QuestionNotice
