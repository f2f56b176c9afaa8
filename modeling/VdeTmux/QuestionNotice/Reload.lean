import Mathlib.Data.List.Nodup
import VdeTmux.QuestionNotice.Notices

/-!
# What loading a saved snapshot gives

Loading fails or gives back the part of the notices that is kept, and it does not fail where the
notices are valid.
-/

open Foundation VdeTmux.Pane
namespace VdeTmux.QuestionNotice

namespace QuestionNotices

def reload (n : QuestionNotices) : QuestionNotices where
  serverHash := n.serverHash
  owners := n.owners
  replyItems := n.replyItems.filter fun key _ =>
    n.owners[key.1]?.any fun state => state.acknowledgedOrder < key.2
  replyCalls := n.replyCalls
  replyBlockedOwners := n.replyBlockedOwners

def Keyed (n : QuestionNotices) : Prop :=
  ∀ (ref : String) (state : QuestionNoticeState), n.owners[ref]? = some state → state.ownerRef = ref

end QuestionNotices

section
variable [Sha256]

theorem loadOwners_cons {serverHash : String} {owner : QuestionNoticeState}
    {rest : List QuestionNoticeState} {keys : ℕ} {owners loaded : Owners} :
    loadOwners serverHash (owner :: rest) keys owners = .ok loaded ↔
      checkOwner serverHash owner = .ok () ∧ keys + owner.seen.size ≤ maxKeys ∧
        owner.ownerRef ∉ owners ∧ loadOwners serverHash rest (keys + owner.seen.size)
          (owners.insert owner.ownerRef owner) = .ok loaded := by
  simp only [loadOwners, seq_eq_ok, refuse_eq_ok, not_lt]

theorem getElem?_of_loadOwners {serverHash : String} {list : List QuestionNoticeState} {keys : ℕ}
    {owners loaded : Owners} (h : loadOwners serverHash list keys owners = .ok loaded)
    (ref : String) (state : QuestionNoticeState) :
    loaded[ref]? = some state ↔
      owners[ref]? = some state ∨ state ∈ list ∧ state.ownerRef = ref := by
  induction list generalizing keys owners with
  | nil =>
    cases h
    simp
  | cons owner rest ih =>
    obtain ⟨-, -, hnew, hrest⟩ := loadOwners_cons.mp h
    rw [ih hrest, Maps.getElem?_insert, List.mem_cons]
    by_cases href : ref = owner.ownerRef
    · have hnone := Std.ExtTreeMap.getElem?_eq_none hnew
      rw [if_pos href, href, hnone]
      constructor
      · rintro (hsame | ⟨hmem, hkey⟩)
        · exact Or.inr ⟨Or.inl (Option.some_inj.mp hsame).symm, by rw [Option.some_inj.mp hsame]⟩
        · exact Or.inr ⟨Or.inr hmem, hkey⟩
      · rintro (hnone | ⟨rfl | hmem, hkey⟩)
        · cases hnone
        · exact Or.inl rfl
        · exact Or.inr ⟨hmem, hkey⟩
    · rw [if_neg href]
      constructor
      · rintro (hold | ⟨hmem, hkey⟩)
        · exact Or.inl hold
        · exact Or.inr ⟨Or.inr hmem, hkey⟩
      · rintro (hold | ⟨rfl | hmem, hkey⟩)
        · exact Or.inl hold
        · exact absurd hkey.symm href
        · exact Or.inr ⟨hmem, hkey⟩

theorem exists_loadOwners {serverHash : String} {list : List QuestionNoticeState} {keys : ℕ}
    {owners : Owners} (hcheck : ∀ s ∈ list, checkOwner serverHash s = .ok ())
    (hkeys : keys + (list.map fun s => s.seen.size).sum ≤ maxKeys)
    (hdistinct : (list.map QuestionNoticeState.ownerRef).Nodup)
    (hnew : ∀ s ∈ list, s.ownerRef ∉ owners) :
    ∃ loaded, loadOwners serverHash list keys owners = .ok loaded := by
  induction list generalizing keys owners with
  | nil => exact ⟨owners, rfl⟩
  | cons owner rest ih =>
    obtain ⟨hnow, hcheck⟩ := List.forall_mem_cons.mp hcheck
    obtain ⟨hfresh, hnew⟩ := List.forall_mem_cons.mp hnew
    simp only [List.map_cons, List.sum_cons, List.nodup_cons] at hkeys hdistinct
    have hrest : ∀ s ∈ rest, s.ownerRef ∉ owners.insert owner.ownerRef owner := by
      intro s hs hmem
      rcases Std.ExtTreeMap.mem_insert.mp hmem with heq | hold
      · rw [Std.LawfulEqCmp.eq_of_compare heq] at hdistinct
        exact hdistinct.1 (List.mem_map_of_mem hs)
      · exact hnew s hs hold
    have hsum : keys + owner.seen.size + (rest.map fun s => s.seen.size).sum ≤ maxKeys := by omega
    obtain ⟨loaded, hloaded⟩ := ih hcheck hsum hdistinct.2 hrest
    exact ⟨loaded, loadOwners_cons.mpr ⟨hnow, by omega, hfresh, hloaded⟩⟩

theorem loadOwners_eq {n : QuestionNotices} (hkeyed : n.Keyed) {serverHash : String} {loaded : Owners}
    (h : loadOwners serverHash (n.owners.toList.map Prod.snd) 0 ∅ = .ok loaded) :
    loaded = n.owners := by
  refine Std.ExtTreeMap.ext_getElem? fun {ref} => Option.ext fun state => ?_
  rw [getElem?_of_loadOwners h, List.mem_map]
  constructor
  · rintro (hnone | ⟨⟨⟨ref', state'⟩, hmem, rfl⟩, href⟩)
    · simp at hnone
    · have hstate := Std.ExtTreeMap.mem_toList_iff_getElem?_eq_some.mp hmem
      rwa [← href, hkeyed ref' state' hstate]
  · intro hstate
    exact Or.inr ⟨⟨(ref, state), Std.ExtTreeMap.mem_toList_iff_getElem?_eq_some.mpr hstate, rfl⟩,
      hkeyed ref state hstate⟩

end

theorem loadReplies_cons {owners : Owners} {owner : String} {order : ℕ} {items : ReplyItems}
    {rest : List ((String × ℕ) × ReplyItems)} {perOwner : Std.ExtTreeMap String ℕ}
    {replies loaded : ReplyMap} :
    loadReplies owners (((owner, order), items) :: rest) perOwner replies = .ok loaded ↔
      ∃ state, owners[owner]? = some state ∧ checkReply state order items = .ok () ∧
        ((order ≤ state.acknowledgedOrder ∧ loadReplies owners rest perOwner replies = .ok loaded) ∨
          (state.acknowledgedOrder < order ∧
            (perOwner[owner]?).getD 0 + 1 ≤ maxTextNoticesPerOwner ∧ (owner, order) ∉ replies ∧
            loadReplies owners rest (perOwner.insert owner ((perOwner[owner]?).getD 0 + 1))
              (replies.insert (owner, order) items) = .ok loaded)) := by
  rw [loadReplies]
  split
  · rename_i hnone
    simp [hnone]
  · rename_i state hstate
    rw [seq_eq_ok]
    simp only [hstate, Option.some.injEq, exists_eq_left']
    by_cases hacknowledged : order ≤ state.acknowledgedOrder
    · simp [hacknowledged]
    · simp only [hacknowledged, if_false, false_and, false_or, seq_eq_ok, refuse_eq_ok, not_lt,
        not_le.mp hacknowledged, true_and]

theorem getElem?_of_loadReplies {owners : Owners} {list : List ((String × ℕ) × ReplyItems)}
    {perOwner : Std.ExtTreeMap String ℕ} {replies loaded : ReplyMap}
    (h : loadReplies owners list perOwner replies = .ok loaded) (key : String × ℕ)
    (items : ReplyItems) :
    loaded[key]? = some items ↔ replies[key]? = some items ∨ (key, items) ∈ list ∧
      (owners[key.1]?.any fun state => state.acknowledgedOrder < key.2) = true := by
  induction list generalizing perOwner replies with
  | nil =>
    cases h
    simp
  | cons entry rest ih =>
    obtain ⟨⟨owner, order⟩, entry⟩ := entry
    obtain ⟨state, hstate, -, ⟨hdone, hrest⟩ | ⟨hopen, -, hnew, hrest⟩⟩ := loadReplies_cons.mp h
    · rw [ih hrest, List.mem_cons]
      have hskip : ¬((key, items) = ((owner, order), entry) ∧
          (owners[key.1]?.any fun state => state.acknowledgedOrder < key.2) = true) := by
        rintro ⟨heq, hany⟩
        cases heq
        simp [hstate] at hany
        omega
      tauto
    · rw [ih hrest, List.mem_cons, Maps.getElem?_insert]
      by_cases hkey : key = (owner, order)
      · subst hkey
        have hnone := Std.ExtTreeMap.getElem?_eq_none hnew
        simp only [if_true, hnone, reduceCtorEq, false_or, Option.some.injEq, Prod.mk.injEq, true_and]
        have hany : (owners[owner]?.any fun state => state.acknowledgedOrder < order) = true := by
          simp [hstate, hopen]
        simp only [hany, and_true, eq_comm (a := entry)]
      · simp only [Prod.mk.injEq, hkey, if_false, false_and, false_or]

theorem exists_loadReplies {owners : Owners} {list : List ((String × ℕ) × ReplyItems)}
    {perOwner : Std.ExtTreeMap String ℕ} {replies : ReplyMap}
    (hcheck : ∀ e ∈ list, ∃ state, owners[e.1.1]? = some state ∧
      checkReply state e.1.2 e.2 = .ok ())
    (hcount : ∀ owner, (perOwner[owner]?).getD 0 +
      (list.filter fun e => e.1.1 = owner).length ≤ maxTextNoticesPerOwner)
    (hdistinct : (list.map Prod.fst).Nodup) (hnew : ∀ e ∈ list, e.1 ∉ replies) :
    ∃ loaded, loadReplies owners list perOwner replies = .ok loaded := by
  induction list generalizing perOwner replies with
  | nil => exact ⟨replies, rfl⟩
  | cons entry rest ih =>
    obtain ⟨⟨owner, order⟩, items⟩ := entry
    obtain ⟨⟨state, hstate, hnow⟩, hcheck⟩ := List.forall_mem_cons.mp hcheck
    obtain ⟨hfresh, hnew⟩ := List.forall_mem_cons.mp hnew
    simp only [List.map_cons, List.nodup_cons] at hdistinct
    by_cases hdone : order ≤ state.acknowledgedOrder
    · have hcount' (owner' : String) : (perOwner[owner']?).getD 0 +
          (rest.filter fun e => e.1.1 = owner').length ≤ maxTextNoticesPerOwner := by
        have := hcount owner'
        rw [List.filter_cons] at this
        split_ifs at this
        · rw [List.length_cons] at this
          omega
        · exact this
      obtain ⟨loaded, hloaded⟩ := ih hcheck hcount' hdistinct.2 hnew
      exact ⟨loaded, loadReplies_cons.mpr ⟨state, hstate, hnow, Or.inl ⟨hdone, hloaded⟩⟩⟩
    · have hone := hcount owner
      simp only [List.filter_cons, decide_true, if_true, List.length_cons] at hone
      have hcount' (owner' : String) :
          ((perOwner.insert owner ((perOwner[owner]?).getD 0 + 1))[owner']?).getD 0 +
            (rest.filter fun e => e.1.1 = owner').length ≤ maxTextNoticesPerOwner := by
        rw [Maps.getElem?_insert]
        split_ifs with howner
        · subst howner
          simp only [Option.getD_some]
          omega
        · have := hcount owner'
          rw [List.filter_cons, if_neg (by simpa [eq_comm] using howner)] at this
          exact this
      have hnew' : ∀ e ∈ rest, e.1 ∉ replies.insert (owner, order) items := by
        intro e he hmem
        rcases Std.ExtTreeMap.mem_insert.mp hmem with heq | hold
        · rw [Std.LawfulEqCmp.eq_of_compare heq] at hdistinct
          exact hdistinct.1 (List.mem_map_of_mem he)
        · exact hnew e he hold
      obtain ⟨loaded, hloaded⟩ := ih hcheck hcount' hdistinct.2 hnew'
      exact ⟨loaded, loadReplies_cons.mpr ⟨state, hstate, hnow,
        Or.inr ⟨by omega, by omega, hfresh, hloaded⟩⟩⟩

theorem checkCalls_eq_ok {owners : Owners} {list : List (String × StringSet)} {calls : ℕ} :
    checkCalls owners list calls = .ok () ↔
      (∀ e ∈ list, e.1 ∈ owners ∧ e.2.size ≤ maxKeysPerOwner ∧
        e.2.toList.all validDigest = true) ∧
      (list = [] ∨ calls + (list.map fun e => e.2.size).sum ≤ maxKeys) := by
  induction list generalizing calls with
  | nil => simp [checkCalls]
  | cons e rest ih =>
    obtain ⟨owner, ids⟩ := e
    simp only [checkCalls, seq_eq_ok, refuse_eq_ok, not_not, not_lt, ih, List.forall_mem_cons,
      List.map_cons, List.sum_cons, reduceCtorEq, false_or]
    constructor
    · rintro ⟨hnow, hcalls, hrest, rfl | htotal⟩
      · exact ⟨⟨hnow, hrest⟩, by simpa using hcalls⟩
      · exact ⟨⟨hnow, hrest⟩, by omega⟩
    · rintro ⟨⟨hnow, hrest⟩, htotal⟩
      exact ⟨hnow, by omega, hrest, Or.inr (by omega)⟩

section
variable [Sha256]

structure QuestionNotices.Valid (n : QuestionNotices) : Prop where
  keyed : n.Keyed
  owners : ∀ (ref : String) (state : QuestionNoticeState), n.owners[ref]? = some state →
    checkOwner n.serverHash state = .ok ()
  ownerCount : n.owners.size ≤ maxOwners
  keyCount : n.keyCount ≤ maxKeys
  replies : ∀ (owner : String) (order : ℕ) (items : ReplyItems),
    n.replyItems[(owner, order)]? = some items →
      ∃ state, n.owners[owner]? = some state ∧ checkReply state order items = .ok ()
  replySize : n.replyItems.size ≤ maxTextNotices
  replyCount : ∀ owner, n.replyCount owner ≤ maxTextNoticesPerOwner
  calls : ∀ (owner : String) (ids : StringSet), n.replyCalls[owner]? = some ids →
    owner ∈ n.owners ∧ ids.size ≤ maxKeysPerOwner ∧ ids.toList.all validDigest = true
  callCount : n.callCount ≤ maxKeys
  blocked : ∀ owner ∈ n.replyBlockedOwners, owner ∈ n.owners

theorem restore_eq {n loaded : QuestionNotices} (hkeyed : n.Keyed)
    (h : n.snapshot.restore n.serverHash = .ok loaded) : loaded = n.reload := by
  rw [Snapshot.restore] at h
  obtain ⟨-, h⟩ := seq_eq_ok.mp h
  obtain ⟨-, h⟩ := seq_eq_ok.mp h
  obtain ⟨owners, howners, h⟩ := bind_eq_ok.mp h
  obtain ⟨-, h⟩ := seq_eq_ok.mp h
  obtain ⟨replies, hreplies, h⟩ := bind_eq_ok.mp h
  obtain ⟨-, h⟩ := seq_eq_ok.mp h
  obtain ⟨-, h⟩ := seq_eq_ok.mp h
  cases h
  obtain rfl := loadOwners_eq hkeyed howners
  have hsame : replies = n.reload.replyItems := by
    refine Std.ExtTreeMap.ext_getElem? fun {key} => Option.ext fun items => ?_
    rw [getElem?_of_loadReplies hreplies, QuestionNotices.reload, Maps.getElem?_filter_eq_some,
      QuestionNotices.snapshot, Std.ExtTreeMap.mem_toList_iff_getElem?_eq_some]
    simp
  rw [hsame]
  rfl

theorem exists_restore {n : QuestionNotices} (h : n.Valid) :
    ∃ loaded, n.snapshot.restore n.serverHash = .ok loaded := by
  have hmem {e : String × QuestionNoticeState} (he : e ∈ n.owners.toList) :
      n.owners[e.1]? = some e.2 := Std.ExtTreeMap.mem_toList_iff_getElem?_eq_some.mp he
  obtain ⟨owners, howners⟩ : ∃ owners,
      loadOwners n.serverHash (n.owners.toList.map Prod.snd) 0 ∅ = .ok owners := by
    refine exists_loadOwners ?_ ?_ ?_ ?_
    · rintro s hs
      obtain ⟨e, he, rfl⟩ := List.mem_map.mp hs
      exact h.owners e.1 e.2 (hmem he)
    · have hcount := h.keyCount
      rw [List.map_map, Nat.zero_add]
      exact hcount
    · rw [List.map_map]
      refine List.Nodup.map_on (fun a ha b hb hab => ?_) (Maps.nodup_toList _)
      have hkeyed := (h.keyed a.1 a.2 (hmem ha)).symm.trans (hab.trans (h.keyed b.1 b.2 (hmem hb)))
      have hsame := (hmem ha).symm.trans (hkeyed ▸ hmem hb)
      exact Prod.ext hkeyed (Option.some_inj.mp hsame)
    · intro s _
      exact Std.ExtTreeMap.not_mem_empty
  have hsame := loadOwners_eq h.keyed howners
  subst hsame
  obtain ⟨replies, hreplies⟩ : ∃ replies,
      loadReplies n.owners n.replyItems.toList ∅ ∅ = .ok replies := by
    refine exists_loadReplies ?_ ?_ ?_ ?_
    · rintro ⟨⟨owner, order⟩, items⟩ he
      exact h.replies owner order items (Std.ExtTreeMap.mem_toList_iff_getElem?_eq_some.mp he)
    · intro owner
      have hcount := h.replyCount owner
      rw [QuestionNotices.replyCount, ← Std.ExtTreeMap.length_toList,
        Std.ExtTreeMap.toList_filter] at hcount
      simpa using hcount
    · refine List.Nodup.map_on ?_ (Maps.nodup_toList _)
      rintro ⟨a, x⟩ ha ⟨b, y⟩ hb rfl
      have hx := Std.ExtTreeMap.mem_toList_iff_getElem?_eq_some.mp ha
      have hy := Std.ExtTreeMap.mem_toList_iff_getElem?_eq_some.mp hb
      rw [Option.some_inj.mp (hx.symm.trans hy)]
    · intro e _
      exact Std.ExtTreeMap.not_mem_empty
  have hcalls : checkCalls n.owners n.replyCalls.toList 0 = .ok () := by
    refine checkCalls_eq_ok.mpr ⟨fun e he => ?_, Or.inr ?_⟩
    · exact h.calls e.1 e.2 (Std.ExtTreeMap.mem_toList_iff_getElem?_eq_some.mp he)
    · have hcount := h.callCount
      rw [Nat.zero_add]
      exact hcount
  have hblocked : ∀ owner ∈ n.replyBlockedOwners.toList, n.owners.contains owner = true :=
    fun owner howner => h.blocked owner (Std.ExtTreeSet.mem_toList.mp howner)
  have hsize : ¬maxOwners < n.snapshot.owners.length := by
    have hcount := h.ownerCount
    rw [QuestionNotices.snapshot, List.length_map, Std.ExtTreeMap.length_toList]
    omega
  have hreplySize : ¬maxTextNotices < n.snapshot.replyItems.length := by
    have hcount := h.replySize
    rw [QuestionNotices.snapshot, Std.ExtTreeMap.length_toList]
    omega
  refine ⟨_, seq_eq_ok.mpr ⟨refuse_eq_ok.mpr (by simp [QuestionNotices.snapshot]),
    seq_eq_ok.mpr ⟨refuse_eq_ok.mpr hsize, bind_eq_ok.mpr ⟨n.owners, howners,
      seq_eq_ok.mpr ⟨refuse_eq_ok.mpr hreplySize, bind_eq_ok.mpr ⟨replies, hreplies,
        seq_eq_ok.mpr ⟨hcalls, seq_eq_ok.mpr ⟨refuse_eq_ok.mpr ?_, rfl⟩⟩⟩⟩⟩⟩⟩⟩
  simpa [QuestionNotices.snapshot] using hblocked

end

inductive SaveStep (n : QuestionNotices) (files : Files) (io : SaveIo) : CommitResult × Files → Prop
  | failed : SaveStep n files io
      (.preCommitFailed, { files with saves := .preCommitFailed :: files.saves })
  | saved {result : CommitResult} {marker : Marker} (hresult : result ≠ .preCommitFailed)
      (hbytes : n.snapshot.toVec.length ≤ maxBytes)
      (hmarker : marker = .torn →
        files.marker = .torn ∨ io.fault = .markerTorn ∧ files.marker = .missing) :
      SaveStep n files io (result, ⟨some n.snapshot.toVec, marker, result :: files.saves⟩)

theorem save_step (n : QuestionNotices) (files : Files) (deadline : Option ℕ) (io : SaveIo) :
    SaveStep n files io (n.save files deadline io) := by
  unfold QuestionNotices.save QuestionNotices.saveInner
  split_ifs with hfailed hrenamed
  · exact .failed
  · simp only [not_or, not_lt] at hfailed
    exact .saved (by decide) hfailed.2.1 fun h => Or.inl h
  · simp only [not_or, not_lt] at hfailed
    have hmarker : (createMarker files.marker io.fault).2 = .torn →
        files.marker = .torn ∨ io.fault = .markerTorn ∧ files.marker = .missing := by
      cases hold : files.marker with
      | missing => by_cases hfault : io.fault = .markerTorn <;> simp [createMarker, hfault]
      | torn => simp
      | written => simp [createMarker]
    dsimp only
    split_ifs
    · exact .saved nofun hfailed.2.1 hmarker
    · exact .saved nofun hfailed.2.1 hmarker

theorem load_of_sidecar [Sha256] [SnapshotReader] {files : Files} {n : QuestionNotices} (hmarker : files.marker ≠ .torn)
    (hsidecar : files.sidecar = some n.snapshot.toVec) (hbytes : n.snapshot.toVec.length ≤ maxBytes) :
    files.load n.serverHash = n.snapshot.restore n.serverHash := by
  unfold Files.load
  rw [if_neg hmarker, hsidecar]
  dsimp only
  rw [if_neg (by omega), SnapshotReader.roundTrip]

end VdeTmux.QuestionNotice
