import VdeTmux.QuestionNotice.Durability

/-!
# What a reply is bound to

The bindings of the items of a question are followed through every run: in memory, on the disk and
across restarts. A reply answers the items it names and no others.
-/

open Foundation VdeTmux.Pane
namespace VdeTmux.QuestionNotice

def issuedCalls (past : List (World × NoticeOp)) : List String :=
  past.filterMap fun e =>
    match e.2 with
    | .issue _ _ _ _ tool _ (some _) _ _ => some tool
    | _ => none

def AnsweredBy (past : List (World × NoticeOp)) (owner session id : String) (order : ℕ) : Prop :=
  ∃ e ∈ past, ∃ pane reply orders deadline now io,
    e.2 = .reply pane owner session reply orders deadline now io ∧ (id, order) ∈ reply.zip orders ∧
      ∃ answer, (e.1.acknowledgeReplyOrders pane owner session reply orders deadline now io).1 =
        .ok answer

theorem AnsweredBy.mono {past : List (World × NoticeOp)} {owner session id : String} {order : ℕ}
    (h : AnsweredBy past owner session id order) (e : World × NoticeOp) :
    AnsweredBy (e :: past) owner session id order := by
  obtain ⟨e', he', hreply⟩ := h
  exact ⟨e', List.mem_cons_of_mem e he', hreply⟩

theorem issuedCalls_mono {past : List (World × NoticeOp)} {call : String}
    (h : call ∈ issuedCalls past) (e : World × NoticeOp) : call ∈ issuedCalls (e :: past) := by
  rw [issuedCalls, List.filterMap_cons]
  split
  · exact h
  · exact List.mem_cons_of_mem _ h

theorem itemText_injective {call call' : String} {index index' : ℕ}
    (h : itemText call index = itemText call' index') : call = call' ∧ index = index' := by
  have hwriter : Writer.Delimited fun p : String × ℕ => itemText p.1 p.2 := by
    refine Writer.record_delimited [fun _ => Json.quoteChars "request_user_input_async",
      fun p => Json.quoteChars p.1, fun p => Writer.digits p.2] (fun _ => rfl) ?_ nofun (by decide) ?_
    · simp only [List.forall_mem_cons]
      exact ⟨Json.quoteChars_delimited.separable _, Json.quoteChars_delimited.separable _,
        Writer.digits_delimited.separable _, nofun⟩
    · rintro ⟨call, index⟩ ⟨call', index'⟩ h
      simp only [List.forall_mem_cons] at h
      cases Json.quoteChars_delimited.injective h.2.1
      cases Writer.digits_delimited.injective h.2.2.1
      rfl
  have hpair : (call, index) = (call', index') := hwriter.injective h
  cases hpair
  exact ⟨rfl, rfl⟩

def QuestionNotices.Called (n : QuestionNotices) (owner call : String) : Prop :=
  ∃ calls, n.replyCalls[owner]? = some calls ∧ call ∈ calls

theorem QuestionNotices.Called.insert {n : QuestionNotices} {owner owner' call call' : String}
    (h : n.Called owner call) : (n.called owner' call').Called owner call := by
  obtain ⟨calls, hcalls, hin⟩ := h
  rw [QuestionNotices.Called, QuestionNotices.called, Maps.getElem?_insert]
  split_ifs with hsame
  · subst hsame
    exact ⟨_, rfl, by rw [hcalls]; exact Std.ExtTreeSet.mem_insert.mpr (Or.inr hin)⟩
  · exact ⟨calls, hcalls, hin⟩

theorem QuestionNotices.called_self (n : QuestionNotices) (owner call : String) :
    (n.called owner call).Called owner call := by
  rw [QuestionNotices.Called, QuestionNotices.called, Maps.getElem?_insert, if_pos rfl]
  exact ⟨_, rfl, Std.ExtTreeSet.mem_insert_self⟩

section
variable [Sha256]

def itemMessages (past : List (World × NoticeOp)) : List (List UInt8) :=
  (issuedCalls past).flatMap fun call => (List.range maxIssuedItems).map fun index =>
    utf8 (Json.quote (String.ofList (itemText call index)))

def NoCollision (past : List (World × NoticeOp)) : Prop :=
  ∀ a ∈ itemMessages past, ∀ b ∈ itemMessages past, sha256Hex a = sha256Hex b → a = b

theorem NoCollision.call_eq {past : List (World × NoticeOp)} (h : NoCollision past)
    {call call' : String} (hcall : call ∈ issuedCalls past) (hcall' : call' ∈ issuedCalls past)
    {index index' : ℕ} (hindex : index < maxIssuedItems) (hindex' : index' < maxIssuedItems)
    (hsame : itemDigest call index = itemDigest call' index') : call = call' := by
  have hmem {call : String} {index : ℕ} (hcall : call ∈ issuedCalls past)
      (hindex : index < maxIssuedItems) :
      utf8 (Json.quote (String.ofList (itemText call index))) ∈ itemMessages past :=
    List.mem_flatMap.mpr ⟨call, hcall, List.mem_map.mpr ⟨index, List.mem_range.mpr hindex, rfl⟩⟩
  have htext := h _ (hmem hcall hindex) _ (hmem hcall' hindex') hsame
  exact (itemText_injective (String.ofList_injective (Json.quote_injective (utf8_injective htext)))).1

/-- Every entry belongs to a call of its own that was issued, and what is no longer pending was
answered. -/
structure Bindings (past : List (World × NoticeOp)) (n : QuestionNotices) : Prop where
  entry : ∀ (owner : String) (order : ℕ) (items : ReplyItems),
    n.replyItems[(owner, order)]? = some items → ∃ call count, call ∈ issuedCalls past ∧
      count ≤ maxIssuedItems ∧ items.items = QuestionNotices.itemDigests call count ∧
      n.Called owner (callDigest items.session call)
  unique : NoCollision past → ∀ (owner : String) (order order' : ℕ) (items items' : ReplyItems)
    (id : String), n.replyItems[(owner, order)]? = some items →
      n.replyItems[(owner, order')]? = some items' → items.session = items'.session →
        id ∈ items.items → id ∈ items'.items → order = order'
  answered : ∀ (owner : String) (order : ℕ) (items : ReplyItems),
    n.replyItems[(owner, order)]? = some items → ∀ id ∈ items.items, id ∉ items.pending →
      AnsweredBy past owner items.session id order

theorem NoCollision.tail {past : List (World × NoticeOp)} {e : World × NoticeOp}
    (h : NoCollision (e :: past)) : NoCollision past := by
  have hmem {a : List UInt8} (ha : a ∈ itemMessages past) : a ∈ itemMessages (e :: past) := by
    obtain ⟨call, hcall, hin⟩ := List.mem_flatMap.mp ha
    exact List.mem_flatMap.mpr ⟨call, issuedCalls_mono hcall e, hin⟩
  exact fun a ha b hb => h a (hmem ha) b (hmem hb)

namespace Bindings
variable {past : List (World × NoticeOp)} {n m : QuestionNotices}

theorem mono (h : Bindings past n) (e : World × NoticeOp) : Bindings (e :: past) n where
  entry := by
    intro owner order items hitems
    obtain ⟨call, count, hcall, hrest⟩ := h.entry owner order items hitems
    exact ⟨call, count, issuedCalls_mono hcall e, hrest⟩
  unique := fun hfree => h.unique hfree.tail
  answered := fun owner order items hitems id hid hgone =>
    (h.answered owner order items hitems id hid hgone).mono e

theorem narrow (h : Bindings past n)
    (hitems : ∀ (owner : String) (order : ℕ) (new : ReplyItems),
      m.replyItems[(owner, order)]? = some new →
        ∃ old, n.replyItems[(owner, order)]? = some old ∧ new.session = old.session ∧
          new.items = old.items ∧ (∀ call, n.Called owner call → m.Called owner call) ∧
          ∀ id ∈ old.pending, id ∉ new.pending → AnsweredBy past owner old.session id order) :
    Bindings past m where
  entry := by
    intro owner order new hnew
    obtain ⟨old, hold, hsession, hsame, hcalled, -⟩ := hitems owner order new hnew
    obtain ⟨call, count, hcall, hcount, hdigests, hin⟩ := h.entry owner order old hold
    exact ⟨call, count, hcall, hcount, hsame.trans hdigests, hcalled _ (hsession ▸ hin)⟩
  unique := by
    intro hfree owner order order' new new' id hnew hnew' hsession hid hid'
    obtain ⟨old, hold, hs, hsame, -⟩ := hitems owner order new hnew
    obtain ⟨old', hold', hs', hsame', -⟩ := hitems owner order' new' hnew'
    rw [hs, hs'] at hsession
    rw [hsame] at hid
    rw [hsame'] at hid'
    exact h.unique hfree owner order order' old old' id hold hold' hsession hid hid'
  answered := by
    intro owner order new hnew id hid hgone
    obtain ⟨old, hold, hsession, hsame, -, hanswered⟩ := hitems owner order new hnew
    rw [hsame] at hid
    rw [hsession]
    by_cases hpending : id ∈ old.pending
    · exact hanswered id hpending hgone
    · exact h.answered owner order old hold id hid hpending

theorem drop (h : Bindings past n)
    (hitems : ∀ (owner : String) (order : ℕ) (items : ReplyItems),
      m.replyItems[(owner, order)]? = some items →
        n.replyItems[(owner, order)]? = some items ∧
          ∀ call, n.Called owner call → m.Called owner call) : Bindings past m := by
  refine h.narrow fun owner order new hnew => ?_
  obtain ⟨hold, hcalled⟩ := hitems owner order new hnew
  exact ⟨new, hold, rfl, rfl, hcalled, fun id hid hgone => absurd hid hgone⟩

theorem congr (h : Bindings past n) (hitems : m.replyItems = n.replyItems)
    (hcalls : m.replyCalls = n.replyCalls) : Bindings past m := by
  refine h.drop fun owner order items hnew => ⟨hitems ▸ hnew, fun call hcalled => ?_⟩
  rwa [QuestionNotices.Called, hcalls]

theorem filter (h : Bindings past n) (p : String × ℕ → ReplyItems → Bool)
    (hitems : m.replyItems = n.replyItems.filter p) (hcalls : m.replyCalls = n.replyCalls) :
    Bindings past m := by
  refine h.drop fun owner order items hnew => ⟨?_, fun call hcalled => ?_⟩
  · rw [hitems] at hnew
    exact (Maps.getElem?_filter_eq_some.mp hnew).1
  · rwa [QuestionNotices.Called, hcalls]

theorem empty (hitems : m.replyItems = ∅) : Bindings past m :=
  ⟨fun _ _ _ h => by simp [hitems] at h, fun _ _ _ _ _ _ _ h => by simp [hitems] at h,
    fun _ _ _ h => by simp [hitems] at h⟩

end Bindings

theorem Bindings.register {past : List (World × NoticeOp)} {n : QuestionNotices} {owner : String}
    {order : ℕ} {session call : String} {count : ℕ} {m : QuestionNotices} (h : Bindings past n)
    (hcall : call ∈ issuedCalls past) (hrun : RegisterStep n owner order session call count m) :
    Bindings past m := by
  cases hrun with
  | untracked => exact h
  | reused => exact h.filter _ rfl rfl
  | blocked => exact h.filter _ rfl rfl
  | called => exact h.drop fun _ _ _ hnew => ⟨hnew, fun _ hin => hin.insert⟩
  | bound hallowed hstate hopen hlatest htotal hcalls hcount hissued =>
    have hnew : ¬n.Called owner (callDigest (identifierDigest session) call) := by
      rintro ⟨calls, hget, hin⟩
      exact (hcalls calls hget).1 hin
    -- what two entries share names a call, and the new call was not known
    have hfresh (hfree : NoCollision past) {order' : ℕ} {items : ReplyItems} {id : String}
        (hitems : n.replyItems[(owner, order')]? = some items)
        (hsession : items.session = identifierDigest session) (hid : id ∈ items.items)
        (hid' : id ∈ QuestionNotices.itemDigests call count) : False := by
      obtain ⟨call', count', hcall', hcount', hdigests, hin⟩ := h.entry owner order' items hitems
      rw [hdigests] at hid
      obtain ⟨index, hindex, hdigest⟩ := mem_itemDigests.mp hid
      obtain ⟨index', hindex', hdigest'⟩ := mem_itemDigests.mp hid'
      have hsame := hfree.call_eq hcall' hcall (hindex.trans_le hcount') (hindex'.trans_le hissued)
        (hdigest.trans hdigest'.symm)
      rw [hsession, hsame] at hin
      exact hnew hin
    refine ⟨?_, ?_, ?_⟩
    · intro owner' order' items hitems
      dsimp only at hitems
      rw [Maps.getElem?_insert] at hitems
      split_ifs at hitems with hkey
      · cases hitems
        cases hkey
        exact ⟨call, count, hcall, hissued, rfl, n.called_self owner _⟩
      · obtain ⟨call', count', hcall', hcount', hdigests, hin⟩ := h.entry owner' order' items hitems
        exact ⟨call', count', hcall', hcount', hdigests, hin.insert⟩
    · intro hfree owner' o o' items items' id hitems hitems' hsession hid hid'
      dsimp only at hitems hitems'
      rw [Maps.getElem?_insert] at hitems hitems'
      split_ifs at hitems hitems' with hkey hkey' hkey'
      · cases hkey
        cases hkey'
        rfl
      · cases hitems
        cases hkey
        exact (hfresh hfree hitems' hsession.symm hid' hid).elim
      · cases hitems'
        cases hkey'
        exact (hfresh hfree hitems hsession hid hid').elim
      · exact h.unique hfree owner' o o' items items' id hitems hitems' hsession hid hid'
    · intro owner' order' items hitems id hid hgone
      dsimp only at hitems
      rw [Maps.getElem?_insert] at hitems
      split_ifs at hitems with hkey
      · cases hitems
        exact absurd hid hgone
      · exact h.answered owner' order' items hitems id hid hgone

end

end VdeTmux.QuestionNotice
