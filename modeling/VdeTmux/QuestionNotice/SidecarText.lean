import VdeTmux.QuestionNotice.Sidecar

/-!
# The text of the sidecar tells the snapshot

Different snapshots are written differently, so a reader of the sidecar exists.
-/

open Foundation
namespace VdeTmux.QuestionNotice

open Writer Json

namespace Sidecar

theorem field_separable {α β : Type} {f : β → List Char} (hf : Delimited f) (name : String)
    (p : α → β) : Separable fun a => field name (f (p a)) := by
  have h := (hf.separable p).after (quoteChars name ++ [':'])
  simpa only [field, List.append_assoc, List.cons_append, List.nil_append] using h

theorem field_inj {β : Type} {f : β → List Char} (hf : Delimited f) {name : String} {b b' : β}
    (h : field name (f b) = field name (f b')) : b = b' :=
  hf.injective (List.cons.inj (List.append_cancel_left h)).2

theorem set_delimited : Delimited set :=
  (list_delimited quoteChars_delimited (by decide) (by decide) quoteChars_head).of_injective
    fun _ _ h => Std.ExtTreeSet.toList_inj.mp h

theorem pane_delimited : Delimited pane := by
  refine record_delimited [fun p => field "pane_id" (quoteChars p.paneId),
    fun p => field "pane_pid" (digits p.panePid)] (fun _ => rfl) ?_ nofun (by decide) ?_
  · simp only [List.forall_mem_cons]
    exact ⟨field_separable quoteChars_delimited _ _, field_separable digits_delimited _ _, nofun⟩
  · rintro ⟨id, pid⟩ ⟨id', pid'⟩ h
    simp only [List.forall_mem_cons] at h
    cases field_inj quoteChars_delimited h.1
    cases field_inj digits_delimited h.2.1
    rfl

theorem process_delimited : Delimited process := by
  refine record_delimited [fun p => field "pid" (digits p.pid),
    fun p => field "start_token" (quoteChars p.startToken)] (fun _ => rfl) ?_ nofun (by decide) ?_
  · simp only [List.forall_mem_cons]
    exact ⟨field_separable digits_delimited _ _, field_separable quoteChars_delimited _ _, nofun⟩
  · rintro ⟨pid, token⟩ ⟨pid', token'⟩ h
    simp only [List.forall_mem_cons] at h
    cases field_inj digits_delimited h.1
    cases field_inj quoteChars_delimited h.2.1
    rfl

theorem owner_delimited : Delimited owner := by
  refine record_delimited [fun s => field "pane" (pane s.pane),
    fun s => field "process" (process s.process), fun s => field "owner_ref" (quoteChars s.ownerRef),
    fun s => field "latest_order" (digits s.latestOrder),
    fun s => field "acknowledged_order" (digits s.acknowledgedOrder),
    fun s => field "last_issued_at" (signed s.lastIssuedAt), fun s => field "seen" (set s.seen)]
    (fun _ => rfl) ?_ nofun (by decide) ?_
  · simp only [List.forall_mem_cons]
    exact ⟨field_separable pane_delimited _ _, field_separable process_delimited _ _,
      field_separable quoteChars_delimited _ _, field_separable digits_delimited _ _,
      field_separable digits_delimited _ _, field_separable signed_delimited _ _,
      field_separable set_delimited _ _, nofun⟩
  · rintro ⟨pane, process, ref, latest, acknowledged, issued, seen⟩ ⟨_, _, _, _, _, _, _⟩ h
    simp only [List.forall_mem_cons] at h
    obtain ⟨hpane, hprocess, href, hlatest, hacknowledged, hissued, hseen, -⟩ := h
    cases field_inj pane_delimited hpane
    cases field_inj process_delimited hprocess
    cases field_inj quoteChars_delimited href
    cases field_inj digits_delimited hlatest
    cases field_inj digits_delimited hacknowledged
    cases field_inj signed_delimited hissued
    cases field_inj set_delimited hseen
    rfl

theorem items_delimited : Delimited fun items : ReplyItems =>
    fields [field "session" (quoteChars items.session), field "items" (set items.items),
      field "pending" (set items.pending)] := by
  refine record_delimited [fun i => field "session" (quoteChars i.session),
    fun i => field "items" (set i.items), fun i => field "pending" (set i.pending)]
    (fun _ => rfl) ?_ nofun (by decide) ?_
  · simp only [List.forall_mem_cons]
    exact ⟨field_separable quoteChars_delimited _ _, field_separable set_delimited _ _,
      field_separable set_delimited _ _, nofun⟩
  · rintro ⟨session, items, pending⟩ ⟨_, _, _⟩ h
    simp only [List.forall_mem_cons] at h
    cases field_inj quoteChars_delimited h.1
    cases field_inj set_delimited h.2.1
    cases field_inj set_delimited h.2.2.1
    rfl

theorem reply_delimited : Delimited reply := by
  refine record_delimited [fun e => quoteChars e.1.1, fun e => digits e.1.2,
    fun e => fields [field "session" (quoteChars e.2.session), field "items" (set e.2.items),
      field "pending" (set e.2.pending)]] (fun _ => rfl) ?_ nofun (by decide) ?_
  · simp only [List.forall_mem_cons]
    exact ⟨quoteChars_delimited.separable _, digits_delimited.separable _,
      items_delimited.separable _, nofun⟩
  · rintro ⟨⟨owner, order⟩, items⟩ ⟨⟨owner', order'⟩, items'⟩ h
    simp only [List.forall_mem_cons] at h
    cases quoteChars_delimited.injective h.1
    cases digits_delimited.injective h.2.1
    cases items_delimited.injective h.2.2.1
    rfl

theorem calls_delimited : Delimited calls :=
  @Delimited.seq _ _ _ _ ':' [] quoteChars_delimited (by decide) set_delimited

end Sidecar

theorem Snapshot.chars_injective : Function.Injective Snapshot.chars := by
  have howners : Delimited (list '[' ']' Sidecar.owner) :=
    list_delimited Sidecar.owner_delimited (by decide) (by decide) fun _ => ⟨_, _, rfl, by decide⟩
  have hreplies : Delimited (list '[' ']' Sidecar.reply) :=
    list_delimited Sidecar.reply_delimited (by decide) (by decide) fun _ => ⟨_, _, rfl, by decide⟩
  have hcalls : Delimited fun m : Std.ExtTreeMap String StringSet =>
      list '{' '}' Sidecar.calls m.toList :=
    (list_delimited Sidecar.calls_delimited (by decide) (by decide)
      fun _ => ⟨_, _, rfl, by decide⟩).of_injective fun _ _ h => Std.ExtTreeMap.toList_inj.mp h
  refine Delimited.injective (record_delimited [
    fun s => Sidecar.field "schema_version" (digits s.schemaVersion),
    fun s => Sidecar.field "server_hash" (quoteChars s.serverHash),
    fun s => Sidecar.field "owners" (list '[' ']' Sidecar.owner s.owners),
    fun s => Sidecar.field "reply_items" (list '[' ']' Sidecar.reply s.replyItems),
    fun s => Sidecar.field "reply_calls" (list '{' '}' Sidecar.calls s.replyCalls.toList),
    fun s => Sidecar.field "reply_blocked_owners" (Sidecar.set s.replyBlockedOwners)]
    (fun _ => rfl) ?_ nofun (by decide) ?_)
  · simp only [List.forall_mem_cons]
    exact ⟨Sidecar.field_separable digits_delimited _ _,
      Sidecar.field_separable quoteChars_delimited _ _, Sidecar.field_separable howners _ _,
      Sidecar.field_separable hreplies _ _, Sidecar.field_separable hcalls _ _,
      Sidecar.field_separable Sidecar.set_delimited _ _, nofun⟩
  · rintro ⟨version, hash, owners, replies, calls, blocked⟩ ⟨_, _, _, _, _, _⟩ h
    simp only [List.forall_mem_cons] at h
    obtain ⟨hversion, hhash, hown, hreply, hcall, hblocked, -⟩ := h
    cases Sidecar.field_inj digits_delimited hversion
    cases Sidecar.field_inj quoteChars_delimited hhash
    cases Sidecar.field_inj howners hown
    cases Sidecar.field_inj hreplies hreply
    cases Sidecar.field_inj hcalls hcall
    cases Sidecar.field_inj Sidecar.set_delimited hblocked
    rfl

theorem Snapshot.length_toVec_le (snapshot : Snapshot) :
    snapshot.toVec.length ≤ 4 * snapshot.chars.length := by
  have hbytes (cs : List Char) : (cs.flatMap String.utf8EncodeChar).length ≤ 4 * cs.length := by
    induction cs with
    | nil => exact le_rfl
    | cons c cs ih =>
      have hc : c.utf8Size ≤ 4 := Char.utf8Size_le_four c
      rw [List.flatMap_cons, List.length_append, List.length_cons, String.length_utf8EncodeChar]
      omega
  rw [Snapshot.toVec, utf8, String.toByteArray_ofList, List.utf8Encode]
  simpa using hbytes snapshot.chars

theorem utf8_injective : Function.Injective utf8 := by
  intro s t h
  have hbytes : s.toByteArray = t.toByteArray := ByteArray.ext (Array.toList_inj.mp h)
  exact String.toByteArray_inj.mp hbytes

theorem Snapshot.toVec_injective : Function.Injective Snapshot.toVec := fun _ _ h =>
  chars_injective (String.ofList_injective (utf8_injective h))

/-- A reader that finds the snapshot a text was written from. -/
@[reducible] noncomputable def SnapshotReader.inverse : SnapshotReader where
  fromSlice bytes :=
    haveI := Classical.dec (∃ snapshot : Snapshot, snapshot.toVec = bytes)
    if h : ∃ snapshot : Snapshot, snapshot.toVec = bytes then some h.choose else none
  roundTrip snapshot := by
    have h : ∃ other : Snapshot, other.toVec = snapshot.toVec := ⟨snapshot, rfl⟩
    rw [dif_pos h, Snapshot.toVec_injective h.choose_spec]

end VdeTmux.QuestionNotice
