import VdeTmux.Conversation.CodexCompaction

/-!
# The entries of every Codex transcript

Retained entries first, then what was said since in the order of the turns, each labelled with its
turn. Different entries come from different sources as long as no digests collide.
-/

open Foundation
open Foundation.Json (Value SerdeJson)

namespace VdeTmux.Conversation.Codex.Parser

def Shaped (message : ConversationMessage) : Prop :=
  (message.role = .user ∧ message.kind = .instruction ∧ 0 < message.turnIndex) ∨
  (message.role = .assistant ∧ message.kind = .commentary ∧ 0 < message.turnIndex) ∨
  (message.role = .tool ∧ (message.kind = .toolCall ∨ message.kind = .toolResult) ∧
    0 < message.turnIndex) ∨
  (message.role = .summary ∧ message.kind = .compactionSummary ∧ message.turnIndex = 0)

theorem Shaped.reply {message : ConversationMessage} {turn : Turn} (h : IsReply message)
    (hturn : 0 < turn.index) : Shaped (attributed message turn) := by
  rcases h with ⟨hrole, hkind⟩ | ⟨hrole, hkind⟩
  · exact Or.inr (Or.inl ⟨hrole, hkind, hturn⟩)
  · exact Or.inr (Or.inr (Or.inl ⟨hrole, hkind, hturn⟩))

theorem Shaped.assistant {message : ConversationMessage} (h : Shaped message)
    (hrole : message.role = .assistant) : message.kind = .commentary ∧ 0 < message.turnIndex := by
  rcases h with h | h | h | h
  · rw [h.1] at hrole
    cases hrole
  · exact h.2
  · rw [h.1] at hrole
    cases hrole
  · rw [h.1] at hrole
    cases hrole

theorem Shaped.retainable {entry : Entry} (h : Shaped entry.message)
    (hretain : entry.retainable = true) : entry.message.role ≠ .assistant := by
  intro hrole
  obtain ⟨hkind, -⟩ := h.assistant hrole
  simp [Entry.retainable, hkind] at hretain

def label (entry : Entry) : ℕ × Option String :=
  (entry.message.turnIndex, entry.message.providerTurnId)

/-- What a compaction left, then what was said since, turn after turn. -/
structure EntriesKept (p : Parser) : Prop where
  shaped : ∀ entry ∈ p.entries, Shaped entry.message
  parts : ∃ old new, p.entries = old ++ new ∧ (∀ entry ∈ old, entry.retainable = true) ∧
    (new.Pairwise fun a b => a.message.turnIndex ≤ b.message.turnIndex) ∧
    ∀ entry ∈ new, label entry ∈ labels p.turns

variable {p p' : Parser} {session : String} {T : List Value} {line : ℕ} {record : Value}

theorem cutPosition_eq_some {entries : List Entry} {count cut : ℕ} {entry : Entry}
    (h : cutPosition entries count = some (cut, entry)) :
    entries[cut]? = some entry ∧ entry.message.kind = .instruction := by
  unfold cutPosition at h
  dsimp only at h
  split at h
  · rename_i position hposition
    obtain ⟨found, hfound, heq⟩ := Option.map_eq_some_iff.mp h
    cases heq
    have hmem := List.mem_of_getElem? hposition
    obtain ⟨⟨other, i⟩, hother, heq⟩ := List.mem_map.mp hmem
    obtain ⟨hzip, hkind⟩ := List.mem_filter.mp hother
    cases heq
    have hget := List.mem_zipIdx_iff_getElem?.mp hzip
    rw [hfound] at hget
    cases hget
    exact ⟨hfound, of_decide_eq_true hkind⟩
  · cases h

namespace EntriesKept

theorem new : EntriesKept (new session) where
  shaped := List.forall_mem_nil _
  parts := ⟨[], [], rfl, List.forall_mem_nil _, List.Pairwise.nil, List.forall_mem_nil _⟩

theorem same (h : EntriesKept p) (hentries : p'.entries = p.entries)
    (hturns : ∀ label ∈ labels p.turns, label ∈ labels p'.turns) : EntriesKept p' := by
  obtain ⟨old, new, hsplit, hold, hnew, hlabels⟩ := h.parts
  refine ⟨?_, old, new, hentries.trans hsplit, hold, hnew, fun entry hentry => ?_⟩
  · rw [hentries]
    exact h.shaped
  · exact hturns _ (hlabels entry hentry)

theorem append (h : EntriesKept p) (hturns : TurnsKept p) {turn : Turn}
    (hopen : p.openTurn? = some turn) {message : ConversationMessage} {phase : Option Phase}
    (hshaped : Shaped (attributed message turn))
    (hentries : p'.entries = p.entries ++ [⟨attributed message turn, phase⟩])
    (hsame : p'.turns = p.turns) : EntriesKept p' := by
  obtain ⟨old, new, hsplit, hold, hnew, hlabels⟩ := h.parts
  obtain ⟨index, -, hturn⟩ := TurnsKept.openTurn_mem hopen
  refine ⟨?_, old, new ++ [⟨attributed message turn, phase⟩], ?_, hold, ?_, ?_⟩
  · rw [hentries]
    exact List.forall_mem_append.mpr ⟨h.shaped, List.forall_mem_singleton.mpr hshaped⟩
  · rw [hentries, hsplit, List.append_assoc]
  · refine List.pairwise_append.mpr ⟨hnew, List.pairwise_singleton _ _, fun a ha b hb => ?_⟩
    rw [List.mem_singleton.mp hb]
    exact hturns.le_open hopen (hlabels a ha)
  · rw [hsame]
    refine List.forall_mem_append.mpr ⟨hlabels, List.forall_mem_singleton.mpr ?_⟩
    exact List.mem_map.mpr ⟨turn, List.mem_of_getElem? hturn, rfl⟩

theorem cut (h : EntriesKept p) {count cut : ℕ} {entry : Entry}
    (hcut : cutPosition p.entries count = some (cut, entry)) : EntriesKept (p.cutAt cut entry) := by
  obtain ⟨old, new, hsplit, hold, hnew, hlabels⟩ := h.parts
  obtain ⟨hget, -⟩ := cutPosition_eq_some hcut
  have htake : (p.cutAt cut entry).entries = old.take cut ++ new.take (cut - old.length) := by
    rw [← List.take_append, ← hsplit]
    rfl
  refine ⟨fun e he => h.shaped e (List.mem_of_mem_take he), old.take cut,
    new.take (cut - old.length), htake, fun e he => hold e (List.mem_of_mem_take he),
    hnew.sublist (List.take_sublist _ _), fun e he => ?_⟩
  have hlabel := hlabels e (List.mem_of_mem_take he)
  rw [show (p.cutAt cut entry).turns = retainTurns _ _ p.turns from rfl, labels_retainTurns]
  refine List.mem_filter.mpr ⟨hlabel, ?_⟩
  have hle : e.message.turnIndex ≤ entry.message.turnIndex := by
    obtain ⟨i, hi⟩ := List.mem_iff_getElem?.mp he
    rw [List.getElem?_take] at hi
    split_ifs at hi with hlt
    rw [hsplit, List.getElem?_append_right (by omega)] at hget
    obtain ⟨hi', rfl⟩ := List.getElem?_eq_some_iff.mp hi
    obtain ⟨hc', rfl⟩ := List.getElem?_eq_some_iff.mp hget
    exact List.pairwise_iff_getElem.mp hnew i (cut - old.length) hi' hc' hlt
  rcases Nat.lt_or_eq_of_le hle with hlt | heq
  · simp [label, hlt]
  · have hkept : ((p.entries.take cut).any fun other =>
        other.message.turnIndex = entry.message.turnIndex) = true := by
      refine List.any_eq_true.mpr ⟨e, ?_, decide_eq_true heq⟩
      have hmem : e ∈ (p.cutAt cut entry).entries := by
        rw [htake]
        exact List.mem_append_right _ he
      exact hmem
    simp [label, heq, hkept]

end EntriesKept

variable [Sha256]

theorem Shaped.summary (sourceRef originalRole text : String) :
    Shaped (summaryEntry sourceRef originalRole text).message :=
  Or.inr (Or.inr (Or.inr ⟨rfl, rfl, rfl⟩))

theorem mem_summaryOf {payload : Value} {entry : Entry} (h : entry ∈ p.summaryOf line payload) :
    ∃ text, entry = summaryEntry (p.ref s!"l{line}") "summary" text := by
  unfold summaryOf at h
  split at h
  · exact ⟨_, List.mem_singleton.mp h⟩
  · cases h

theorem replaced_origin {history : List Value} {traced : List (Option ℕ)} {used : List ℕ}
    {rebuilt : List Entry} {payload : Value} {ref : ℕ → String}
    (htrace : Traced p.entries history traced used)
    (hrebuilt : Rebuilt p.entries ref 0 (history.zip traced) rebuilt) {entry : Entry}
    (h : entry ∈ rebuilt ++ p.summaryOf line payload) :
    (∃ before ∈ p.entries, before.retainable = true ∧ entry = ⟨before.message, none⟩) ∨
      ∃ source role text, entry = summaryEntry source role text := by
  rcases List.mem_append.mp h with h | h
  · rcases hrebuilt.origin h with ⟨found, before, hfound, hbefore, rfl⟩ | ⟨i, text, -, -, rfl⟩
    · obtain ⟨item, hitem, hsome⟩ := List.mem_map.mp hfound
      have hused : found ∈ used := by
        rw [← htrace.found]
        exact List.mem_filterMap.mpr ⟨some found, hsome ▸ (List.of_mem_zip hitem).2, rfl⟩
      obtain ⟨a, text, ha, hkey⟩ := htrace.matched.keyed found hused
      rw [hbefore] at ha
      cases ha
      exact Or.inl ⟨before, List.mem_of_getElem? hbefore, (retainKey_eq_some.mp hkey).1, rfl⟩
    · exact Or.inr ⟨_, _, _, rfl⟩
  · obtain ⟨text, rfl⟩ := mem_summaryOf h
    exact Or.inr ⟨_, _, _, rfl⟩

theorem EntriesKept.step (h : EntriesKept p) (hturns : TurnsKept p) (hstep : Step p line record p') :
    EntriesKept p' := by
  have hpositive {turn : Turn} (hopen : p.openTurn? = some turn) : 0 < turn.index := by
    obtain ⟨index, -, hturn⟩ := TurnsKept.openTurn_mem hopen
    exact hturns.positive _ (List.mem_map.mpr ⟨turn, List.mem_of_getElem? hturn, rfl⟩)
  cases hstep with
  | noted _ hn => exact h.same hn.entries (by rw [hn.turns]; exact fun _ h => h)
  | pending => exact h.same rfl fun _ h => h
  | replied _ hn hopen hreply =>
    exact h.append hturns hopen (.reply hreply (hpositive hopen)) rfl hn.turns
  | started =>
    refine h.same rfl fun label hlabel => ?_
    rw [Parser.started, labels, List.map_append]
    exact List.mem_append_left _ hlabel
  | ended _ hn hindex hopen =>
    refine h.same hn.entries fun label hlabel => ?_
    obtain ⟨index, hindex', hturn⟩ := TurnsKept.openTurn_mem hopen
    obtain rfl := Option.some.inj (hindex.symm.trans hindex')
    rw [closed, labels_set (hn.turns ▸ hturn), hn.turns]
    exact hlabel
  | said _ hn hopen =>
    exact h.append hturns hopen (Or.inl ⟨rfl, rfl, hpositive hopen⟩) rfl hn.turns
  | compacted _ _ htrace h₁ hrebuild hn =>
    have hrebuilt := rebuild_rebuilt hrebuild
    rw [h₁.entries] at hrebuilt
    have htraced := trace_traced htrace
    refine ⟨fun entry hentry => ?_, _, [], (List.append_nil _).symm, fun entry hentry => ?_,
      List.Pairwise.nil, List.forall_mem_nil _⟩
    · rcases replaced_origin htraced hrebuilt hentry with ⟨before, hbefore, -, rfl⟩ | ⟨source, role, text, rfl⟩
      · exact h.shaped before hbefore
      · exact .summary source role text
    · rcases replaced_origin htraced hrebuilt hentry with ⟨before, -, hretain, rfl⟩ | ⟨source, role, text, rfl⟩
      · exact hretain
      · rfl
  | unmoved => exact h
  | cut _ _ _ _ hcut hn =>
    exact (h.cut hcut).same hn.entries (by rw [hn.turns]; exact fun _ h => h)

variable [SerdeJson]

theorem Reaches.entriesKept (h : Reaches session T p) : EntriesKept p :=
  h.rule (I := fun _ p => EntriesKept p) EntriesKept.new
    fun _ _ _ _ hreach ih hstep => ih.step hreach.turnsKept hstep

theorem Reaches.assistantApart (h : Reaches session T p) :
    ∀ entry ∈ p.entries, entry.message.role = .assistant → entry.message.kind ≠ .instruction := by
  intro entry hentry hrole
  rw [((h.entriesKept.shaped entry hentry).assistant hrole).1]
  exact fun h => by cases h

end VdeTmux.Conversation.Codex.Parser
